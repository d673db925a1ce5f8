import ClusterClient.Text.Composition
import ClusterClient.Text.Direction
import ClusterClient.Text.Joining
import ClusterClient.Url.LabelCharacters
import ClusterClient.Url.Punycode
/-!
# Labels of domains

A label that begins with `xn--` stands for one in other characters. That one must be in its plain
form: no mark at the front, no joiner that joins nothing, and in a domain that is partly written
from right to left, one direction from its first character to its last.
-/

namespace ClusterClient.Url.Label

/-- The front of a label that stands for another. -/
def encodedFront : List Char := ['x', 'n', '-', '-']

def isEncoded (label : List Char) : Bool := encodedFront.isPrefixOf label

def maxEncodedLength : Nat := 2000

def maxLength : Nat := 1000

/-- Joins letters only where something takes the vowel from the consonant before. -/
def joiner : Char := '\u200d'

/-- Keeps letters apart that would join. -/
def nonJoiner : Char := '\u200c'

/-- Whether a joiner stands where it makes a difference. `reversed` is what comes before it. -/
def isJoinerInPlace (c : Char) (reversed after : List Char) : Bool :=
  reversed.head?.any (Text.combiningClass ·.toNat == Text.viramaClass)
    || (c == nonJoiner && !reversed.isEmpty && Text.joinsAhead reversed && Text.joinsBack after)

def areJoinersInPlace (reversed : List Char) : List Char → Bool
  | [] => true
  | c :: after =>
    ((c != joiner && c != nonJoiner) || isJoinerInPlace c reversed after)
      && areJoinersInPlace (c :: reversed) after

/-- Whether a label in its own characters is a proper one. -/
def isProper (label : List Char) : Bool :=
  label.all (fun c => c.toNat < 0x80 || isPermitted c)
    && label.length ≤ maxLength
    && Text.Composition.isComposed label
    && !label.head?.any Text.isMark
    && areJoinersInPlace [] label

/-- The label that an ASCII label stands for; `none` if it stands for none. -/
def decode? (label : List Char) : Option (List Char) :=
  if isEncoded label then
    let encoded := label.drop encodedFront.length
    if encoded.length ≤ maxEncodedLength && encoded.getLast?.any (· != '-') then
      (Punycode.decode? encoded).filter isProper
    else none
  else some label

/-- Whether a label in a domain that is partly written from right to left has one direction: that of
its first character. Digits of two kinds do not mix in one that is written from right to left. -/
def hasOneDirection (label : List Char) : Bool :=
  let directions := label.map Text.directionOf
  let ending := (directions.reverse.dropWhile (· == .mark)).head?
  match directions with
  | [] => true
  | .leftToRight :: rest =>
    rest.all (fun d => d != .rightToLeft && d != .arabicNumber)
      && ending.any fun d => d == .leftToRight || d == .europeanNumber
  | .rightToLeft :: rest =>
    !rest.contains .leftToRight && !(rest.contains .arabicNumber && rest.contains .europeanNumber)
      && ending.any fun d => d == .rightToLeft || d == .arabicNumber || d == .europeanNumber
  | _ => false

def hasRightToLeft (label : List Char) : Bool :=
  label.any fun c => [Text.Direction.rightToLeft, .arabicNumber].contains (Text.directionOf c)

/-- Whether labels, in small letters, make up a domain. Labels that stand for themselves always
do. -/
def areDomain (labels : List (List Char)) : Bool :=
  if labels.any isEncoded then
    match labels.mapM decode? with
    | some labels => !labels.any hasRightToLeft || labels.all hasOneDirection
    | none => false
  else true

end ClusterClient.Url.Label
