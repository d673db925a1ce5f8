import ClusterClient.Text.Hex
/-!
# Universally unique identifiers

An identifier is sixteen octets, written as thirty-two digits in groups of eight, four, four, four
and twelve. It is read with or without the hyphens, in braces or as a name of its own.
-/

namespace ClusterClient.Uuid

def groups : List Nat := [8, 4, 4, 4, 12]

/-- Characters in groups of these lengths; what is left over is dropped. -/
def split : List Nat → List Char → List (List Char)
  | [], _ => []
  | n :: ns, cs => cs.take n :: split ns (cs.drop n)

def hyphenated (digits : List Char) : String :=
  "-".intercalate ((split groups digits).map fun group => String.ofList (group.map Char.toLower))

def unframed (cs : List Char) : List Char :=
  if (cs.take 9).map Char.toLower == "urn:uuid:".toList then cs.drop 9
  else if cs.head? == some '\x7b' && cs.getLast? == some '\x7d' then (cs.drop 1).dropLast
  else cs

def isDigits (cs : List Char) : Bool :=
  cs.length == 32 && cs.all fun c => (Hex.value? c).isSome

/-- Reads an identifier and writes it in its usual form. -/
def normalize? (text : String) : Option String :=
  let cs := text.toList
  let bare := unframed cs
  let digits := bare.filter (· != '-')
  if isDigits cs then some (hyphenated cs)
  else if isDigits digits && bare.map Char.toLower == (hyphenated digits).toList then
    some (hyphenated digits)
  else none

end ClusterClient.Uuid
