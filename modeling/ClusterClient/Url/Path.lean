import ClusterClient.Url.Basic
/-!
# Paths

A path is built segment by segment. Dot segments are resolved on the way, and under the file scheme
a drive letter at the front is never removed.
-/

namespace ClusterClient.Url

structure PathState where
  text : List Char
  hasDrive : Bool

namespace Path

/-- Whether a character is skipped wherever it stands: tabs and line breaks are. -/
def isBreak (c : Char) : Bool := c == '\t' || c == '\n' || c == '\r'

def endsInSlash (text : List Char) : Bool :=
  text.getLast? == some '/'

def upToLastSlash (text : List Char) : List Char :=
  (text.reverse.dropWhile (· != '/')).reverse

def isDriveLetter : List Char → Bool
  | [a, b] => a.isAlpha && (b == ':' || b == '|')
  | _ => false

def isNormalDriveLetter (cs : List Char) : Bool :=
  isDriveLetter cs && cs.getLast? == some ':'

def startsWithDriveLetter (cs : List Char) : Bool :=
  isDriveLetter (cs.take 2) && ((cs.drop 2).head?.all (['/', '\\', '?', '#'].contains ·))

def isSingleDot (segment : List Char) : Bool :=
  [".", "%2e", "%2E"].contains (String.ofList segment)

def isDoubleDot (segment : List Char) : Bool :=
  ["..", "%2e%2e", "%2e%2E", "%2E%2e", "%2E%2E", "%2e.", "%2E.", ".%2e", ".%2E"].contains
    (String.ofList segment)

/-- Removes what stands after the last slash, unless that is the drive letter of a file. -/
def pop (kind : SchemeKind) (text : List Char) : List Char :=
  let parent := upToLastSlash text
  if kind == .file && isNormalDriveLetter (text.drop parent.length) then text else parent

/-- Whether the slash at the end may go: it is not the first one and does not follow a drive
letter. -/
def lastSlashCanGo (text : List Char) : Bool :=
  let before := upToLastSlash text.dropLast
  !before.isEmpty && !startsWithDriveLetter (text.drop before.length)

def parent (kind : SchemeKind) (text : List Char) : List Char :=
  pop kind (if endsInSlash text && lastSlashCanGo text then text.dropLast else text)

/-- Adds one run of a segment to a text and moves the start of the segment along: a slash goes
between a drive letter, when that is the whole text so far, and what follows it. -/
def addRun (kind : SchemeKind) (state : List Char × Nat) (run : List Char) : List Char × Nat :=
  if run.isEmpty then state
  else
    let (text, start) :=
      if kind == .file && isNormalDriveLetter (state.1.drop 1) then (state.1 ++ ['/'], state.2 + 1)
      else state
    (text ++ Percent.encode Percent.path run, start)

/-- Adds one segment, which is `closed` when a slash follows it. Line breaks in it divide it into
runs and are left out. -/
def addSegment (kind : SchemeKind) (state : PathState) (segment : List Char) (closed : Bool) :
    PathState :=
  let (text, start) :=
    (splitWhere isBreak segment).foldl (addRun kind) (state.text, state.text.length)
  let before := text.take start
  let written := text.drop start
  if isDoubleDot written then
    let up := parent kind before
    { state with text := if closed && !endsInSlash up then up ++ ['/'] else up }
  else if isSingleDot written then
    { state with text := if endsInSlash before then before else before ++ ['/'] }
  else
    let slash := if closed then ['/'] else []
    if kind == .file && start == 1 && isDriveLetter written then
      { text := before ++ written.take 1 ++ [':'] ++ slash, hasDrive := true }
    else { state with text := text ++ slash }

def addSegments (kind : SchemeKind) (state : PathState) : List (List Char) → PathState
  | [] => state
  | [segment] => addSegment kind state segment false
  | segment :: segments => addSegments kind (addSegment kind state segment true) segments

/-- The path that begins with `start` and goes on with `input`. The path of a file begins with one
slash only. -/
def build (kind : SchemeKind) (start input : List Char) : PathState :=
  let separates := fun c => c == '/' || (c == '\\' && kind.isSpecial)
  let state := addSegments kind ⟨start, false⟩ (splitWhere separates input)
  if kind == .file then { state with text := '/' :: state.text.dropWhile (· == '/') } else state

/-- The path after an authority. Under the schemes of the web it is never empty. -/
def buildRooted (kind : SchemeKind) (input : List Char) : PathState :=
  match input with
  | [] => build kind (if kind.isSpecial then ['/'] else []) []
  | c :: rest =>
    if kind.isSpecial then
      build kind ['/'] (if c == '/' || c == '\\' then rest else input)
    else build kind (if c == '/' then [] else ['/']) input

end Path

end ClusterClient.Url
