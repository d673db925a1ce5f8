import ClusterClient.Url.Path
/-!
# Reading URLs

`parse` reads an absolute URL and `join` reads a reference relative to a base. Blanks at the ends
and tabs and line breaks anywhere are skipped; everything else is kept, escaped where its part of
the URL requires that.
-/

namespace ClusterClient.Url

def queryAndFragment (kind : SchemeKind) (rest : List Char) : Option String × Option String :=
  let set := if kind.isSpecial then Percent.specialQuery else Percent.query
  let fragment := fun cs => some (String.ofList (Percent.encode Percent.fragment cs))
  match rest with
  | '?' :: cs =>
    let (query, after) := cs.span (· != '#')
    let query := some (String.ofList (Percent.encode set query))
    match after with
    | [] => (query, none)
    | _ :: cs => (query, fragment cs)
  | _ :: cs => (none, fragment cs)
  | [] => (none, none)

def splitPath (input : List Char) : List Char × List Char :=
  input.span fun c => c != '?' && c != '#'

def kept (input : List Char) : List Char := input.filter (!Path.isBreak ·)

def withTail (kind : SchemeKind) (rest : List Char) (scheme : String) (authority : Option Authority)
    (path : List Char) : Url :=
  let (query, fragment) := queryAndFragment kind (kept rest)
  ⟨scheme, authority, String.ofList path, query, fragment⟩

/-- Reads a port. A backslash ends it under every scheme. -/
def parsePort (scheme : String) (cs : List Char) :
    Except ParseError (Option Nat × List Char) :=
  let (digits, rest) := cs.span Char.isDigit
  match rest.head? with
  | none | some '\\' =>
    let port := digits.foldl (fun n c => n * 10 + (c.toNat - 48)) 0
    if port > 65535 then .error .invalidPort
    else .ok (if digits.isEmpty || defaultPort? scheme == some port then none else some port, rest)
  | some _ => .error .invalidPort

def splitHost (inBrackets : Bool) : List Char → List Char × List Char
  | [] => ([], [])
  | c :: cs =>
    if c == ':' && !inBrackets then ([], c :: cs)
    else
      let (host, rest) :=
        splitHost (if c == '[' then true else if c == ']' then false else inBrackets) cs
      (c :: host, rest)

def splitUserinfo (cs : List Char) : Option (List Char × List Char) :=
  let (after, before) := cs.reverse.span (· != '@')
  match before with
  | [] => none
  | _ :: before => some (before.reverse, after.reverse)

def parseAuthority (scheme : String) (kind : SchemeKind) (input : List Char) :
    Except ParseError Url := do
  let ends := fun c => c == '/' || c == '?' || c == '#' || (c == '\\' && kind.isSpecial)
  let (authority, rest) := input.span (!ends ·)
  let (userinfo, hostAndPort) := (splitUserinfo authority).getD ([], authority)
  if (splitUserinfo authority).isSome && userinfo.isEmpty && hostAndPort.isEmpty &&
      !rest.isEmpty then
    throw .emptyHost
  let (username, password) := userinfo.span (· != ':')
  let username := Percent.encode Percent.userinfo username
  let password := Percent.encode Percent.userinfo (password.drop 1)
  let (hostText, portText) := splitHost false hostAndPort
  if kind == .web && hostText.isEmpty then throw .emptyHost
  let host ← if kind.isSpecial then Host.parseDomain hostText else Host.parseVerbatim hostText
  if host == .name "" && !portText.isEmpty then throw .emptyHost
  let (port, rest) ←
    if portText.isEmpty then pure (none, rest)
    else do
      let (port, left) ← parsePort scheme (portText.drop 1)
      pure (port, left ++ rest)
  if host == .name "" && !(username.isEmpty && password.isEmpty) then throw .emptyHost
  let (path, rest) := splitPath rest
  pure (withTail kind rest scheme
    (some ⟨String.ofList username, String.ofList password, host, port⟩)
    (Path.buildRooted kind path).text)

/-- Whether a path segment that is a drive letter begins the input. -/
def startsWithDriveSegment (input : List Char) : Bool :=
  Path.startsWithDriveLetter (kept input)

def next? (input : List Char) : Option (Char × List Char) :=
  match input.dropWhile Path.isBreak with
  | [] => none
  | c :: rest => some (c, rest)

def parseFileHost (input : List Char) : Except ParseError Url := do
  let ends := fun c => c == '/' || c == '\\' || c == '?' || c == '#'
  let (hostText, rest) := input.span (!ends ·)
  let hostText := kept hostText
  let finish (host : Host) (path : PathState) (rest : List Char) : Url :=
    withTail .file rest "file" (some ⟨"", "", if path.hasDrive then .name "" else host, none⟩)
      path.text
  if hostText.isEmpty || Path.isDriveLetter hostText then
    let (path, rest) := splitPath input
    pure (finish (.name "") (Path.build .file ['/'] path) rest)
  else
    let host ← Host.parseDomain hostText
    let (path, rest) := splitPath rest
    if host == .name "localhost" then pure (finish (.name "") (Path.build .file ['/'] path) rest)
    else pure (finish host (Path.buildRooted .file path) rest)

def firstSegment (path : String) : List Char :=
  (path.toList.drop 1).takeWhile (· != '/')

/-- Replaces the path of a URL below its directory. -/
def withRelativePath (kind : SchemeKind) (base : Url) (start input : List Char) : Url :=
  let (path, rest) := splitPath input
  withTail kind rest base.scheme base.authority (Path.build kind start path).text

def hostlessFile (start input : List Char) : Url :=
  let (path, rest) := splitPath input
  withTail .file rest "file" (some ⟨"", "", .name "", none⟩) (Path.build .file start path).text

def tailReference? (kind : SchemeKind) (base : Url) (input : List Char) : Option Url :=
  let (query, fragment) := queryAndFragment kind input
  match input with
  | [] => some { base with fragment := none }
  | '?' :: _ => some { base with query, fragment }
  | '#' :: _ => some { base with fragment }
  | _ => none

/-- Reads what follows the scheme of a file URL. Line breaks are still in it: they divide a drive
letter from what follows. -/
def parseFile (base : Option Url) (input : List Char) : Except ParseError Url :=
  let afterSlash? := fun cs => ((next? cs).filter fun (c, _) => c == '/' || c == '\\').map (·.2)
  match afterSlash? input with
  | some after =>
    match afterSlash? after with
    | some rest => parseFileHost rest
    | none => .ok (oneSlash base input after)
  | none => .ok (noSlash base input)
where
  /-- A path after one slash keeps the drive letter or else the host of the base. -/
  oneSlash (base : Option Url) (input after : List Char) : Url :=
    match base with
    | none => hostlessFile [] input
    | some base =>
      if startsWithDriveSegment after then hostlessFile [] input
      else
        let first := firstSegment base.path
        if Path.isNormalDriveLetter first then hostlessFile ('/' :: first) input
        else
          let host := (base.authority.map Authority.host).getD (.name "")
          let (path, rest) := splitPath input
          withTail .file rest "file" (some ⟨"", "", host, none⟩) (Path.build .file [] path).text
  /-- A reference without a slash is relative to the directory of the base. -/
  noSlash (base : Option Url) (input : List Char) : Url :=
    match base with
    | none => hostlessFile ['/'] input
    | some base =>
      match tailReference? .file base (kept input) with
      | some url => url
      | none =>
        if startsWithDriveSegment input then hostlessFile ['/'] input
        else withRelativePath .file base (Path.pop .file base.path.toList) input

def parseRelative (kind : SchemeKind) (base : Url) (input : List Char) : Except ParseError Url :=
  let isSlash := fun c => c == '/' || c == '\\'
  match tailReference? kind base input with
  | some url => .ok url
  | none =>
    let slashes := (input.takeWhile isSlash).length
    if 2 ≤ slashes then
      let after := if input.take 2 == ['/', '/'] then input.drop 2 else input.drop slashes
      parseAuthority base.scheme kind after
    else if slashes == 1 then .ok (withRelativePath kind base ['/'] (input.drop 1))
    else
      let directory := Path.pop kind base.path.toList
      .ok (withRelativePath kind base (if directory.isEmpty then ['/'] else directory) input)

def splitScheme? (input : List Char) : Option (String × List Char) :=
  let inScheme := fun c : Char => c.isAlphanum || c == '+' || c == '-' || c == '.'
  let (scheme, rest) := input.span fun c => inScheme c || Path.isBreak c
  let scheme := kept scheme
  match scheme.head?, rest with
  | some first, ':' :: rest =>
    if first.isAlpha then some (String.ofList (scheme.map Char.toLower), rest) else none
  | _, _ => none

def parseWithScheme (base : Option Url) (scheme : String) (input : List Char) :
    Except ParseError Url :=
  let kind := SchemeKind.of scheme
  match kind with
  | .file => parseFile (base.filter (·.scheme == "file")) input
  | .web =>
    let input := kept input
    let slashes := (input.takeWhile fun c => c == '/' || c == '\\').length
    match base.filter fun base => slashes < 2 && base.scheme == scheme with
    | some base => parseRelative kind base input
    | none => parseAuthority scheme kind (input.drop slashes)
  | .other =>
    match kept input with
    | '/' :: '/' :: rest => parseAuthority scheme kind rest
    | '/' :: cs =>
      let (path, rest) := splitPath ('/' :: cs)
      .ok (withTail kind rest scheme none (Path.build kind [] path).text)
    | cs =>
      let (path, rest) := splitPath cs
      .ok (withTail kind rest scheme none (Percent.encode Percent.controls path))

def trimmed (text : String) : List Char :=
  let isEdge := fun c : Char => c.toNat ≤ 0x20
  ((text.toList.dropWhile isEdge).reverse.dropWhile isEdge).reverse

def parseReference (base : Option Url) (text : String) : Except ParseError Url :=
  let input := trimmed text
  match splitScheme? input with
  | some (scheme, rest) => parseWithScheme base scheme rest
  | none =>
    match base with
    | none => .error .relativeWithoutBase
    | some base =>
      let kind := SchemeKind.of base.scheme
      let significant := kept input
      if significant.head? == some '#' then
        .ok ((tailReference? kind base significant).getD base)
      else if base.isRootless then .error .relativeToRootless
      else if kind == .file then parseFile (some base) input
      else parseRelative kind base significant

def parse (text : String) : Except ParseError Url :=
  parseReference none text

def join (base : Url) (reference : String) : Except ParseError Url :=
  parseReference (some base) reference

end ClusterClient.Url
