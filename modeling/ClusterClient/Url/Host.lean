import ClusterClient.Url.Label
import ClusterClient.Url.Percent
/-!
# Hosts

A host is a name or an address. Under the schemes of the web a name is folded to lower case, must
be free of the forbidden characters, and is an IPv4 address when its last label is a number. Under
other schemes it is kept as written. An address in brackets is an IPv6 address.
-/

namespace ClusterClient.Url

inductive ParseError where
  | emptyHost
  /-- A host name has a character that no domain may have, or a label that stands for none. -/
  | invalidDomain
  /-- A host name of another scheme has a character that no host may have. -/
  | invalidHostCharacter
  | invalidPort
  /-- The last label is a number, but the name is no IPv4 address. -/
  | invalidIpv4
  | invalidIpv6
  | relativeWithoutBase
  | relativeToRootless
  deriving DecidableEq, Repr

def ParseError.message : ParseError → String
  | .emptyHost => "empty host"
  | .invalidDomain => "invalid international domain name"
  | .invalidHostCharacter => "invalid domain character"
  | .invalidPort => "invalid port number"
  | .invalidIpv4 => "invalid IPv4 address"
  | .invalidIpv6 => "invalid IPv6 address"
  | .relativeWithoutBase => "relative URL without a base"
  | .relativeToRootless => "relative URL with a cannot-be-a-base base"

inductive Host where
  /-- A name, empty where a URL names no host. -/
  | name (text : String)
  | ipv4 (address : Nat)
  | ipv6 (groups : List Nat)
  deriving DecidableEq, Repr

def splitWhere (test : Char → Bool) : List Char → List (List Char)
  | [] => [[]]
  | c :: cs =>
    if test c then [] :: splitWhere test cs
    else
      match splitWhere test cs with
      | [] => [[c]]
      | part :: parts => (c :: part) :: parts

namespace Host

def digits? (base : Nat) (cs : List Char) : Option Nat :=
  cs.foldlM (fun value c => do
    let d ← Hex.value? c
    if d < base then some (value * base + d) else none) 0

/-- A number of an IPv4 address: decimal, octal after a zero, hexadecimal after `0x`. -/
def ipv4Number? : List Char → Option Nat
  | [] => none
  | '0' :: 'x' :: cs => digits? 16 cs
  | '0' :: 'X' :: cs => digits? 16 cs
  | '0' :: c :: cs => digits? 8 (c :: cs)
  | cs => digits? 10 cs

def labels (cs : List Char) : List (List Char) :=
  let parts := splitWhere (· == '.') cs
  if parts.length > 1 && parts.getLast? == some [] then parts.dropLast else parts

/-- Whether a name must be an IPv4 address: its last label is a number. -/
def endsInNumber (cs : List Char) : Bool :=
  match (labels cs).getLast? with
  | some label => !label.isEmpty && (label.all Char.isDigit || (ipv4Number? label).isSome)
  | none => false

/-- Joins the numbers of an IPv4 address: all but the last are octets, the last fills the rest. -/
def joinIpv4? (numbers : List Nat) : Option Nat :=
  match numbers.getLast? with
  | none => none
  | some last =>
    let heads := numbers.dropLast
    if last < Nat.pow 256 (4 - heads.length) && heads.all (· < 256) then
      some (heads.foldl (fun value n => value * 256 + n) 0 * Nat.pow 256 (4 - heads.length) + last)
    else none

def ipv4? (cs : List Char) : Option Nat := do
  let parts := labels cs
  if parts.length > 4 then none
  let numbers ← parts.mapM ipv4Number?
  joinIpv4? numbers

/-- A number of the IPv4 tail of an IPv6 address: decimal, below 256, without a leading zero. -/
def tailNumber? (cs : List Char) : Option Nat :=
  match cs with
  | [] => none
  | ['0'] => some 0
  | '0' :: _ => none
  | cs => do
    let n ← digits? 10 cs
    if n < 256 then some n else none

def group? (cs : List Char) : Option Nat :=
  if cs.isEmpty || cs.length > 4 then none else digits? 16 cs

/-- The groups of one side of an IPv6 address. The last part may be an IPv4 address, which stands
for two groups, where a tail is allowed. -/
def groups? (tailAllowed : Bool) : List (List Char) → Option (List Nat)
  | [] => some []
  | [part] =>
    if tailAllowed && part.contains '.' then do
      let numbers ← (splitWhere (· == '.') part).mapM tailNumber?
      match numbers with
      | [a, b, c, d] => some [a * 256 + b, c * 256 + d]
      | _ => none
    else (group? part).map fun g => [g]
  | part :: parts => do
    let g ← group? part
    let gs ← groups? tailAllowed parts
    pure (g :: gs)

def side? (tailAllowed : Bool) (cs : List Char) : Option (List Nat) :=
  if cs.isEmpty then some [] else groups? tailAllowed (splitWhere (· == ':') cs)

def splitDoubleColon : List Char → Option (List Char × List Char)
  | ':' :: ':' :: rest => some ([], rest)
  | c :: rest => (splitDoubleColon rest).map fun (before, after) => (c :: before, after)
  | [] => none

/-- Reads an IPv6 address: eight groups, or at most seven around `::`. -/
def ipv6? (cs : List Char) : Option (List Nat) :=
  match splitDoubleColon cs with
  | some (before, after) => do
    let left ← side? false before
    let right ← side? true after
    let count := left.length + right.length
    if count ≤ 7 then some (left ++ List.replicate (8 - count) 0 ++ right) else none
  | none => do
    let groups ← groups? true (splitWhere (· == ':') cs)
    if groups.length = 8 then some groups else none

def forbiddenInDomain (c : Char) : Bool :=
  Percent.controls c ||
    [' ', '%', '#', '/', ':', '<', '>', '?', '@', '[', '\\', ']', '^', '|'].contains c

def forbiddenInHost (c : Char) : Bool :=
  ['\x00', '\t', '\n', '\r', ' ', '#', '/', ':', '<', '>', '?', '@', '[', '\\', ']', '^',
    '|'].contains c

def bracketed? (cs : List Char) : Except ParseError Host :=
  if cs.getLast? == some ']' then
    match ipv6? (cs.drop 1).dropLast with
    | some groups => .ok (.ipv6 groups)
    | none => .error .invalidIpv6
  else .error .invalidIpv6

/-- Whether a name, in small letters, is a domain in ASCII. -/
def isDomain (cs : List Char) : Bool :=
  !cs.any (fun c => forbiddenInDomain c || 0x80 ≤ c.toNat) &&
    Label.areDomain (splitWhere (· == '.') cs)

def parseDomain (cs : List Char) : Except ParseError Host :=
  if cs.head? == some '[' then bracketed? cs
  else
    match Bytes.toString? (Percent.decode (Bytes.ofString (String.ofList cs))) with
    | none => .error .invalidDomain
    | some text =>
      let folded := text.toList.map Char.toLower
      if !isDomain folded then .error .invalidDomain
      else if folded.isEmpty then .error .emptyHost
      else if endsInNumber folded then
        match ipv4? folded with
        | some address => .ok (.ipv4 address)
        | none => .error .invalidIpv4
      else .ok (.name (String.ofList folded))

def parseVerbatim (cs : List Char) : Except ParseError Host :=
  if cs.head? == some '[' then bracketed? cs
  else if cs.any forbiddenInHost then .error .invalidHostCharacter
  else .ok (.name (String.ofList (Percent.encode Percent.controls cs)))

def ipv4Text (address : Nat) : String :=
  String.intercalate "." <|
    [address >>> 24, address >>> 16, address >>> 8, address].map fun n => toString (n % 256)

def zeroRuns (groups : List Nat) : List Nat :=
  groups.foldr (fun g runs => (if g = 0 then runs.headD 0 + 1 else 0) :: runs) []

def groupsText (groups : List Nat) : String :=
  String.intercalate ":" (groups.map Hex.ofNat)

/-- An IPv6 address. The first of the longest runs of two or more zero groups is left out. -/
def ipv6Text (groups : List Nat) : String :=
  let runs := zeroRuns groups
  let longest := runs.foldl max 0
  if 2 ≤ longest then
    let start := runs.findIdx (· == longest)
    groupsText (groups.take start) ++ "::" ++ groupsText (groups.drop (start + longest))
  else groupsText groups

def mayBeRequested (c : Char) : Bool :=
  c.isAlphanum ||
    ['!', '$', '&', '\x27', '(', ')', '*', '+', ',', '-', '.', ';', '=', '_', '~'].contains c

/-- Whether a request may name the host: some characters of names are for reading only. -/
def isRequestable : Host → Bool
  | .name text => text.toList.all mayBeRequested
  | _ => true

def text : Host → String
  | .name text => text
  | .ipv4 address => ipv4Text address
  | .ipv6 groups => "[" ++ ipv6Text groups ++ "]"

end Host

end ClusterClient.Url
