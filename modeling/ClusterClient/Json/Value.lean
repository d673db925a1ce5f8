import ClusterClient.Text.Bytes
import ClusterClient.Text.Hex
import ClusterClient.Json.Double
/-!
# JSON values

Documents as values: objects keep their keys sorted and each key once, integers that fit 64 bits
stay integers. The compact text escapes only what it must.
-/

namespace ClusterClient

namespace Json

inductive Number where
  /-- An integer in the range of signed or unsigned 64-bit integers. -/
  | int (value : Int)
  | float (value : Double)
  deriving DecidableEq, Repr

def Number.text : Number → String
  | .int value => toString value
  | .float value => value.text

end Json

inductive Json where
  | null
  | bool (value : Bool)
  | number (value : Json.Number)
  | string (value : String)
  | array (items : List Json)
  /-- Members in the order of their keys, each key once. -/
  | object (members : List (String × Json))
  deriving Repr, Inhabited

namespace Json

def setMember {α : Type} (key : String) (value : α) : List (String × α) → List (String × α)
  | [] => [(key, value)]
  | (k, v) :: rest =>
    if key < k then (key, value) :: (k, v) :: rest
    else if key = k then (key, value) :: rest
    else (k, v) :: setMember key value rest

/-- An object from members in any order; of members with one key the last counts. -/
def ofMembers (members : List (String × Json)) : Json :=
  .object (members.foldl (fun sorted (key, value) => setMember key value sorted) [])

def ofNat (n : Nat) : Json := .number (.int n)

def ofInt (n : Int) : Json := .number (.int n)

def ofOption {α : Type} (f : α → Json) : Option α → Json
  | some value => f value
  | none => .null

def member? (key : String) : Json → Option Json
  | .object members => members.lookup key
  | _ => none

/-- How a character stands in a quoted text. -/
def escapeChar (c : Char) : List Char :=
  if c == '\x22' then ['\\', '\x22']
  else if c == '\\' then ['\\', '\\']
  else if c == '\x08' then ['\\', 'b']
  else if c == '\x0c' then ['\\', 'f']
  else if c == '\n' then ['\\', 'n']
  else if c == '\r' then ['\\', 'r']
  else if c == '\t' then ['\\', 't']
  else if c.toNat < 0x20 then
    ['\\', 'u', '0', '0', Hex.lowerDigit (c.toNat / 16), Hex.lowerDigit (c.toNat % 16)]
  else [c]

def quote (s : String) : String :=
  String.ofList ('\x22' :: s.toList.flatMap escapeChar ++ ['\x22'])

mutual

def compact : Json → String
  | .null => "null"
  | .bool true => "true"
  | .bool false => "false"
  | .number value => value.text
  | .string value => quote value
  | .array items => "[" ++ compactItems items ++ "]"
  | .object members => "\x7b" ++ compactMembers members ++ "\x7d"

def compactItems : List Json → String
  | [] => ""
  | [item] => compact item
  | item :: items => compact item ++ "," ++ compactItems items

def compactMembers : List (String × Json) → String
  | [] => ""
  | [(key, value)] => quote key ++ ":" ++ compact value
  | (key, value) :: members => quote key ++ ":" ++ compact value ++ "," ++ compactMembers members

end

mutual

/-- The document with every text in it replaced, keys aside. -/
def mapStrings (f : String → String) : Json → Json
  | .string value => .string (f value)
  | .array items => .array (mapItems f items)
  | .object members => .object (mapMembers f members)
  | j => j

def mapItems (f : String → String) : List Json → List Json
  | [] => []
  | item :: items => mapStrings f item :: mapItems f items

def mapMembers (f : String → String) : List (String × Json) → List (String × Json)
  | [] => []
  | (key, value) :: members => (key, mapStrings f value) :: mapMembers f members

end

end Json

end ClusterClient
