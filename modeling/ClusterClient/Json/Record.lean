import ClusterClient.Json.Tree
/-!
# Records

A record is written as an object, or as an array of its fields in order. Members with other names
are skipped; a known name may stand only once. A field that is missing may have a value all the
same, but `null` counts as a value that is there.
-/

namespace ClusterClient.Json

/-- How a value is read off a tree; `none` refuses it. -/
abbrev Reader (α : Type) := Tree → Option α

namespace Reader

def string : Reader String
  | .string value => value
  | _ => none

def bool : Reader Bool
  | .bool value => some value
  | _ => none

def integer (low high : Int) : Reader Int
  | .number n => do
    let value ← n.integer?
    if low ≤ value && value ≤ high then some value else none
  | _ => none

def int64 : Reader Int := integer Int64.minValue.toInt Int64.maxValue.toInt

def list {α : Type} (item : Reader α) : Reader (List α)
  | .array items => items.mapM item
  | _ => none

def nullable {α : Type} (value : Reader α) : Reader (Option α)
  | .null => some none
  | tree => (value tree).map some

/-- One of several names: a text, or an object with the name as its only key and `null` as value. -/
def choice {α : Type} (names : List (String × α)) : Reader α
  | .string (some name) => names.lookup name
  | .object [(some name, .null)] => names.lookup name
  | _ => none

def putEntry {α : Type} (key : String) (value : α) : List (String × α) → List (String × α)
  | [] => [(key, value)]
  | (k, v) :: rest => if k = key then (key, value) :: rest else (k, v) :: putEntry key value rest

/-- Entries under their keys; of entries with one key the last counts. -/
def entries {α : Type} (value : Reader α) : Reader (List (String × α))
  | .object members => do
    let read ← members.mapM fun (key, tree) => do pure ((← key), (← value tree))
    pure (read.foldl (fun done (key, value) => putEntry key value done) [])
  | _ => none

end Reader

/-- The fields of a record that are there. -/
structure Record where
  isPositional : Bool
  fields : List (String × Tree)

namespace Record

def ofTree? (names : List String) : Tree → Option Record
  | .array items => if items.length ≤ names.length then some ⟨true, names.zip items⟩ else none
  | .object members => do
    let fields ← members.mapM fun (key, tree) => key.map (·, tree)
    let known := fields.filter (names.contains ·.1)
    if (known.map (·.1)).eraseDups.length = known.length then some ⟨false, known⟩ else none
  | _ => none

def required {α : Type} (r : Record) (name : String) (reader : Reader α) : Option α :=
  (r.fields.lookup name).bind reader

def defaulted {α : Type} (r : Record) (name : String) (reader : Reader α) (default : α) :
    Option α :=
  match r.fields.lookup name with
  | some tree => reader tree
  | none => some default

/-- A field that may be `null` or missing; in an array it may not be missing. -/
def nullable {α : Type} (r : Record) (name : String) (reader : Reader α) : Option (Option α) :=
  match r.fields.lookup name with
  | some tree => Reader.nullable reader tree
  | none => if r.isPositional then none else some none

end Record

end ClusterClient.Json
