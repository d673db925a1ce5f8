import ClusterClient.Text.Bytes
/-!
# The response cache

Answers to reads, kept under method, url and request body. Whether an entry is stale is asked of the
server, with the change vector it came with; entries are given up, the oldest first, only when the
cache is full.
-/

namespace ClusterClient

/-- A moment: nanoseconds on the clock of the process. -/
abbrev Instant := Nat

namespace Cache

/-- What an answer is kept under. A request without a body has an empty one. -/
structure Key where
  method : String
  url : String
  body : Bytes
  deriving DecidableEq, Repr

def Key.of (method url : String) (body : Option Bytes) : Key :=
  ⟨method, url, body.getD []⟩

structure Entry where
  changeVector : String
  payload : Bytes
  /-- When the answer came or was last confirmed. -/
  storedAt : Instant
  deriving DecidableEq, Repr

def Entry.age (entry : Entry) (now : Instant) : Nat := now - entry.storedAt

end Cache

/-- Answers under their keys, each key once, at most `capacity` of them. -/
structure Cache where
  capacity : Nat
  entries : List (Cache.Key × Cache.Entry) := []
  deriving DecidableEq, Repr

namespace Cache

def size (c : Cache) : Nat := c.entries.length

def isEmpty (c : Cache) : Bool := c.entries.isEmpty

def get? (c : Cache) (key : Key) : Option Entry := c.entries.lookup key

def others (key : Key) (entries : List (Key × Entry)) : List (Key × Entry) :=
  entries.filter (·.1 ≠ key)

def oldest? : List (Key × Entry) → Option (Key × Entry)
  | [] => none
  | e :: rest =>
    match oldest? rest with
    | none => some e
    | some best => if best.2.storedAt < e.2.storedAt then some best else some e

def evictOldest (entries : List (Key × Entry)) : List (Key × Entry) :=
  match oldest? entries with
  | some (key, _) => others key entries
  | none => entries

def put (c : Cache) (now : Instant) (key : Key) (changeVector : String) (payload : Bytes) : Cache :=
  if c.capacity = 0 then c
  else
    let kept :=
      if (c.get? key).isNone && c.capacity ≤ c.size then evictOldest c.entries else c.entries
    { c with entries := (key, ⟨changeVector, payload, now⟩) :: others key kept }

/-- Marks the entry of a key as confirmed and returns it, if it is still there. -/
def refreshAge (c : Cache) (now : Instant) (key : Key) : Cache × Option Entry :=
  match c.get? key with
  | none => (c, none)
  | some entry =>
    let confirmed := { entry with storedAt := now }
    ({ c with entries := (key, confirmed) :: others key c.entries }, some confirmed)

def clear (c : Cache) : Cache := { c with entries := [] }

end Cache

end ClusterClient
