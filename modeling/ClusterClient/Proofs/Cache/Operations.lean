import ClusterClient.Proofs.Cache.Lookup

/-!
# Operations on the cache

A cache is used by operations, one after the other.  Which keys were put in or
confirmed meanwhile, and what was put in under them, can be read off a log of
the operations.
-/

namespace ClusterClient.Cache

inductive Operation where
  | put (key : Key) (changeVector : String) (payload : Bytes)
  | get (key : Key)
  | refreshAge (key : Key)
  | clear
  deriving DecidableEq, Repr

/-- Carries out an operation.  The entry is what the operation finds under its key. -/
def operate (c : Cache) (now : Instant) : Operation → Cache × Option Entry
  | .put key changeVector payload => (c.put now key changeVector payload, none)
  | .get key => (c, c.get? key)
  | .refreshAge key => c.refreshAge now key
  | .clear => (c.clear, none)

def upkeep (c : Cache) (now : Instant) (told : Option Operation) : Cache :=
  match told with
  | some operation => (c.operate now operation).1
  | none => c

@[simp] theorem upkeep_none (c : Cache) (now : Instant) : c.upkeep now none = c := rfl

/-- The operations on a cache and when they were carried out, the last one first. -/
abbrev Log := List (Instant × Operation)

def after (c : Cache) : Log → Cache
  | [] => c
  | (now, operation) :: before => ((c.after before).operate now operation).1

/-- The keys that were put in or confirmed since the last clearing, with the moments at which that
was, the last one first.  To confirm a key counts only if it is there to be confirmed: if it is one
of the last keys before, of as many as there is room for. -/
def Log.touches (capacity : Nat) : Log → List (Key × Instant)
  | [] => []
  | (now, operation) :: before =>
    match operation with
    | .put key _ _ => (key, now) :: touches capacity before
    | .refreshAge key =>
      if key ∈ ((touches capacity before).map (·.1)).eraseDups.take capacity then
        (key, now) :: touches capacity before
      else touches capacity before
    | .get _ => touches capacity before
    | .clear => []

/-- The keys that were put in or confirmed since the last clearing, each of them once, the one for
which this was last the case first. -/
def Log.recentKeys (capacity : Nat) (log : Log) : List Key :=
  ((log.touches capacity).map (·.1)).eraseDups

def Operation.kept? : Operation → Option (Key × String × Bytes)
  | .put key changeVector payload => some (key, changeVector, payload)
  | .get _ | .refreshAge _ | .clear => none

/-- The versions and bodies that were put in under keys, the last one first. -/
def Log.puts (log : Log) : List (Key × String × Bytes) := log.filterMap (·.2.kept?)

theorem capacity_put (c : Cache) (now : Instant) (key : Key) (changeVector : String)
    (payload : Bytes) : (c.put now key changeVector payload).capacity = c.capacity := by
  unfold put
  split <;> rfl

theorem capacity_operate (c : Cache) (now : Instant) (operation : Operation) :
    (c.operate now operation).1.capacity = c.capacity := by
  cases operation with
  | put key changeVector payload => exact c.capacity_put now key changeVector payload
  | refreshAge key =>
    show (c.refreshAge now key).1.capacity = c.capacity
    unfold refreshAge
    split <;> rfl
  | get _ | clear => rfl

theorem capacity_after (c : Cache) (log : Log) : (c.after log).capacity = c.capacity := by
  induction log with
  | nil => rfl
  | cons event before ih => exact (capacity_operate _ _ _).trans ih

theorem refreshAge_of_none {c : Cache} {key : Key} (h : c.get? key = none) (now : Instant) :
    c.refreshAge now key = (c, none) := by
  unfold refreshAge
  rw [h]

theorem refreshAge_of_some {c : Cache} {key : Key} {entry : Entry} (h : c.get? key = some entry)
    (now : Instant) :
    c.refreshAge now key =
      ({ c with entries := (key, { entry with storedAt := now }) :: others key c.entries },
        some { entry with storedAt := now }) := by
  unfold refreshAge
  rw [h]

end ClusterClient.Cache
