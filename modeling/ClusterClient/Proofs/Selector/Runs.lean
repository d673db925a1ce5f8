import ClusterClient.Proofs.Selector.Marks

/-!
# Selectors at work

A selector starts on a topology and then lives through operations that change
it, in any order, with plans made in between.  Every reachable state is the
state after such a run.
-/

namespace ClusterClient.Selector

/-- A selector as it is made: nothing is marked and no node is the fastest. -/
def initial (t : Topology) : Selector := { topology := t }

inductive Operation where
  | update (incoming : Topology)
  | markFailed (node : Node)
  | restore (node : Node)
  | speedTest (etag : Int) (results : List Probe) (updateFastest : Bool)

inductive Reaction where
  | none
  | accepted (value : Bool)
  | fastest (place : Except TimeError (Option Nat))
  deriving DecidableEq

def operate (s : Selector) : Operation → Selector × Reaction
  | .update incoming => ((s.update incoming).1, .accepted (s.update incoming).2)
  | .markFailed node => (s.markFailed node, .none)
  | .restore node => (s.restore node, .none)
  | .speedTest etag results updateFastest =>
    ((s.applySpeedTest etag results updateFastest).1,
      .fastest (s.applySpeedTest etag results updateFastest).2)

def operateAll (s : Selector) : List Operation → Selector × List Reaction
  | [] => (s, [])
  | op :: ops =>
    (((s.operate op).1.operateAll ops).1, (s.operate op).2 :: ((s.operate op).1.operateAll ops).2)

/-- What a selector is there for: operations and plans. -/
inductive Use where
  | operation (op : Operation)
  | plan (isRead : Bool) (balance : ReadBalance) (session : Option Int)

def afterUse (s : Selector) : Use → Selector
  | .operation op => (s.operate op).1
  | .plan isRead balance session => (s.plan isRead balance session).1

def afterUses (s : Selector) (uses : List Use) : Selector := uses.foldl afterUse s

/-! ## Turns -/

/-- Whether a use is a read in turn: one that is balanced among all nodes and has no session. -/
def Use.isTurn : Use → Bool
  | .plan true .roundRobin none => true
  | _ => false

@[simp] theorem turn_operate (s : Selector) (op : Operation) :
    (s.operate op).1.turn = s.turn := by
  cases op <;> simp [operate]

theorem turn_plan (s : Selector) (isRead : Bool) (balance : ReadBalance) (session : Option Int) :
    (s.plan isRead balance session).1.turn =
      if (Use.plan isRead balance session).isTurn then s.turn + 1 else s.turn := by
  cases isRead <;> cases balance <;> cases session <;> rfl

theorem turn_afterUse (s : Selector) (use : Use) :
    (s.afterUse use).turn = if use.isTurn then s.turn + 1 else s.turn := by
  cases use with
  | operation op => simp [afterUse, Use.isTurn]
  | plan isRead balance session => exact s.turn_plan isRead balance session

theorem turn_afterUses (s : Selector) (uses : List Use) :
    (s.afterUses uses).turn = s.turn + UInt64.ofNat (uses.countP Use.isTurn) := by
  induction uses generalizing s with
  | nil => simp [afterUses]
  | cons use uses ih =>
    have hrun : (s.afterUses (use :: uses)).turn = ((s.afterUse use).afterUses uses).turn := rfl
    rw [hrun, ih, turn_afterUse, List.countP_cons]
    split
    · rw [UInt64.ofNat_add, UInt64.add_assoc, UInt64.add_comm 1]
      rfl
    · rfl

theorem turn_initial (t : Topology) (uses : List Use) :
    ((initial t).afterUses uses).turn.toNat = uses.countP Use.isTurn % UInt64.size := by
  rw [turn_afterUses]
  simp [initial]

end ClusterClient.Selector
