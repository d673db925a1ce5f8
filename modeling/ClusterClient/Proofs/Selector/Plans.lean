import ClusterClient.Proofs.Selector.Runs
import Mathlib.Data.List.Rotate
import Mathlib.Data.List.Perm.Basic

/-!
# The order of a plan

A selector picks places of its topology; a plan is an order of nodes.  This
module says which order, in terms of nodes alone: a start, then the other
healthy nodes, then the other failed ones.  Every plan is a permutation of the
topology, in whatever state a run of operations and plans left the selector.
-/

namespace ClusterClient.Selector

/-! ## Places and the nodes at them -/

theorem filterMap_getElem?_range {α : Type} (l : List α) (n : Nat) (hn : n ≤ l.length) :
    (List.range n).filterMap (l[·]?) = l.take n := by
  induction n with
  | zero => simp
  | succ n ih =>
    have hlt : n < l.length := hn
    rw [List.range_succ, List.filterMap_append, ih (by omega), List.take_add_one]
    simp [List.getElem?_eq_getElem hlt]

/-- Places in cyclic order hold the elements of the rotated list. -/
theorem filterMap_getElem?_cyclic {α : Type} (l : List α) (start : Nat) :
    ((List.range l.length).map fun offset => (start % l.length + offset) % l.length).filterMap
      (l[·]?) = l.rotate start := by
  have hrotated := filterMap_getElem?_range (l.rotate start) l.length (by simp)
  rw [List.take_of_length_le (by simp)] at hrotated
  rw [← hrotated, List.filterMap_map]
  apply List.filterMap_congr
  intro offset hoffset
  rw [List.getElem?_rotate (List.mem_range.mp hoffset), Function.comp_apply,
    Nat.mod_add_mod, Nat.add_comm]

theorem firstHealthy?_node (s : Selector) (indices : List Nat) :
    (s.firstHealthy? indices).map (·.2) =
      (indices.filterMap (s.nodes[·]?)).find? s.isHealthy := by
  have hnodes : indices.filterMap (s.nodes[·]?) = (indices.filterMap s.at?).map (·.2) := by
    rw [List.map_filterMap]
    apply List.filterMap_congr
    intro i _
    cases hi : s.nodes[i]? <;> simp [at?, hi]
  rw [hnodes, List.find?_map]
  rfl

theorem preferred?_node (s : Selector) :
    s.preferred?.map (·.2) = (s.nodes.find? s.isHealthy <|> s.nodes.head?) := by
  have hall := s.firstHealthy?_node (List.range s.nodes.length)
  rw [filterMap_getElem?_range s.nodes _ (Nat.le_refl _), List.take_length] at hall
  have hfirst : (s.at? 0).map (·.2) = s.nodes.head? := by
    cases hs : s.nodes <;> simp [at?, hs]
  simp only [preferred?, Option.orElse_eq_orElse, Option.orElse_eq_or, Option.map_or, hall, hfirst]

def fastestNode? (s : Selector) : Option Node := s.fastest.bind (s.nodes[·]?)

theorem fastest?_node (s : Selector) :
    s.fastest?.map (·.2) =
      (s.fastestNode?.filter s.isHealthy <|> s.nodes.find? s.isHealthy <|> s.nodes.head?) := by
  have hfastest : (s.firstHealthy? s.fastest.toList).map (·.2) =
      s.fastestNode?.filter s.isHealthy := by
    rw [firstHealthy?_node, fastestNode?]
    cases s.fastest with
    | none => rfl
    | some i =>
      cases hi : s.nodes[i]? with
      | none => simp [hi]
      | some node => by_cases hnode : s.isHealthy node = true <;> simp [hi, hnode, Option.filter]
  have hpreferred := s.preferred?_node
  simp only [Option.orElse_eq_orElse, Option.orElse_eq_or] at hpreferred ⊢
  simp only [fastest?, Option.orElse_eq_orElse, Option.orElse_eq_or, Option.map_or, hfastest,
    hpreferred]

theorem rotating?_node (s : Selector) (start : Nat) :
    (s.rotating? start).map (·.2) =
      ((s.nodes.rotate start).find? s.isHealthy <|> s.nodes.find? s.isHealthy
        <|> s.nodes.head?) := by
  have hcyclic := s.firstHealthy?_node
    ((List.range s.nodes.length).map fun offset =>
      (start % s.nodes.length + offset) % s.nodes.length)
  rw [filterMap_getElem?_cyclic] at hcyclic
  have hpreferred := s.preferred?_node
  simp only [Option.orElse_eq_orElse, Option.orElse_eq_or] at hpreferred ⊢
  simp only [rotating?, Option.orElse_eq_orElse, Option.orElse_eq_or, Option.map_or, hcyclic,
    hpreferred]

/-! ## The start of a read -/

/-- The healthy node that reads start at, among nodes in order, where `slot` is the place that a
read in turn begins to look at. -/
def readStart (nodes : List Node) (isHealthy : Node → Bool) (fastest : Option Node) (slot : Nat) :
    ReadBalance → Option Node
  | .none => nodes.find? isHealthy
  | .fastestNode => fastest.filter isHealthy <|> nodes.find? isHealthy
  | .roundRobin => (nodes.rotate slot).find? isHealthy

/-- The place a read in turn begins to look at: that of its session, or else that of the turn. -/
def slot (s : Selector) : Option Int → Nat
  | some id => id.natAbs % s.nodes.length
  | none => s.turn.toNat % s.nodes.length

theorem sessionSlot_eq_mod (session : Int) (count : Nat) (hcount : 0 < count) :
    sessionSlot session count = session.natAbs % count := by
  unfold sessionSlot
  rw [if_neg (by omega)]

theorem fastestNode?_mem {s : Selector} {node : Node} (hnode : s.fastestNode? = some node) :
    node ∈ s.nodes := by
  obtain ⟨i, -, hi⟩ := Option.bind_eq_some_iff.mp hnode
  exact List.mem_of_getElem? hi

theorem firstForRead_node (s : Selector) (balance : ReadBalance) (session : Option Int) :
    (s.firstForRead balance session).2.map (·.2) =
      (readStart s.nodes s.isHealthy s.fastestNode? (s.slot session) balance
        <|> s.nodes.head?) := by
  have hnone : ∀ start, (s.nodes.rotate start).find? s.isHealthy = none →
      s.nodes.find? s.isHealthy = none := by
    intro start hrotated
    rw [List.find?_eq_none] at hrotated ⊢
    exact fun node hnode => hrotated node (List.mem_rotate.mpr hnode)
  have hturn : ∀ start, (s.rotating? start).map (·.2) =
      ((s.nodes.rotate start).find? s.isHealthy <|> s.nodes.head?) := by
    intro start
    rw [rotating?_node]
    cases hstart : (s.nodes.rotate start).find? s.isHealthy with
    | some node => rfl
    | none => rw [hnone start hstart]; rfl
  cases balance with
  | none => exact s.preferred?_node
  | fastestNode =>
    have hfastest := s.fastest?_node
    simp only [Option.orElse_eq_orElse, Option.orElse_eq_or] at hfastest
    simpa [firstForRead, readStart, Option.or_assoc] using hfastest
  | roundRobin =>
    cases session with
    | none =>
      have hslot : s.nodes.rotate (s.slot none) = s.nodes.rotate s.turn.toNat :=
        List.rotate_mod s.nodes s.turn.toNat
      rw [readStart, hslot]
      exact hturn s.turn.toNat
    | some id =>
      rcases Nat.eq_zero_or_pos s.nodes.length with hempty | hpos
      · have hnodes : s.nodes = [] := List.length_eq_zero_iff.mp hempty
        have h := hturn (sessionSlot id s.nodes.length)
        simpa [firstForRead, sessionNode?, readStart, hnodes] using h
      · have hslot : s.slot (some id) = sessionSlot id s.nodes.length :=
          (sessionSlot_eq_mod id _ hpos).symm
        rw [hslot]
        exact hturn (sessionSlot id s.nodes.length)

theorem readStart_spec (s : Selector) (slot : Nat) (balance : ReadBalance) :
    match readStart s.nodes s.isHealthy s.fastestNode? slot balance with
    | some node => node ∈ s.nodes ∧ s.isHealthy node = true
    | none => ∀ node ∈ s.nodes, s.isHealthy node = false := by
  have hfind : match s.nodes.find? s.isHealthy with
      | some node => node ∈ s.nodes ∧ s.isHealthy node = true
      | none => ∀ node ∈ s.nodes, s.isHealthy node = false := by
    cases hfind : s.nodes.find? s.isHealthy with
    | some node => exact ⟨List.mem_of_find?_eq_some hfind, List.find?_some hfind⟩
    | none => simpa using List.find?_eq_none.mp hfind
  cases balance with
  | none => exact hfind
  | fastestNode =>
    simp only [readStart]
    cases hfastest : s.fastestNode?.filter s.isHealthy with
    | some node =>
      obtain ⟨hsome, hhealthy⟩ := Option.filter_eq_some_iff.mp hfastest
      exact ⟨fastestNode?_mem hsome, hhealthy⟩
    | none => exact hfind
  | roundRobin =>
    simp only [readStart]
    cases hrotated : (s.nodes.rotate slot).find? s.isHealthy with
    | some node =>
      exact ⟨List.mem_rotate.mp (List.mem_of_find?_eq_some hrotated), List.find?_some hrotated⟩
    | none =>
      intro node hnode
      simpa using List.find?_eq_none.mp hrotated node (List.mem_rotate.mpr hnode)

theorem exists_readStart_of_healthy {s : Selector} (slot : Nat) (balance : ReadBalance)
    (h : ∃ node ∈ s.nodes, s.isHealthy node = true) :
    ∃ node ∈ s.nodes,
      readStart s.nodes s.isHealthy s.fastestNode? slot balance = some node ∧
        s.isHealthy node = true := by
  obtain ⟨node, hnode, hhealthy⟩ := h
  have hspec := s.readStart_spec slot balance
  cases hstart : readStart s.nodes s.isHealthy s.fastestNode? slot balance with
  | some start =>
    rw [hstart] at hspec
    exact ⟨start, hspec.1, rfl, hspec.2⟩
  | none =>
    rw [hstart] at hspec
    exact absurd hhealthy (by simp [hspec node hnode])

theorem readStart_of_all_failed {s : Selector} (slot : Nat) (balance : ReadBalance)
    (h : ∀ node ∈ s.nodes, s.isFailed node = true) :
    readStart s.nodes s.isHealthy s.fastestNode? slot balance = none := by
  have hspec := s.readStart_spec slot balance
  cases hstart : readStart s.nodes s.isHealthy s.fastestNode? slot balance with
  | none => rfl
  | some start =>
    rw [hstart] at hspec
    exact absurd hspec.2 (by simp [isHealthy, h start hspec.1])

/-! ## The whole order -/

/-- The order of a read: the start, then the other healthy nodes, then the other failed ones. -/
def readOrder (nodes : List Node) (isHealthy : Node → Bool) : Option Node → List Node
  | none => nodes
  | some start =>
    let others := nodes.filter (·.key ≠ start.key)
    start :: (others.filter isHealthy ++ others.filter (!isHealthy ·))

theorem nodes_plan_of_first (s : Selector) (balance : ReadBalance) (session : Option Int)
    (f : Node) (hf : (s.firstForRead balance session).2.map (·.2) = some f) :
    (s.plan true balance session).2.nodes = readOrder s.nodes s.isHealthy (some f) := by
  have hchosen : (s.firstForRead balance session).2.toList.map (·.2) = [f] := by
    cases hfirst : (s.firstForRead balance session).2 <;> simp_all
  have hothers : (s.nodes.filter fun node => !([f].any (·.isSame node))) =
      s.nodes.filter (·.key ≠ f.key) := by
    apply List.filter_congr
    intro node _
    by_cases hkey : node.key = f.key
    · simp [Node.isSame, hkey]
    · simp [Node.isSame, hkey, Ne.symm hkey]
  simp only [plan, if_true, List.partition_eq_filter_filter, hchosen, hothers]
  rfl

theorem nodes_plan_of_empty (s : Selector) (balance : ReadBalance) (session : Option Int)
    (hempty : s.nodes = []) (hnone : (s.firstForRead balance session).2.map (·.2) = none) :
    (s.plan true balance session).2.nodes = [] := by
  have hchosen : (s.firstForRead balance session).2 = none := by simpa using hnone
  simp [plan, hchosen, hempty]

theorem readOrder_of_all_failed (t : Topology) (isHealthy : Node → Bool) (first : Node)
    (hfirst : t.nodes.head? = some first) (hfailed : ∀ node ∈ t.nodes, isHealthy node = false) :
    readOrder t.nodes isHealthy (some first) = t.nodes := by
  obtain ⟨rest, hnodes⟩ := List.head?_eq_some_iff.mp hfirst
  have hdistinct := t.distinct
  rw [hnodes, List.map_cons, List.nodup_cons] at hdistinct
  have hothers : (first :: rest).filter (·.key ≠ first.key) = rest := by
    rw [List.filter_cons_of_neg (by simp), List.filter_eq_self]
    intro node hnode
    have hne : node.key ≠ first.key := fun heq =>
      hdistinct.1 (heq ▸ List.mem_map_of_mem hnode)
    simpa using hne
  rw [hnodes] at hfailed ⊢
  have hhealthy : rest.filter isHealthy = [] := by
    rw [List.filter_eq_nil_iff]
    intro node hnode
    simp [hfailed node (List.mem_cons_of_mem first hnode)]
  have hrest : rest.filter (!isHealthy ·) = rest := by
    rw [List.filter_eq_self]
    intro node hnode
    simp [hfailed node (List.mem_cons_of_mem first hnode)]
  rw [readOrder, hothers, hhealthy, hrest, List.nil_append]

theorem nodes_plan_read (s : Selector) (balance : ReadBalance) (session : Option Int) :
    (s.plan true balance session).2.nodes =
      readOrder s.nodes s.isHealthy
        (readStart s.nodes s.isHealthy s.fastestNode? (s.slot session) balance) := by
  have hfirst := s.firstForRead_node balance session
  have hspec := s.readStart_spec (s.slot session) balance
  cases hstart : readStart s.nodes s.isHealthy s.fastestNode? (s.slot session) balance with
  | some f =>
    rw [hstart] at hfirst
    exact s.nodes_plan_of_first balance session f hfirst
  | none =>
    rw [hstart] at hfirst hspec
    cases hhead : s.nodes.head? with
    | none =>
      have hempty : s.nodes = [] := List.head?_eq_none_iff.mp hhead
      rw [nodes_plan_of_empty s balance session hempty (by rw [hfirst, hhead]; rfl)]
      exact hempty.symm
    | some first =>
      rw [s.nodes_plan_of_first balance session first (by rw [hfirst, hhead]; rfl)]
      exact readOrder_of_all_failed s.topology s.isHealthy first hhead hspec

theorem perm_readOrder (t : Topology) (isHealthy : Node → Bool) (start : Option Node)
    (hstart : ∀ node, start = some node → node ∈ t.nodes) :
    (readOrder t.nodes isHealthy start).Perm t.nodes := by
  cases start with
  | none => exact List.Perm.refl _
  | some f =>
    have hf : f ∈ t.nodes := hstart f rfl
    have hothers : (f :: t.nodes.filter (·.key ≠ f.key)).Perm t.nodes := by
      rw [List.perm_ext_iff_of_nodup _ t.nodup_nodes]
      · intro node
        rw [List.mem_cons, List.mem_filter]
        constructor
        · rintro (rfl | hnode)
          · exact hf
          · exact hnode.1
        · intro hnode
          by_cases hkey : node.key = f.key
          · exact Or.inl (Topology.eq_of_key_eq hnode hf hkey)
          · exact Or.inr ⟨hnode, by simpa using hkey⟩
      · exact List.nodup_cons.mpr ⟨by simp, t.nodup_nodes.filter _⟩
    exact (List.Perm.cons f (List.filter_append_perm isHealthy _)).trans hothers

theorem perm_plan (s : Selector) (isRead : Bool) (balance : ReadBalance) (session : Option Int) :
    (s.plan isRead balance session).2.nodes.Perm s.topology.nodes := by
  cases isRead with
  | false => exact List.Perm.refl _
  | true =>
    rw [nodes_plan_read]
    apply perm_readOrder
    intro node hnode
    have hspec := s.readStart_spec (s.slot session) balance
    rw [hnode] at hspec
    exact hspec.1

theorem plan_eq (s : Selector) (isRead : Bool) (balance : ReadBalance) (session : Option Int) :
    ∃ turn, (s.plan isRead balance session).1 = { s with turn } := by
  cases isRead with
  | false => exact ⟨s.turn, rfl⟩
  | true =>
    cases balance with
    | none => exact ⟨s.turn, rfl⟩
    | fastestNode => exact ⟨s.turn, rfl⟩
    | roundRobin =>
      cases session with
      | some id => exact ⟨s.turn, rfl⟩
      | none => exact ⟨s.turn + 1, rfl⟩

/-! ## Remainders

Places are found by remainders of the number of nodes, which may be zero.  Here
the same choices are made with remainders that do not exist by zero: they always
come out, so a plan never divides by zero.
-/

def remainder? (a n : Nat) : Option Nat := if n = 0 then none else some (a % n)

/-- The node found in cyclic order, if every remainder on the way exists. -/
def rotatingChecked? (s : Selector) (start : Nat) : Option (Option (Nat × Node)) := do
  let n := s.nodes.length
  let places ← (List.range n).mapM fun offset => do
    remainder? ((← remainder? start n) + offset) n
  pure (s.firstHealthy? places <|> s.preferred?)

def sessionSlotChecked? (session : Int) (count : Nat) : Option Nat :=
  if count = 0 then some 0 else remainder? session.natAbs count

def firstForReadChecked? (s : Selector) (balance : ReadBalance) (session : Option Int) :
    Option (Selector × Option (Nat × Node)) :=
  match balance with
  | .none => some (s, s.preferred?)
  | .fastestNode => some (s, s.fastest?)
  | .roundRobin =>
    match session with
    | some id => do
      let slot ← sessionSlotChecked? id s.nodes.length
      (s.rotatingChecked? slot).map (s, ·)
    | none => (s.rotatingChecked? s.turn.toNat).map ({ s with turn := s.turn + 1 }, ·)

theorem rotatingChecked?_eq (s : Selector) (start : Nat) :
    s.rotatingChecked? start = some (s.rotating? start) := by
  have hplaces : ((List.range s.nodes.length).mapM fun offset => do
      remainder? ((← remainder? start s.nodes.length) + offset) s.nodes.length) =
      some ((List.range s.nodes.length).map fun offset =>
        (start % s.nodes.length + offset) % s.nodes.length) := by
    rcases Nat.eq_zero_or_pos s.nodes.length with hzero | hpos
    · rw [hzero]
      rfl
    · have hremainder : ∀ a, remainder? a s.nodes.length = some (a % s.nodes.length) :=
        fun a => if_neg (by omega)
      simp only [hremainder]
      exact List.mapM_pure
  simp only [rotatingChecked?, hplaces]
  rfl

theorem firstForReadChecked?_eq (s : Selector) (balance : ReadBalance) (session : Option Int) :
    s.firstForReadChecked? balance session = some (s.firstForRead balance session) := by
  cases balance with
  | none => rfl
  | fastestNode => rfl
  | roundRobin =>
    cases session with
    | none => simp only [firstForReadChecked?, rotatingChecked?_eq]; rfl
    | some id =>
      have hslot : sessionSlotChecked? id s.nodes.length =
          some (sessionSlot id s.nodes.length) := by
        unfold sessionSlotChecked? sessionSlot remainder?
        split <;> rfl
      simp only [firstForReadChecked?, hslot, rotatingChecked?_eq]
      rfl

/-! ## Plans after a run -/

/-- The plan made after any run: a permutation of the topology under its version; for a write the
topology itself; for a read the order from the start that the balance asks for, which is healthy
if any node is, and the topology itself if none is.  No remainder by zero is taken on the way. -/
theorem plan_afterUses (t : Topology) (uses : List Use) (isRead : Bool) (balance : ReadBalance)
    (session : Option Int) :
    let s := (initial t).afterUses uses
    let plan := (s.plan isRead balance session).2
    let turn := match session with
      | some id => id.natAbs
      | none => uses.countP Use.isTurn % UInt64.size
    let start := readStart s.nodes s.isHealthy s.fastestNode? (turn % s.nodes.length) balance
    plan.etag = s.topology.etag ∧
    plan.nodes.Perm s.topology.nodes ∧ (plan.nodes.map Node.key).Nodup ∧
    (isRead = false → plan.nodes = s.topology.nodes) ∧
    (isRead = true → plan.nodes = readOrder s.topology.nodes s.isHealthy start) ∧
    ((∃ node ∈ s.topology.nodes, s.isHealthy node = true) →
      ∃ node ∈ s.topology.nodes, start = some node ∧ s.isHealthy node = true) ∧
    ((∀ node ∈ s.topology.nodes, s.isFailed node = true) → plan.nodes = s.topology.nodes) ∧
    s.firstForReadChecked? balance session = some (s.firstForRead balance session) := by
  intro s plan turn start
  have hslot : turn % s.nodes.length = s.slot session := by
    cases session with
    | some id => rfl
    | none => exact congrArg (· % s.nodes.length) (turn_initial t uses).symm
  have hread : isRead = true → plan.nodes = readOrder s.topology.nodes s.isHealthy start := by
    rintro rfl
    have hnodes := s.nodes_plan_read balance session
    rwa [← hslot] at hnodes
  have hwrite : isRead = false → plan.nodes = s.topology.nodes := by
    rintro rfl
    rfl
  have hperm : plan.nodes.Perm s.topology.nodes := s.perm_plan isRead balance session
  refine ⟨?_, hperm, ?_, hwrite, hread, exists_readStart_of_healthy _ balance, ?_,
    s.firstForReadChecked?_eq balance session⟩
  · cases hisRead : isRead <;> simp [plan, hisRead, Selector.plan]
  · exact (hperm.map Node.key).nodup_iff.mpr s.topology.distinct
  · intro hfailed
    have hnone : start = none := readStart_of_all_failed _ balance hfailed
    cases hisRead : isRead with
    | false => exact hwrite hisRead
    | true => rw [hread hisRead, hnone]; rfl

end ClusterClient.Selector
