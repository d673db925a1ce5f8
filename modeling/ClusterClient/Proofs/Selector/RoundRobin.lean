import ClusterClient.Proofs.Selector.SpeedTests

/-!
# Reads in turn

A read that is balanced in turn starts at the first healthy node in cyclic order
from a place.  The place of a session depends on the session alone, so a session
stays at its own node as long as that is healthy.  Reads without a session begin
one place further each time, so as many of them as there are nodes begin at every
place once.
-/

namespace ClusterClient.Selector

/-! ## The first node in cyclic order -/

/-- The first healthy node in cyclic order from a place, or the first of all if none is healthy. -/
def FirstFrom (s : Selector) (place : Nat) (first : Node) : Prop :=
  (∃ offset < s.nodes.length, s.nodes[(place + offset) % s.nodes.length]? = some first ∧
    s.isFailed first = false ∧
    ∀ k < offset, ∀ node, s.nodes[(place + k) % s.nodes.length]? = some node →
      s.isFailed node = true) ∨
  ((∀ node ∈ s.nodes, s.isFailed node = true) ∧ s.nodes.head? = some first)

def cyclicFirst? (nodes : List Node) (isHealthy : Node → Bool) (place : Nat) : Option Node :=
  (nodes.rotate place).find? isHealthy <|> nodes.head?

theorem firstFrom_of_cyclicFirst? {s : Selector} {place : Nat} {first : Node}
    (h : cyclicFirst? s.nodes s.isHealthy place = some first) : s.FirstFrom place first := by
  unfold cyclicFirst? at h
  cases hfind : (s.nodes.rotate place).find? s.isHealthy with
  | none =>
    rw [hfind] at h
    refine .inr ⟨fun node hnode => ?_, h⟩
    have hunhealthy := List.find?_eq_none.mp hfind node (List.mem_rotate.mpr hnode)
    simpa [isHealthy] using hunhealthy
  | some node =>
    rw [hfind] at h
    cases h
    obtain ⟨hhealthy, offset, hoffset, hnode, hbefore⟩ := List.find?_eq_some_iff_getElem.mp hfind
    have hplace : ∀ k < s.nodes.length,
        s.nodes[(place + k) % s.nodes.length]? = (s.nodes.rotate place)[k]? := by
      intro k hk
      rw [List.getElem?_rotate hk, Nat.add_comm]
    rw [List.length_rotate] at hoffset
    refine .inl ⟨offset, hoffset, ?_, by simpa [isHealthy] using hhealthy, fun k hk node hk' => ?_⟩
    · rw [hplace offset hoffset, ← hnode, List.getElem?_eq_getElem]
    · rw [hplace k (Nat.lt_trans hk hoffset)] at hk'
      obtain ⟨_, rfl⟩ := List.getElem?_eq_some_iff.mp hk'
      simpa [isHealthy] using hbefore k hk

theorem isSome_cyclicFirst? {nodes : List Node} (hnodes : nodes ≠ []) (isHealthy : Node → Bool)
    (place : Nat) : (cyclicFirst? nodes isHealthy place).isSome = true := by
  unfold cyclicFirst?
  cases (nodes.rotate place).find? isHealthy with
  | some node => rfl
  | none => exact List.isSome_head?.mpr hnodes

theorem cyclicFirst?_of_healthy {nodes : List Node} {isHealthy : Node → Bool} {place : Nat}
    {node : Node} (hplace : nodes[place % nodes.length]? = some node)
    (hhealthy : isHealthy node = true) : cyclicFirst? nodes isHealthy place = some node := by
  have hlt : place % nodes.length < nodes.length := (List.getElem?_eq_some_iff.mp hplace).1
  have hhead : (nodes.rotate place).head? = some node := by
    rw [← List.rotate_mod, List.head?_rotate hlt, hplace]
  obtain ⟨rest, hrotated⟩ := List.head?_eq_some_iff.mp hhead
  rw [cyclicFirst?, hrotated, List.find?_cons_of_pos hhealthy]
  rfl

theorem head?_plan_read (s : Selector) (balance : ReadBalance) (session : Option Int) :
    (s.plan true balance session).2.nodes.head? =
      (readStart s.nodes s.isHealthy s.fastestNode? (s.slot session) balance
        <|> s.nodes.head?) := by
  rw [nodes_plan_read]
  cases readStart s.nodes s.isHealthy s.fastestNode? (s.slot session) balance <;> rfl

/-! ## Sessions -/

theorem head?_plan_session (s : Selector) (session : Int) :
    (s.plan true .roundRobin (some session)).2.nodes.head? =
      cyclicFirst? s.nodes s.isHealthy session.natAbs := by
  rw [head?_plan_read, readStart, slot, List.rotate_mod]
  rfl

theorem sessionNode?_node (s : Selector) (session : Int) :
    (s.sessionNode? session).map (·.2) = cyclicFirst? s.nodes s.isHealthy session.natAbs := by
  have hfirst := s.firstForRead_node .roundRobin (some session)
  rw [readStart, slot, List.rotate_mod] at hfirst
  exact hfirst

/-- What marks or restores nodes with other keys only. -/
def Operation.IsElsewhere (key : Node.Key) : Operation → Prop
  | .update _ => False
  | .markFailed node | .restore node => node.key ≠ key
  | .speedTest _ results _ => ∀ probe ∈ results, probe.1.key ≠ key

theorem mem_failed_applyProbes_elsewhere {key : Node.Key} {results : List Probe}
    (h : ∀ probe ∈ results, probe.1.key ≠ key) (s : Selector) :
    key ∈ (results.foldl applyProbe s).failed ↔ key ∈ s.failed := by
  induction results generalizing s with
  | nil => rfl
  | cons probe results ih =>
    rw [List.foldl_cons, ih fun p hp => h p (List.mem_cons_of_mem probe hp),
      mem_failed_applyProbe, if_neg (h probe List.mem_cons_self)]

theorem failed_applySpeedTest (s : Selector) (etag : Int) (results : List Probe)
    (updateFastest : Bool) :
    (s.applySpeedTest etag results updateFastest).1.failed
      = (results.foldl applyProbe s).failed := by
  unfold applySpeedTest
  dsimp only
  split
  · split <;> rfl
  · rfl

theorem Operation.IsElsewhere.keeps {key : Node.Key} {op : Operation} (h : op.IsElsewhere key)
    (s : Selector) :
    (s.operate op).1.topology = s.topology ∧ (key ∈ (s.operate op).1.failed ↔ key ∈ s.failed) := by
  cases op with
  | update _ => exact h.elim
  | markFailed node =>
    refine ⟨s.topology_markFailed node, (s.mem_failed_markFailed node key).trans ?_⟩
    exact or_iff_left fun hkey => h hkey.1.symm
  | restore node =>
    refine ⟨s.topology_restore node, (s.mem_failed_restore node key).trans ?_⟩
    exact and_iff_left (Ne.symm h)
  | speedTest etag results updateFastest =>
    refine ⟨s.topology_applySpeedTest etag results updateFastest, ?_⟩
    rw [operate, failed_applySpeedTest]
    exact mem_failed_applyProbes_elsewhere h s

theorem keeps_operateAll {key : Node.Key} {ops : List Operation}
    (h : ∀ op ∈ ops, op.IsElsewhere key) (s : Selector) :
    (s.operateAll ops).1.topology = s.topology ∧
      (key ∈ (s.operateAll ops).1.failed ↔ key ∈ s.failed) := by
  induction ops generalizing s with
  | nil => exact ⟨rfl, Iff.rfl⟩
  | cons op ops ih =>
    obtain ⟨htopology, hfailed⟩ := (h op List.mem_cons_self).keeps s
    obtain ⟨htopology', hfailed'⟩ :=
      ih (fun op hop => h op (List.mem_cons_of_mem _ hop)) (s.operate op).1
    exact ⟨htopology'.trans htopology, hfailed'.trans hfailed⟩

theorem session_stays {s : Selector} {session : Int} {own : Node}
    (hown : s.nodes[session.natAbs % s.nodes.length]? = some own)
    (hhealthy : s.isFailed own = false) {ops : List Operation}
    (hops : ∀ op ∈ ops, op.IsElsewhere own.key) :
    let later := (s.operateAll ops).1
    (later.plan true .roundRobin (some session)).2.nodes.head? = some own ∧
      (later.sessionNode? session).map (·.2) = some own := by
  intro later
  obtain ⟨htopology, hfailed⟩ := keeps_operateAll hops s
  have hnodes : later.nodes = s.nodes := congrArg Topology.nodes htopology
  have hstill : later.isHealthy own = true := by
    have hown : own.key ∉ s.failed := by simpa [isFailed] using hhealthy
    simpa [isHealthy, isFailed] using hfailed.not.mpr hown
  have hfirst : cyclicFirst? later.nodes later.isHealthy session.natAbs = some own :=
    cyclicFirst?_of_healthy (by rw [hnodes, hown]) hstill
  rw [head?_plan_session, sessionNode?_node]
  exact ⟨hfirst, hfirst⟩

/-! ## Turns -/

/-- Neither the topology nor the set of failed nodes changes along these uses. -/
def HoldsStill (s : Selector) : List Use → Prop
  | [] => True
  | use :: uses =>
    ((s.afterUse use).topology = s.topology ∧
        ∀ key, key ∈ (s.afterUse use).failed ↔ key ∈ s.failed) ∧
      (s.afterUse use).HoldsStill uses

def Use.isPlan : Use → Bool
  | .plan _ _ _ => true
  | .operation _ => false

theorem holdsStill_of_isPlan {uses : List Use} (h : ∀ use ∈ uses, use.isPlan = true)
    (s : Selector) : s.HoldsStill uses := by
  induction uses generalizing s with
  | nil => trivial
  | cons use uses ih =>
    refine ⟨?_, ih (fun use huse => h use (List.mem_cons_of_mem _ huse)) _⟩
    cases use with
    | operation op => cases h (.operation op) List.mem_cons_self
    | plan isRead balance session =>
      obtain ⟨turn, hplan⟩ := s.plan_eq isRead balance session
      rw [afterUse, hplan]
      exact ⟨rfl, fun _ => Iff.rfl⟩

def firstsInTurn (s : Selector) : List Use → List Node
  | [] => []
  | use :: uses =>
    let later := (s.afterUse use).firstsInTurn uses
    if use.isTurn then (s.plan true .roundRobin none).2.nodes.head?.toList ++ later else later

theorem head?_plan_turn {s : Selector} {turn : Nat} (hturn : s.turn = UInt64.ofNat turn)
    (hlt : turn < UInt64.size) :
    (s.plan true .roundRobin none).2.nodes.head? = cyclicFirst? s.nodes s.isHealthy turn := by
  have hnat : s.turn.toNat = turn := by
    rw [hturn, UInt64.toNat_ofNat_of_lt' hlt]
  rw [head?_plan_read, readStart, slot, List.rotate_mod, hnat]
  rfl

theorem firstsInTurn_eq {nodes : List Node} {isHealthy : Node → Bool} (uses : List Use) :
    ∀ (s : Selector) (turn : Nat), s.nodes = nodes → s.isHealthy = isHealthy →
      s.turn = UInt64.ofNat turn → s.HoldsStill uses →
      turn + uses.countP Use.isTurn ≤ UInt64.size →
      s.firstsInTurn uses =
        (List.range' turn (uses.countP Use.isTurn)).filterMap (cyclicFirst? nodes isHealthy) := by
  induction uses with
  | nil => exact fun _ _ _ _ _ _ _ => rfl
  | cons use uses ih =>
    intro s turn hnodes hhealthy hturn hstill hsize
    obtain ⟨⟨htopology, hfailed⟩, hlater⟩ := hstill
    have hnodes' : (s.afterUse use).nodes = nodes :=
      (congrArg Topology.nodes htopology).trans hnodes
    have hhealthy' : (s.afterUse use).isHealthy = isHealthy := by
      rw [← hhealthy]
      funext node
      have hsame := hfailed node.key
      rw [← isFailed_iff, ← isFailed_iff] at hsame
      rw [Selector.isHealthy, Selector.isHealthy, Bool.eq_iff_iff.mpr hsame]
    have hturn' := s.turn_afterUse use
    rw [firstsInTurn]
    cases hisTurn : use.isTurn with
    | false =>
      rw [List.countP_cons_of_neg (by simp [hisTurn])] at hsize ⊢
      rw [hisTurn] at hturn'
      exact ih _ turn hnodes' hhealthy' (hturn'.trans hturn) hlater hsize
    | true =>
      rw [List.countP_cons_of_pos hisTurn] at hsize ⊢
      rw [hisTurn, if_pos rfl, hturn] at hturn'
      have hnext : (s.afterUse use).turn = UInt64.ofNat (turn + 1) :=
        hturn'.trans (UInt64.ofNat_add turn 1).symm
      have hfirst := head?_plan_turn hturn (by omega)
      rw [hnodes, hhealthy] at hfirst
      rw [if_pos rfl, hfirst, ih _ (turn + 1) hnodes' hhealthy' hnext hlater (by omega),
        List.range'_succ, List.filterMap_cons]
      cases cyclicFirst? nodes isHealthy turn <;> rfl

theorem mem_cyclicFirsts {nodes : List Node} {isHealthy : Node → Bool} {node : Node}
    (hnode : node ∈ nodes) (hhealthy : isHealthy node = true) (turn : Nat) :
    node ∈ (List.range' turn nodes.length).filterMap (cyclicFirst? nodes isHealthy) := by
  have hrotated : node ∈ nodes.rotate turn := List.mem_rotate.mpr hnode
  rw [← filterMap_getElem?_cyclic, List.filterMap_map] at hrotated
  obtain ⟨offset, hoffset, hplace⟩ := List.mem_filterMap.mp hrotated
  rw [Function.comp_apply, Nat.mod_add_mod] at hplace
  have hturn : turn + offset ∈ List.range' turn nodes.length :=
    List.mem_range'_1.mpr ⟨Nat.le_add_right _ _, Nat.add_lt_add_left (List.mem_range.mp hoffset) _⟩
  exact List.mem_filterMap.mpr ⟨turn + offset, hturn, cyclicFirst?_of_healthy hplace hhealthy⟩

/-- With all nodes healthy, as many turns as there are nodes go to each in cyclic order. -/
theorem cyclicFirsts_of_all_healthy {nodes : List Node} {isHealthy : Node → Bool}
    (hhealthy : ∀ node ∈ nodes, isHealthy node = true) (turn : Nat) :
    (List.range' turn nodes.length).filterMap (cyclicFirst? nodes isHealthy) =
      nodes.rotate turn := by
  rw [← filterMap_getElem?_cyclic, List.range'_eq_map_range, List.filterMap_map,
    List.filterMap_map]
  -- The node at every place is healthy, so the search for one ends where it begins.
  refine List.filterMap_congr fun offset hoffset => ?_
  rw [Function.comp_apply, Function.comp_apply, Nat.mod_add_mod]
  have hlt : (turn + offset) % nodes.length < nodes.length :=
    Nat.mod_lt _ (Nat.lt_of_le_of_lt (Nat.zero_le offset) (List.mem_range.mp hoffset))
  have hplace := List.getElem?_eq_getElem hlt
  rw [cyclicFirst?_of_healthy hplace (hhealthy _ (List.getElem_mem hlt)), hplace]

/-- Reads in turn on a topology that has nodes.  Those of a session begin, and the session has its
node, at the first healthy node in cyclic order from the place of the session; while the node at
this place is healthy, no mark that is set or taken off elsewhere moves the session.  Of those
without a session as many as there are nodes, with anything else in between that leaves topology
and failed nodes as they are, begin at each healthy node, and exactly once at each if all are
healthy. -/
theorem roundRobin_spreads (s : Selector) (hnodes : s.nodes ≠ []) :
    (∀ session : Int, ∃ first,
      (s.plan true .roundRobin (some session)).2.nodes.head? = some first ∧
      (s.sessionNode? session).map (·.2) = some first ∧
      s.FirstFrom (session.natAbs % s.nodes.length) first ∧
      ∀ own, s.nodes[session.natAbs % s.nodes.length]? = some own → s.isFailed own = false →
        ∀ ops : List Operation, (∀ op ∈ ops, op.IsElsewhere own.key) →
          let later := (s.operateAll ops).1
          (later.plan true .roundRobin (some session)).2.nodes.head? = some own ∧
            (later.sessionNode? session).map (·.2) = some own) ∧
    ∀ uses : List Use, s.HoldsStill uses → uses.countP Use.isTurn = s.nodes.length →
      s.turn.toNat + s.nodes.length ≤ UInt64.size →
      (∀ node ∈ s.nodes, s.isFailed node = false → node ∈ s.firstsInTurn uses) ∧
      ((∀ node ∈ s.nodes, s.isFailed node = false) →
        ∀ node ∈ s.nodes, (s.firstsInTurn uses).count node = 1) := by
  have hhealthy : ∀ node, s.isFailed node = false → s.isHealthy node = true :=
    fun node h => by simp [isHealthy, h]
  refine ⟨fun session => ?_, fun uses hstill hcount hsize => ?_⟩
  · obtain ⟨first, hfirst⟩ := Option.isSome_iff_exists.mp
      (isSome_cyclicFirst? hnodes s.isHealthy session.natAbs)
    refine ⟨first, by rw [head?_plan_session, hfirst], by rw [sessionNode?_node, hfirst], ?_,
      fun own hown hhealthy ops hops => session_stays hown hhealthy hops⟩
    exact firstFrom_of_cyclicFirst? (by rw [cyclicFirst?, List.rotate_mod, ← cyclicFirst?, hfirst])
  · have hturn : s.turn = UInt64.ofNat s.turn.toNat := UInt64.ofNat_toNat.symm
    have hfirsts := firstsInTurn_eq uses s s.turn.toNat rfl rfl hturn hstill (by omega)
    rw [hcount] at hfirsts
    rw [hfirsts]
    refine ⟨fun node hnode h => mem_cyclicFirsts hnode (hhealthy node h) _,
      fun hall node hnode => ?_⟩
    rw [cyclicFirsts_of_all_healthy (fun node hnode => hhealthy node (hall node hnode)),
      (List.rotate_perm s.nodes s.turn.toNat).count_eq]
    exact List.count_eq_one_of_mem s.topology.nodup_nodes hnode

/-- Three nodes of which the second is failed.  The session with the least number has the third one;
the last three turns before the counter wraps, with a write, a session and a refresh in between,
begin at the two healthy ones. -/
theorem roundRobin_spreads_last_turns :
    let node := fun name =>
      (⟨⟨"http", some ⟨"", "", .name name, some 8080⟩, "/", none, none⟩,
        "db", name, .member⟩ : Node)
    let s : Selector :=
      { topology := .ofNodes 1 [node "a", node "b", node "c"], failed := [(node "b").key]
        turn := 18446744073709551613 }
    let turn := Use.plan true .roundRobin none
    let uses := [turn, .plan false .roundRobin none, turn, .plan true .roundRobin (some 1),
      .plan true .none none, turn]
    s.nodes ≠ [] ∧ s.HoldsStill uses ∧ uses.countP Use.isTurn = s.nodes.length ∧
      s.turn.toNat + s.nodes.length ≤ UInt64.size ∧
      node "a" ∈ s.firstsInTurn uses ∧ node "c" ∈ s.firstsInTurn uses ∧
      s.isFailed (node "c") = false ∧ (Operation.restore (node "b")).IsElsewhere (node "c").key ∧
      (((s.operateAll [.restore (node "b")]).1.sessionNode? (-9223372036854775808)).map (·.2)) =
        some (node "c") := by
  intro node s turn uses
  have hnodes : s.nodes ≠ [] := by decide
  have hstill : s.HoldsStill uses := holdsStill_of_isPlan (by decide) s
  have hcount : uses.countP Use.isTurn = s.nodes.length := by decide
  have hsize : s.turn.toNat + s.nodes.length ≤ UInt64.size := by decide
  have hhealthy : s.isFailed (node "a") = false ∧ s.isFailed (node "c") = false := by decide
  have helsewhere : ∀ op ∈ [Operation.restore (node "b")], op.IsElsewhere (node "c").key := by
    intro op hop
    rw [List.mem_singleton.mp hop]
    simp [Operation.IsElsewhere, node, Node.key]
  obtain ⟨hsessions, hturns⟩ := roundRobin_spreads s hnodes
  obtain ⟨hfirsts, -⟩ := hturns uses hstill hcount hsize
  obtain ⟨_, -, -, -, hstays⟩ := hsessions (-9223372036854775808)
  have hown := hstays (node "c") (by decide) hhealthy.2 _ helsewhere
  exact ⟨hnodes, hstill, hcount, hsize, hfirsts _ (by decide) hhealthy.1,
    hfirsts _ (by decide) hhealthy.2, hhealthy.2, helsewhere _ List.mem_cons_self, hown.2⟩

end ClusterClient.Selector
