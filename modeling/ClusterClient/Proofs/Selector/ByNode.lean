import ClusterClient.Proofs.Duration
import ClusterClient.Proofs.Selector.Plans
import Mathlib.Data.Finset.Basic

/-!
# A selector by nodes

A selector remembers its fastest node as a place, which means something in one
topology only.  The selector here remembers the node itself and keeps the failed
nodes as a set.  Both go through the same operations and agree after each of
them, so a place never comes to stand for another node.
-/

namespace ClusterClient

open Selector (Operation Reaction Probe tieTolerance elapsedOf? quickest?)

/-- What decides where requests go, in terms of nodes. -/
structure NodeSelector where
  topology : Topology
  failed : Finset Node.Key := ∅
  fastest : Option Node.Key := none
  deriving DecidableEq

namespace NodeSelector

def update (r : NodeSelector) (incoming : Topology) : NodeSelector × Bool :=
  if r.topology.etag < incoming.etag then
    (⟨incoming, r.failed.filter (· ∈ incoming.keys), r.fastest.filter (· ∈ incoming.keys)⟩, true)
  else (r, false)

def markFailed (r : NodeSelector) (key : Node.Key) : NodeSelector :=
  if key ∈ r.topology.keys then { r with failed := insert key r.failed } else r

def restore (r : NodeSelector) (key : Node.Key) : NodeSelector :=
  { r with failed := r.failed.erase key }

def applyProbe (r : NodeSelector) (probe : Probe) : NodeSelector :=
  match probe.2 with
  | some _ => r.restore probe.1.key
  | none => r.markFailed probe.1.key

def timeOf? (results : List Probe) (key : Node.Key) : Option Duration :=
  (results.find? (·.1.key == key)).bind (·.2)

def unbeaten? {α : Type} (times : List (α × Duration)) : Option (α × Duration) :=
  times.find? fun p => times.all (p.2 ≤ ·.2)

/-- The fastest node after a speed test: the old one as long as it is within the tolerance of the
first unbeaten one, and the old one too if nobody answered. -/
def fastestAfter (r : NodeSelector) (results : List Probe) : Option Node.Key :=
  match unbeaten? (r.topology.keys.filterMap fun key => (timeOf? results key).map (key, ·)) with
  | none => r.fastest
  | some (first, best) =>
    match r.fastest.bind (timeOf? results) with
    | none => some first
    | some elapsed =>
      if elapsed.nanos ≤ best.nanos + tieTolerance.nanos then r.fastest else some first

def applySpeedTest (r : NodeSelector) (etag : Int) (results : List Probe)
    (updateFastest : Bool) : NodeSelector :=
  let marked := results.foldl applyProbe r
  if updateFastest && marked.topology.etag = etag then
    { marked with fastest := marked.fastestAfter results }
  else marked

def place? (r : NodeSelector) : Option Nat :=
  r.fastest.bind fun key => r.topology.nodes.findIdx? (·.key == key)

def operate (r : NodeSelector) : Operation → NodeSelector × Reaction
  | .update incoming => ((r.update incoming).1, .accepted (r.update incoming).2)
  | .markFailed node => (r.markFailed node.key, .none)
  | .restore node => (r.restore node.key, .none)
  | .speedTest etag results updateFastest =>
    (r.applySpeedTest etag results updateFastest,
      .fastest (.ok (r.applySpeedTest etag results updateFastest).place?))

def operateAll (r : NodeSelector) : List Operation → NodeSelector × List Reaction
  | [] => (r, [])
  | op :: ops =>
    (((r.operate op).1.operateAll ops).1, (r.operate op).2 :: ((r.operate op).1.operateAll ops).2)

end NodeSelector

namespace Selector

open NodeSelector (timeOf? unbeaten?)

def byNode (s : Selector) : NodeSelector :=
  ⟨s.topology, s.failed.toFinset, s.fastestNode?.map Node.key⟩

/-- Places are places of the topology, and only members are marked. -/
structure Coherent (s : Selector) : Prop where
  fastest_lt : ∀ i, s.fastest = some i → i < s.topology.nodes.length
  failed_mem : ∀ key ∈ s.failed, key ∈ s.topology.keys

/-- Every time of a speed test leaves room for the tolerance. -/
def Operation.Fits : Operation → Prop
  | .speedTest _ results _ =>
    ∀ p ∈ results, ∀ d ∈ p.2, d.nanos + tieTolerance.nanos ≤ maxNanos
  | _ => True

instance (op : Operation) : Decidable op.Fits :=
  match op with
  | .speedTest _ results _ =>
    inferInstanceAs (Decidable (∀ p ∈ results, ∀ d ∈ p.2, d.nanos + tieTolerance.nanos ≤ maxNanos))
  | .update _ | .markFailed _ | .restore _ => inferInstanceAs (Decidable True)

theorem coherent_initial (t : Topology) : (initial t).Coherent where
  fastest_lt _ h := by cases h
  failed_mem _ h := by cases h

/-! ## Marks -/

theorem byNode_markFailed (s : Selector) (node : Node) :
    (s.markFailed node).byNode = s.byNode.markFailed node.key := by
  have hfastest : (s.markFailed node).fastestNode? = s.fastestNode? := by
    simp [fastestNode?, nodes]
  unfold NodeSelector.markFailed
  split
  · rename_i hmember
    have hfailed : (s.markFailed node).failed.toFinset = insert node.key s.failed.toFinset := by
      ext key
      rw [List.mem_toFinset, mem_failed_markFailed, Finset.mem_insert, List.mem_toFinset, or_comm]
      exact or_congr_left ⟨And.left, fun h => ⟨h, hmember⟩⟩
    simp [byNode, hfastest, hfailed]
  · rename_i hmember
    have hfailed : (s.markFailed node).failed.toFinset = s.failed.toFinset := by
      ext key
      rw [List.mem_toFinset, mem_failed_markFailed, List.mem_toFinset]
      exact or_iff_left fun h => hmember h.2
    simp [byNode, hfastest, hfailed]

theorem byNode_restore (s : Selector) (node : Node) :
    (s.restore node).byNode = s.byNode.restore node.key := by
  have hfailed : (s.restore node).failed.toFinset = s.failed.toFinset.erase node.key := by
    ext key
    rw [List.mem_toFinset, mem_failed_restore, Finset.mem_erase, List.mem_toFinset, and_comm]
  simp [byNode, NodeSelector.restore, hfailed, fastestNode?, nodes]

theorem byNode_applyProbe (s : Selector) (probe : Probe) :
    (s.applyProbe probe).byNode = s.byNode.applyProbe probe := by
  obtain ⟨node, time⟩ := probe
  cases time with
  | none => exact s.byNode_markFailed node
  | some _ => exact s.byNode_restore node

theorem byNode_applyProbes (s : Selector) (results : List Probe) :
    (results.foldl applyProbe s).byNode = results.foldl NodeSelector.applyProbe s.byNode := by
  induction results generalizing s with
  | nil => rfl
  | cons probe results ih => rw [List.foldl_cons, List.foldl_cons, ih, byNode_applyProbe]

theorem Coherent.markFailed {s : Selector} (hs : s.Coherent) (node : Node) :
    (s.markFailed node).Coherent where
  fastest_lt i hi := by
    rw [topology_markFailed]
    exact hs.fastest_lt i (by rwa [fastest_markFailed] at hi)
  failed_mem key hkey := by
    rw [topology_markFailed]
    rcases (s.mem_failed_markFailed node key).mp hkey with h | ⟨rfl, hmember⟩
    · exact hs.failed_mem key h
    · exact hmember

theorem Coherent.restore {s : Selector} (hs : s.Coherent) (node : Node) :
    (s.restore node).Coherent where
  fastest_lt := hs.fastest_lt
  failed_mem key hkey := hs.failed_mem key ((s.mem_failed_restore node key).mp hkey).1

theorem Coherent.applyProbes {s : Selector} (hs : s.Coherent) (results : List Probe) :
    (results.foldl Selector.applyProbe s).Coherent := by
  induction results generalizing s with
  | nil => exact hs
  | cons probe results ih =>
    apply ih
    obtain ⟨node, time⟩ := probe
    cases time with
    | none => exact hs.markFailed node
    | some _ => exact hs.restore node

/-! ## Newer topologies -/

theorem update_of_newer {s : Selector} {incoming : Topology}
    (hnewer : s.topology.etag < incoming.etag) :
    s.update incoming = ({ s with
      topology := incoming
      fastest := s.fastestNode?.bind incoming.position?
      failed := s.failed.filter (· ∈ incoming.keys) }, true) := by
  have hsuperseded : s.topology.isSupersededBy incoming = true := by
    simpa [Topology.isSupersededBy] using hnewer
  have hfailed : (s.failed.filter fun key => incoming.nodes.any (·.key == key)) =
      s.failed.filter (· ∈ incoming.keys) := by
    apply List.filter_congr
    intro key _
    rw [Bool.eq_iff_iff]
    simp [Topology.keys]
  rw [update, if_pos hsuperseded, hfailed]
  rfl

theorem update_of_not_newer {s : Selector} {incoming : Topology}
    (hnewer : ¬s.topology.etag < incoming.etag) : s.update incoming = (s, false) := by
  have hsuperseded : ¬s.topology.isSupersededBy incoming = true := by
    simpa [Topology.isSupersededBy] using hnewer
  rw [update, if_neg hsuperseded]

theorem byNode_update (s : Selector) (incoming : Topology) :
    (s.update incoming).1.byNode = (s.byNode.update incoming).1 ∧
      (s.update incoming).2 = (s.byNode.update incoming).2 := by
  by_cases hnewer : s.topology.etag < incoming.etag
  · have hnewer' : s.byNode.topology.etag < incoming.etag := hnewer
    rw [update_of_newer hnewer, NodeSelector.update, if_pos hnewer']
    refine ⟨?_, rfl⟩
    have hfailed : (s.failed.filter (· ∈ incoming.keys)).toFinset =
        s.failed.toFinset.filter (· ∈ incoming.keys) := by
      ext key
      simp
    have hfastest : ((s.fastestNode?.bind incoming.position?).bind (incoming.nodes[·]?)).map
        Node.key = (s.fastestNode?.map Node.key).filter (· ∈ incoming.keys) := by
      cases s.fastestNode? with
      | none => rfl
      | some node =>
        rw [Option.bind_some, Topology.key_position?, Option.map_some, Option.filter_some]
        simp only [decide_eq_true_eq]
    simp only [byNode, hfailed]
    rw [← hfastest]
    rfl
  · have hnewer' : ¬s.byNode.topology.etag < incoming.etag := hnewer
    rw [update_of_not_newer hnewer, NodeSelector.update, if_neg hnewer']
    exact ⟨rfl, rfl⟩

theorem Coherent.update {s : Selector} (hs : s.Coherent) (incoming : Topology) :
    (s.update incoming).1.Coherent := by
  by_cases hnewer : s.topology.etag < incoming.etag
  · rw [update_of_newer hnewer]
    constructor
    · intro i hi
      obtain ⟨node, -, hplace⟩ := Option.bind_eq_some_iff.mp hi
      obtain ⟨n, hn, -⟩ := (incoming.position?_eq_some_iff node i).mp hplace
      exact (List.getElem?_eq_some_iff.mp hn).1
    · intro key hkey
      exact of_decide_eq_true (List.mem_filter.mp hkey).2
  · rw [update_of_not_newer hnewer]
    exact hs

/-! ## Speed tests -/

theorem elapsedOf?_eq_timeOf? (results : List Probe) (node : Node) :
    elapsedOf? results node = timeOf? results node.key := rfl

theorem unbeaten?_cons_of_lt {α : Type} {p best : α × Duration} {rest : List (α × Duration)}
    (hbest : unbeaten? rest = some best) (hlt : best.2 < p.2) :
    unbeaten? (p :: rest) = some best := by
  have hmem : best ∈ rest := List.mem_of_find?_eq_some hbest
  have hbeaten : ¬((p :: rest).all (p.2 ≤ ·.2)) = true := by
    intro hall
    have hle : p.2 ≤ best.2 := by
      simpa using List.all_eq_true.mp hall best (List.mem_cons_of_mem p hmem)
    exact absurd hlt (Nat.not_lt_of_le hle)
  have hsame : (rest.find? fun q => (p :: rest).all (q.2 ≤ ·.2)) = unbeaten? rest := by
    rw [unbeaten?, ← List.head?_filter, ← List.head?_filter]
    congr 1
    apply List.filter_congr
    intro q _
    rw [List.all_cons, Bool.and_eq_right_iff_imp]
    intro hq
    have hqbest : q.2 ≤ best.2 := by simpa using List.all_eq_true.mp hq best hmem
    exact decide_eq_true (Nat.le_trans hqbest (Nat.le_of_lt hlt))
  unfold unbeaten? at hsame hbest ⊢
  rw [List.find?_cons, Bool.eq_false_iff.mpr hbeaten, hsame, hbest]

theorem unbeaten?_cons_of_not_lt {α : Type} {p best : α × Duration} {rest : List (α × Duration)}
    (hbest : unbeaten? rest = some best) (hlt : ¬best.2 < p.2) :
    unbeaten? (p :: rest) = some p := by
  have hle : ∀ q ∈ rest, best.2 ≤ q.2 := by simpa using List.find?_some hbest
  have hunbeaten : (p :: rest).all (p.2 ≤ ·.2) = true := by
    rw [List.all_cons, Bool.and_eq_true, List.all_eq_true]
    refine ⟨decide_eq_true (Nat.le_refl _), fun q hq => decide_eq_true ?_⟩
    exact Nat.le_trans (Nat.le_of_not_lt hlt) (hle q hq)
  rw [unbeaten?, List.find?_cons, hunbeaten]

theorem quickest?_eq_none {times : List (Nat × Duration)} (h : quickest? times = none) :
    times = [] := by
  cases times with
  | nil => rfl
  | cons p rest =>
    unfold quickest? at h
    split at h
    · cases h
    · split at h <;> cases h

theorem quickest?_eq_unbeaten? (times : List (Nat × Duration)) :
    quickest? times = unbeaten? times := by
  induction times with
  | nil => rfl
  | cons p rest ih =>
    rw [quickest?]
    cases hbest : quickest? rest with
    | none =>
      rw [quickest?_eq_none hbest]
      simp [unbeaten?, show p.2 ≤ p.2 from Nat.le_refl _]
    | some best =>
      rw [ih] at hbest
      by_cases hlt : best.2 < p.2
      · rw [unbeaten?_cons_of_lt hbest hlt]
        exact if_pos hlt
      · rw [unbeaten?_cons_of_not_lt hbest hlt]
        exact if_neg hlt

theorem unbeaten?_map {α β : Type} (f : α → β) (times : List (α × Duration)) :
    unbeaten? (times.map (Prod.map f id)) = (unbeaten? times).map (Prod.map f id) := by
  unfold unbeaten?
  rw [List.find?_map]
  congr 2
  funext p
  rw [Function.comp_apply, List.all_map]
  rfl

theorem quickest?_key (t : Topology) (results : List Probe) :
    (quickest? ((List.range t.nodes.length).filterMap fun i =>
        (t.nodes[i]?.bind (elapsedOf? results)).map (i, ·))).map
      (Prod.map (fun i => t.nodes[i]?.map Node.key) id) =
    (unbeaten? (t.keys.filterMap fun key => (timeOf? results key).map (key, ·))).map
      (Prod.map some id) := by
  rw [quickest?_eq_unbeaten?, ← unbeaten?_map, ← unbeaten?_map]
  congr 1
  have hkeys : t.keys =
      (List.range t.nodes.length).filterMap fun i => t.nodes[i]?.map Node.key := by
    rw [Topology.keys]
    conv => lhs; rw [← t.nodes.take_length, ← filterMap_getElem?_range t.nodes _ (Nat.le_refl _)]
    rw [List.map_filterMap]
  rw [hkeys, List.filterMap_filterMap, List.map_filterMap, List.map_filterMap]
  apply List.filterMap_congr
  intro i _
  cases hi : t.nodes[i]? with
  | none => rfl
  | some node =>
    simp only [Option.bind_some, Option.map_some, elapsedOf?_eq_timeOf?]
    cases timeOf? results node.key with
    | none => rfl
    | some time => simp [hi]

/-- Either nobody answered, or the quickest place and the first unbeaten key are of one node. -/
theorem quickest?_cases (t : Topology) (results : List Probe) :
    let places := (List.range t.nodes.length).filterMap fun i =>
      (t.nodes[i]?.bind (elapsedOf? results)).map (i, ·)
    let keys := t.keys.filterMap fun key => (timeOf? results key).map (key, ·)
    (quickest? places = none ∧ unbeaten? keys = none) ∨
      ∃ i node best, t.nodes[i]? = some node ∧ timeOf? results node.key = some best ∧
        quickest? places = some (i, best) ∧ unbeaten? keys = some (node.key, best) := by
  intro places keys
  have hsame := quickest?_key t results
  cases hplace : quickest? places with
  | none =>
    rw [hplace] at hsame
    exact Or.inl ⟨rfl, by simpa using hsame.symm⟩
  | some p =>
    obtain ⟨i, best⟩ := p
    rw [hplace] at hsame
    obtain ⟨⟨key, time⟩, hkeys, heq⟩ := Option.map_eq_some_iff.mp hsame.symm
    obtain ⟨hkey, rfl⟩ := Prod.mk.inj heq
    obtain ⟨node, hnode, rfl⟩ := Option.map_eq_some_iff.mp hkey.symm
    obtain ⟨k, -, hk⟩ := List.mem_filterMap.mp (List.mem_of_find?_eq_some hkeys)
    obtain ⟨d, htime, hkd⟩ := Option.map_eq_some_iff.mp hk
    cases hkd
    exact Or.inr ⟨i, node, time, hnode, htime, rfl, hkeys⟩

theorem timeOf?_mem {results : List Probe} {key : Node.Key} {d : Duration}
    (htime : timeOf? results key = some d) : ∃ p ∈ results, p.2 = some d := by
  obtain ⟨p, hp, hd⟩ := Option.bind_eq_some_iff.mp htime
  exact ⟨p, List.mem_of_find?_eq_some hp, hd⟩

theorem add_tieTolerance (d : Duration) (hd : d.nanos + tieTolerance.nanos ≤ maxNanos) :
    d.add tieTolerance = .ok ⟨d.nanos + tieTolerance.nanos, hd⟩ :=
  Duration.add_eq_ok_iff.mpr rfl

/-- The fastest place after a speed test is the place of the fastest node after it. -/
theorem fastestAfter_byNode {s : Selector} (hs : s.Coherent) (etag : Int) (results : List Probe)
    (updateFastest : Bool) (hfits : (Operation.speedTest etag results updateFastest).Fits) :
    ∃ fastest, s.fastestAfter results = .ok fastest ∧
      (∀ i, fastest = some i → i < s.topology.nodes.length) ∧
      (fastest.bind (s.nodes[·]?)).map Node.key = s.byNode.fastestAfter results := by
  unfold fastestAfter NodeSelector.fastestAfter
  simp only [byNode, nodes]
  rcases quickest?_cases s.topology results with
    ⟨hplace, hkey⟩ | ⟨i, node, best, hnode, htime, hplace, hkey⟩
  · rw [hplace, hkey]
    exact ⟨s.fastest, rfl, hs.fastest_lt, rfl⟩
  · have hfirst : ∀ j, some i = some j → j < s.topology.nodes.length := by
      rintro j ⟨⟩
      exact (List.getElem?_eq_some_iff.mp hnode).1
    have hfirstKey : ((some i).bind (s.topology.nodes[·]?)).map Node.key = some node.key := by
      simp [hnode]
    rw [hplace, hkey]
    cases hfastest : s.fastest with
    | none =>
      simp only [fastestNode?, hfastest, Option.bind_none, Option.map_none]
      exact ⟨some i, rfl, hfirst, hfirstKey⟩
    | some old =>
      have hold : old < s.topology.nodes.length := hs.fastest_lt old hfastest
      have holdNode : s.topology.nodes[old]? = some s.topology.nodes[old] :=
        List.getElem?_eq_getElem hold
      simp only [fastestNode?, nodes, hfastest, Option.bind_some, holdNode, Option.map_some,
        elapsedOf?_eq_timeOf?]
      cases helapsed : timeOf? results s.topology.nodes[old].key with
      | none => exact ⟨some i, rfl, hfirst, hfirstKey⟩
      | some elapsed =>
        -- the best time is one of the results, so the limit exists
        obtain ⟨p, hp, hptime⟩ := timeOf?_mem htime
        have hlimit := add_tieTolerance best (hfits p hp best hptime)
        simp only [Option.map_some, hlimit]
        by_cases hclose : elapsed.nanos ≤ best.nanos + tieTolerance.nanos
        · refine ⟨some old, congrArg Except.ok (if_pos hclose), ?_, ?_⟩
          · rintro j ⟨⟩
            exact hold
          · simp [holdNode, hclose]
        · refine ⟨some i, congrArg Except.ok (if_neg hclose), hfirst, ?_⟩
          rw [hfirstKey, if_neg hclose]

theorem byNode_applySpeedTest {s : Selector} (hs : s.Coherent) (etag : Int)
    (results : List Probe) (updateFastest : Bool)
    (hfits : (Operation.speedTest etag results updateFastest).Fits) :
    (s.applySpeedTest etag results updateFastest).1.byNode =
        s.byNode.applySpeedTest etag results updateFastest ∧
      (s.applySpeedTest etag results updateFastest).1.Coherent ∧
      (s.applySpeedTest etag results updateFastest).2 =
        .ok (s.applySpeedTest etag results updateFastest).1.fastest := by
  have hmarked := hs.applyProbes results
  obtain ⟨fastest, hok, hlt, hkey⟩ := fastestAfter_byNode hmarked etag results updateFastest hfits
  have hnodes := s.byNode_applyProbes results
  unfold applySpeedTest NodeSelector.applySpeedTest
  rw [← hnodes]
  dsimp only
  by_cases hsame :
      (updateFastest && decide ((results.foldl applyProbe s).topology.etag = etag)) = true
  · have hsame' : (updateFastest &&
        decide ((results.foldl applyProbe s).byNode.topology.etag = etag)) = true := hsame
    rw [if_pos hsame, if_pos hsame', hok]
    refine ⟨?_, ⟨hlt, hmarked.failed_mem⟩, rfl⟩
    rw [← hkey]
    rfl
  · have hsame' : ¬(updateFastest &&
        decide ((results.foldl applyProbe s).byNode.topology.etag = etag)) = true := hsame
    rw [if_neg hsame, if_neg hsame']
    exact ⟨rfl, hmarked, rfl⟩

/-! ## Runs -/

theorem place?_byNode {s : Selector} (hs : s.Coherent) : s.byNode.place? = s.fastest := by
  unfold NodeSelector.place? byNode fastestNode?
  cases hfastest : s.fastest with
  | none => rfl
  | some i =>
    have hi : i < s.topology.nodes.length := hs.fastest_lt i hfastest
    have hnode : s.nodes[i]? = some s.topology.nodes[i] := List.getElem?_eq_getElem hi
    rw [Option.bind_some, hnode, Option.map_some, Option.bind_some]
    exact (s.topology.position?_eq_some_iff s.topology.nodes[i] i).mpr ⟨_, hnode, rfl⟩

theorem operate_byNode {s : Selector} (hs : s.Coherent) (op : Operation) (hfits : op.Fits) :
    (s.operate op).1.byNode = (s.byNode.operate op).1 ∧
      (s.operate op).2 = (s.byNode.operate op).2 ∧ (s.operate op).1.Coherent := by
  cases op with
  | update incoming =>
    obtain ⟨hstate, haccepted⟩ := s.byNode_update incoming
    exact ⟨hstate, congrArg Reaction.accepted haccepted, hs.update incoming⟩
  | markFailed node => exact ⟨s.byNode_markFailed node, rfl, hs.markFailed node⟩
  | restore node => exact ⟨s.byNode_restore node, rfl, hs.restore node⟩
  | speedTest etag results updateFastest =>
    obtain ⟨hstate, hcoherent, hfastest⟩ :=
      byNode_applySpeedTest hs etag results updateFastest hfits
    refine ⟨hstate, ?_, hcoherent⟩
    simp only [operate, NodeSelector.operate]
    rw [hfastest, ← hstate, place?_byNode hcoherent]

theorem operateAll_byNode {s : Selector} (hs : s.Coherent) (ops : List Operation)
    (hfits : ∀ op ∈ ops, op.Fits) :
    (s.operateAll ops).1.byNode = (s.byNode.operateAll ops).1 ∧
      (s.operateAll ops).2 = (s.byNode.operateAll ops).2 ∧ (s.operateAll ops).1.Coherent := by
  induction ops generalizing s with
  | nil => exact ⟨rfl, rfl, hs⟩
  | cons op ops ih =>
    obtain ⟨hstate, hreaction, hcoherent⟩ := operate_byNode hs op (hfits op List.mem_cons_self)
    obtain ⟨hrun, hreactions, hend⟩ :=
      ih hcoherent fun op' hop' => hfits op' (List.mem_cons_of_mem op hop')
    rw [hstate] at hrun hreactions
    refine ⟨hrun, ?_, hend⟩
    rw [operateAll, NodeSelector.operateAll, hreaction, hreactions]

/-- After any run both selectors have the same topology, failed nodes and fastest node and have
answered alike.  The fastest place is then a place of the topology, failed nodes are members, and
a newer topology keeps the fastest node, wherever it stands there, exactly if it is a member. -/
theorem operateAll_refines (t : Topology) (ops : List Operation) (hfits : ∀ op ∈ ops, op.Fits) :
    let s := ((initial t).operateAll ops).1
    s.byNode = (NodeSelector.operateAll ⟨t, ∅, none⟩ ops).1 ∧
    ((initial t).operateAll ops).2 = (NodeSelector.operateAll ⟨t, ∅, none⟩ ops).2 ∧
    (∀ i, s.fastest = some i → i < s.topology.nodes.length) ∧
    (∀ key ∈ s.failed, key ∈ s.topology.keys) ∧
    ∀ incoming, (s.update incoming).2 = true →
      match s.fastest.bind (s.topology.nodes[·]?) with
      | none => (s.update incoming).1.fastest = none
      | some old =>
        if old.key ∈ incoming.keys then
          ∃ i node, (s.update incoming).1.fastest = some i ∧ incoming.nodes[i]? = some node ∧
            node.key = old.key
        else (s.update incoming).1.fastest = none := by
  intro s
  obtain ⟨hstate, hreactions, hcoherent⟩ := operateAll_byNode (coherent_initial t) ops hfits
  refine ⟨hstate, hreactions, hcoherent.fastest_lt, hcoherent.failed_mem, ?_⟩
  intro incoming haccepted
  have hnewer : s.topology.etag < incoming.etag := by
    by_contra hnewer
    rw [update_of_not_newer hnewer] at haccepted
    cases haccepted
  have hold : s.fastest.bind (s.topology.nodes[·]?) = s.fastestNode? := rfl
  rw [update_of_newer hnewer, hold]
  cases s.fastestNode? with
  | none => rfl
  | some old =>
    simp only [Option.bind_some]
    split
    · rename_i hmember
      cases hplace : incoming.position? old with
      | none => exact absurd hmember ((incoming.position?_eq_none_iff old).mp hplace)
      | some i =>
        obtain ⟨node, hnode, hkey⟩ := (incoming.position?_eq_some_iff old i).mp hplace
        exact ⟨i, node, rfl, hnode, hkey⟩
    · rename_i hleft
      exact (incoming.position?_eq_none_iff old).mpr hleft

/-- The quicker of two nodes stays the fastest when a newer topology puts it first. -/
theorem operateAll_refines_reordered :
    let host := fun name => ⟨"http", some ⟨"", "", .name name, some 8080⟩, "/", none, none⟩
    let a : Node := { url := host "a", database := "db" }
    let b : Node := { url := host "b", database := "db", tag := "B" }
    let ops := [
      Operation.speedTest 1 [(a, some (.ofMillis 9)), (b, some (.ofMillis 3))] true,
      Operation.markFailed a,
      Operation.update (.ofNodes 2 [{ b with tag := "C" }, a])]
    let s := ((initial (.ofNodes 1 [a, b])).operateAll ops).1
    (∀ op ∈ ops, op.Fits) ∧
    s.byNode = (NodeSelector.operateAll ⟨.ofNodes 1 [a, b], ∅, none⟩ ops).1 ∧
    s.fastest = some 0 ∧ s.failed = [a.key] := by
  intro host a b ops s
  have hfits : ∀ op ∈ ops, op.Fits := by decide +kernel
  exact ⟨hfits, (operateAll_refines (.ofNodes 1 [a, b]) ops hfits).1, by decide +kernel,
    by decide +kernel⟩

end Selector

end ClusterClient
