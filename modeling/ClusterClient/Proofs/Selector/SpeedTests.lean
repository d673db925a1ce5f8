import ClusterClient.Proofs.Selector.ByNode

/-!
# Where a speed test sends reads

A speed test that is applied to the topology it was taken under marks exactly
the silent nodes and picks a fastest place.  This module says which place that
is, in terms of the times alone, and in which order the next read tries the
nodes.
-/

namespace ClusterClient.Selector

open NodeSelector (timeOf? unbeaten?)

def Reachable (s : Selector) : Prop := ∃ t uses, s = (initial t).afterUses uses

/-- The place of the first of the nodes that answered as quickly as any did, and how long it
took. -/
structure FirstQuickest (nodes : List Node) (results : List Probe) (place : Nat)
    (best : Duration) : Prop where
  time : nodes[place]?.bind (elapsedOf? results) = some best
  least : ∀ node ∈ nodes, ∀ d, elapsedOf? results node = some d → best ≤ d
  first : ∀ j < place, ∀ node, nodes[j]? = some node → elapsedOf? results node ≠ some best

/-- Whether a place is the fastest one already and its node was not slower than the best time by
more than the tolerance. -/
def Sticks (s : Selector) (results : List Probe) (best : Duration) (place : Nat) : Prop :=
  s.fastest = some place ∧ ∃ elapsed, s.nodes[place]?.bind (elapsedOf? results) = some elapsed ∧
    elapsed.nanos ≤ best.nanos + tieTolerance.nanos

/-- What a speed test does in any case: it marks the nodes that were silent and no others. -/
structure MarksSilent (s tested : Selector) (results : List Probe) : Prop where
  topology : tested.topology = s.topology
  turn : tested.turn = s.turn
  failed : ∀ key, key ∈ tested.failed ↔ ∃ p ∈ results, p.1.key = key ∧ p.2 = none

/-- What a speed test does to reads that prefer the fastest node. -/
structure RoutesReads (s tested : Selector) (results : List Probe) : Prop where
  unanswered : (∀ p ∈ results, p.2 = none) →
    tested.fastest = s.fastest ∧
      ∀ session, (tested.plan true .fastestNode session).2.nodes = s.topology.nodes
  /-- The fastest place is the old one if it sticks, or else the first of the quickest; reads go to
  its node first, then to the others that answered, then to the silent ones. -/
  answered : (∃ p ∈ results, p.2.isSome) →
    ∃ first best place node elapsed, FirstQuickest s.nodes results first best ∧
      tested.fastest = some place ∧ s.nodes[place]? = some node ∧
      elapsedOf? results node = some elapsed ∧
      elapsed.nanos ≤ best.nanos + tieTolerance.nanos ∧
      (s.Sticks results best place ∨ (∀ old, ¬s.Sticks results best old) ∧ place = first) ∧
      ∀ session, (tested.plan true .fastestNode session).2.nodes =
        node :: ((s.nodes.filter fun n => n.key ≠ node.key ∧ (elapsedOf? results n).isSome) ++
          s.nodes.filter fun n => (elapsedOf? results n).isNone)

/-! ## Times -/

theorem elapsedOf?_of_mem {results : List Probe} (honce : (results.map (·.1.key)).Nodup)
    {p : Probe} (hp : p ∈ results) {node : Node} (hkey : p.1.key = node.key) :
    elapsedOf? results node = p.2 := by
  unfold elapsedOf?
  cases hfind : results.find? fun q => q.1.isSame node with
  | none =>
    have hmiss := List.find?_eq_none.mp hfind p hp
    simp [Node.isSame, hkey] at hmiss
  | some q =>
    have hq := List.mem_of_find?_eq_some hfind
    have hsame : q.1.key = node.key := by simpa [Node.isSame] using List.find?_some hfind
    rw [List.inj_on_of_nodup_map honce hq hp (hsame.trans hkey.symm)]
    rfl

theorem exists_of_elapsedOf? {results : List Probe} {node : Node} {d : Duration}
    (h : elapsedOf? results node = some d) :
    ∃ p ∈ results, p.1.key = node.key ∧ p.2 = some d := by
  obtain ⟨p, hp, hd⟩ := Option.bind_eq_some_iff.mp h
  exact ⟨p, List.mem_of_find?_eq_some hp, by simpa [Node.isSame] using List.find?_some hp, hd⟩

theorem firstQuickest_of_quickest? {s : Selector} {results : List Probe} {place : Nat}
    {best : Duration}
    (h : quickest? ((List.range s.nodes.length).filterMap fun i =>
      (s.nodes[i]?.bind (elapsedOf? results)).map (i, ·)) = some (place, best)) :
    FirstQuickest s.nodes results place best := by
  rw [quickest?_eq_unbeaten?, unbeaten?, List.find?_filterMap] at h
  obtain ⟨i, hfind, hplace⟩ := Option.bind_eq_some_iff.mp h
  obtain ⟨d, htime, hd⟩ := Option.map_eq_some_iff.mp hplace
  cases hd
  obtain ⟨hunbeaten, -, hbeaten⟩ := List.find?_range_eq_some.mp hfind
  simp only [htime, Option.map_some, Option.any_some, List.all_eq_true, decide_eq_true_eq]
    at hunbeaten
  have hleast : ∀ (j : Nat) (d : Duration), s.nodes[j]?.bind (elapsedOf? results) = some d →
      best ≤ d := by
    intro j d hj
    obtain ⟨node, hnode, -⟩ := Option.bind_eq_some_iff.mp hj
    have hlt : j < s.nodes.length := (List.getElem?_eq_some_iff.mp hnode).1
    exact hunbeaten (j, d) (List.mem_filterMap.mpr ⟨j, List.mem_range.mpr hlt, by rw [hj]; rfl⟩)
  refine ⟨htime, fun node hnode d hd => ?_, fun j hj node hnode hsame => ?_⟩
  · obtain ⟨j, hj⟩ := List.mem_iff_getElem?.mp hnode
    exact hleast j d (by rw [hj]; exact hd)
  · -- an earlier place with the same time would have been unbeaten as well
    have hearlier := hbeaten j hj
    simp only [hnode, Option.bind_some, hsame, Option.map_some, Option.any_some,
      Bool.not_eq_eq_eq_not, Bool.not_true] at hearlier
    refine absurd ?_ (Bool.eq_false_iff.mp hearlier)
    simpa only [List.all_eq_true, decide_eq_true_eq] using hunbeaten

theorem FirstQuickest.lt {nodes : List Node} {results : List Probe} {place : Nat} {best : Duration}
    (h : FirstQuickest nodes results place best) : place < nodes.length := by
  obtain ⟨node, hnode, -⟩ := Option.bind_eq_some_iff.mp h.time
  exact (List.getElem?_eq_some_iff.mp hnode).1

/-- Nobody answered and the fastest place stays; or the fastest node did not answer and the first of
the quickest places is picked; or it is compared with the best time. -/
theorem fastestAfter_cases (s : Selector) (results : List Probe) :
    ((∀ node ∈ s.nodes, elapsedOf? results node = none) ∧
        s.fastestAfter results = .ok s.fastest) ∨
      ∃ first best, FirstQuickest s.nodes results first best ∧
        ((s.fastestNode?.bind (elapsedOf? results) = none ∧
            s.fastestAfter results = .ok (some first)) ∨
          ∃ old elapsed, s.fastest = some old ∧
            s.nodes[old]?.bind (elapsedOf? results) = some elapsed ∧
            s.fastestAfter results = (best.add tieTolerance).map fun limit =>
              if elapsed ≤ limit then some old else some first) := by
  unfold fastestAfter
  dsimp only
  split
  · rename_i hquickest
    refine .inl ⟨fun node hnode => ?_, rfl⟩
    obtain ⟨i, hi⟩ := List.mem_iff_getElem?.mp hnode
    have hlt : i < s.nodes.length := (List.getElem?_eq_some_iff.mp hi).1
    have hmiss := List.filterMap_eq_nil_iff.mp (quickest?_eq_none hquickest) i
      (List.mem_range.mpr hlt)
    simpa [hi] using hmiss
  · rename_i first best hquickest
    refine .inr ⟨first, best, firstQuickest_of_quickest? hquickest, ?_⟩
    split
    · rename_i hold
      refine .inl ⟨?_, rfl⟩
      rw [fastestNode?, Option.bind_assoc]
      cases hfastest : s.fastest with
      | none => rfl
      | some old => simpa [hfastest] using hold
    · rename_i old elapsed hold
      obtain ⟨place, hfastest, htime⟩ := Option.bind_eq_some_iff.mp hold
      obtain ⟨d, helapsed, hd⟩ := Option.map_eq_some_iff.mp htime
      cases hd
      refine .inr ⟨old, elapsed, hfastest, helapsed, ?_⟩
      cases best.add tieTolerance <;> rfl

theorem fastestAfter_spec (s : Selector) {results : List Probe}
    (hroom : ∀ p ∈ results, ∀ d ∈ p.2, d.nanos + tieTolerance.nanos ≤ maxNanos) :
    (∀ node ∈ s.nodes, elapsedOf? results node = none) ∧
        s.fastestAfter results = .ok s.fastest ∨
      ∃ first best place, FirstQuickest s.nodes results first best ∧
        s.fastestAfter results = .ok (some place) ∧
        (s.Sticks results best place ∨ (∀ old, ¬s.Sticks results best old) ∧ place = first) := by
  rcases s.fastestAfter_cases results with hsilent | ⟨first, best, hfirst, hpicked⟩
  · exact .inl hsilent
  · right
    rcases hpicked with ⟨hmissed, hpicked⟩ | ⟨old, elapsed, hold, helapsed, hpicked⟩
    · refine ⟨first, best, first, hfirst, hpicked, .inr ⟨?_, rfl⟩⟩
      rintro old ⟨hfastest, elapsed, helapsed, -⟩
      rw [fastestNode?, hfastest, Option.bind_some, helapsed] at hmissed
      cases hmissed
    · -- the best time is one of the results, so the limit exists
      obtain ⟨node, -, hbest⟩ := Option.bind_eq_some_iff.mp hfirst.time
      obtain ⟨p, hp, -, hd⟩ := exists_of_elapsedOf? hbest
      rw [add_tieTolerance best (hroom p hp best hd)] at hpicked
      by_cases hclose : elapsed.nanos ≤ best.nanos + tieTolerance.nanos
      · exact ⟨first, best, old, hfirst, hpicked.trans (congrArg Except.ok (if_pos hclose)),
          .inl ⟨hold, elapsed, helapsed, hclose⟩⟩
      · refine ⟨first, best, first, hfirst, hpicked.trans (congrArg Except.ok (if_neg hclose)),
          .inr ⟨?_, rfl⟩⟩
        rintro other ⟨hother, elapsed', helapsed', hclose'⟩
        cases hold.symm.trans hother
        cases helapsed.symm.trans helapsed'
        exact hclose hclose'

/-! ## Reachable states are coherent -/

theorem lt_of_fastestAfter {s : Selector} (hs : s.Coherent) {results : List Probe}
    {fastest : Option Nat} (h : s.fastestAfter results = .ok fastest) :
    ∀ i, fastest = some i → i < s.topology.nodes.length := by
  rcases s.fastestAfter_cases results with ⟨-, hkept⟩ | ⟨first, best, hfirst, hpicked⟩
  · rw [hkept] at h
    cases h
    exact hs.fastest_lt
  · rcases hpicked with ⟨-, hpicked⟩ | ⟨old, elapsed, hold, -, hpicked⟩
    · rw [hpicked] at h
      cases h
      rintro i ⟨⟩
      exact hfirst.lt
    · rw [hpicked] at h
      cases hlimit : best.add tieTolerance with
      | error e =>
        rw [hlimit] at h
        cases h
      | ok limit =>
        rw [hlimit] at h
        cases h
        intro i hi
        dsimp only at hi
        split at hi
        · cases hi
          exact hs.fastest_lt old hold
        · cases hi
          exact hfirst.lt

theorem Coherent.applySpeedTest {s : Selector} (hs : s.Coherent) (etag : Int)
    (results : List Probe) (updateFastest : Bool) :
    (s.applySpeedTest etag results updateFastest).1.Coherent := by
  have hmarked := hs.applyProbes results
  unfold Selector.applySpeedTest
  dsimp only
  split
  · split
    · rename_i fastest hfastest
      exact ⟨lt_of_fastestAfter hmarked hfastest, hmarked.failed_mem⟩
    · exact hmarked
  · exact hmarked

theorem Coherent.afterUse {s : Selector} (hs : s.Coherent) (use : Use) :
    (s.afterUse use).Coherent := by
  cases use with
  | operation op =>
    cases op with
    | update incoming => exact hs.update incoming
    | markFailed node => exact hs.markFailed node
    | restore node => exact hs.restore node
    | speedTest etag results updateFastest => exact hs.applySpeedTest etag results updateFastest
  | plan isRead balance session =>
    obtain ⟨turn, hplan⟩ := s.plan_eq isRead balance session
    rw [Selector.afterUse, hplan]
    exact ⟨hs.fastest_lt, hs.failed_mem⟩

theorem Reachable.coherent {s : Selector} (hs : s.Reachable) : s.Coherent := by
  obtain ⟨t, uses, rfl⟩ := hs
  have hrun : ∀ start : Selector, start.Coherent → (start.afterUses uses).Coherent := by
    induction uses with
    | nil => exact fun _ hstart => hstart
    | cons use uses ih => exact fun start hstart => ih _ (hstart.afterUse use)
  exact hrun _ (coherent_initial t)

/-! ## Marks -/

theorem mem_failed_applyProbe (s : Selector) (probe : Probe) (key : Node.Key) :
    key ∈ (s.applyProbe probe).failed ↔
      if probe.1.key = key then probe.2 = none ∧ (key ∈ s.failed ∨ key ∈ s.topology.keys)
      else key ∈ s.failed := by
  obtain ⟨node, time⟩ := probe
  cases time with
  | some d =>
    refine (s.mem_failed_restore node key).trans ?_
    by_cases hkey : node.key = key
    · simp [hkey]
    · simp [hkey, Ne.symm hkey]
  | none =>
    refine (s.mem_failed_markFailed node key).trans ?_
    by_cases hkey : node.key = key
    · simp [hkey]
    · simp [hkey, Ne.symm hkey]

theorem mem_failed_applyProbes (s : Selector) {results : List Probe}
    (honce : (results.map (·.1.key)).Nodup)
    (hmembers : ∀ p ∈ results, p.1.key ∈ s.topology.keys) (key : Node.Key) :
    key ∈ (results.foldl applyProbe s).failed ↔
      (∃ p ∈ results, p.1.key = key ∧ p.2 = none) ∨
        key ∈ s.failed ∧ key ∉ results.map (·.1.key) := by
  induction results generalizing s with
  | nil => simp
  | cons probe results ih =>
    obtain ⟨hnew, honce⟩ := List.nodup_cons.mp honce
    have hprobe := hmembers probe List.mem_cons_self
    have hmembers' : ∀ p ∈ results, p.1.key ∈ (s.applyProbe probe).topology.keys := by
      rw [topology_applyProbe]
      exact fun p hp => hmembers p (List.mem_cons_of_mem probe hp)
    rw [List.foldl_cons, ih _ honce hmembers', mem_failed_applyProbe, List.map_cons,
      List.mem_cons]
    by_cases hkey : probe.1.key = key
    · subst hkey
      have hnone : ¬∃ p ∈ results, p.1.key = probe.1.key ∧ p.2 = none := by
        rintro ⟨p, hp, hsame, -⟩
        exact hnew (List.mem_map.mpr ⟨p, hp, hsame⟩)
      simp [hnone, hnew, hprobe]
    · simp [hkey, Ne.symm hkey]

theorem Coherent.mem_failed_applyProbes {s : Selector} (hs : s.Coherent) {results : List Probe}
    (hprobed : (results.map (·.1.key)).Perm s.topology.keys) (key : Node.Key) :
    key ∈ (results.foldl Selector.applyProbe s).failed ↔
      ∃ p ∈ results, p.1.key = key ∧ p.2 = none := by
  have honce : (results.map (·.1.key)).Nodup := hprobed.nodup_iff.mpr s.topology.distinct
  have hmembers : ∀ p ∈ results, p.1.key ∈ s.topology.keys :=
    fun p hp => hprobed.mem_iff.mp (List.mem_map_of_mem hp)
  rw [Selector.mem_failed_applyProbes s honce hmembers, or_iff_left]
  rintro ⟨hfailed, hunprobed⟩
  exact hunprobed (hprobed.mem_iff.mpr (hs.failed_mem key hfailed))

/-! ## Reads -/

theorem nodes_plan_of_fastest {s : Selector} {node : Node} (hfastest : s.fastestNode? = some node)
    (hhealthy : s.isHealthy node = true) (session : Option Int) :
    (s.plan true .fastestNode session).2.nodes =
      node :: ((s.nodes.filter fun n => n.key ≠ node.key ∧ s.isHealthy n = true) ++
        s.nodes.filter s.isFailed) := by
  have hstart : readStart s.nodes s.isHealthy s.fastestNode? (s.slot session) .fastestNode =
      some node := by
    rw [readStart, hfastest, Option.filter_some, if_pos hhealthy]
    rfl
  have hkey : node.key ∉ s.failed := by
    simpa [isHealthy, isFailed] using hhealthy
  rw [nodes_plan_read, hstart, readOrder, List.filter_filter, List.filter_filter]
  congr 2
  · refine List.filter_congr fun n _ => ?_
    simp [Bool.and_comm]
  · refine List.filter_congr fun n _ => ?_
    by_cases hsame : n.key = node.key
    · simp [isHealthy, isFailed, hsame, hkey]
    · simp [isHealthy, hsame]

theorem isFailed_of_probed {t : Topology} {tested : Selector} {results : List Probe}
    (hprobed : (results.map (·.1.key)).Perm t.keys)
    (hfailed : ∀ key, key ∈ tested.failed ↔ ∃ p ∈ results, p.1.key = key ∧ p.2 = none)
    {node : Node} (hnode : node ∈ t.nodes) :
    tested.isFailed node = (elapsedOf? results node).isNone := by
  have honce : (results.map (·.1.key)).Nodup := hprobed.nodup_iff.mpr t.distinct
  rw [Bool.eq_iff_iff, isFailed_iff, hfailed, Option.isNone_iff_eq_none]
  constructor
  · rintro ⟨p, hp, hkey, hsilent⟩
    rw [elapsedOf?_of_mem honce hp hkey, hsilent]
  · intro hsilent
    obtain ⟨p, hp, hkey⟩ :=
      List.mem_map.mp (hprobed.mem_iff.mpr (Topology.key_mem_keys hnode))
    exact ⟨p, hp, hkey, by rw [← elapsedOf?_of_mem honce hp hkey, hsilent]⟩

theorem fastestAfter_applyProbes (s : Selector) (results : List Probe) :
    (results.foldl applyProbe s).fastestAfter results = s.fastestAfter results := by
  unfold fastestAfter nodes
  rw [topology_applyProbes, fastest_applyProbes]

/-- A test that is taken under the current topology and may pick a fastest node routes reads by its
times. -/
theorem routesReads_of_current {s tested : Selector} {results : List Probe}
    (hprobed : (results.map (·.1.key)).Perm s.topology.keys)
    (hroom : ∀ p ∈ results, ∀ d ∈ p.2, d.nanos + tieTolerance.nanos ≤ maxNanos)
    (hmarks : s.MarksSilent tested results)
    (hfastest : s.fastestAfter results = .ok tested.fastest) : s.RoutesReads tested results := by
  have honce : (results.map (·.1.key)).Nodup := hprobed.nodup_iff.mpr s.topology.distinct
  have hnodes : tested.nodes = s.nodes := congrArg Topology.nodes hmarks.topology
  have hhealth : ∀ node ∈ s.nodes, tested.isFailed node = (elapsedOf? results node).isNone :=
    fun node hnode => isFailed_of_probed hprobed hmarks.failed hnode
  rcases s.fastestAfter_spec hroom with
    ⟨hsilent, hkept⟩ | ⟨first, best, place, hfirst, hpicked, hplace⟩
  · have hsame : tested.fastest = s.fastest := Except.ok.inj (hfastest.symm.trans hkept)
    refine ⟨fun _ => ⟨hsame, fun session => ?_⟩, ?_⟩
    · have hallFailed : ∀ node ∈ tested.nodes, tested.isFailed node = true := by
        intro node hnode
        rw [hnodes] at hnode
        rw [hhealth node hnode, hsilent node hnode]
        rfl
      rw [nodes_plan_read, readStart_of_all_failed _ _ hallFailed]
      exact hnodes
    · rintro ⟨p, hp, hanswered⟩
      obtain ⟨node, hnode, hkey⟩ :=
        List.mem_map.mp (hprobed.mem_iff.mp (List.mem_map_of_mem hp))
      rw [← elapsedOf?_of_mem honce hp hkey.symm, hsilent node hnode] at hanswered
      cases hanswered
  · have hsame : tested.fastest = some place := Except.ok.inj (hfastest.symm.trans hpicked)
    refine ⟨fun hsilent => ?_, fun _ => ?_⟩
    · obtain ⟨node, -, hbest⟩ := Option.bind_eq_some_iff.mp hfirst.time
      obtain ⟨p, hp, -, hd⟩ := exists_of_elapsedOf? hbest
      rw [hsilent p hp] at hd
      cases hd
    · -- the node at the picked place answered within the tolerance
      have htimed : ∃ elapsed, s.nodes[place]?.bind (elapsedOf? results) = some elapsed ∧
          elapsed.nanos ≤ best.nanos + tieTolerance.nanos := by
        rcases hplace with ⟨-, hsticks⟩ | ⟨-, rfl⟩
        · exact hsticks
        · exact ⟨best, hfirst.time, Nat.le_add_right _ _⟩
      obtain ⟨elapsed, helapsed, hclose⟩ := htimed
      obtain ⟨node, hnode, htime⟩ := Option.bind_eq_some_iff.mp helapsed
      refine ⟨first, best, place, node, elapsed, hfirst, hsame, hnode, htime, hclose, hplace,
        fun session => ?_⟩
      have hpicked : tested.fastestNode? = some node := by
        rw [fastestNode?, hsame, Option.bind_some, hnodes, hnode]
      have hhealthy : tested.isHealthy node = true := by
        rw [isHealthy, hhealth node (List.mem_of_getElem? hnode), htime]
        rfl
      rw [nodes_plan_of_fastest hpicked hhealthy, hnodes]
      congr 2
      · refine List.filter_congr fun n hn => ?_
        simp [isHealthy, hhealth n hn]
      · exact List.filter_congr hhealth

/-- A speed test that covers the topology marks the silent nodes.  If it may pick a fastest node and
the topology is still the one it was taken under, it sends reads to a quickest responder; or else it
changes nothing but marks. -/
theorem speedTest_routes_reads {s : Selector} (hs : s.Reachable) (etag : Int)
    (results : List Probe) (updateFastest : Bool)
    (hprobed : (results.map (·.1.key)).Perm s.topology.keys)
    (hroom : ∀ p ∈ results, ∀ d ∈ p.2, d.nanos + tieTolerance.nanos ≤ maxNanos) :
    let tested := (s.applySpeedTest etag results updateFastest).1
    (s.applySpeedTest etag results updateFastest).2 = .ok tested.fastest ∧
      s.MarksSilent tested results ∧
      if updateFastest = true ∧ s.topology.etag = etag then s.RoutesReads tested results
      else tested.fastest = s.fastest := by
  intro tested
  have hcoherent := hs.coherent
  have hfits : (Operation.speedTest etag results updateFastest).Fits := hroom
  have hanswer := (byNode_applySpeedTest hcoherent etag results updateFastest hfits).2.2
  have hfailed : tested.failed = (results.foldl applyProbe s).failed := by
    unfold tested applySpeedTest
    dsimp only
    split
    · split <;> rfl
    · rfl
  have hmarks : s.MarksSilent tested results :=
    ⟨topology_applySpeedTest s etag results updateFastest,
      turn_applySpeedTest s etag results updateFastest,
      fun key => by rw [hfailed]; exact hcoherent.mem_failed_applyProbes hprobed key⟩
  refine ⟨hanswer, hmarks, ?_⟩
  have hchosen : s.applySpeedTest etag results updateFastest = (tested, .ok tested.fastest) :=
    Prod.ext rfl hanswer
  unfold applySpeedTest at hchosen
  dsimp only at hchosen
  rw [topology_applyProbes, fastestAfter_applyProbes] at hchosen
  split
  · rename_i hcurrent
    rw [if_pos (by simpa using hcurrent)] at hchosen
    refine routesReads_of_current hprobed hroom hmarks ?_
    cases hfastest : s.fastestAfter results with
    | ok fastest =>
      rw [hfastest] at hchosen
      exact (Prod.mk.inj hchosen).2
    | error e =>
      rw [hfastest] at hchosen
      cases (Prod.mk.inj hchosen).2
  · rename_i hother
    rw [if_neg (by simpa using hother)] at hchosen
    rw [← (Prod.mk.inj hchosen).1, fastest_applyProbes]

/-- Of three nodes one is silent and the old fastest one is within the tolerance of the quickest: it
stays the fastest, and reads turn to the silent one last. -/
theorem speedTest_routes_reads_sticky :
    let host := fun name => ⟨"http", some ⟨"", "", .name name, some 8080⟩, "/", none, none⟩
    let node := fun name => { url := host name, database := "db" : Node }
    let t := Topology.ofNodes 1 [node "a", node "b", node "c"]
    let round := fun a b c : Option Nat => [(node "a", a.map Duration.ofMillis),
      (node "b", b.map Duration.ofMillis), (node "c", c.map Duration.ofMillis)]
    let s := (initial t).afterUses
      [.operation (.speedTest 1 (round (some 9) (some 9) (some 5)) true),
        .operation (.markFailed (node "b"))]
    let results := round none (some 4) (some 6)
    let tested := (s.applySpeedTest 1 results true).1
    s.Reachable ∧ (results.map (·.1.key)).Perm s.topology.keys ∧
      (∀ p ∈ results, ∀ d ∈ p.2, d.nanos + tieTolerance.nanos ≤ maxNanos) ∧
      s.MarksSilent tested results ∧ s.RoutesReads tested results ∧ tested.fastest = some 2 := by
  intro host node t round s results tested
  have hs : s.Reachable := ⟨_, _, rfl⟩
  have hprobed : (results.map (·.1.key)).Perm s.topology.keys := by decide +kernel
  have hroom : ∀ p ∈ results, ∀ d ∈ p.2, d.nanos + tieTolerance.nanos ≤ maxNanos := by
    decide +kernel
  obtain ⟨-, hmarks, hroutes⟩ := speedTest_routes_reads hs 1 results true hprobed hroom
  rw [if_pos ⟨rfl, by decide +kernel⟩] at hroutes
  exact ⟨hs, hprobed, hroom, hmarks, hroutes, by decide +kernel⟩

end ClusterClient.Selector
