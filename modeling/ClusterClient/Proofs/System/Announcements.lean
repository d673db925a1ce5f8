import ClusterClient.Proofs.System.Deeds

/-!
# Topologies that are taken over

Of all topologies that nodes send, in whatever order their answers come in, an
executor has the first newest one, whole, or still the one that it began with.
Listeners are told of each topology that replaces another one, once.
-/

namespace ClusterClient

open Report

variable {α : Type}

namespace Topology

/-- Among topologies, the first one first, this is the first of those with the greatest version;
or it is the one from before, if none of them has a greater version. -/
def FirstNewest (initial : Topology) (incoming : List Topology) (current : Topology) : Prop :=
  (current = initial ∧ ∀ t ∈ incoming, t.etag ≤ initial.etag) ∨
    (initial.etag < current.etag ∧ ∃ earlier later, incoming = earlier ++ current :: later ∧
      (∀ t ∈ earlier, t.etag < current.etag) ∧ ∀ t ∈ later, t.etag ≤ current.etag)

theorem FirstNewest.etag_le {initial current t : Topology} {incoming : List Topology}
    (h : FirstNewest initial incoming current) (ht : t ∈ incoming) : t.etag ≤ current.etag := by
  rcases h with ⟨rfl, hold⟩ | ⟨-, earlier, later, rfl, hearlier, hlater⟩
  · exact hold t ht
  · rcases List.mem_append.mp ht with ht | ht
    · exact Int.le_of_lt (hearlier t ht)
    · rcases List.mem_cons.mp ht with rfl | ht
      · exact Int.le_refl _
      · exact hlater t ht

theorem FirstNewest.initial_le {initial current : Topology} {incoming : List Topology}
    (h : FirstNewest initial incoming current) : initial.etag ≤ current.etag := by
  rcases h with ⟨rfl, -⟩ | ⟨hgreater, -⟩
  · exact Int.le_refl _
  · exact Int.le_of_lt hgreater

theorem merge_of_le {incoming current : Topology} (h : incoming.etag ≤ current.etag) :
    merge incoming current = current := by
  have hkept : ¬current.isSupersededBy incoming = true := by simpa [isSupersededBy] using h
  rw [merge, if_neg hkept]

theorem merge_of_lt {incoming current : Topology} (h : current.etag < incoming.etag) :
    merge incoming current = incoming := by
  have hsuperseded : current.isSupersededBy incoming = true := by simpa [isSupersededBy] using h
  rw [merge, if_pos hsuperseded]

theorem FirstNewest.merge {initial current : Topology} {incoming : List Topology}
    (h : FirstNewest initial incoming current) (t : Topology) :
    FirstNewest initial (incoming ++ [t]) (merge t current) := by
  by_cases hnewer : current.etag < t.etag
  · rw [merge_of_lt hnewer]
    refine .inr ⟨Int.lt_of_le_of_lt h.initial_le hnewer, incoming, [], rfl,
      fun t' ht' => ?_, by simp⟩
    exact Int.lt_of_le_of_lt (h.etag_le ht') hnewer
  · have hle := Int.not_lt.mp hnewer
    rw [merge_of_le hle]
    rcases h with ⟨rfl, hold⟩ | ⟨hgreater, earlier, later, rfl, hearlier, hlater⟩
    · refine .inl ⟨rfl, fun t' ht' => ?_⟩
      rcases List.mem_append.mp ht' with ht' | ht'
      · exact hold t' ht'
      · exact List.mem_singleton.mp ht' ▸ hle
    · refine .inr ⟨hgreater, earlier, later ++ [t], by simp, hearlier, fun t' ht' => ?_⟩
      rcases List.mem_append.mp ht' with ht' | ht'
      · exact hlater t' ht'
      · exact List.mem_singleton.mp ht' ▸ hle

theorem firstNewest_mergeAll (incoming : List Topology) (initial : Topology) :
    FirstNewest initial incoming.reverse (mergeAll incoming initial) := by
  induction incoming with
  | nil => exact .inl ⟨rfl, by simp⟩
  | cons t earlier ih =>
    rw [List.reverse_cons]
    exact ih.merge t

end Topology

namespace Selector

theorem topology_update (s : Selector) (t : Topology) :
    (s.update t).1.topology = t.merge s.topology := by
  unfold update Topology.merge
  split <;> rfl

theorem update_of_le {s : Selector} {t : Topology} (h : t.etag ≤ s.topology.etag) :
    s.update t = (s, false) := by
  have hkept : ¬s.topology.isSupersededBy t = true := by simpa [Topology.isSupersededBy] using h
  rw [update, if_neg hkept]

theorem update_accepts {s : Selector} {t : Topology} (h : s.topology.etag < t.etag) :
    (s.update t).2 = true := by
  have hsuperseded : s.topology.isSupersededBy t = true := by
    simpa [Topology.isSupersededBy] using h
  rw [update, if_pos hsuperseded]

end Selector

namespace Standing

variable {s : Standing}

theorem after_of_not_learned {d : Deed} (h : ∀ t, d ≠ .learned t) :
    (s.after d).selector.topology = s.selector.topology ∧ (s.after d).announced = s.announced := by
  cases d with
  | learned t => exact (h t rfl).elim
  | nothing => exact ⟨rfl, rfl⟩
  | served node => exact ⟨s.selector.topology_restore node, rfl⟩
  | failed node exhausted => exact ⟨s.selector.topology_markFailed node, rfl⟩
  | tested etag results updateFastest => exact ⟨s.selector.topology_applySpeedTest _ _ _, rfl⟩

theorem after_learned_of_le {t : Topology} (h : t.etag ≤ s.selector.topology.etag) :
    s.after (.learned t) = { s with stale := false } := by
  unfold after
  dsimp only
  rw [Selector.update_of_le h]
  rfl

theorem after_learned_of_lt {t : Topology} (h : s.selector.topology.etag < t.etag) :
    (s.after (.learned t)).selector.topology = t ∧
      (s.after (.learned t)).announced = (t.etag, t.size) :: s.announced := by
  unfold after
  dsimp only
  rw [Selector.update_accepts h, if_pos rfl, Selector.topology_update, Topology.merge_of_lt h]
  exact ⟨rfl, rfl⟩

theorem after_cases (s : Standing) (d : Deed) :
    ((s.after d).selector.topology = s.selector.topology ∧ (s.after d).announced = s.announced) ∨
      ∃ t, d = .learned t ∧ s.selector.topology.etag < t.etag ∧
        (s.after d).selector.topology = t ∧
        (s.after d).announced = (t.etag, t.size) :: s.announced := by
  cases d with
  | learned t =>
    by_cases hnewer : s.selector.topology.etag < t.etag
    · exact .inr ⟨t, rfl, hnewer, after_learned_of_lt hnewer⟩
    · rw [after_learned_of_le (Int.not_lt.mp hnewer)]
      exact .inl ⟨rfl, rfl⟩
  | nothing | served _ | failed _ _ | tested _ _ _ =>
    exact .inl (after_of_not_learned fun _ => Deed.noConfusion)

/-- The topologies that listeners were told of have ever greater versions, and the last one of them
is the one that is there. -/
structure Announces (initial : Topology) (s : Standing) : Prop where
  increasing : s.announced.Pairwise fun later earlier => earlier.1 < later.1
  last : s.announced = [] ∧ s.selector.topology = initial ∨
    s.announced.head? = some (s.selector.topology.etag, s.selector.topology.size)

theorem Announces.after {initial : Topology} (h : Announces initial s) (d : Deed) :
    Announces initial (s.after d) := by
  rcases s.after_cases d with ⟨htopology, hannounced⟩ | ⟨t, -, hnewer, htopology, hannounced⟩
  · exact ⟨by rw [hannounced]; exact h.increasing, by rw [hannounced, htopology]; exact h.last⟩
  · refine ⟨?_, .inr (by rw [hannounced, htopology]; rfl)⟩
    rw [hannounced]
    refine List.Pairwise.cons (fun earlier hearlier => ?_) h.increasing
    -- The version that is there is that of the last announcement, so all earlier ones are smaller.
    have hle : earlier.1 ≤ s.selector.topology.etag := by
      rcases h.last with ⟨hnone, -⟩ | hhead
      · rw [hnone] at hearlier
        cases hearlier
      · obtain ⟨rest, hrest⟩ := List.head?_eq_some_iff.mp hhead
        have hincreasing := h.increasing
        rw [hrest] at hearlier hincreasing
        rcases List.mem_cons.mp hearlier with rfl | hin
        · exact Int.le_refl _
        · exact Int.le_of_lt ((List.pairwise_cons.mp hincreasing).1 earlier hin)
    exact Int.lt_of_le_of_lt hle hnewer

end Standing

namespace System

variable {s : System α} {m : Moment} {action : Action α}

def announced (s : System α) : List (Int × Nat) :=
  s.executor.events.filterMap Event.announcement?

theorem announces_after {initial : Topology} (h : s.executor.standing.Announces initial)
    (run : Run α) : (s.after run).executor.standing.Announces initial := by
  induction run with
  | nil => exact h
  | cons event before ih =>
    rw [after, standing_step]
    exact ih.after _

/-- A step either leaves the topology as it is and announces nothing, or puts a newer one, that a
sweep just ended with, in its place and announces that. -/
theorem step_announces (s : System α) (m : Moment) (action : Action α) :
    let t := (s.step m action).1
    (t.executor.topology = s.executor.topology ∧ t.announced = s.announced) ∨
      (s.executor.topology.etag < t.executor.topology.etag ∧
        t.announced = (t.executor.topology.etag, t.executor.topology.size) :: s.announced ∧
        ∃ r, s.report? m action = some r ∧ r.ended = some (.ok t.executor.topology)) := by
  intro t
  have hstep : t.executor.standing = _ := s.standing_step m action
  have htopology : t.executor.topology =
      (s.executor.standing.after (s.deed m action)).selector.topology :=
    congrArg (·.selector.topology) hstep
  have hannounced : t.announced = (s.executor.standing.after (s.deed m action)).announced :=
    congrArg Standing.announced hstep
  rw [htopology, hannounced]
  rcases s.executor.standing.after_cases (s.deed m action) with hsame |
    ⟨u, hdeed, hnewer, hu, htold⟩
  · exact .inl hsame
  · refine .inr ⟨hu.symm ▸ hnewer, by rw [hu, htold]; rfl, ?_⟩
    rw [hu]
    exact deed_eq_learned_iff.mp hdeed

theorem etag_le_step (s : System α) (m : Moment) (action : Action α) :
    s.executor.topology.etag ≤ (s.step m action).1.executor.topology.etag := by
  rcases s.step_announces m action with ⟨hsame, -⟩ | ⟨hnewer, -⟩
  · exact hsame ▸ Int.le_refl _
  · exact Int.le_of_lt hnewer

theorem etag_le_after (s : System α) (run : Run α) :
    s.executor.topology.etag ≤ (s.after run).executor.topology.etag := by
  induction run with
  | nil => exact Int.le_refl _
  | cons event before ih => exact Int.le_trans ih (etag_le_step _ _ _)

theorem step_of_late {r : Report} {t : Topology} (hreport : s.report? m action = some r)
    (hended : r.ended = some (.ok t)) (hlate : t.etag ≤ s.executor.topology.etag) :
    let x := s.executor.selector
    let y := (s.step m action).1.executor.selector
    y.topology = x.topology ∧ y.fastest = x.fastest ∧ y.failed = x.failed := by
  intro x y
  have hstep := s.standing_step m action
  rw [deed_eq_learned_iff.mpr ⟨r, hreport, hended⟩, Standing.after_learned_of_le hlate] at hstep
  have hselector : y.rewound = x.rewound := congrArg Standing.selector hstep
  have htopology : y.rewound.topology = x.rewound.topology := congrArg _ hselector
  have hfastest : y.rewound.fastest = x.rewound.fastest := congrArg _ hselector
  have hfailed : y.rewound.failed = x.rewound.failed := congrArg _ hselector
  exact ⟨htopology, hfastest, hfailed⟩

/-- How an executor takes over the topologies that nodes send. -/
structure TakesOver (start : System α) (run : Run α) : Prop where
  /-- Each of them was the body of an answer. -/
  sent : ∀ t ∈ fetched (start.reports run), ∃ m c ticket bytes,
    (m, .signal c (.body ticket (.ok bytes))) ∈ run ∧
      start.executor.topologyCommand.parse bytes false = .ok t
  whole : Topology.FirstNewest start.executor.topology (fetched (start.reports run)).reverse
    (start.after run).executor.topology
  grows : ∀ later before, run = later ++ before →
    (start.after before).executor.topology.etag ≤ (start.after run).executor.topology.etag
  /-- At each event, one announcement if the topology is another one afterwards, or else none. -/
  announces : ∀ later event before, run = later ++ event :: before →
    let s := start.after before
    let t := start.after (event :: before)
    t.announced =
      if t.executor.topology = s.executor.topology then s.announced
      else (t.executor.topology.etag, t.executor.topology.size) :: s.announced
  increasing : (start.after run).announced.Pairwise fun later earlier => earlier.1 < later.1
  last : (start.after run).announced = [] ∧
      (start.after run).executor.topology = start.executor.topology ∨
    (start.after run).announced.head? = some ((start.after run).executor.topology.etag,
      (start.after run).executor.topology.size)
  late : ∀ later m action before r t, run = later ++ (m, action) :: before →
    (start.after before).report? m action = some r → r.ended = some (.ok t) →
    t.etag ≤ (start.after before).executor.topology.etag →
    let x := (start.after before).executor.selector
    let y := (start.after ((m, action) :: before)).executor.selector
    y.topology = x.topology ∧ y.fastest = x.fastest ∧ y.failed = x.failed

/-- Whatever calls interleave in whatever way, the topology of an executor is the first newest of
all that nodes sent, and listeners are told of each that replaced another one. -/
theorem takesOver_new (scope : Scope) (applicationId : String) (seeds : List Url)
    (conventions : Conventions) (proxy : Option String) (run : Run α) :
    TakesOver (new scope applicationId seeds conventions proxy : System α) run := by
  generalize hnew : (new scope applicationId seeds conventions proxy : System α) = start
  have hautomatic : start.executor.topologyCommand.disposal = .automatic := by
    unfold Executor.topologyCommand
    split <;> rfl
  have hquiet : ∀ c, start.refresh? c = none := by
    rw [← hnew]
    exact refresh?_new scope applicationId seeds conventions proxy
  have hsilent : start.announced = [] := by
    obtain ⟨mailbox, hexecutor⟩ :=
      executor_new (α := α) scope applicationId seeds conventions proxy
    rw [← hnew, announced, hexecutor]
    rfl
  have hstart : start.executor.standing.Announces start.executor.topology :=
    ⟨by rw [show start.executor.standing.announced = [] from hsilent]; exact .nil,
      .inl ⟨hsilent, rfl⟩⟩
  have hannounces := announces_after hstart run
  refine
    { sent := fun t ht => sent_of_fetched hquiet hautomatic run ht
      whole := ?_, grows := ?_, announces := ?_
      increasing := hannounces.increasing
      last := hannounces.last
      late := ?_ }
  · have hlearnt := (learnt_after start run).topology
    rw [show (start.after run).executor.topology = _ from hlearnt]
    exact Topology.firstNewest_mergeAll _ _
  · rintro later before rfl
    rw [after_append]
    exact etag_le_after _ later
  · rintro later ⟨m, action⟩ before -
    dsimp only
    rcases (start.after before).step_announces m action with ⟨hsame, htold⟩ | ⟨hnewer, htold, -⟩
    · rw [after, if_pos hsame, htold]
    · have hother : (start.after ((m, action) :: before)).executor.topology ≠
          (start.after before).executor.topology := by
        intro hsame
        rw [after] at hsame
        rw [hsame] at hnewer
        exact Int.lt_irrefl _ hnewer
      rw [if_neg hother]
      exact htold
  · rintro later m action before r t - hreport hended hle
    exact step_of_late hreport hended hle

/-- Version 5 stays when a node answers with version 3 afterwards. -/
theorem takesOver_new_late :
    let host := fun name => ⟨"http", some ⟨"", "", .name name, some 8080⟩, "/", none, none⟩
    let start : System Unit := System.new (.database "db") "app" [host "a"] {} none
    let answer := fun etag => Bytes.ofString <| "\x7b\"Etag\":" ++ etag ++
      ",\"Topology\":\x7b\"Nodes\":[\x7b\"Url\":\"http://b:8080\",\"ClusterTag\":\"B\"\x7d]\x7d\x7d"
    let run := [.signal (.outside 1) (.body 1 (.ok (answer "3"))),
      .signal (.outside 1) (.head 1 (.ok { status := 200 })),
      .begin 1 (.updateTopology { url := host "b", database := "db" } true none),
      .signal .background (.body 0 (.ok (answer "5"))),
      .signal .background (.head 0 (.ok { status := 200 })), .attend].map
        fun action : Action Unit => ((⟨0, Duration.half⟩ : Moment), action)
    TakesOver start run ∧ (fetched (start.reports run)).map (·.etag) = [3, 5] ∧
      (start.after run).executor.topology.etag = 5 ∧ (start.after run).announced = [(5, 1)] := by
  intro host start answer run
  exact ⟨takesOver_new (.database "db") "app" [host "a"] {} none run, by decide +kernel⟩

end System

end ClusterClient
