import ClusterClient.Proofs.System.Locks

/-!
# Topologies that were fetched

An executor counts as initialized as soon as a node sent a topology.  Which of
those that were sent is the current one is a matter of versions alone, so the
first one is taken over only if its version is greater than that of the empty
topology.
-/

namespace ClusterClient

open Report

variable {α : Type} {command : Command Topology} {k k' : Knowledge} {wishes : Wishes}
  {caller : Caller} {after : Option Refresh} {now : Instant} {r : Report} {reports : List Report}

namespace Topology

def merge (incoming current : Topology) : Topology :=
  if current.isSupersededBy incoming then incoming else current

def mergeAll (incoming : List Topology) (current : Topology) : Topology :=
  incoming.foldr merge current

theorem mergeAll_cases (incoming : List Topology) (current : Topology) :
    (mergeAll incoming current = current ∧ ∀ t ∈ incoming, t.etag ≤ current.etag) ∨
      (mergeAll incoming current ∈ incoming ∧ current.etag < (mergeAll incoming current).etag ∧
        ∀ t ∈ incoming, t.etag ≤ (mergeAll incoming current).etag) := by
  induction incoming with
  | nil => exact .inl ⟨rfl, by simp⟩
  | cons t earlier ih =>
    have hmerge : mergeAll (t :: earlier) current = merge t (mergeAll earlier current) := rfl
    rw [hmerge, merge]
    by_cases hnewer : (mergeAll earlier current).etag < t.etag
    · have hsuperseded : (mergeAll earlier current).isSupersededBy t = true := by
        simpa [isSupersededBy] using hnewer
      rw [if_pos hsuperseded]
      have hgreater : current.etag < t.etag ∧ ∀ t' ∈ earlier, t'.etag ≤ t.etag := by
        rcases ih with ⟨hsame, hall⟩ | ⟨-, hgreater, hall⟩
        · rw [hsame] at hnewer
          exact ⟨hnewer, fun t' ht' => Int.le_of_lt (Int.lt_of_le_of_lt (hall t' ht') hnewer)⟩
        · exact ⟨Int.lt_trans hgreater hnewer,
            fun t' ht' => Int.le_of_lt (Int.lt_of_le_of_lt (hall t' ht') hnewer)⟩
      refine .inr ⟨List.mem_cons_self, hgreater.1, fun t' ht' => ?_⟩
      rcases List.mem_cons.mp ht' with rfl | ht'
      · exact Int.le_refl _
      · exact hgreater.2 t' ht'
    · have hkept : ¬(mergeAll earlier current).isSupersededBy t = true := by
        simpa [isSupersededBy] using hnewer
      have hall : ∀ etag, etag = (mergeAll earlier current).etag →
          (∀ t' ∈ earlier, t'.etag ≤ etag) → ∀ t' ∈ t :: earlier, t'.etag ≤ etag := by
        rintro etag rfl hearlier t' ht'
        rcases List.mem_cons.mp ht' with rfl | ht'
        · exact Int.not_lt.mp hnewer
        · exact hearlier t' ht'
      rw [if_neg hkept]
      refine ih.imp (fun ⟨hsame, hearlier⟩ => ⟨hsame, hall _ (by rw [hsame]) hearlier⟩) ?_
      exact fun ⟨hin, hgreater, hearlier⟩ =>
        ⟨List.mem_cons_of_mem t hin, hgreater, hall _ rfl hearlier⟩

end Topology

namespace Report

def fetched (reports : List Report) : List Topology :=
  (outcomes reports).filterMap (·.toOption)

theorem fetched_cons (r : Report) (reports : List Report) :
    fetched (r :: reports) = (r.ended.bind (·.toOption)).toList ++ fetched reports := by
  unfold fetched
  rw [outcomes_cons, List.filterMap_append]
  match r.ended with
  | none => rfl
  | some (.error _) => rfl
  | some (.ok _) => rfl

end Report

/-- What is known comes from the topologies that nodes sent, and from nothing else. -/
structure Learnt (start k : Knowledge) (reports : List Report) : Prop where
  topology : k.topology = Topology.mergeAll (fetched reports) start.topology
  initialized : k.initialized = true ↔ start.initialized = true ∨ fetched reports ≠ []

theorem Learnt.step {start : Knowledge} (h : Learnt start k reports)
    (htakes : Takes command k now caller (wishes caller) k' after r) :
    Learnt start k' (r :: reports) := by
  have hstill : k'.topology = k.topology → k'.initialized = k.initialized →
      r.ended.bind (·.toOption) = none → Learnt start k' (r :: reports) := by
    intro htopology hinitialized hended
    have hfetched : fetched (r :: reports) = fetched reports := by
      rw [fetched_cons, hended]
      rfl
    exact ⟨by rw [htopology, hfetched, h.topology], by rw [hinitialized, hfetched, h.initialized]⟩
  generalize wishes caller = before at htakes
  cases htakes with
  | @fetches sweep topology =>
    have hfetched :
        fetched ({ caller, ended := some (.ok topology), returned := some (.ok true) } :: reports) =
          topology :: fetched reports := fetched_cons _ reports
    refine ⟨?_, ?_⟩
    · rw [hfetched, show Topology.mergeAll (topology :: fetched reports) start.topology =
        Topology.merge topology (Topology.mergeAll (fetched reports) start.topology) from rfl,
        ← h.topology]
      rfl
    · rw [hfetched]
      exact iff_of_true rfl (.inr (List.cons_ne_nil _ _))
  | @drops refresh => cases refresh <;> exact hstill rfl rfl rfl
  | joins _ _ | waits | timesOut | spares _ _ | begins _ _ _ _ | beginsInVain _ _ | stays _
  | goesOn _ _ _ | fails _ _ => exact hstill rfl rfl rfl

/-- Whoever sweeps waits for the answer to a request for the topology. -/
def Asking (k : Knowledge) (wishes : Wishes) : Prop :=
  ∀ c sweep, wishes c = some (.sweeping sweep) → ∃ node, sweep.flight.Asks k.topologyCommand node

theorem Asking.step (h : Asking k wishes)
    (htakes : Takes k.topologyCommand k now caller (wishes caller) k' after r) :
    Asking k' (Function.update wishes caller after) := by
  have hcommand := htakes.topologyCommand_eq
  have hafter : ∀ sweep, after = some (.sweeping sweep) →
      ∃ node, sweep.flight.Asks k.topologyCommand node := by
    intro sweep hsweeping
    have hcaller := h caller
    generalize wishes caller = before at htakes hcaller
    cases htakes with
    | begins due nodes passed asks =>
      cases hsweeping
      exact ⟨_, asks⟩
    | goesOn nodes passed asks =>
      cases hsweeping
      exact ⟨_, asks⟩
    | @stays sweep' flight same =>
      cases hsweeping
      obtain ⟨node, hasks⟩ := hcaller sweep' rfl
      exact ⟨node, same ▸ hasks.command, same ▸ hasks.node, same ▸ hasks.key⟩
    | joins _ _ | waits | timesOut | spares _ _ | beginsInVain _ _ | fails _ _ | fetches | drops =>
      cases hsweeping
  rw [Asking, hcommand]
  exact (Function.forall_update_iff wishes fun _ wish => ∀ sweep, wish = some (.sweeping sweep) →
    ∃ node, sweep.flight.Asks k.topologyCommand node).mpr ⟨hafter, fun c _ => h c⟩

namespace Executor

variable {β : Type} {x : Executor}

theorem body_of_answered {f : Flight β} {signal : Signal} {result : β} {status : Status}
    {fromCache : Bool} (hkey : f.exchange.key = none)
    (hautomatic : f.exchange.command.disposal = .automatic)
    (h : (x.advanceFlight f signal now).2 = .done (.answered result status fromCache)) :
    ∃ ticket bytes, signal = .body ticket (.ok bytes) ∧
      f.exchange.command.parse bytes false = .ok result := by
  have hhead : ∀ head : ResponseHead,
      (x.receiveHead f head now).2 ≠ .done (.answered result status fromCache) := by
    intro head
    have hconfirm : ((x.heed head.headers).confirm f.exchange head.status now).2 =
        .ended (.unconfirmed f.exchange.request.url) := by
      unfold confirm
      rw [hkey]
    unfold receiveHead
    dsimp only
    rw [hconfirm, hautomatic]
    split
    · exact fun hdone => by cases hdone
    · split
      · rename_i hmanual
        simp at hmanual
      · exact fun hdone => by cases hdone
  unfold advanceFlight at h
  split at h
  · split at h
    · exact (hhead _ h).elim
    · cases h
  · split at h <;> cases h
  · rename_i ticket body head _
    split at h
    · dsimp only at h
      unfold receiveBody at h
      split at h
      · unfold receiveResult at h
        cases body with
        | error failure => cases h
        | ok bytes =>
          dsimp only at h
          cases hparse : f.exchange.command.parse bytes false with
          | error cause =>
            rw [hparse] at h
            cases h
          | ok parsed =>
            rw [hparse] at h
            cases h
            exact ⟨ticket, bytes, rfl, hparse⟩
      · unfold refusal at h
        dsimp only at h
        split at h <;> cases h
    · cases h
  · split at h <;> cases h
  · cases h

theorem fetched?_of_ended {c : Caller} {stage : Stage} {topology : Topology}
    (h : (x.report c now stage).ended = some (.ok topology)) :
    x.fetched? now stage = some topology := by
  rw [report_eq (Prod.eta _).symm] at h
  dsimp only at h
  split at h
  · split at h
    · rename_i topology' hfetched
      cases h
      exact hfetched
    · obtain ⟨failures, -, hfailures⟩ := Option.map_eq_some_iff.mp h
      cases hfailures
  · cases h

end Executor

namespace System

variable {s : System α}

theorem asking_after (hstart : ∀ c, s.refresh? c = none) (run : Run α) :
    Asking (s.after run).executor.knowledge (s.after run).refresh? := by
  refine along_run (P := fun k wishes _ => Asking k wishes) ?_ (fun ih htakes => ih.step htakes) run
  intro c sweep hsweeping
  rw [hstart c] at hsweeping
  cases hsweeping

theorem topologyCommand_after (s : System α) (run : Run α) :
    (s.after run).executor.topologyCommand = s.executor.topologyCommand :=
  along_run (P := fun k _ _ => k.topologyCommand = s.executor.topologyCommand) rfl
    (fun ih htakes => htakes.topologyCommand_eq.trans ih) run

theorem learnt_after (s : System α) (run : Run α) :
    Learnt s.executor.knowledge (s.after run).executor.knowledge (s.reports run) :=
  along_run (P := fun k _ reports => Learnt s.executor.knowledge k reports)
    ⟨rfl, by simp [fetched, outcomes]⟩ (fun ih htakes => ih.step htakes) run

theorem body_of_ended {m : Moment} {action : Action α} {t : Topology}
    (hasking : Asking s.executor.knowledge s.refresh?)
    (hautomatic : s.executor.topologyCommand.disposal = .automatic)
    (hreport : s.report? m action = some r) (hended : r.ended = some (.ok t)) :
    ∃ c ticket bytes, action = .signal c (.body ticket (.ok bytes)) ∧
      s.executor.topologyCommand.parse bytes false = .ok t := by
  rcases report?_cases hreport with ⟨caller, mailbox, order, wish, -, -, rfl⟩ |
    ⟨caller, signal, refresh, rfl, hrefresh, rfl⟩ | ⟨caller, refresh, -, rfl, -⟩
  · cases Executor.fetched?_of_ended hended
  · have hfetched := Executor.fetched?_of_ended hended
    cases refresh with
    | queued order observed => cases hfetched
    | sweeping sweep =>
      obtain ⟨node, hasks⟩ := hasking caller sweep hrefresh
      have hcommand : sweep.flight.exchange.command = s.executor.topologyCommand := hasks.command
      unfold Executor.fetched? at hfetched
      dsimp only at hfetched
      split at hfetched
      · rename_i topology status fromCache hanswered
        cases hfetched
        obtain ⟨ticket, bytes, rfl, hparse⟩ := Executor.body_of_answered hasks.key
          (hcommand ▸ hautomatic) hanswered
        exact ⟨caller, ticket, bytes, rfl, hcommand ▸ hparse⟩
      · cases hfetched
  · cases hended

/-- The topologies that count as fetched are those that nodes sent in bodies of their answers. -/
theorem sent_of_fetched (hstart : ∀ c, s.refresh? c = none)
    (hautomatic : s.executor.topologyCommand.disposal = .automatic) (run : Run α) {t : Topology}
    (ht : t ∈ fetched (s.reports run)) :
    ∃ m c ticket bytes, (m, .signal c (.body ticket (.ok bytes))) ∈ run ∧
      s.executor.topologyCommand.parse bytes false = .ok t := by
  induction run with
  | nil => cases ht
  | cons event before ih =>
    obtain ⟨m, action⟩ := event
    have hearlier : t ∈ fetched (s.reports before) →
        ∃ m' c ticket bytes, (m', .signal c (.body ticket (.ok bytes))) ∈ (m, action) :: before ∧
          s.executor.topologyCommand.parse bytes false = .ok t := by
      intro ht
      obtain ⟨m', c, ticket, bytes, hin, hparse⟩ := ih ht
      exact ⟨m', c, ticket, bytes, List.mem_cons_of_mem _ hin, hparse⟩
    rw [reports] at ht
    cases hreport : (s.after before).report? m action with
    | none =>
      rw [hreport] at ht
      exact hearlier ht
    | some r =>
      rw [hreport, Option.toList_some, List.singleton_append, fetched_cons] at ht
      rcases List.mem_append.mp ht with ht | ht
      · obtain ⟨outcome, hended, houtcome⟩ := Option.bind_eq_some_iff.mp (Option.mem_toList.mp ht)
        have hcommand := topologyCommand_after s before
        have htopology : r.ended = some (.ok t) := by
          cases outcome <;> cases houtcome
          exact hended
        obtain ⟨c, ticket, bytes, rfl, hparse⟩ := body_of_ended (asking_after hstart before)
          (hcommand ▸ hautomatic) hreport htopology
        exact ⟨m, c, ticket, bytes, List.mem_cons_self, hcommand ▸ hparse⟩
      · exact hearlier ht

/-- An executor that fetches its topology counts as initialized once a node sent one, and what it
has then is one that a node sent exactly if one of these has a version greater than that of the
empty topology; otherwise it has the empty one still. -/
theorem has_fetched_topology_iff (scope : Scope) (applicationId : String) (seeds : List Url)
    (conventions : Conventions) (proxy : Option String)
    (hupdates : conventions.disableTopologyUpdates = false) (run : Run α) :
    let start : System α := new scope applicationId seeds conventions proxy
    let x := (start.after run).executor
    let sent := fetched (start.reports run)
    (x.initialized = true ↔ sent ≠ []) ∧
      (∀ t ∈ sent, ∃ m c ticket bytes, (m, .signal c (.body ticket (.ok bytes))) ∈ run ∧
        start.executor.topologyCommand.parse bytes false = .ok t) ∧
      ((x.topology ∈ sent ∧ x.topology ≠ .empty) ↔ ∃ t ∈ sent, Topology.unknownEtag < t.etag) ∧
      ((∀ t ∈ sent, t.etag ≤ Topology.unknownEtag) → x.topology = .empty) := by
  intro start x sent
  have hknowledge : start.executor.knowledge = _ :=
    knowledge_new scope applicationId seeds conventions proxy
  have hautomatic : start.executor.topologyCommand.disposal = .automatic := by
    unfold Executor.topologyCommand
    split <;> rfl
  have hlearnt := learnt_after start run
  have hfirst : start.executor.knowledge.initialized = false := by rw [hknowledge, hupdates]
  have hempty : start.executor.knowledge.topology = .empty := by
    rw [hknowledge]
    simp [Executor.initialTopology, Conventions.updatesTopology, hupdates]
  -- Nothing but the merges of what was sent decides which topology is there now.
  have htopology : x.topology = Topology.mergeAll sent .empty := by
    rw [← hempty]
    exact hlearnt.topology
  refine ⟨?_, fun t ht => sent_of_fetched (refresh?_new _ _ _ _ _) hautomatic run ht, ?_, ?_⟩
  · refine hlearnt.initialized.trans ?_
    rw [hfirst]
    exact or_iff_right Bool.false_ne_true
  all_goals rw [htopology]
  all_goals rcases Topology.mergeAll_cases sent .empty with ⟨hsame, hall⟩ | ⟨hin, hgreater, -⟩
  · refine iff_of_false (fun ⟨_, hne⟩ => hne hsame) ?_
    rintro ⟨t, ht, hgreater⟩
    exact Int.not_lt.mpr (hall t ht) hgreater
  · refine iff_of_true ⟨hin, fun hsame => ?_⟩ ⟨_, hin, hgreater⟩
    rw [hsame] at hgreater
    exact Int.lt_irrefl _ hgreater
  · exact fun _ => hsame
  · intro hall
    exact absurd hgreater (Int.not_lt.mpr (hall _ hin))

/-- A first topology with version 5 is taken over, one with version -5 is not. -/
theorem has_fetched_topology_iff_negative :
    let host := fun name => ⟨"http", some ⟨"", "", .name name, some 8080⟩, "/", none, none⟩
    let start : System Unit := System.new (.database "db") "app" [host "a"] {} none
    let answer := fun etag => Bytes.ofString <| "\x7b\"Etag\":" ++ etag ++
      ",\"Topology\":\x7b\"Nodes\":[\x7b\"Url\":\"http://b:8080\",\"ClusterTag\":\"B\"\x7d]\x7d\x7d"
    let run := fun etag => [.signal .background (.body 0 (.ok (answer etag))),
      .signal .background (.head 0 (.ok { status := 200 })), .attend].map
        fun action : Action Unit => ((⟨0, Duration.half⟩ : Moment), action)
    let Installs := fun etag => (start.after (run etag)).executor.initialized = true ∧
      (start.after (run etag)).executor.topology ∈ fetched (start.reports (run etag)) ∧
      (start.after (run etag)).executor.topology ≠ .empty
    Installs "5" ∧ (start.after (run "-5")).executor.initialized = true ∧ ¬Installs "-5" := by
  intro host start answer run Installs
  have h := fun etag => has_fetched_topology_iff (α := Unit) (.database "db") "app" [host "a"] {}
    none rfl (run etag)
  have hfetched : (fetched (start.reports (run "5"))).map (·.etag) = [5] ∧
      (fetched (start.reports (run "-5"))).map (·.etag) = [-5] := by decide +kernel
  obtain ⟨hpositive, hnegative⟩ := hfetched
  refine ⟨⟨(h "5").1.mpr ?_, (h "5").2.2.1.mpr ?_⟩, (h "-5").1.mpr ?_, fun hinstalls => ?_⟩
  · intro hnone
    rw [hnone] at hpositive
    cases hpositive
  · have hmem : (5 : Int) ∈ (fetched (start.reports (run "5"))).map (·.etag) := by simp [hpositive]
    obtain ⟨t, ht, hetag⟩ := List.mem_map.mp hmem
    exact ⟨t, ht, by rw [hetag]; decide⟩
  · intro hnone
    rw [hnone] at hnegative
    cases hnegative
  · obtain ⟨t, ht, hgreater⟩ := (h "-5").2.2.1.mp hinstalls.2
    have hetag : t.etag ∈ (fetched (start.reports (run "-5"))).map (·.etag) :=
      List.mem_map_of_mem ht
    rw [hnegative, List.mem_singleton] at hetag
    rw [hetag] at hgreater
    exact absurd hgreater (by decide)

end System

end ClusterClient
