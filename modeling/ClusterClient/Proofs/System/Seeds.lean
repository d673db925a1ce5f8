import ClusterClient.Proofs.System.Accounts

/-!
# Failures before the first topology

Until a first topology is there, a call that finds the topology unavailable names
the nodes of the last sweep that ended.  These are the urls that the executor was
made with, unless that sweep was one for the node of an update.
-/

namespace ClusterClient

open Report

variable {α : Type}

namespace System

variable {s : System α} {m : Moment} {action : Action α} {run : Run α}

theorem wish_of_entered {r : Report} {wish : SweepOrder} (h : s.report? m action = some r)
    (hentered : r.entered = some wish) :
    ∃ caller mailbox order,
      s.opening? action = some (caller, { s.executor with mailbox }, order) ∧
      ({ s.executor with mailbox } : Executor).wish? m.now order = some wish := by
  rcases report?_cases h with ⟨caller, mailbox, order, made, hopening, hmade, rfl⟩ |
    ⟨caller, signal, refresh, -, -, rfl⟩ | ⟨caller, refresh, -, rfl, -⟩
  · cases hentered
    exact ⟨caller, mailbox, order, hopening, hmade⟩
  · cases hentered
  · cases hentered

theorem seedNodes_after (s : System α) (run : Run α) :
    (s.after run).executor.seedNodes = s.executor.seedNodes := by
  have hmade := along_run (s := s)
    (P := fun k _ _ => k.scope = s.executor.scope ∧ k.seeds = s.executor.seeds) ⟨rfl, rfl⟩
    (fun ih htakes => by
      obtain ⟨hscope, -, -, hseeds⟩ := htakes.made_with
      exact ⟨hscope.trans ih.1, hseeds.trans ih.2⟩) run
  have hscope : (s.after run).executor.scope = s.executor.scope := hmade.1
  have hseeds : (s.after run).executor.seeds = s.executor.seeds := hmade.2
  rw [Executor.seedNodes, hscope, hseeds]
  rfl

theorem nodes_of_entered (hfirst : (s.after run).executor.initialized = false) {r : Report}
    {wish : SweepOrder} (hr : r ∈ s.reports run) (hentered : r.entered = some wish) :
    wish.nodes = s.executor.seedNodes ∨
      ∃ moment number node force limit,
        (moment, .begin number (.updateTopology node force limit)) ∈ run ∧ wish.nodes = [node] := by
  induction run with
  | nil => cases hr
  | cons event before ih =>
    obtain ⟨m, action⟩ := event
    have hbefore : (s.after before).executor.initialized = false := by
      rw [Bool.eq_false_iff]
      intro hinitialized
      have hlater := initialized_step m action hinitialized
      rw [after] at hfirst
      rw [hfirst] at hlater
      cases hlater
    have hearlier : r ∈ s.reports before → wish.nodes = s.executor.seedNodes ∨
        ∃ moment number node force limit,
          (moment, .begin number (.updateTopology node force limit)) ∈ (m, action) :: before ∧
            wish.nodes = [node] := by
      intro hr
      refine (ih hbefore hr).imp_right ?_
      rintro ⟨moment, number, node, force, limit, hin, hnodes⟩
      exact ⟨moment, number, node, force, limit, List.mem_cons_of_mem _ hin, hnodes⟩
    rw [reports] at hr
    rcases List.mem_append.mp hr with hr | hr
    · obtain ⟨caller, mailbox, order, hopening, hwish⟩ :=
        wish_of_entered (Option.mem_toList.mp hr) hentered
      rcases Executor.nodes_of_wish? hwish hbefore with hnodes | ⟨node, force, limit, rfl, hnodes⟩
      · exact .inl (hnodes.trans (seedNodes_after s before))
      · obtain ⟨number, rfl⟩ := begin_of_opening hopening
          fun message h => by cases message <;> cases h
        exact .inr ⟨m, number, node, force, limit, List.mem_cons_self, hnodes⟩
    · exact hearlier hr

theorem Quiet.recorded_after (h : s.Quiet) (hnone : s.executor.lastSweep = none) (run : Run α) :
    Recorded s.executor.topologyCommand (s.after run).executor.knowledge (s.after run).refresh?
      (s.reports run) := by
  refine along_run (P := Recorded s.executor.topologyCommand) ⟨rfl, h.held, ?_, ?_⟩
    (fun ih htakes => ih.step htakes) run
  · intro c sweep hsweeping
    rw [h.wishes c] at hsweeping
    cases hsweeping
  · intro failures hfailures
    rw [show s.executor.knowledge.lastSweep = none from hnone] at hfailures
    cases hfailures

theorem Quiet.wished_after (h : s.Quiet) (run : Run α) : Wished (s.reports run) := by
  have hboth := along_run
    (P := fun k wishes reports => Watched k wishes reports ∧ Wished reports)
    ⟨h.watched_after [], fun swept hswept => by cases hswept⟩
    (fun ih htakes => ⟨ih.1.step htakes, ih.2.step ih.1 htakes⟩) run
  exact hboth.2

/-- A call that finds the topology unavailable before there was one names the nodes of the last
sweep that ended, one failure for each and in order.  So it accounts for every url that the executor
was made with exactly if that sweep asked for these; otherwise it was for the node of an update. -/
theorem unavailable_accounts_for_seeds_iff (scope : Scope) (applicationId : String)
    (seeds : List Url) (conventions : Conventions) (proxy : Option String) (m : Moment)
    (action : Action α) (run : Run α) (c : Caller) (failures : List NodeFailure)
    (hended : (((new scope applicationId seeds conventions proxy).after run).step m action).2 =
      some (c, .error (.topologyUnavailable failures)))
    (hfirst : ((new scope applicationId seeds conventions proxy).after
      ((m, action) :: run)).executor.initialized = false) :
    let start : System α := new scope applicationId seeds conventions proxy
    let command := start.executor.topologyCommand
    ∃ swept, lastEnded? (start.reports ((m, action) :: run)) = some swept ∧
      (AccountFor command swept.asked seeds failures ↔
        swept.order.nodes.map (·.url) = seeds) ∧
      AccountFor command swept.asked (swept.order.nodes.map (·.url)) failures ∧
      (∀ node ∈ swept.asked, node ∈ (start.after ((m, action) :: run)).executor.asked) ∧
      (swept.order.nodes = start.executor.seedNodes ∨
        ∃ moment number node force limit,
          (moment, .begin number (.updateTopology node force limit)) ∈ (m, action) :: run ∧
            swept.order.nodes = [node]) := by
  intro start command
  have hquiet : start.Quiet := quiet_new scope applicationId seeds conventions proxy
  have hnone : start.executor.lastSweep = none :=
    congrArg Knowledge.lastSweep (knowledge_new scope applicationId seeds conventions proxy)
  have hlast : (start.after ((m, action) :: run)).executor.knowledge.lastSweep.bind (·.failures) =
      some failures := lastSweep_of_unavailable hended
  obtain ⟨swept, hswept, hfailed⟩ :=
    (hquiet.recorded_after hnone ((m, action) :: run)).last failures hlast
  have hmem : swept ∈ sweeps (start.reports ((m, action) :: run)) :=
    List.mem_of_find?_eq_some hswept
  have haccount := hfailed.account
  refine ⟨swept, hswept, ⟨fun hseeds => ?_, fun hseeds => hseeds ▸ haccount⟩, haccount, ?_, ?_⟩
  -- The same failures cannot be those of two lists of urls.
  · rw [← haccount.map_url, hseeds.map_url]
  · intro node hnode
    obtain ⟨r, hr, hasked⟩ := asked_of_mem_sweeps hmem hnode
    rw [asked_after]
    exact List.mem_append_left _ (List.mem_flatMap.mpr ⟨r, hr, List.mem_reverse.mpr hasked⟩)
  · obtain ⟨r, hr, hentered⟩ := hquiet.wished_after ((m, action) :: run) swept hmem
    exact nodes_of_entered hfirst hr hentered

/-- A new executor that finds both its nodes unreachable says so.  If the node of an update is asked
meanwhile, the next call accounts for that node only. -/
theorem unavailable_accounts_for_seeds_iff_update :
    let host := fun name => ⟨"http", some ⟨"", "", .name name, some 8080⟩, "/", none, none⟩
    let failure := fun name => ⟨host name, .transport .connectionFailed⟩
    let start : System Bytes := System.new (.database "db") "app" [host "a", host "b"] {} none
    let m : Moment := ⟨0, Duration.half⟩
    let execute : Action Bytes := .begin 1 (.execute
      { request := fun node => .ok (.get node.url), parse := fun body _ => .ok body,
        isRead := true } {})
    let update : Action Bytes :=
      .begin 2 (.updateTopology (Executor.seedNode (.database "db") (host "c")) false none)
    let fails : Nat → Nat → Action Bytes := fun number ticket =>
      .signal (.outside number) (.head ticket (.error .connectionFailed))
    let Accounts := fun run failures => ∃ swept, lastEnded? (start.reports run) = some swept ∧
      AccountFor start.executor.topologyCommand swept.asked [host "a", host "b"] failures
    Accounts [(m, fails 1 1), (m, fails 1 0), (m, execute)] [failure "a", failure "b"] ∧
      ¬Accounts [(m, execute), (m, fails 2 0), (m, update)] [failure "c"] := by
  intro host failure start m execute update fails Accounts
  have hboth := unavailable_accounts_for_seeds_iff (.database "db") "app" [host "a", host "b"] {}
    none m (fails 1 1) [(m, fails 1 0), (m, execute)] (.outside 1) [failure "a", failure "b"]
    (eq_of_toldUnavailable? (by decide +kernel)) (by decide +kernel)
  have hother := unavailable_accounts_for_seeds_iff (.database "db") "app" [host "a", host "b"] {}
    none m execute [(m, fails 2 0), (m, update)] (.outside 1) [failure "c"]
    (eq_of_toldUnavailable? (by decide +kernel)) (by decide +kernel)
  have hnodes : ((lastEnded? (start.reports [(m, fails 1 1), (m, fails 1 0), (m, execute)])).map
        (·.order.nodes.map (·.url)) = some [host "a", host "b"]) ∧
      (lastEnded? (start.reports [(m, execute), (m, fails 2 0), (m, update)])).map
        (·.order.nodes.map (·.url)) = some [host "c"] := by decide +kernel
  constructor
  · obtain ⟨swept, hlast, haccounts, -⟩ := hboth
    rw [hlast] at hnodes
    exact ⟨swept, hlast, haccounts.mpr (Option.some.inj hnodes.1)⟩
  · rintro ⟨swept, hlast, haccount⟩
    obtain ⟨swept', hlast', haccounts, -⟩ := hother
    rw [hlast] at hnodes hlast'
    cases hlast'
    rw [haccounts] at haccount
    rw [Option.map_some, haccount] at hnodes
    exact absurd (congrArg List.length (Option.some.inj hnodes.2)) (by decide)

end System

end ClusterClient
