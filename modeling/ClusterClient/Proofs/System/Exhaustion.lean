import ClusterClient.Proofs.Executor.Exhausted
import ClusterClient.Proofs.System.Deeds
import ClusterClient.Proofs.System.Pending

/-!
# After a call ran out of nodes

A call that found all nodes unreachable leaves word that the topology is out of
date.  The word stands until a sweep ends with a topology, and calls that start
meanwhile wait for a sweep before they send their commands.
-/

namespace ClusterClient

open Report

variable {α : Type}

theorem Report.fetched_append (later before : List Report) :
    fetched (later ++ before) = fetched later ++ fetched before := by
  unfold fetched outcomes
  rw [List.filterMap_append, List.filterMap_append]

theorem Report.outcomes_append (later before : List Report) :
    outcomes (later ++ before) = outcomes later ++ outcomes before :=
  List.filterMap_append

namespace System

variable {s : System α} {m : Moment} {action : Action α} {c : Caller}

/-! ## Word that the topology is out of date -/

def exhausts (s : System α) (m : Moment) (action : Action α) : Bool :=
  match (s.step m action).2 with
  | some (_, .error (.allNodesUnreachable _)) => true
  | _ => false

theorem exhausts_eq (s : System α) (m : Moment) (action : Action α) :
    s.exhausts m action = (s.deed m action).exhausts := by
  have habsorb : ∀ (caller : Caller) (step : Executor.Step α),
      (match (s.absorb caller step).2 with
        | some (_, .error (.allNodesUnreachable _)) => true
        | _ => false) = step.2.isExhausted := by
    intro caller step
    obtain ⟨x, progress⟩ := step
    match progress with
    | .waiting _ => rfl
    | .done (.ok _) => rfl
    | .done (.error e) => cases e <;> rfl
  have hhappens := s.happens_step m action
  unfold exhausts
  generalize s.step m action = next at hhappens ⊢
  cases hhappens with
  | @begins _ caller mailbox order _ hopening =>
    rw [habsorb, deed_of_opening hopening, Executor.isExhausted_begin]
    cases order with
    | speedTest =>
      unfold Executor.orderDeed Executor.testDeed
      dsimp only
      split
      · rfl
      · split <;> rfl
    | execute _ _ | updateTopology _ _ _ | updateConfiguration | firstUpdate
    | refreshTopology _ => rfl
  | opensNothing hopens hopening =>
    rw [deed_of_no_opening hopening hopens]
    rfl
  | @goesOn caller signal call hcall =>
    rw [habsorb, deed_signal hcall]
    exact s.executor.isExhausted_advance m signal call
  | findsNothing hidle =>
    rw [deed_signal_of_none hidle]
    rfl
  | abandons _ | disposes _ | disposedAlready _ => rfl

theorem stale_step (s : System α) (m : Moment) (action : Action α) :
    (s.step m action).1.executor.stale = true ↔
      (s.executor.stale = true ∧ fetched (s.report? m action).toList = []) ∨
        s.exhausts m action = true := by
  have hstale : (s.step m action).1.executor.stale =
      (s.executor.standing.after (s.deed m action)).stale :=
    congrArg Standing.stale (s.standing_step m action)
  have hlearned : (∀ t, s.deed m action ≠ .learned t) ↔
      fetched (s.report? m action).toList = [] := by
    simp only [ne_eq, deed_eq_learned_iff]
    cases s.report? m action with
    | none => simp [fetched, outcomes]
    | some r =>
      rw [Option.toList_some, fetched_cons]
      rcases hended : r.ended with _ | (_ | t)
      · simp [hended, fetched, outcomes]
      · simp [hended, fetched, outcomes, Except.toOption]
      · simp [hended, Except.toOption]
  rw [hstale, Standing.stale_after, hlearned, exhausts_eq]
  rfl

/-- Some call found all nodes unreachable, and no sweep ended with a topology since. -/
def OutOfDate (s : System α) (run : Run α) : Prop :=
  ∃ later m action before, run = later ++ (m, action) :: before ∧
    (s.after before).exhausts m action = true ∧
    fetched ((s.after ((m, action) :: before)).reports later) = []

theorem outOfDate_cons (s : System α) (m : Moment) (action : Action α) (run : Run α) :
    s.OutOfDate ((m, action) :: run) ↔
      (s.OutOfDate run ∧ fetched ((s.after run).report? m action).toList = []) ∨
        (s.after run).exhausts m action = true := by
  constructor
  · rintro ⟨later, m', action', before, hrun, hexhausts, hfetched⟩
    cases later with
    | nil =>
      cases hrun
      exact .inr hexhausts
    | cons event later =>
      cases hrun
      rw [reports, ← after_append, fetched_append, List.append_eq_nil_iff] at hfetched
      exact .inl ⟨⟨later, m', action', before, rfl, hexhausts, hfetched.2⟩, hfetched.1⟩
  · rintro (⟨⟨later, m', action', before, rfl, hexhausts, hfetched⟩, hnothing⟩ | hexhausts)
    · refine ⟨(m, action) :: later, m', action', before, rfl, hexhausts, ?_⟩
      rw [reports, ← after_append, fetched_append, List.append_eq_nil_iff]
      exact ⟨hnothing, hfetched⟩
    · exact ⟨[], m, action, run, rfl, hexhausts, rfl⟩

theorem stale_after_iff (hfresh : s.executor.stale = false) (run : Run α) :
    (s.after run).executor.stale = true ↔ s.OutOfDate run := by
  induction run with
  | nil => simp [after, hfresh, OutOfDate]
  | cons event before ih =>
    obtain ⟨m, action⟩ := event
    rw [after, stale_step, ih, outOfDate_cons]

/-! ## Requests that carry commands -/

def commandsOf (s : System α) (caller : Caller) : Run α → List Dispatch
  | [] => []
  | (m, action) :: before =>
    if (s.after before).actor? action = some caller then
      ((s.after before).sends m action).filter (·.purpose = .command) ++ s.commandsOf caller before
    else s.commandsOf caller before

def begunBy (s : System α) (caller : Caller) : Run α → Bool
  | [] => false
  | (_, action) :: before =>
    ((s.after before).opening? action).any (·.1 = caller) || s.begunBy caller before

theorem call?_step_of_none (h : s.call? c = none)
    (hother : (s.opening? action).any (·.1 = c) = false) :
    (s.step m action).1.call? c = none := by
  cases hcall : (s.step m action).1.call? c with
  | none => rfl
  | some call =>
    rcases call?_step hcall with ⟨-, hsame⟩ | ⟨x, order, hopening, -, -⟩ |
      ⟨old, signal, -, hold, -, -⟩
    · cases h.symm.trans hsame
    · simp [hopening] at hother
    · cases h.symm.trans hold

theorem topology_of_sends {r : Report} {refresh : Refresh} (hreport : s.report? m action = some r)
    (hcommand : ∀ caller x order, s.opening? action = some (caller, x, order) →
      order.isOnCommand = true)
    (hstill : (s.step m action).1.refresh? r.caller = some refresh) :
    ∀ d ∈ s.sends m action, d.purpose = .topology := by
  have hasks : ∀ (x y : Executor), x.AsksOnly y → x.sent = s.executor.sent →
      (s.step m action).1.executor.sent = y.sent →
      ∀ d ∈ s.sends m action, d.purpose = .topology := by
    rintro x y ⟨new, hnew, hpurpose⟩ hx hy
    rw [sends_eq (hy.trans (hx ▸ hnew))]
    exact hpurpose
  rcases report?_cases hreport with ⟨caller, mailbox, order, wish, hopening, hwish, rfl⟩ |
    ⟨caller, signal, refresh', rfl, hrefresh, rfl⟩ | ⟨caller, refresh', hrefresh, rfl, hgone⟩
  · obtain ⟨hstep, -, -⟩ := step_of_opening (m := m) hopening
    have hstate := hstill
    rw [hstep] at hstate
    have hcarried :=
      Progress.state?_eq_some_iff.mp
        (((Executor.begins_begin _ m order).made wish hwish).2.symm.trans
      ((refresh?_absorb_self _ _ _).symm.trans hstate))
    refine hasks { s.executor with mailbox } _
      (({ s.executor with mailbox } : Executor).asksOnly_carryOut m.now (.entering wish)) rfl ?_
    rw [hstep, sent_absorb,
      Executor.begin_of_waiting (hcommand _ _ _ hopening) hwish hcarried]
    rfl
  · obtain ⟨call, hcall, hcalled⟩ := Option.bind_eq_some_iff.mp hrefresh
    have hstate := hstill
    rw [step_signal hcall] at hstate
    have hcarried :=
      Progress.state?_eq_some_iff.mp
        (((s.executor.advance_spec m signal call).1 refresh' hcalled).2.symm.trans
      ((refresh?_absorb_self _ _ _).symm.trans hstate))
    refine hasks s.executor _
      (s.executor.asksOnly_carryOut m.now (.under refresh' signal)) rfl ?_
    rw [step_signal hcall, sent_absorb, Executor.advance_of_waiting hcalled hcarried]
    rfl
  · have hnone : (s.abandon caller).refresh? caller = none := by
      rw [refresh?_abandon, if_pos rfl]
    rcases hgone with rfl | ⟨rfl, rfl, hopen⟩
    · cases hnone.symm.trans hstill
    · have hstep : (s.step m .dispose).1.refresh? .background =
          (s.abandon .background).refresh? .background := by
        simp [step, hopen, refresh?, call?]
      cases hnone.symm.trans (hstep.symm.trans hstill)

/-! ## Waiting for a sweep -/

/-- A caller has no call, or waits until a sweep ends. -/
def Waits (s : System α) (c : Caller) : Prop :=
  s.call? c = none ∨ ∃ refresh, s.refresh? c = some refresh ∧ refresh.Pending s.executor.knowledge

/-- A sweep ends, or the caller has waited for the lock too long. -/
def Releases (c : Caller) (r : Report) : Prop :=
  r.ended.isSome ∨ r.caller = c ∧ r.returned = some (.ok false)

theorem waits_of_report {r : Report} (hreport : s.report? m action = some r) (hc : r.caller = c)
    (hpending : ∀ refresh, s.refresh? c = some refresh → refresh.Pending s.executor.knowledge)
    (hcommand : ∀ caller x order, s.opening? action = some (caller, x, order) →
      order.isOnCommand = true) :
    Releases c r ∨
      (s.step m action).1.Waits c ∧
        (s.actor? action = some c → ∀ d ∈ s.sends m action, d.purpose = .topology) := by
  have hentered : ∀ wish, r.entered = some wish → wish.force = false := by
    intro wish hwish
    rcases report?_cases hreport with ⟨caller, mailbox, order, wish', hopening, hmade, rfl⟩ |
      ⟨caller, signal, refresh, rfl, hrefresh, rfl⟩ | ⟨caller, refresh, hrefresh, rfl, -⟩
    · obtain rfl : wish' = wish := Option.some.inj hwish
      obtain ⟨isFirst, nodes, -, rfl⟩ :=
        Executor.preparation_of_wish? (hcommand _ _ _ hopening) hmade
      rfl
    · cases hwish
    · cases hwish
  have htakes := (step_moves hreport).takes
  rw [hc] at htakes
  rcases htakes.pending hpending hentered with hended | hreturned | hdropped | ⟨refresh, hafter, hp⟩
  · exact .inl (.inl hended)
  · exact .inl (.inr ⟨hc, hreturned⟩)
  · rcases report?_cases hreport with ⟨caller, mailbox, order, wish', hopening, hmade, rfl⟩ |
      ⟨caller, signal, refresh, rfl, hrefresh, rfl⟩ | ⟨caller, refresh, hrefresh, rfl, hgone⟩
    · cases hdropped
    · cases hdropped
    · obtain rfl : caller = c := hc
      refine .inr ⟨.inl ?_, fun hactor => ?_⟩
      · rcases hgone with rfl | ⟨rfl, rfl, hopen⟩
        · exact (call?_abandon s caller caller).trans (if_pos rfl)
        · have hcall : (s.step m .dispose).1.call? .background =
              (s.abandon .background).call? .background := by
            simp [step, hopen, call?]
          exact hcall.trans ((call?_abandon s _ _).trans (if_pos rfl))
      · rcases hgone with rfl | ⟨rfl, rfl, -⟩ <;> cases hactor
  · refine .inr ⟨.inr ⟨refresh, hafter, hp⟩, fun _ => ?_⟩
    exact topology_of_sends hreport hcommand (hc ▸ hafter)

theorem signal_of_actor? (hother : (s.opening? action).any (·.1 = c) = false)
    (hactor : s.actor? action = some c) : ∃ signal, action = .signal c signal := by
  cases hopening : s.opening? action with
  | some opening =>
    obtain ⟨caller, x, order⟩ := opening
    unfold actor? at hactor
    rw [hopening] at hactor
    cases hactor
    simp [hopening] at hother
  | none => exact actor?_of_no_opening hopening hactor

theorem Waits.step_of_no_report {refresh : Refresh}
    (hrefresh : s.refresh? c = some refresh) (hpending : refresh.Pending s.executor.knowledge)
    (hother : (s.opening? action).any (·.1 = c) = false) (hreport : s.report? m action = none) :
    (s.step m action).1.Waits c ∧
      (s.actor? action = some c → ∀ d ∈ s.sends m action, d.purpose = .topology) := by
  have hrests := step_rests hreport
  refine ⟨.inr ⟨refresh, (hrests.refreshes c).trans hrefresh, ?_⟩, fun hactor => ?_⟩
  · rw [hrests.knowledge]
    exact hpending
  · obtain ⟨signal, rfl⟩ := signal_of_actor? hother hactor
    rw [report?_signal, hrefresh] at hreport
    cases hreport

theorem Waits.step_of_others {refresh : Refresh} {r : Report}
    (hrefresh : s.refresh? c = some refresh) (hpending : refresh.Pending s.executor.knowledge)
    (hother : (s.opening? action).any (·.1 = c) = false) (hreport : s.report? m action = some r)
    (hc : r.caller ≠ c) (hended : r.ended = none) :
    (s.step m action).1.Waits c ∧
      (s.actor? action = some c → ∀ d ∈ s.sends m action, d.purpose = .topology) := by
  have hmoves := step_moves hreport
  refine ⟨.inr ⟨refresh, (hmoves.others c (Ne.symm hc)).trans hrefresh, ?_⟩, fun hactor => ?_⟩
  · exact hpending.congr (hmoves.takes.of_not_ended hended)
  · obtain ⟨signal, rfl⟩ := signal_of_actor? hother hactor
    rw [report?_signal, hrefresh] at hreport
    cases hreport
    exact (hc rfl).elim

theorem Waits.step (h : s.Waits c) (m : Moment)
    (hother : (s.opening? action).any (·.1 = c) = false) :
    (∃ r, s.report? m action = some r ∧ Releases c r) ∨
      (s.step m action).1.Waits c ∧
        (s.actor? action = some c → ∀ d ∈ s.sends m action, d.purpose = .topology) := by
  rcases h with hcall | ⟨refresh, hrefresh, hpending⟩
  -- Who has no call does nothing.
  · refine .inr ⟨.inl (call?_step_of_none hcall hother), fun hactor => ?_⟩
    obtain ⟨signal, rfl⟩ := signal_of_actor? hother hactor
    have hsends : s.sends m (.signal c signal) = [] :=
      sends_eq (by rw [step_signal_of_none hcall]; rfl)
    simp [hsends]
  · cases hreport : s.report? m action with
    | none => exact .inr (Waits.step_of_no_report hrefresh hpending hother hreport)
    | some r =>
      by_cases hc : r.caller = c
      · refine (waits_of_report hreport hc ?_ ?_).imp_left fun hreleases => ⟨r, rfl, hreleases⟩
        · intro refresh' hrefresh'
          rw [hrefresh] at hrefresh'
          cases hrefresh'
          exact hpending
        · intro caller x order hopening
          rcases report?_cases hreport with ⟨caller', mailbox, order', wish, hopened, -, rfl⟩ |
            ⟨caller', signal, refresh', rfl, -, rfl⟩ |
            ⟨caller', refresh', -, rfl, rfl | ⟨rfl, -, -⟩⟩
          · obtain rfl : caller' = c := hc
            simp [hopened] at hother
          all_goals cases hopening
      · cases hended : r.ended with
        | some outcome => exact .inl ⟨r, rfl, .inl (by rw [hended]; rfl)⟩
        | none => exact .inr (Waits.step_of_others hrefresh hpending hother hreport hc hended)

theorem waits_of_opening {x : Executor} {order : Order α}
    (hopening : s.opening? action = some (c, x, order)) (hcommand : order.isOnCommand = true)
    (hknown : x.preparation m.now ≠ .known) :
    (∃ r, s.report? m action = some r ∧ Releases c r) ∨
      (s.step m action).1.Waits c ∧
        (s.actor? action = some c → ∀ d ∈ s.sends m action, d.purpose = .topology) := by
  obtain ⟨hstep, hcall, mailbox, hx⟩ := step_of_opening (m := m) hopening
  cases hreport : s.report? m action with
  | none =>
    rw [report?_of_opening hopening, Option.map_eq_none_iff] at hreport
    obtain ⟨ending, hbegin⟩ := Executor.begin_of_no_wish hcommand hknown hreport
    rw [hbegin] at hstep
    refine .inr ⟨.inl ?_, fun _ => ?_⟩
    · rw [hstep, call?_absorb, if_pos rfl]
      rfl
    · have hsends : s.sends m action = [] := sends_eq (by rw [hstep, sent_absorb, hx]; rfl)
      simp [hsends]
  | some r =>
    have hcaller : r.caller = c := by
      rw [report?_of_opening hopening] at hreport
      obtain ⟨wish, -, rfl⟩ := Option.map_eq_some_iff.mp hreport
      rfl
    refine (waits_of_report hreport hcaller ?_ ?_).imp_left fun hreleases => ⟨r, rfl, hreleases⟩
    · intro refresh hrefresh
      rw [refresh?, hcall] at hrefresh
      cases hrefresh
    · intro caller x' order' hopened
      rw [hopening] at hopened
      cases hopened
      exact hcommand

theorem commandsOf_cons_eq_nil (run : Run α)
    (hsends : (s.after run).actor? action = some c →
      ∀ d ∈ (s.after run).sends m action, d.purpose = .topology)
    (hrun : s.commandsOf c run = []) : s.commandsOf c ((m, action) :: run) = [] := by
  rw [commandsOf, hrun]
  split
  · rename_i hactor
    rw [List.append_nil, List.filter_eq_nil_iff]
    intro d hd
    simp [hsends hactor d hd]
  · rfl

/-- Until something ends its wait, a call on a command that does not set out at once sends none. -/
theorem waits_after {x : Executor} {order : Order α}
    (hopening : s.opening? action = some (c, x, order)) (hcommand : order.isOnCommand = true)
    (hknown : x.preparation m.now ≠ .known) (later : Run α)
    (honce : (s.after [(m, action)]).begunBy c later = false) :
    (∃ r ∈ s.reports (later ++ [(m, action)]), Releases c r) ∨
      (s.after (later ++ [(m, action)])).Waits c ∧
        s.commandsOf c (later ++ [(m, action)]) = [] := by
  have hreleased : ∀ {m' : Moment} {action' : Action α} {run : Run α},
      (∃ r, (s.after run).report? m' action' = some r ∧ Releases c r) →
      ∃ r ∈ s.reports ((m', action') :: run), Releases c r := by
    rintro m' action' run ⟨r, hreport, hreleases⟩
    refine ⟨r, ?_, hreleases⟩
    rw [reports, hreport]
    exact List.mem_append_left _ List.mem_cons_self
  -- On what comes after the call has begun; the run before does not matter.
  induction later with
  | nil =>
    refine (waits_of_opening hopening hcommand hknown).imp hreleased fun hstill => ?_
    exact ⟨hstill.1, commandsOf_cons_eq_nil [] hstill.2 rfl⟩
  | cons event later ih =>
    obtain ⟨m', action'⟩ := event
    rw [begunBy, Bool.or_eq_false_iff, ← after_append] at honce
    rw [List.cons_append]
    rcases ih honce.2 with ⟨r, hr, hreleases⟩ | ⟨hwaits, hnone⟩
    · exact .inl ⟨r, List.mem_append_right _ hr, hreleases⟩
    · refine (hwaits.step m' honce.1).imp hreleased fun hstill => ?_
      exact ⟨hstill.1, commandsOf_cons_eq_nil _ hstill.2 hnone⟩

/-- What a call leaves behind that found all nodes unreachable. -/
structure RenewsFirst (start : System α) : Prop where
  /-- The topology counts as out of date until a sweep ends with one. -/
  stale : ∀ run, (start.after run).executor.stale = true ↔ start.OutOfDate run
  /-- A call on a command that starts later sends it only after a sweep has ended, unless the call
  has waited for the lock too long or the last sweep had failed just before it started. -/
  first : ∀ later m action mid m' exhausting before c x order,
    (start.after before).exhausts m' exhausting = true →
    let s := start.after (mid ++ (m', exhausting) :: before)
    s.opening? action = some (c, x, order) → order.isOnCommand = true →
    (s.after [(m, action)]).begunBy c later = false →
    s.commandsOf c (later ++ [(m, action)]) ≠ [] →
    outcomes ((start.after ((m', exhausting) :: before)).reports
      (later ++ (m, action) :: mid)) ≠ [] ∨
      (∃ r ∈ s.reports (later ++ [(m, action)]), r.caller = c ∧ r.returned = some (.ok false)) ∨
      ∃ failures, start.FailedJustNow (mid ++ (m', exhausting) :: before) m.now failures

/-- However calls interleave, whoever starts after a call ran out of nodes sees to the topology
first. -/
theorem renewsFirst_new (scope : Scope) (applicationId : String) (seeds : List Url)
    (conventions : Conventions) (proxy : Option String)
    (hupdates : conventions.disableTopologyUpdates = false) :
    RenewsFirst (new scope applicationId seeds conventions proxy : System α) := by
  obtain ⟨messages, hexecutor⟩ := executor_new (α := α) scope applicationId seeds conventions proxy
  generalize (new scope applicationId seeds conventions proxy : System α) = start at hexecutor
  have hfresh : start.executor.stale = false := by rw [hexecutor]
  have hnone : start.executor.lastSweep = none := by rw [hexecutor]
  have hconventions : start.executor.conventions = conventions := by rw [hexecutor]
  refine ⟨stale_after_iff hfresh, ?_⟩
  intro later m action mid m' exhausting before c x order hexhausts s hopening hcommand honce hsent
  have hall : (start.after ((m', exhausting) :: before)).reports (later ++ (m, action) :: mid) =
      s.reports (later ++ [(m, action)]) ++
        (start.after ((m', exhausting) :: before)).reports mid := by
    rw [List.append_cons, reports_append, ← after_append]
  rw [hall, outcomes_append]
  by_cases hended : outcomes ((start.after ((m', exhausting) :: before)).reports mid) = []
  · have hstale : s.executor.stale = true := by
      refine (stale_after_iff hfresh _).mpr ⟨mid, m', exhausting, before, rfl, hexhausts, ?_⟩
      rw [fetched, hended]
      rfl
    obtain ⟨-, -, mailbox, rfl⟩ := step_of_opening (m := m) hopening
    cases hrecent : s.executor.recentFailure? m.now with
    | some failures =>
      exact .inr (.inr ⟨failures, (recentFailure?_after_iff hnone).mp hrecent⟩)
    | none =>
      have hupdating : s.executor.updatesTopology = true := by
        have hsame : s.executor.conventions = conventions :=
          (conventions_after start _).trans hconventions
        simp [Executor.updatesTopology, Conventions.updatesTopology, hsame, hupdates]
      have hknown :=
        ({ s.executor with mailbox } : Executor).preparation_ne_known
          hstale hupdating hrecent
      rcases waits_after hopening hcommand hknown later honce with
        ⟨r, hr, hend | ⟨hc, hreturned⟩⟩ | ⟨-, hnothing⟩
      · obtain ⟨outcome, houtcome⟩ := Option.isSome_iff_exists.mp hend
        exact .inl (List.append_ne_nil_of_left_ne_nil
          (List.ne_nil_of_mem (List.mem_filterMap.mpr ⟨r, hr, houtcome⟩)) _)
      · exact .inr (.inl ⟨r, hr, hc, hreturned⟩)
      · exact (hsent hnothing).elim
  · exact .inl (List.append_ne_nil_of_right_ne_nil _ hended)

/-- The only node fails a first call.  A second one that starts then asks it for the topology, and
sends its command once it has that. -/
theorem renewsFirst_new_second_call :
    let host := fun name => ⟨"http", some ⟨"", "", .name name, some 8080⟩, "/", none, none⟩
    let start : System Bytes := System.new (.database "db") "app" [host "a"] {} none
    let m : Moment := ⟨0, Duration.half⟩
    let answer := fun etag => Bytes.ofString <| "\x7b\"Etag\":" ++ etag ++
      ",\"Topology\":\x7b\"Nodes\":[\x7b\"Url\":\"http://b:8080\",\"ClusterTag\":\"B\"\x7d]\x7d\x7d"
    let order : Order Bytes := .execute
      { request := fun node => .ok (.get node.url), parse := fun body _ => .ok body,
        isRead := true } {}
    let before : Run Bytes :=
      [(m, .begin 1 order), (m, .signal .background (.body 0 (.ok (answer "5")))),
      (m, .signal .background (.head 0 (.ok { status := 200 }))), (m, .attend)]
    let exhausting : Action Bytes := .signal (.outside 1) (.head 1 (.error .connectionFailed))
    let later : Run Bytes := [(m, .signal (.outside 2) (.body 2 (.ok (answer "6")))),
      (m, .signal (.outside 2) (.head 2 (.ok { status := 200 })))]
    let s := start.after ((m, exhausting) :: before)
    ({} : Conventions).disableTopologyUpdates = false ∧
      start.OutOfDate ((m, exhausting) :: before) ∧
      (s.commandsOf (.outside 2) (later ++ [(m, .begin 2 order)])).length = 1 ∧
      outcomes (s.reports (later ++ [(m, .begin 2 order)])) ≠ [] := by
  intro host start m answer order before exhausting later s
  have hrenews : RenewsFirst start := renewsFirst_new (.database "db") "app" [host "a"] {} none rfl
  have hfacts : s.executor.stale = true ∧
      (s.commandsOf (.outside 2) (later ++ [(m, .begin 2 order)])).length = 1 ∧
      (s.call? (.outside 2)).isSome = false ∧
      (∀ r ∈ s.reports (later ++ [(m, .begin 2 order)]),
        (r.returned.bind (·.toOption)) ≠ some false) ∧
      ((start.lastEnd? ((m, exhausting) :: before)).bind (·.2.toOption)).isSome ∧
      (start.after before).exhausts m exhausting = true ∧
      (s.after [(m, .begin 2 order)]).begunBy (.outside 2) later = false := by decide +kernel
  have hcommand : order.isOnCommand = true := rfl
  clear_value start later before exhausting order
  obtain ⟨hstale, hsent, hfree, hpatient, hfetched, hexhausts, honce⟩ := hfacts
  have hopening : s.opening? (.begin 2 order) = some (.outside 2, s.executor, order) := by
    simp [opening?, hfree]
  refine ⟨rfl, (hrenews.stale _).mp hstale, hsent, ?_⟩
  rcases hrenews.first later m (.begin 2 order) [] m exhausting before (.outside 2) s.executor order
    hexhausts hopening hcommand honce (List.ne_nil_of_length_pos (hsent ▸ Nat.one_pos)) with
    hended | ⟨r, hr, -, hreturned⟩ | ⟨failures, finishedAt, hlast, -⟩
  · exact hended
  · exact (hpatient r hr (by rw [hreturned]; rfl)).elim
  · rw [show start.lastEnd? ((m, exhausting) :: before) = _ from hlast] at hfetched
    cases hfetched

end System

end ClusterClient
