import ClusterClient.Proofs.System.Completions

/-!
# Which attempt came to its end

Attempts are told apart by the requests that were sent for them.  No two calls wait
for the same request, and what came to its end nobody waits for any more.
-/

namespace ClusterClient

variable {α β : Type}

def Call.ticket? : Call α → Option Nat
  | .executing c => c.phase.ticket?
  | .configuring c => c.phase.ticket?
  | .updating _ | .testing _ => none

namespace Executor

variable {x : Executor} {m : Moment} {signal : Signal} {k : Nat}

/-! ## Steps of calls -/

def Step.ticket? (step : Step α) : Option Nat := step.2.state?.bind Call.ticket?

theorem ticket?_executed (command : Command α) (options : Options) (next : Next α) :
    Step.ticket? (executed command options next) = next.2.state?.bind Phase.ticket? := by
  obtain ⟨y, progress⟩ := next
  cases progress <;> rfl

theorem ticket?_configured (command : Command ConfigurationVersion) (options : Options)
    (next : Next ConfigurationVersion) :
    Step.ticket? (configured command options next : Step α) =
      next.2.state?.bind Phase.ticket? := by
  obtain ⟨y, progress⟩ := next
  match progress with
  | .waiting _ | .done (.error _) | .done (.ok _) => rfl

theorem ticket?_updated (next : Executor × Progress Update (Except ExecutorError Bool)) :
    Step.ticket? (updated next : Step α) = none := by
  obtain ⟨y, progress⟩ := next
  cases progress <;> rfl

theorem ticket?_tested (next : Executor × Progress SpeedTest (Except ExecutorError Unit)) :
    Step.ticket? (tested next : Step α) = none := by
  obtain ⟨y, progress⟩ := next
  cases progress <;> rfl

theorem ticket_execute {command : Command β} {options : Options}
    (h : (x.execute command options m).2.state?.bind Phase.ticket? = some k) :
    x.sent.length ≤ k := by
  obtain ⟨phase, hphase, hticket⟩ := Option.bind_eq_some_iff.mp h
  rcases (x.follows_execute command options m).ticket phase k hphase hticket with hold | hnew
  · cases hold
  · exact hnew

theorem ticket_begin {order : Order α} (h : Step.ticket? (x.begin m order) = some k) :
    x.sent.length ≤ k := by
  unfold begin at h
  cases order with
  | execute command options =>
    rw [ticket?_executed] at h
    exact ticket_execute h
  | updateConfiguration =>
    dsimp only at h
    split at h
    · cases h
    · rw [ticket?_configured] at h
      exact ticket_execute h
  | updateTopology _ _ _ | firstUpdate | refreshTopology _ =>
    rw [ticket?_updated] at h
    cases h
  | speedTest =>
    rw [ticket?_tested] at h
    cases h

theorem ticket_advanceExecution {c : Execution β}
    (h : c.phase.Fits x c.command c.options.noCaching) (caller : Caller)
    (hticket : (x.advanceExecution c signal m).2.state?.bind Phase.ticket? = some k) :
    (c.phase.ticket? = some k ∧
      (x.phaseEnd? caller c.phase signal m.now).bind Completion.ticket? = none) ∨
      x.sent.length ≤ k := by
  obtain ⟨phase', hphase, hflies⟩ := Option.bind_eq_some_iff.mp hticket
  obtain ⟨command, options, phase⟩ := c
  have hfollows := (follows_advanceExecution h signal m).ticket phase' k hphase hflies
  cases phase with
  | ensuring _ | pausing _ _ _ => exact hfollows.imp_left fun hold => by cases hold
  | flying trail f =>
    cases hsettled : (x.advanceFlight f signal m.now).2 with
    | waiting f' =>
      refine hfollows.imp_left fun hold => ⟨hold, ?_⟩
      unfold phaseEnd?
      dsimp only
      rw [hsettled]
      rfl
    | done outcome =>
      have hsent := (follows_settled h hsettled none).ticket phase' k hphase hflies
      exact .inr (hsent.resolve_left fun hnone => by cases hnone)

theorem ticket_advance {call : Call α} (h : call.Fits x) (caller : Caller)
    (hticket : Step.ticket? (x.advance m signal call) = some k) :
    (call.ticket? = some k ∧
      (x.callEnd? caller signal m.now call).bind Completion.ticket? = none) ∨
      x.sent.length ≤ k := by
  unfold advance at hticket
  cases call with
  | executing c =>
    rw [ticket?_executed] at hticket
    exact ticket_advanceExecution h caller hticket
  | configuring c =>
    rw [ticket?_configured] at hticket
    exact ticket_advanceExecution h.2 caller hticket
  | updating u =>
    rw [ticket?_updated] at hticket
    cases hticket
  | testing t =>
    rw [ticket?_tested] at hticket
    cases hticket

/-! ## What ends -/

theorem ticket?_callEnd? {call : Call α} {caller : Caller} {now : Instant}
    (h : (x.callEnd? caller signal now call).bind Completion.ticket? = some k) :
    call.ticket? = some k := by
  have hphase : ∀ {γ : Type} {phase : Phase γ},
      (x.phaseEnd? caller phase signal now).bind Completion.ticket? = some k →
      phase.ticket? = some k := by
    intro γ phase hended
    cases phase with
    | ensuring update => cases (x.bind_wishEnd? (fun _ => rfl) caller now _).symm.trans hended
    | pausing _ _ _ => cases hended
    | flying trail f =>
      unfold phaseEnd? at hended
      dsimp only at hended
      split at hended
      · cases hended
      all_goals exact hended
  cases call with
  | executing c => exact hphase h
  | configuring c => exact hphase h
  | updating u => cases (x.bind_wishEnd? (fun _ => rfl) caller now _).symm.trans h
  | testing t => cases (x.bind_testEnd? (fun _ _ _ => rfl) _).symm.trans h

end Executor

namespace System

variable {s : System α} {m : Moment} {action : Action α} {c : Caller} {k : Nat}

def ticket? (s : System α) (c : Caller) : Option Nat := (s.call? c).bind Call.ticket?

/-- What waits for the answer after a step waited for it before, or has just sent the request. -/
theorem Fits.ticket?_step (h : s.Fits) (hticket : (s.step m action).1.ticket? c = some k) :
    (s.ticket? c = some k ∧
      (s.actor? action = some c → (s.completion? m action).bind (·.ticket?) = none)) ∨
      (s.actor? action = some c ∧ s.executor.sent.length ≤ k) := by
  obtain ⟨call, hcall, hcalled⟩ := Option.bind_eq_some_iff.mp hticket
  rcases call?_step hcall with ⟨hidle, hold⟩ | ⟨x, order, hopening, -, hbegun⟩ |
    ⟨old, signal, rfl, hold, -, hadvanced⟩
  · refine .inl ⟨?_, fun hactor => (hidle hactor).elim⟩
    rw [ticket?, hold]
    exact hcalled
  · obtain ⟨-, -, mailbox, hx⟩ := step_of_opening (m := m) hopening
    have hstep : Executor.Step.ticket? (x.begin m order) = some k := by
      rw [Executor.Step.ticket?, hbegun]
      exact hcalled
    have hsent : x.sent = s.executor.sent := by rw [hx]
    refine .inr ⟨?_, hsent ▸ Executor.ticket_begin hstep⟩
    unfold actor?
    rw [hopening]
  · have hstep : Executor.Step.ticket? (s.executor.advance m signal old) = some k := by
      rw [Executor.Step.ticket?, hadvanced]
      exact hcalled
    refine (Executor.ticket_advance (h c old hold) c hstep).imp ?_ fun hnew => ⟨rfl, hnew⟩
    rintro ⟨hsame, hopen⟩
    refine ⟨by rw [ticket?, hold]; exact hsame, fun _ => ?_⟩
    show ((s.call? c).bind _).bind _ = none
    rw [hold]
    exact hopen

theorem completion?_of_opening {opening : Caller × Executor × Order α}
    (h : s.opening? action = some opening) : (s.completion? m action).bind (·.ticket?) = none := by
  unfold completion?
  rw [h]
  exact opening.2.1.bind_orderEnd? (fun _ => rfl) (fun _ _ _ => rfl) opening.1 m.now opening.2.2

theorem signal_of_ticket? {completion : Completion} (h : s.completion? m action = some completion)
    (hticket : completion.ticket? = some k) :
    ∃ c signal call, action = .signal c signal ∧ s.call? c = some call ∧
      s.executor.callEnd? c signal m.now call = some completion := by
  cases hopening : s.opening? action with
  | some opening =>
    have hnone := completion?_of_opening (m := m) hopening
    rw [h, Option.bind_some, hticket] at hnone
    cases hnone
  | none =>
    unfold completion? at h
    rw [hopening] at h
    cases action with
    | begin _ _ | attend | tick _ | abandon _ => cases h
    | signal c signal =>
      obtain ⟨call, hcall, hended⟩ := Option.bind_eq_some_iff.mp h
      exact ⟨c, signal, call, rfl, hcall, hended⟩
    | dispose =>
      dsimp only at h
      split at h <;> cases h
      cases hticket

theorem ticket?_completion? (h : (s.completion? m action).bind (·.ticket?) = some k) :
    ∃ c, s.actor? action = some c ∧ s.ticket? c = some k := by
  obtain ⟨completion, hended, hticket⟩ := Option.bind_eq_some_iff.mp h
  obtain ⟨c, signal, call, rfl, hcall, hend⟩ := signal_of_ticket? hended hticket
  have hattempt : (s.executor.callEnd? c signal m.now call).bind Completion.ticket? = some k := by
    rw [hend]
    exact hticket
  refine ⟨c, rfl, ?_⟩
  rw [ticket?, hcall]
  exact Executor.ticket?_callEnd? hattempt

/-- Each request is waited for by one call at most, and by none once it came to its end. -/
structure Ticketed (s : System α) (ended : List (Instant × Completion)) : Prop where
  own : ∀ c d k, s.ticket? c = some k → s.ticket? d = some k → c = d
  settled : ∀ event ∈ ended, ∀ k, event.2.ticket? = some k →
    k < s.executor.sent.length ∧ ∀ c, s.ticket? c ≠ some k

theorem Fits.ticket_lt (h : s.Fits) (hticket : s.ticket? c = some k) :
    k < s.executor.sent.length := by
  obtain ⟨call, hcall, hcalled⟩ := Option.bind_eq_some_iff.mp hticket
  have hphase : ∀ {γ : Type} {phase : Phase γ} {command : Command γ} {noCaching : Bool},
      phase.Fits s.executor command noCaching → phase.ticket? = some k →
      k < s.executor.sent.length := by
    intro γ phase command noCaching hfits hphase
    cases phase with
    | ensuring _ | pausing _ _ _ => cases hphase
    | flying trail f =>
      cases hphase
      obtain ⟨d, hd, -⟩ := Flight.Fits.record hfits
      simpa using (List.getElem?_eq_some_iff.mp hd).1
  have hfits := h c call hcall
  cases call with
  | executing e => exact hphase hfits hcalled
  | configuring e => exact hphase hfits.2 hcalled
  | updating _ | testing _ => cases hcalled

theorem ticketed_of_idle (hidle : ∀ c, s.call? c = none) : s.Ticketed [] := by
  refine ⟨fun c d k hc _ => ?_, fun _ hevent => (List.not_mem_nil hevent).elim⟩
  rw [ticket?, hidle] at hc
  cases hc

theorem Ticketed.step {ended : List (Instant × Completion)} (h : s.Ticketed ended) (hfits : s.Fits)
    (m : Moment) (action : Action α) :
    (s.step m action).1.Ticketed
      (((s.completion? m action).map fun completion => (m.now, completion)).toList ++ ended) := by
  have hgrows : s.executor.sent.length ≤ (s.step m action).1.executor.sent.length :=
    (s.suffix_step m action).length_le
  refine ⟨fun c d k hc hd => ?_, fun event hevent k hk => ?_⟩
  · rcases hfits.ticket?_step hc with ⟨hold, -⟩ | ⟨hactor, hnew⟩
    · rcases hfits.ticket?_step hd with ⟨hold', -⟩ | ⟨-, hnew'⟩
      · exact h.own c d k hold hold'
      · exact absurd (hfits.ticket_lt hold) (Nat.not_lt.mpr hnew')
    · rcases hfits.ticket?_step hd with ⟨hold', -⟩ | ⟨hactor', -⟩
      · exact absurd (hfits.ticket_lt hold') (Nat.not_lt.mpr hnew)
      · exact Option.some.inj (hactor.symm.trans hactor')
  · rcases List.mem_append.mp hevent with hevent | hevent
    · obtain ⟨completion, hcompletion, rfl⟩ :=
        Option.map_eq_some_iff.mp (Option.mem_toList.mp hevent)
      have hended : (s.completion? m action).bind (·.ticket?) = some k := by
        rw [hcompletion]
        exact hk
      obtain ⟨d, hactor, hd⟩ := ticket?_completion? hended
      refine ⟨Nat.lt_of_lt_of_le (hfits.ticket_lt hd) hgrows, fun c hc => ?_⟩
      rcases hfits.ticket?_step hc with ⟨hold, hopen⟩ | ⟨-, hnew⟩
      · cases (hopen (h.own c d k hold hd ▸ hactor)).symm.trans hended
      · exact absurd (hfits.ticket_lt hd) (Nat.not_lt.mpr hnew)
    · obtain ⟨hlt, hopen⟩ := h.settled event hevent k hk
      refine ⟨Nat.lt_of_lt_of_le hlt hgrows, fun c hc => ?_⟩
      rcases hfits.ticket?_step hc with ⟨hold, -⟩ | ⟨-, hnew⟩
      · exact hopen c hold
      · exact absurd hlt (Nat.not_lt.mpr hnew)

theorem Ticketed.after (h : s.Ticketed []) (hfits : s.Fits) (run : Run α) :
    (s.after run).Ticketed (s.completions run) := by
  induction run with
  | nil => exact h
  | cons event before ih => exact ih.step (hfits.after before) event.1 event.2

end System

end ClusterClient
