import ClusterClient.Executor.System
import ClusterClient.Proofs.Association
import ClusterClient.Proofs.Executor.Calls

/-!
# Steps of a system

A step of a system is about the wish of one caller at most.  If it is, the wish
takes one of the steps listed, and the rest of the system stays as it was; if it
is not, nothing that is known of the topology changes.
-/

namespace ClusterClient

variable {α : Type}

def Action.opens : Action α → Bool
  | .begin _ _ | .attend | .tick _ => true
  | .signal _ _ | .abandon _ | .dispose => false

namespace System

variable {s : System α} {m : Moment} {action : Action α}

def refresh? (s : System α) (caller : Caller) : Option Refresh :=
  (s.call? caller).bind Call.refresh?

def opening? (s : System α) : Action α → Option (Caller × Executor × Order α)
  | .begin number order =>
    if (s.call? (.outside number)).isSome then none
    else some (.outside number, s.executor, order)
  | .attend =>
    match s.isAttending, s.executor.mailbox with
    | false, message :: mailbox =>
      some (.background, { s.executor with mailbox }, message.order)
    | _, _ => none
  | .tick message =>
    if s.isAttending || !s.executor.listening then none
    else some (.background, s.executor, message.order)
  | .signal _ _ | .abandon _ | .dispose => none

def report? (s : System α) (m : Moment) (action : Action α) : Option Report :=
  match s.opening? action with
  | some (caller, x, order) =>
    (x.wish? m.now order).map fun wish => x.report caller m.now (.entering wish)
  | none =>
    match action with
    | .signal caller signal =>
      (s.refresh? caller).map fun refresh =>
        s.executor.report caller m.now (.under refresh signal)
    | .abandon caller =>
      (s.refresh? caller).map fun refresh => { caller, dropped := some refresh }
    | .dispose =>
      if s.executor.disposed then none
      else (s.refresh? .background).map fun refresh =>
        { caller := .background, dropped := some refresh }
    | .begin _ _ | .attend | .tick _ => none

theorem opens_of_opening {opening : Caller × Executor × Order α}
    (h : s.opening? action = some opening) : action.opens = true := by
  cases action with
  | begin _ _ | attend | tick _ => rfl
  | signal _ _ | abandon _ | dispose => cases h

theorem report?_of_opening {caller : Caller} {x : Executor} {order : Order α}
    (h : s.opening? action = some (caller, x, order)) :
    s.report? m action =
      (x.wish? m.now order).map fun wish => x.report caller m.now (.entering wish) := by
  unfold report?
  rw [h]

theorem report?_signal (s : System α) (m : Moment) (caller : Caller) (signal : Signal) :
    s.report? m (.signal caller signal) =
      (s.refresh? caller).map fun refresh =>
        s.executor.report caller m.now (.under refresh signal) := rfl

/-! ## Calls and their places -/

theorem lookup_putCall (caller c : Caller) (call : Call α) (calls : List (Caller × Call α)) :
    (putCall caller call calls).lookup c = if c = caller then some call else calls.lookup c := by
  induction calls with
  | nil => exact Association.lookup_cons caller c call []
  | cons entry rest ih =>
    obtain ⟨d, old⟩ := entry
    unfold putCall
    by_cases hd : d = caller
    · subst hd
      rw [if_pos rfl, Association.lookup_cons, Association.lookup_cons]
      split <;> rfl
    · rw [if_neg hd, Association.lookup_cons, Association.lookup_cons, ih]
      by_cases hc : c = d
      · subst hc
        rw [if_pos rfl, if_neg hd, if_pos rfl]
      · rw [if_neg hc, if_neg hc]

theorem lookup_others (caller c : Caller) (calls : List (Caller × Call α)) :
    (others caller calls).lookup c = if c = caller then none else calls.lookup c := by
  have hothers : others caller calls = calls.filter (·.1 ≠ caller) :=
    List.filter_congr fun entry _ => by rw [Bool.eq_iff_iff]; simp
  rw [hothers]
  exact Association.lookup_filter caller c calls

theorem call?_absorb (s : System α) (caller c : Caller) (step : Executor.Step α) :
    (s.absorb caller step).1.call? c = if c = caller then step.2.state? else s.call? c := by
  obtain ⟨x, progress⟩ := step
  cases progress with
  | waiting call => exact lookup_putCall caller c call s.calls
  | done ending => exact lookup_others caller c s.calls

theorem aside_absorb (s : System α) (caller : Caller) (step : Executor.Step α) :
    step.1.Aside (s.absorb caller step).1.executor := by
  obtain ⟨x, progress⟩ := step
  cases progress with
  | waiting call => exact .refl x
  | done ending =>
    unfold absorb afterEnding
    dsimp only
    split
    · exact x.aside_deafen
    · exact .refl x

theorem executor_absorb (s : System α) (caller : Caller) (step : Executor.Step α) :
    ∃ listening mailbox,
      (s.absorb caller step).1.executor = { step.1 with listening, mailbox } := by
  obtain ⟨x, progress⟩ := step
  cases progress with
  | waiting call => exact ⟨x.listening, x.mailbox, rfl⟩
  | done ending =>
    unfold absorb afterEnding
    dsimp only
    split
    · exact ⟨false, [], rfl⟩
    · exact ⟨x.listening, x.mailbox, rfl⟩

theorem executor_absorb_of_ne (s : System α) {caller : Caller} (hcaller : caller ≠ .background)
    (step : Executor.Step α) : (s.absorb caller step).1.executor = step.1 := by
  obtain ⟨x, progress⟩ := step
  cases progress with
  | waiting call => rfl
  | done ending =>
    unfold absorb afterEnding
    dsimp only
    split
    · exact (hcaller rfl).elim
    · rfl

theorem refresh?_absorb_self (s : System α) (caller : Caller) (step : Executor.Step α) :
    (s.absorb caller step).1.refresh? caller = step.refresh? := by
  rw [refresh?, call?_absorb, if_pos rfl]
  rfl

theorem refresh?_absorb_of_ne (s : System α) {caller c : Caller} (step : Executor.Step α)
    (h : c ≠ caller) : (s.absorb caller step).1.refresh? c = s.refresh? c := by
  rw [refresh?, call?_absorb, if_neg h]
  rfl

/-! ## What a step is about -/

/-- From one state to the next nothing changes that is about the topology. -/
structure Rests (s t : System α) : Prop where
  knowledge : t.executor.knowledge = s.executor.knowledge
  asked : t.executor.asked = s.executor.asked
  refreshes : ∀ c, t.refresh? c = s.refresh? c

/-- From one state to the next one caller goes on with its wish, as reported. -/
structure Moves (s t : System α) (now : Instant) (r : Report) : Prop where
  takes : Takes s.executor.topologyCommand s.executor.knowledge now r.caller
    (s.refresh? r.caller) t.executor.knowledge (t.refresh? r.caller) r
  asked : t.executor.asked = r.asked.reverse ++ s.executor.asked
  others : ∀ c, c ≠ r.caller → t.refresh? c = s.refresh? c

theorem rests_refl (s : System α) : s.Rests s := ⟨rfl, rfl, fun _ => rfl⟩

theorem rests_absorb {caller : Caller} {mailbox : List Message} {cache : Cache}
    {step : Executor.Step α} (hbefore : s.refresh? caller = none)
    (haside : ({ s.executor with mailbox, cache } : Executor).Aside step.1)
    (hafter : step.refresh? = none) : s.Rests (s.absorb caller step).1 := by
  have habsorbed := haside.trans (s.aside_absorb caller step)
  refine ⟨habsorbed.knowledge, habsorbed.asked, fun c => ?_⟩
  by_cases hc : c = caller
  · rw [hc, refresh?_absorb_self, hafter, hbefore]
  · exact s.refresh?_absorb_of_ne step hc

theorem moves_absorb {caller : Caller} (mailbox : List Message) {stage : Stage} {now : Instant}
    {step : Executor.Step α} (hbefore : s.refresh? caller = stage.refresh?)
    (honly : ∀ order, stage = .entering order → order.onlyIfUninitialized = true →
      s.executor.initialized = false)
    (haside : (({ s.executor with mailbox } : Executor).carryOut now stage).1.Aside step.1)
    (hafter : step.refresh? =
      (({ s.executor with mailbox } : Executor).carryOut now stage).2.state?) :
    s.Moves (s.absorb caller step).1 now
      (({ s.executor with mailbox } : Executor).report caller now stage) := by
  have habsorbed := haside.trans (s.aside_absorb caller step)
  have htakes :=
    ({ s.executor with mailbox } : Executor).takes_carryOut now stage honly caller
  refine ⟨?_, ?_, fun c hc => s.refresh?_absorb_of_ne step hc⟩
  · have hcaller : (({ s.executor with mailbox } : Executor).report caller now stage).caller =
        caller := rfl
    rw [hcaller, habsorbed.knowledge, refresh?_absorb_self, hafter, hbefore]
    exact htakes
  · rw [habsorbed.asked]
    exact ({ s.executor with mailbox } : Executor).asked_carryOut caller now stage

theorem step_of_opening {caller : Caller} {x : Executor} {order : Order α}
    (h : s.opening? action = some (caller, x, order)) :
    s.step m action = s.absorb caller (x.begin m order) ∧ s.call? caller = none ∧
      ∃ mailbox, x = { s.executor with mailbox } := by
  unfold opening? at h
  cases action with
  | begin number order =>
    dsimp only at h
    split at h
    · cases h
    · rename_i hfree
      cases h
      exact ⟨by simp only [step, if_neg hfree], by simpa using hfree, s.executor.mailbox, rfl⟩
  | attend =>
    dsimp only at h
    split at h
    · rename_i message mailbox hidle hmailbox
      cases h
      refine ⟨by simp only [step, hidle, hmailbox], ?_, mailbox, rfl⟩
      simpa [isAttending] using hidle
    · cases h
  | tick message =>
    dsimp only at h
    split at h
    · cases h
    · rename_i hfree
      cases h
      refine ⟨by simp only [step, if_neg hfree], ?_, s.executor.mailbox, rfl⟩
      simp only [Bool.or_eq_true, not_or, isAttending] at hfree
      simpa using hfree.1
  | signal _ _ | abandon _ | dispose => cases h

theorem step_of_no_opening (h : s.opening? action = none) (hopens : action.opens = true) :
    s.step m action = (s, none) := by
  unfold opening? at h
  cases action with
  | begin number order =>
    dsimp only at h
    split at h
    · rename_i hbusy
      simp only [step, if_pos hbusy]
    · cases h
  | attend =>
    dsimp only at h
    split at h
    · cases h
    · rename_i hidle
      unfold step
      dsimp only
      split
      · rename_i message mailbox hattending hmailbox
        exact (hidle message mailbox hattending hmailbox).elim
      · rfl
  | tick message =>
    dsimp only at h
    split at h
    · rename_i hbusy
      simp only [step, if_pos hbusy]
    · cases h
  | signal _ _ | abandon _ | dispose => cases hopens

theorem step_signal {caller : Caller} {call : Call α} {signal : Signal}
    (h : s.call? caller = some call) :
    s.step m (.signal caller signal) = s.absorb caller (s.executor.advance m signal call) := by
  simp only [step, h]

theorem step_signal_of_none {caller : Caller} {signal : Signal} (h : s.call? caller = none) :
    s.step m (.signal caller signal) = (s, none) := by
  simp only [step, h]

/-- What a step may be: a call starts or goes on, a call is given up or the executor is, or there is
nothing to do. -/
inductive Happens (s : System α) (m : Moment) : Action α → System α × Ended α → Prop where
  | begins {action : Action α} {caller : Caller} {mailbox : List Message} {order : Order α}
      (opens : action.opens = true)
      (opening : s.opening? action = some (caller, { s.executor with mailbox }, order))
      (idle : s.call? caller = none) :
      Happens s m action
        (s.absorb caller (({ s.executor with mailbox } : Executor).begin m order))
  | opensNothing {action : Action α} (opens : action.opens = true)
      (opening : s.opening? action = none) : Happens s m action (s, none)
  | goesOn {caller : Caller} {signal : Signal} {call : Call α}
      (busy : s.call? caller = some call) :
      Happens s m (.signal caller signal) (s.absorb caller (s.executor.advance m signal call))
  | findsNothing {caller : Caller} {signal : Signal} (idle : s.call? caller = none) :
      Happens s m (.signal caller signal) (s, none)
  | abandons (caller : Caller) : Happens s m (.abandon caller) (s.abandon caller, none)
  | disposes (opened : s.executor.disposed = false) :
      Happens s m .dispose ({ s.abandon .background with
        executor := (s.abandon .background).executor.dispose }, none)
  | disposedAlready (disposed : s.executor.disposed = true) : Happens s m .dispose (s, none)

theorem happens_step (s : System α) (m : Moment) (action : Action α) :
    s.Happens m action (s.step m action) := by
  cases hopening : s.opening? action with
  | some opening =>
    obtain ⟨caller, x, order⟩ := opening
    obtain ⟨hstep, hidle, mailbox, rfl⟩ := step_of_opening (m := m) hopening
    exact hstep ▸ .begins (opens_of_opening hopening) hopening hidle
  | none =>
    cases action with
    | begin _ _ | attend | tick _ =>
      exact (step_of_no_opening (m := m) hopening rfl) ▸ .opensNothing rfl hopening
    | signal caller signal =>
      cases hcall : s.call? caller with
      | none => exact (step_signal_of_none (m := m) hcall) ▸ .findsNothing hcall
      | some call => exact (step_signal (m := m) hcall) ▸ .goesOn hcall
    | abandon caller => exact .abandons caller
    | dispose =>
      unfold step
      dsimp only
      cases hdisposed : s.executor.disposed with
      | false => exact .disposes hdisposed
      | true =>
        have hsame : s.executor.dispose = s.executor := by rw [Executor.dispose, if_pos hdisposed]
        rw [if_pos rfl, hsame]
        exact .disposedAlready hdisposed

theorem begin_of_opening {caller : Caller} {x : Executor} {order : Order α}
    (h : s.opening? action = some (caller, x, order))
    (houtside : ∀ message : Message, order ≠ message.order) :
    ∃ number, action = .begin number order := by
  unfold opening? at h
  cases action with
  | begin number order =>
    dsimp only at h
    split at h
    · cases h
    · cases h
      exact ⟨number, rfl⟩
  | attend =>
    dsimp only at h
    split at h
    · rename_i message mailbox _ _
      cases h
      exact (houtside message rfl).elim
    · cases h
  | tick message =>
    dsimp only at h
    split at h
    · cases h
    · cases h
      exact (houtside message rfl).elim
  | signal _ _ | abandon _ | dispose => cases h

/-- An action is about the wish with which a call starts, about a wish under way, or about one that
is given up. -/
theorem report?_cases {r : Report} (h : s.report? m action = some r) :
    (∃ caller mailbox order wish,
      s.opening? action = some (caller, { s.executor with mailbox }, order) ∧
      ({ s.executor with mailbox } : Executor).wish? m.now order = some wish ∧
      r = ({ s.executor with mailbox } : Executor).report caller m.now (.entering wish)) ∨
    (∃ caller signal refresh, action = .signal caller signal ∧ s.refresh? caller = some refresh ∧
      r = s.executor.report caller m.now (.under refresh signal)) ∨
    ∃ caller refresh, s.refresh? caller = some refresh ∧ r = { caller, dropped := some refresh } ∧
      (action = .abandon caller ∨
        action = .dispose ∧ caller = .background ∧ s.executor.disposed = false) := by
  cases hopening : s.opening? action with
  | some opening =>
    obtain ⟨caller, x, order⟩ := opening
    obtain ⟨-, -, mailbox, rfl⟩ := step_of_opening (m := m) hopening
    rw [report?_of_opening hopening] at h
    obtain ⟨wish, hwish, rfl⟩ := Option.map_eq_some_iff.mp h
    exact .inl ⟨caller, mailbox, order, wish, rfl, hwish, rfl⟩
  | none =>
    unfold report? at h
    rw [hopening] at h
    cases action with
    | begin _ _ | attend | tick _ => cases h
    | signal caller signal =>
      obtain ⟨refresh, hrefresh, rfl⟩ := Option.map_eq_some_iff.mp h
      exact .inr (.inl ⟨caller, signal, refresh, rfl, hrefresh, rfl⟩)
    | abandon caller =>
      obtain ⟨refresh, hrefresh, rfl⟩ := Option.map_eq_some_iff.mp h
      exact .inr (.inr ⟨caller, refresh, hrefresh, rfl, .inl rfl⟩)
    | dispose =>
      dsimp only at h
      split at h
      · cases h
      · rename_i hopen
        obtain ⟨refresh, hrefresh, rfl⟩ := Option.map_eq_some_iff.mp h
        exact .inr (.inr ⟨.background, refresh, hrefresh, rfl,
          .inr ⟨rfl, rfl, by simpa using hopen⟩⟩)

/-- Who gives up a call leaves the lock behind if the call had it, and no other trace. -/
theorem abandon_eq (x : Executor) (call : Call α) :
    x.abandon call =
      { x with lockHeld := x.lockHeld && !call.refresh?.any Refresh.isSweeping } := by
  have hwish : ∀ refresh : Refresh, x.abandonRefresh refresh =
      { x with lockHeld := x.lockHeld && !refresh.isSweeping } := by
    intro refresh
    cases refresh with
    | queued _ _ => simp [Executor.abandonRefresh, Refresh.isSweeping]
    | sweeping _ => simp [Executor.abandonRefresh, Executor.unlock, Refresh.isSweeping]
  have hexecution : ∀ {β : Type} (c : Execution β), x.abandonExecution c =
      { x with lockHeld := x.lockHeld && !c.phase.refresh?.any Refresh.isSweeping } := by
    intro β c
    unfold Executor.abandonExecution
    cases c.phase with
    | ensuring update => exact hwish update.refresh
    | pausing _ _ _ | flying _ _ => simp [Phase.refresh?]
  cases call with
  | executing c => exact hexecution c
  | configuring c => exact hexecution c
  | updating u => exact hwish u.refresh
  | testing _ => simp [Executor.abandon, Call.refresh?]

theorem executor_abandon (s : System α) (caller : Caller) :
    (s.abandon caller).executor =
      { s.executor with lockHeld := (s.abandon caller).executor.lockHeld } := by
  unfold abandon
  split
  · rw [abandon_eq]
  · rfl

theorem knowledge_abandon (x : Executor) (call : Call α) :
    (x.abandon call).knowledge =
      if call.refresh?.any Refresh.isSweeping then x.knowledge.unlock else x.knowledge := by
  rw [abandon_eq]
  split
  · rename_i hsweeping
    simp [Executor.knowledge, Knowledge.unlock, Executor.topology, hsweeping]
  · rename_i hidle
    simp [Executor.knowledge, Executor.topology, hidle]

theorem refresh?_abandon (s : System α) (caller c : Caller) :
    (s.abandon caller).refresh? c = if c = caller then none else s.refresh? c := by
  unfold abandon
  split
  · rw [refresh?, call?, lookup_others]
    split <;> rfl
  · rename_i hcall
    split
    · rename_i hc
      rw [hc, refresh?, hcall]
      rfl
    · rfl

theorem asked_abandon (s : System α) (caller : Caller) :
    (s.abandon caller).executor.asked = s.executor.asked := by
  rw [executor_abandon]
  rfl

theorem rests_abandon {caller : Caller} (h : s.refresh? caller = none) :
    s.Rests (s.abandon caller) := by
  refine ⟨?_, s.asked_abandon caller, fun c => ?_⟩
  · unfold abandon
    split
    · rename_i call hcall
      rw [refresh?, hcall] at h
      rw [knowledge_abandon, show call.refresh? = none from h]
      rfl
    · rfl
  · rw [refresh?_abandon]
    split
    · rename_i hc
      rw [hc, h]
    · rfl

theorem moves_abandon {caller : Caller} {refresh : Refresh} (now : Instant)
    (h : s.refresh? caller = some refresh) :
    s.Moves (s.abandon caller) now { caller, dropped := some refresh } := by
  obtain ⟨call, hcall, hrefresh⟩ := Option.bind_eq_some_iff.mp h
  have hknowledge : (s.abandon caller).executor.knowledge =
      if refresh.isSweeping then s.executor.knowledge.unlock else s.executor.knowledge := by
    unfold abandon
    rw [hcall]
    dsimp only
    rw [knowledge_abandon, hrefresh]
    rfl
  refine ⟨?_, s.asked_abandon caller, fun c hc => ?_⟩
  · rw [h, hknowledge, refresh?_abandon, if_pos rfl]
    exact .drops
  · rw [refresh?_abandon, if_neg hc]

/-! ## Where calls come from -/

theorem call?_abandon (s : System α) (caller c : Caller) :
    (s.abandon caller).call? c = if c = caller then none else s.call? c := by
  unfold abandon
  split
  · exact lookup_others caller c s.calls
  · rename_i hcall
    split
    · rename_i hc
      rw [hc, hcall]
    · rfl

def actor? (s : System α) (action : Action α) : Option Caller :=
  match s.opening? action with
  | some (caller, _, _) => some caller
  | none =>
    match action with
    | .signal caller _ => some caller
    | .begin _ _ | .attend | .tick _ | .abandon _ | .dispose => none

theorem actor?_of_no_opening {c : Caller} (h : s.opening? action = none)
    (hactor : s.actor? action = some c) :
    ∃ signal, action = .signal c signal := by
  unfold actor? at hactor
  rw [h] at hactor
  cases action with
  | signal caller signal =>
    cases hactor
    exact ⟨signal, rfl⟩
  | begin _ _ | attend | tick _ | abandon _ | dispose => cases hactor

theorem call?_step {c : Caller} {call : Call α} (h : (s.step m action).1.call? c = some call) :
    (s.actor? action ≠ some c ∧ s.call? c = some call) ∨
      (∃ x order, s.opening? action = some (c, x, order) ∧
        s.step m action = s.absorb c (x.begin m order) ∧ (x.begin m order).2 = .waiting call) ∨
      ∃ old signal, action = .signal c signal ∧ s.call? c = some old ∧
        s.step m action = s.absorb c (s.executor.advance m signal old) ∧
        (s.executor.advance m signal old).2 = .waiting call := by
  have habandon : ∀ caller, (s.abandon caller).call? c = some call → s.call? c = some call := by
    intro caller hcall
    rw [call?_abandon] at hcall
    split at hcall
    · cases hcall
    · exact hcall
  have hhappens := s.happens_step m action
  unfold actor?
  generalize s.step m action = next at h hhappens ⊢
  cases hhappens with
  | @begins _ caller mailbox order _ hopening =>
    rw [hopening]
    rw [call?_absorb] at h
    split at h
    · rename_i hc
      subst hc
      exact .inr (.inl ⟨_, order, rfl, rfl, Progress.state?_eq_some_iff.mp h⟩)
    · rename_i hc
      exact .inl ⟨fun hsame => hc (Option.some.inj hsame).symm, h⟩
  | opensNothing hopens hopening =>
    rw [hopening]
    refine .inl ⟨?_, h⟩
    cases action <;> cases hopens <;> exact (Option.some_ne_none c).symm
  | @goesOn caller signal old hold =>
    rw [call?_absorb] at h
    split at h
    · rename_i hc
      subst hc
      exact .inr (.inr ⟨old, signal, rfl, hold, rfl, Progress.state?_eq_some_iff.mp h⟩)
    · rename_i hc
      exact .inl ⟨fun hsame => hc (Option.some.inj hsame).symm, h⟩
  | @findsNothing caller signal hidle =>
    refine .inl ⟨fun hsame => ?_, h⟩
    obtain rfl : caller = c := Option.some.inj hsame
    cases hidle.symm.trans h
  | abandons caller => exact .inl ⟨(Option.some_ne_none c).symm, habandon caller h⟩
  | disposes _ => exact .inl ⟨(Option.some_ne_none c).symm, habandon .background h⟩
  | disposedAlready _ => exact .inl ⟨(Option.some_ne_none c).symm, h⟩

theorem ended_step {c : Caller} {ending : Ending α} (h : (s.step m action).2 = some (c, ending)) :
    (∃ x order, s.opening? action = some (c, x, order) ∧ (x.begin m order).2 = .done ending) ∨
      ∃ call signal, action = .signal c signal ∧ s.call? c = some call ∧
        (s.executor.advance m signal call).2 = .done ending := by
  have habsorbed : ∀ {caller : Caller} {step : Executor.Step α},
      (s.absorb caller step).2 = some (c, ending) → caller = c ∧ step.2 = .done ending := by
    rintro caller ⟨x, progress⟩ hended
    cases progress with
    | waiting call => cases hended
    | done ending' =>
      cases hended
      exact ⟨rfl, rfl⟩
  have hhappens := s.happens_step m action
  generalize s.step m action = next at h hhappens
  cases hhappens with
  | begins _ hopening _ =>
    obtain ⟨rfl, hdone⟩ := habsorbed h
    exact .inl ⟨_, _, hopening, hdone⟩
  | goesOn hcall =>
    obtain ⟨rfl, hdone⟩ := habsorbed h
    exact .inr ⟨_, _, rfl, hcall, hdone⟩
  | opensNothing _ _ | findsNothing _ | abandons _ | disposes _ | disposedAlready _ => cases h

/-! ## Calls on commands of callers -/

/-- Whether a step goes on with a call on a command of a caller, or ends one with a result. -/
def Executes : Progress (Call α) (Ending α) → Prop
  | .waiting (.executing _) | .done (.ok (.executed _)) => True
  | .waiting _ | .done _ => False

theorem not_executes_configured (command : Command ConfigurationVersion) (options : Options)
    (next : Executor.Next ConfigurationVersion) :
    ¬Executes (Executor.configured command options next : Executor.Step α).2 := by
  obtain ⟨y, progress⟩ := next
  match progress with
  | .waiting _ | .done (.error _) | .done (.ok _) => exact id

theorem not_executes_updated (next : Executor × Progress Update (Except ExecutorError Bool)) :
    ¬Executes (Executor.updated next : Executor.Step α).2 := by
  obtain ⟨y, progress⟩ := next
  match progress with
  | .waiting _ | .done (.error _) | .done (.ok _) => exact id

theorem not_executes_tested (next : Executor × Progress SpeedTest (Except ExecutorError Unit)) :
    ¬Executes (Executor.tested next : Executor.Step α).2 := by
  obtain ⟨y, progress⟩ := next
  match progress with
  | .waiting _ | .done (.error _) | .done (.ok _) => exact id

theorem order_of_executes {x : Executor} {order : Order α} (h : Executes (x.begin m order).2) :
    ∃ command options, order = .execute command options := by
  unfold Executor.begin at h
  cases order with
  | execute command options => exact ⟨command, options, rfl⟩
  | updateTopology _ _ _ | firstUpdate | refreshTopology _ => exact (not_executes_updated _ h).elim
  | updateConfiguration =>
    dsimp only at h
    split at h
    · exact h.elim
    · exact (not_executes_configured _ _ _ h).elim
  | speedTest => exact (not_executes_tested _ h).elim

theorem call_of_executes {x : Executor} {signal : Signal} {old : Call α}
    (h : Executes (x.advance m signal old).2) : ∃ e, old = .executing e := by
  unfold Executor.advance at h
  cases old with
  | executing e => exact ⟨e, rfl⟩
  | configuring _ => exact (not_executes_configured _ _ _ h).elim
  | updating _ => exact (not_executes_updated _ h).elim
  | testing _ => exact (not_executes_tested _ h).elim

variable {e : Execution α}

theorem execution_of_executed {command : Command α} {options : Options} {next : Executor.Next α}
    (h : (Executor.executed command options next).2 = .waiting (.executing e)) :
    next.2.state? = some e.phase ∧ e.command = command ∧ e.options = options := by
  obtain ⟨y, progress⟩ := next
  cases progress with
  | done result => cases h
  | waiting phase =>
    cases h
    exact ⟨rfl, rfl, rfl⟩

theorem order_of_executing {x : Executor} {order : Order α}
    (h : (x.begin m order).2 = .waiting (.executing e)) :
    order = .execute e.command e.options ∧
      (x.execute e.command e.options m).2.state? = some e.phase := by
  have hexecutes : Executes (x.begin m order).2 := by
    rw [h]
    exact trivial
  obtain ⟨command, options, rfl⟩ := order_of_executes hexecutes
  obtain ⟨hphase, rfl, rfl⟩ := execution_of_executed h
  exact ⟨rfl, hphase⟩

theorem execution_of_advanced {x : Executor} {signal : Signal} {old : Call α}
    (h : (x.advance m signal old).2 = .waiting (.executing e)) :
    ∃ phase, old = .executing ⟨e.command, e.options, phase⟩ ∧
      (x.advanceExecution ⟨e.command, e.options, phase⟩ signal m).2.state? = some e.phase := by
  have hexecutes : Executes (x.advance m signal old).2 := by
    rw [h]
    exact trivial
  obtain ⟨⟨command, options, phase⟩, rfl⟩ := call_of_executes hexecutes
  obtain ⟨hphase, rfl, rfl⟩ := execution_of_executed h
  exact ⟨phase, rfl, hphase⟩

/-! ## Steps and what is known of the topology -/

theorem knowledge_dispose (x : Executor) : x.dispose.knowledge = x.knowledge := by
  unfold Executor.dispose
  split <;> rfl

theorem asked_dispose (x : Executor) : x.dispose.asked = x.asked := by
  unfold Executor.dispose
  split <;> rfl

theorem step_rests (h : s.report? m action = none) : s.Rests (s.step m action).1 := by
  have hhappens := s.happens_step m action
  generalize s.step m action = next at hhappens ⊢
  cases hhappens with
  | begins _ hopening hidle =>
    rw [report?_of_opening hopening, Option.map_eq_none_iff] at h
    obtain ⟨haside, hafter⟩ := (Executor.begins_begin _ m _).none h
    exact rests_absorb (by rw [refresh?, hidle]; rfl) haside hafter
  | @goesOn caller signal call hcall =>
    rw [report?_signal, Option.map_eq_none_iff] at h
    have hrefresh : call.refresh? = none := by rwa [refresh?, hcall] at h
    obtain ⟨⟨mailbox, cache, haside⟩, hafter⟩ :=
      (s.executor.advance_spec m signal call).2 hrefresh
    exact rests_absorb h haside hafter
  | abandons caller => exact rests_abandon (Option.map_eq_none_iff.mp h)
  | disposes hopen =>
    have hidle : s.refresh? .background = none := by
      simpa [report?, opening?, hopen] using h
    have hrests := rests_abandon hidle
    exact ⟨(knowledge_dispose _).trans hrests.knowledge, (asked_dispose _).trans hrests.asked,
      hrests.refreshes⟩
  | opensNothing _ _ | findsNothing _ | disposedAlready _ => exact s.rests_refl

theorem step_moves {r : Report} (h : s.report? m action = some r) :
    s.Moves (s.step m action).1 m.now r := by
  rcases report?_cases h with ⟨caller, mailbox, order, wish, hopening, hwish, rfl⟩ |
    ⟨caller, signal, refresh, rfl, hrefresh, rfl⟩ |
    ⟨caller, refresh, hrefresh, rfl, rfl | ⟨rfl, rfl, hopen⟩⟩
  · obtain ⟨hstep, hcall, -⟩ := step_of_opening (m := m) hopening
    obtain ⟨haside, hafter⟩ := (Executor.begins_begin _ m order).made wish hwish
    rw [hstep]
    refine moves_absorb mailbox (by rw [refresh?, hcall]; rfl) ?_ haside hafter
    intro _ hstage
    cases hstage
    exact Executor.initialized_of_wish? hwish
  · obtain ⟨call, hcall, hcalled⟩ := Option.bind_eq_some_iff.mp hrefresh
    obtain ⟨haside, hafter⟩ := (s.executor.advance_spec m signal call).1 refresh hcalled
    rw [step_signal hcall]
    exact moves_absorb s.executor.mailbox hrefresh (fun _ hstage => by cases hstage) haside hafter
  · exact moves_abandon m.now hrefresh
  · have hmoves := moves_abandon m.now hrefresh
    have hstep : (s.step m .dispose).1 =
        { s.abandon .background with executor := (s.abandon .background).executor.dispose } := by
      simp [step, hopen]
    rw [hstep]
    refine ⟨?_, (asked_dispose _).trans hmoves.asked, hmoves.others⟩
    rw [knowledge_dispose]
    exact hmoves.takes

/-! ## Requests that leave -/

def sends (s : System α) (m : Moment) (action : Action α) : List Dispatch :=
  let sent := (s.step m action).1.executor.sent
  sent.take (sent.length - s.executor.sent.length)

theorem sends_eq {new : List Dispatch}
    (h : (s.step m action).1.executor.sent = new ++ s.executor.sent) :
    s.sends m action = new := by
  unfold sends
  rw [h]
  simp

theorem sent_absorb (s : System α) (caller : Caller) (step : Executor.Step α) :
    (s.absorb caller step).1.executor.sent = step.1.sent := by
  obtain ⟨listening, mailbox, habsorbed⟩ := s.executor_absorb caller step
  rw [habsorbed]

theorem sends_absorb {c : Caller} {command : Command α} {options : Options}
    {next : Executor.Next α} {new : List Dispatch}
    (hstep : s.step m action = s.absorb c (Executor.executed command options next))
    (hnew : next.1.sent = new ++ s.executor.sent) : s.sends m action = new := by
  refine sends_eq ?_
  rw [hstep, sent_absorb, (Executor.executed_spec command options next).1, hnew]

end System

end ClusterClient
