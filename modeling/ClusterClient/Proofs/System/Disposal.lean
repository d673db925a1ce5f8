import ClusterClient.Proofs.Executor.Tenure
import ClusterClient.Proofs.System.Upkeep

/-!
# Executors that are given up

Calls ask whether the executor was given up only when they start.  Those that were
under way go on with all that they do, into the cache and to further nodes.  Apart
from them the executor stays as it was left.
-/

namespace ClusterClient

variable {α : Type}

/-- Whether callers can ask for it.  The rest only the background does. -/
def Order.isForCallers : Order α → Bool
  | .execute _ _ | .updateTopology _ _ _ | .updateConfiguration | .speedTest => true
  | .firstUpdate | .refreshTopology _ => false

def Order.refusal (scope : Scope) : Order α → Ending α
  | .execute _ _ => .error .disposed
  | .updateConfiguration => if scope.isDatabase then .error .disposed else .ok (.updated false)
  | .updateTopology _ _ _ | .firstUpdate | .refreshTopology _ => .ok (.updated false)
  | .speedTest => .ok .tested

def Action.isForCallers : Action α → Bool
  | .begin _ order => order.isForCallers
  | .attend | .tick _ | .signal _ _ | .abandon _ | .dispose => true

namespace Executor

variable {x : Executor} {m : Moment}

theorem begin_of_disposed (hdisposed : x.disposed = true) {order : Order α}
    (hcallers : order.isForCallers = true) :
    x.begin m order = (x, .done (order.refusal x.scope)) := by
  unfold begin
  cases order with
  | execute command options => simp [execute, hdisposed, executed, Progress.map, Progress.mapState,
      Order.refusal, Except.map]
  | updateTopology node force limit => simp [updateTopology, hdisposed, updated, Progress.map,
      Progress.mapState, Order.refusal, Except.map]
  | updateConfiguration =>
    dsimp only
    cases hscope : x.scope with
    | cluster => simp [Order.refusal, Scope.isDatabase, Scope.database?]
    | database name => simp [execute, hdisposed, configured, Order.refusal, Scope.isDatabase,
        Scope.database?]
  | speedTest => simp [speedTest, hdisposed, tested, Progress.map, Progress.mapState,
      Order.refusal, Except.map]
  | firstUpdate | refreshTopology _ => cases hcallers

/-- From one state to the next no client is opened, nothing is sent and nothing told. -/
structure Unheard (x y : Executor) : Prop where
  pool : y.pool = x.pool
  sent : y.sent = x.sent
  events : y.events = x.events

theorem Unheard.refl (x : Executor) : x.Unheard x := ⟨rfl, rfl, rfl⟩

theorem Unheard.trans {y z : Executor} (hxy : x.Unheard y) (hyz : y.Unheard z) : x.Unheard z :=
  ⟨hyz.pool.trans hxy.pool, hyz.sent.trans hxy.sent, hyz.events.trans hxy.events⟩

theorem advanceTest_fst (x : Executor) (t : SpeedTest) (signal : Signal) (now : Instant) :
    ∃ mailbox cache selector,
      (x.advanceTest t signal now).1 = { x with mailbox, cache, selector } := by
  have htrials : ∀ (trials : List Trial) (y : Executor), ∃ mailbox cache,
      (y.advanceTrials signal now trials).1 = { y with mailbox, cache } := by
    intro trials
    induction trials with
    | nil => exact fun y => ⟨y.mailbox, y.cache, rfl⟩
    | cons trial trials ih =>
      intro y
      have htrial : ∃ mailbox cache,
          (y.advanceTrial trial signal now).1 = { y with mailbox, cache } := by
        unfold advanceTrial
        split
        · exact ⟨y.mailbox, y.cache, rfl⟩
        · rename_i f _
          obtain ⟨mailbox, cache, hflight⟩ := y.advanceFlight_fst f signal now
          split
          all_goals
            rename_i hadvance
            rw [hadvance] at hflight
            exact ⟨mailbox, cache, hflight⟩
      obtain ⟨mailbox, cache, hfirst⟩ := htrial
      obtain ⟨mailbox', cache', hrest⟩ := ih (y.advanceTrial trial signal now).1
      refine ⟨mailbox', cache', hrest.trans ?_⟩
      rw [hfirst]
  obtain ⟨mailbox, cache, htested⟩ := htrials t.trials x
  unfold advanceTest concludeTest
  dsimp only
  rw [htested]
  split
  · exact ⟨mailbox, cache, x.selector, rfl⟩
  · exact ⟨mailbox, cache, _, rfl⟩

end Executor

namespace System

variable {s : System α} {m : Moment} {action : Action α}

/-! ## What is left of a system -/

theorem disposed_step (hdisposed : s.executor.disposed = true) (m : Moment) (action : Action α) :
    (s.step m action).1.executor.disposed = true := by
  have habsorb : ∀ (c : Caller) (step : Executor.Step α),
      (s.absorb c step).1.executor.disposed = step.1.disposed := by
    intro c step
    obtain ⟨listening, mailbox, habsorbed⟩ := s.executor_absorb c step
    rw [habsorbed]
  have hhappens := s.happens_step m action
  generalize s.step m action = next at hhappens ⊢
  cases hhappens with
  | begins =>
    rw [habsorb, (Executor.abides_begin _ m _).disposed]
    exact hdisposed
  | @goesOn caller signal call =>
    rw [habsorb, (s.executor.abides_advance m signal call).disposed]
    exact hdisposed
  | abandons caller => exact (s.disposed_abandon caller).trans hdisposed
  | disposes hopen => cases hdisposed.symm.trans hopen
  | opensNothing _ _ | findsNothing _ | disposedAlready _ => exact hdisposed

structure GivenUp (s : System α) : Prop where
  disposed : s.executor.disposed = true
  deaf : s.executor.listening = false
  silent : s.executor.mailbox = []
  gone : s.call? .background = none

theorem dispose_step (s : System α) (m : Moment) (hopen : s.executor.disposed = false) :
    (s.step m .dispose).1 =
      { s.abandon .background with executor := (s.abandon .background).executor.dispose } := by
  simp [step, hopen]

theorem givenUp_dispose (s : System α) (m : Moment) (hopen : s.executor.disposed = false) :
    (s.step m .dispose).1.GivenUp := by
  have hopen' : (s.abandon .background).executor.disposed = false :=
    (s.disposed_abandon .background).trans hopen
  rw [dispose_step s m hopen]
  refine ⟨?_, ?_, ?_, ?_⟩
  case refine_4 => exact (s.call?_abandon .background .background).trans (if_pos rfl)
  all_goals simp [Executor.dispose, hopen']

theorem disposed_dispose (s : System α) (m : Moment) :
    (s.step m .dispose).1.executor.disposed = true := by
  cases hdisposed : s.executor.disposed with
  | true => exact disposed_step hdisposed m .dispose
  | false => exact (givenUp_dispose s m hdisposed).disposed

namespace GivenUp

theorem opening?_eq_none (h : s.GivenUp) (hopens : action.opens = true)
    (hbegin : ∀ number order, action = .begin number order →
      (s.call? (.outside number)).isSome = true) : s.opening? action = none := by
  unfold opening?
  cases action with
  | begin number order => simp [hbegin number order rfl]
  | attend => simp [h.silent]
  | tick message => simp [h.deaf]
  | signal _ _ | abandon _ | dispose => cases hopens

theorem step_begin (h : s.GivenUp) (m : Moment) {number : Nat} {order : Order α}
    (hfree : s.call? (.outside number) = none) (hcallers : order.isForCallers = true) :
    s.step m (.begin number order) =
      (s, some (.outside number, order.refusal s.executor.scope)) := by
  have hothers : others (.outside number) s.calls = s.calls := by
    refine List.filter_eq_self.mpr fun entry hentry => bne_iff_ne.mpr ?_
    rintro hsame
    have hne := List.lookup_eq_none_iff.mp hfree entry hentry
    simp [hsame] at hne
  unfold step
  dsimp only
  rw [hfree, Executor.begin_of_disposed h.disposed hcallers]
  unfold absorb afterEnding
  simp [hothers]

theorem step_eq (h : s.GivenUp) (m : Moment)
    (haction : action = .attend ∨ (∃ message, action = .tick message) ∨ action = .dispose) :
    s.step m action = (s, none) := by
  rcases haction with rfl | ⟨message, rfl⟩ | rfl
  · exact step_of_no_opening (h.opening?_eq_none rfl (fun _ _ hbegin => by cases hbegin)) rfl
  · exact step_of_no_opening (h.opening?_eq_none rfl (fun _ _ hbegin => by cases hbegin)) rfl
  · simp [step, Executor.dispose, h.disposed]

/-- Only what is about a call under way changes anything. -/
theorem step_cases (h : s.GivenUp) (m : Moment) (hcallers : action.isForCallers = true) :
    (s.step m action).1 = s ∨ (∃ c, action = .abandon c) ∨
      ∃ c signal call, action = .signal c signal ∧ s.call? c = some call := by
  cases action with
  | begin number order =>
    left
    cases hcall : s.call? (.outside number) with
    | none => rw [h.step_begin m hcall hcallers]
    | some call =>
      have hbusy : s.opening? (.begin number order) = none :=
        h.opening?_eq_none rfl fun _ _ hbegin => by cases hbegin; simp [hcall]
      rw [step_of_no_opening hbusy rfl]
  | attend => exact .inl (congrArg Prod.fst (h.step_eq m (.inl rfl)))
  | tick message => exact .inl (congrArg Prod.fst (h.step_eq m (.inr (.inl ⟨message, rfl⟩))))
  | dispose => exact .inl (congrArg Prod.fst (h.step_eq m (.inr (.inr rfl))))
  | abandon c => exact .inr (.inl ⟨c, rfl⟩)
  | signal c signal =>
    cases hcall : s.call? c with
    | none => exact .inl (congrArg Prod.fst (step_signal_of_none hcall))
    | some call => exact .inr (.inr ⟨c, signal, call, rfl, hcall⟩)

theorem step (h : s.GivenUp) (m : Moment) (hcallers : action.isForCallers = true) :
    (s.step m action).1.GivenUp := by
  rcases h.step_cases m hcallers with hsame | ⟨c, rfl⟩ | ⟨c, signal, call, rfl, hcall⟩
  · rw [hsame]
    exact h
  · have hgone : (s.abandon c).call? .background = none := by
      rw [call?_abandon, h.gone, ite_self]
    have habandoned := s.executor_abandon c
    exact ⟨by rw [System.step, habandoned, h.disposed], by rw [System.step, habandoned, h.deaf],
      by rw [System.step, habandoned, h.silent], hgone⟩
  · have hc : c ≠ .background := by
      rintro rfl
      cases h.gone.symm.trans hcall
    have habides := s.executor.abides_advance m signal call
    rw [step_signal hcall]
    have hexecutor := s.executor_absorb_of_ne hc (s.executor.advance m signal call)
    refine ⟨?_, ?_, ?_, ?_⟩
    · rw [hexecutor, habides.disposed]
      exact h.disposed
    · rw [hexecutor, habides.listening]
      exact h.deaf
    · rw [hexecutor, habides.mailbox h.deaf]
      exact h.silent
    · rw [call?_absorb, if_neg hc.symm]
      exact h.gone

theorem underWay_of_step (h : s.GivenUp) (m : Moment) (hcallers : action.isForCallers = true)
    {c : Caller} (hcall : ((s.step m action).1.call? c).isSome = true) :
    (s.call? c).isSome = true := by
  rcases h.step_cases m hcallers with hsame | ⟨c', rfl⟩ | ⟨c', signal, call, rfl, hold⟩
  · rw [hsame] at hcall
    exact hcall
  · change ((s.abandon c').call? c).isSome = true at hcall
    rw [call?_abandon] at hcall
    split at hcall
    · cases hcall
    · exact hcall
  · rw [step_signal hold, call?_absorb] at hcall
    split at hcall
    · rename_i hc
      rw [hc, hold]
      rfl
    · exact hcall

theorem cache_step (h : s.GivenUp) (hfits : s.Fits) (m : Moment)
    (hnone : ∀ c signal e, action = .signal c signal → s.call? c ≠ some (.executing e)) :
    (s.step m action).1.executor.cache = s.executor.cache := by
  have hupkeep : s.upkeep? action = none := by
    cases action with
    | begin _ _ | attend | tick _ | abandon _ => rfl
    | dispose => exact if_pos h.disposed
    | signal c signal =>
      cases hcall : s.call? c with
      | none =>
        show (s.call? c).bind (·.upkeep? signal) = none
        rw [hcall]
        rfl
      | some call =>
        rw [upkeep?_signal hcall]
        cases call with
        | executing e => exact (hnone c signal e rfl hcall).elim
        | configuring _ | updating _ | testing _ => rfl
  rw [hfits.cache_step m action, hupkeep]
  rfl

theorem unheard_step (h : s.GivenUp) (m : Moment) (hcallers : action.isForCallers = true)
    (htests : ∀ c signal call, action = .signal c signal → s.call? c = some call →
      ∃ test, call = .testing test) :
    s.executor.Unheard (s.step m action).1.executor := by
  rcases h.step_cases m hcallers with hsame | ⟨c, rfl⟩ | ⟨c, signal, call, rfl, hcall⟩
  · rw [hsame]
    exact .refl _
  · have habandoned := s.executor_abandon c
    rw [System.step, habandoned]
    exact ⟨rfl, rfl, rfl⟩
  · obtain ⟨test, rfl⟩ := htests c signal call rfl hcall
    have hc : c ≠ .background := by
      rintro rfl
      cases h.gone.symm.trans hcall
    obtain ⟨mailbox, cache, selector, htest⟩ := s.executor.advanceTest_fst test signal m.now
    have hadvance : (s.executor.advance m signal (.testing test : Call α)).1 =
        { s.executor with mailbox, cache, selector } := htest
    rw [step_signal hcall, s.executor_absorb_of_ne hc, hadvance]
    exact ⟨rfl, rfl, rfl⟩

theorem after (h : s.GivenUp) {later : Run α}
    (hcallers : ∀ event ∈ later, event.2.isForCallers = true) : (s.after later).GivenUp := by
  induction later with
  | nil => exact h
  | cons event before ih =>
    have hboth := List.forall_mem_cons.mp hcallers
    exact (ih hboth.2).step event.1 hboth.1

theorem underWay_after (h : s.GivenUp) {later before : Run α}
    (hcallers : ∀ event ∈ later, event.2.isForCallers = true) (hbefore : before <:+ later)
    {c : Caller} (hcall : ((s.after later).call? c).isSome = true) :
    ((s.after before).call? c).isSome = true := by
  induction later with
  | nil => exact List.suffix_nil.mp hbefore ▸ hcall
  | cons event earlier ih =>
    have hboth := List.forall_mem_cons.mp hcallers
    rcases List.suffix_cons_iff.mp hbefore with rfl | hsuffix
    · exact hcall
    · exact ih hboth.2 hsuffix ((h.after hboth.2).underWay_of_step event.1 hboth.1 hcall)

end GivenUp

/-! ## Disposal -/

/-- What becomes of a system that was just given up, in the state that it comes to later. -/
structure StaysGivenUp (given : System α) (later : Run α) : Prop where
  givenUp : (given.after later).GivenUp
  /-- Calls under way are those that the disposal found and that have not ended since. -/
  underWay : ∀ c, ((given.after later).call? c).isSome = true →
    ∀ before, before <:+ later → ((given.after before).call? c).isSome = true
  refuses : ∀ m number order, order.isForCallers = true →
    (given.after later).call? (.outside number) = none →
      (given.after later).step m (.begin number order) = (given.after later,
        some (.outside number, order.refusal (given.after later).executor.scope))
  /-- Neither the background nor another disposal does anything. -/
  rests : ∀ m action,
    action = .attend ∨ (∃ message, action = .tick message) ∨ action = .dispose →
      (given.after later).step m action = (given.after later, none)
  /-- The cache is left to the calls on commands. -/
  cache : ∀ m action, (∀ c signal e, action = .signal c signal →
      (given.after later).call? c ≠ some (.executing e)) →
    ((given.after later).step m action).1.executor.cache = (given.after later).executor.cache
  /-- Clients and requests are left to the calls that are no speed tests. -/
  sends : ∀ m action, action.isForCallers = true →
    (∀ c signal call, action = .signal c signal → (given.after later).call? c = some call →
      ∃ test, call = .testing test) →
        (given.after later).executor.Unheard ((given.after later).step m action).1.executor
  /-- As long as no call that the disposal found goes on, all stays as it was left. -/
  untouched : (∀ m c signal, (m, .signal c signal) ∈ later → given.call? c = none) →
    given.executor.Unheard (given.after later).executor ∧
      (given.after later).executor.cache = given.executor.cache

theorem GivenUp.unheard_after (h : s.GivenUp) (hfits : s.Fits) {later : Run α}
    (hcallers : ∀ event ∈ later, event.2.isForCallers = true)
    (hidle : ∀ m c signal, (m, .signal c signal) ∈ later → s.call? c = none) :
    s.executor.Unheard (s.after later).executor ∧
      (s.after later).executor.cache = s.executor.cache := by
  induction later with
  | nil => exact ⟨.refl _, rfl⟩
  | cons event before ih =>
    obtain ⟨m, action⟩ := event
    have hboth := List.forall_mem_cons.mp hcallers
    obtain ⟨hunheard, hcache⟩ := ih hboth.2 fun m c signal hmem =>
      hidle m c signal (List.mem_cons_of_mem _ hmem)
    have hgone : ∀ c signal call, action = .signal c signal →
        (s.after before).call? c ≠ some call := by
      rintro c signal call rfl hcall
      have hfound := h.underWay_after hboth.2 (List.nil_suffix) (c := c) (by rw [hcall]; rfl)
      change (s.call? c).isSome = true at hfound
      rw [hidle m c signal List.mem_cons_self] at hfound
      cases hfound
    have hbefore := h.after hboth.2
    exact ⟨hunheard.trans (hbefore.unheard_step m hboth.1
        fun c signal call haction hcall => (hgone c signal call haction hcall).elim),
      (hbefore.cache_step (hfits.after before) m
        fun c signal e haction => hgone c signal _ haction).trans hcache⟩

theorem GivenUp.staysGivenUp (h : s.GivenUp) (hfits : s.Fits) {later : Run α}
    (hcallers : ∀ event ∈ later, event.2.isForCallers = true) : s.StaysGivenUp later where
  givenUp := h.after hcallers
  underWay _ hcall _ hbefore := h.underWay_after hcallers hbefore hcall
  refuses m _ _ horder hfree := (h.after hcallers).step_begin m hfree horder
  rests m _ haction := (h.after hcallers).step_eq m haction
  cache m _ hnone := (h.after hcallers).cache_step (hfits.after later) m hnone
  sends m _ haction htests := (h.after hcallers).unheard_step m haction htests
  untouched hidle := h.unheard_after hfits hcallers hidle

/-- Disposal is final but for the calls that it finds under way. -/
theorem disposal_final (scope : Scope) (applicationId : String) (seeds : List Url)
    (conventions : Conventions) (proxy : Option String) (before later : Run α) (m : Moment)
    (hopen : ((new scope applicationId seeds conventions proxy : System α).after
      before).executor.disposed = false)
    (hcallers : ∀ event ∈ later, event.2.isForCallers = true) :
    let s := (new scope applicationId seeds conventions proxy : System α).after before
    let given := (s.step m .dispose).1
    given.executor.cache.entries = [] ∧ given.executor.pool.origins = [] ∧
      given.executor.sent = s.executor.sent ∧ given.executor.events = s.executor.events ∧
      (∀ c, given.call? c = if c = .background then none else s.call? c) ∧
      given.StaysGivenUp later := by
  intro s given
  have hidle : ∀ c, (new scope applicationId seeds conventions proxy : System α).call? c = none :=
    fun _ => rfl
  have hfits : s.Fits := (fits_of_idle hidle).after before
  obtain ⟨lockHeld, habandoned⟩ :
      ∃ lockHeld, (s.abandon .background).executor = { s.executor with lockHeld } :=
    ⟨_, s.executor_abandon .background⟩
  have hgiven : given.executor = { s.executor with lockHeld }.dispose := by
    show (s.step m .dispose).1.executor = _
    rw [dispose_step s m hopen, habandoned]
  have hdisposed : given.executor = { s.executor with
      lockHeld, disposed := true, listening := false, mailbox := []
      pool := s.executor.pool.clear, cache := s.executor.cache.clear } := by
    rw [hgiven, Executor.dispose, if_neg (by simpa using hopen)]
  refine ⟨by rw [hdisposed]; rfl, by rw [hdisposed]; rfl, by rw [hdisposed], by rw [hdisposed],
    fun c => ?_, (givenUp_dispose s m hopen).staysGivenUp (hfits.step m .dispose) hcallers⟩
  show (s.step m .dispose).1.call? c = _
  rw [dispose_step s m hopen]
  exact s.call?_abandon .background c

/-- A call on a command that is under way puts its answer into the cache of an executor that was
given up, or goes on to the next node.  So does a call for the configuration, and an update of the
topology that was waiting for another one asks its node. -/
theorem calls_outlive_disposal :
    let host := fun name => ⟨"http", some ⟨"", "", .name name, some 8080⟩, "/", none, none⟩
    let m : Moment := ⟨0, Duration.half⟩
    let execute : Order Bytes := .execute
      { request := fun node => .ok (.get node.url)
        parse := fun body _ => .ok body, isRead := true } {}
    let update : String → Order Bytes := fun name =>
      .updateTopology { url := host name, database := "db" } false none
    let after : Bool → Run Bytes → Run Bytes → System Bytes :=
      fun disableTopologyUpdates before later =>
      (((new (.database "db") "app" [host "a", host "b"] { disableTopologyUpdates } none).after
        before).step m .dispose).1.after later
    let answered : Run Bytes := [(m, .signal (.outside 1) (.body 0 (.ok []))),
      (m, .signal (.outside 1)
        (.head 0 (.ok { status := 200, headers := [(Headers.etag, [0x31])] })))]
    let refused : Run Bytes := [(m, .signal (.outside 1) .resumed),
      (m, .signal (.outside 1) (.head 0 (.error .connectionFailed)))]
    let granted : Run Bytes := [(m, .signal (.outside 2) .granted), (m, .abandon (.outside 1))]
    let shows := fun s : System Bytes => (s.executor.disposed, s.executor.cache.size,
      s.executor.pool.size, s.executor.sent.map (·.node.url))
    shows (after true [(m, .begin 1 execute)] []) = (true, 0, 0, [host "a"]) ∧
      shows (after true [(m, .begin 1 execute)] answered) = (true, 1, 0, [host "a"]) ∧
      shows (after true [(m, .begin 1 execute)] refused) = (true, 0, 1, [host "b", host "a"]) ∧
      shows (after true [(m, .begin 1 .updateConfiguration)] refused) =
        (true, 0, 1, [host "b", host "a"]) ∧
      shows (after false [(m, .begin 2 (update "b")), (m, .begin 1 (update "a"))] granted) =
        (true, 0, 1, [host "b", host "a"]) := by
  decide +kernel

/-- A call is under way when the executor is given up, and goes on to the next node. -/
theorem disposal_final_under_way :
    let host := fun name => ⟨"http", some ⟨"", "", .name name, some 8080⟩, "/", none, none⟩
    let m : Moment := ⟨0, Duration.half⟩
    let execute : Order Bytes := .execute
      { request := fun node => .ok (.get node.url)
        parse := fun body _ => .ok body, isRead := true } {}
    let start : System Bytes :=
      System.new (.database "db") "app" [host "a", host "b"] { disableTopologyUpdates := true } none
    let before : Run Bytes := [(m, .begin 1 execute)]
    let later : Run Bytes := [(m, .begin 2 .speedTest), (m, .signal (.outside 1) .resumed),
      (m, .signal (.outside 1) (.head 0 (.error .connectionFailed)))]
    let given := ((start.after before).step m .dispose).1
    (start.after before).executor.disposed = false ∧
      (∀ event ∈ later, event.2.isForCallers = true) ∧
      given.executor.pool.origins = [] ∧ given.StaysGivenUp later := by
  intro host m execute start before later given
  have hopen : (start.after before).executor.disposed = false := by decide +kernel
  have hcallers : ∀ event ∈ later, event.2.isForCallers = true := by simp [later]; decide
  obtain ⟨-, -, -, -, -, hstays⟩ := disposal_final (.database "db") "app" [host "a", host "b"]
    { disableTopologyUpdates := true } none before later m hopen hcallers
  exact ⟨hopen, hcallers, by decide +kernel, hstays⟩

end System

end ClusterClient
