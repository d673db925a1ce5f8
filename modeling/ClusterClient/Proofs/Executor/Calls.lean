import ClusterClient.Proofs.Executor.Sweeps
import ClusterClient.Proofs.Executor.Wishes

/-!
# Wishes of calls

A call starts with a wish for a sweep or with none, goes on with it until it is
carried out, and is not about the topology any more from then on.
-/

namespace ClusterClient

variable {α : Type}

def Phase.refresh? : Phase α → Option Refresh
  | .ensuring update => some update.refresh
  | .pausing _ _ _ | .flying _ _ => none

/-- How long the answer may take that a call waits for. -/
def Phase.limit? : Phase α → Option Duration
  | .flying _ flight => flight.limit
  | .ensuring _ | .pausing _ _ _ => none

def Call.refresh? : Call α → Option Refresh
  | .executing c => c.phase.refresh?
  | .configuring c => c.phase.refresh?
  | .updating u => some u.refresh
  | .testing _ => none

namespace Executor

variable {x y : Executor} {command : Command α} {options : Options} {m : Moment}

def firstWish? (x : Executor) (now : Instant) : Option SweepOrder :=
  if x.initialized || (x.recentFailure? now).isSome || x.seeds.isEmpty then none
  else some { nodes := x.seedNodes, force := false, limit := none, onlyIfUninitialized := true }

def commandWish? (x : Executor) (now : Instant) : Option SweepOrder :=
  match x.preparation now with
  | .sweep isFirst nodes =>
    some { nodes, force := false, limit := none, onlyIfUninitialized := isFirst }
  | .refused _ | .known => none

def wish? (x : Executor) (now : Instant) : Order α → Option SweepOrder
  | .execute _ _ => x.commandWish? now
  | .updateConfiguration => if x.scope.isDatabase then x.commandWish? now else none
  | .updateTopology node force limit =>
    if x.disposed || !x.updatesTopology then none
    else some { nodes := [node], force, limit, onlyIfUninitialized := false }
  | .refreshTopology force =>
    if x.disposed || !x.updatesTopology then none
    else if !x.initialized then x.firstWish? now
    else some { nodes := x.refreshNodes, force, limit := none, onlyIfUninitialized := false }
  | .firstUpdate => x.firstWish? now
  | .speedTest => none

/-! ## Calls -/

def afterWish (command : Command α) (options : Options) (m : Moment) (isFirst : Bool)
    (next : Executor × Progress Refresh (Except ExecutorError Bool)) : Next α :=
  let (x, progress) := updateOf isFirst next
  x.afterEnsuring command options m (progress.map (afterUpdate isFirst))

theorem execute_prepared (x : Executor) (command : Command α) (options : Options) (m : Moment) :
    x.execute command options m =
      match x.preparation m.now with
      | .refused e => (x, .done (.error e))
      | .known => x.follow command options m
      | .sweep isFirst nodes =>
        afterWish command options m isFirst (x.refresh ⟨nodes, false, none, isFirst⟩ m.now) := by
  unfold execute preparation
  by_cases hdisposed : x.disposed = true
  · simp only [hdisposed, if_true]
  · simp only [hdisposed]
    unfold ensureTopology
    by_cases hinitialized : x.initialized = true
    · simp only [hinitialized]
      by_cases hstale : (x.stale && x.updatesTopology && (x.recentFailure? m.now).isNone) = true
      · have hupdates : x.updatesTopology = true := by
          rw [Bool.and_eq_true, Bool.and_eq_true] at hstale
          exact hstale.1.2
        have hrefresh : x.refreshTopology false m.now =
            updateOf false (x.refresh ⟨x.refreshNodes, false, none, false⟩ m.now) := by
          simp [refreshTopology, hdisposed, hupdates, hinitialized]
        simp only [hstale, hrefresh]
        rfl
      · simp only [hstale]
        rfl
    · simp only [hinitialized]
      unfold firstUpdate
      simp only [hinitialized]
      cases x.recentFailure? m.now with
      | some failures => rfl
      | none => cases x.seeds.isEmpty <;> rfl

/-- A call that has turned to a node pauses or waits for an answer, for as long as that takes. -/
def Next.Attempts (next : Next α) : Prop :=
  ∀ phase, next.2.state? = some phase → phase.refresh? = none ∧ phase.limit? = none

theorem Next.Attempts.refresh? {next : Next α} (h : next.Attempts) :
    next.2.state?.bind Phase.refresh? = none :=
  Option.bind_eq_none_iff.mpr fun phase hphase => (h phase hphase).1

theorem Next.Attempts.limit? {next : Next α} (h : next.Attempts) :
    next.2.state?.bind Phase.limit? = none :=
  Option.bind_eq_none_iff.mpr fun phase hphase => (h phase hphase).2

theorem attempts_done (x : Executor) (result : Except ExecutorError (Executed α)) :
    Next.Attempts (x, .done result) := by
  intro phase hphase
  cases hphase

theorem attempts_beginAttempt (x : Executor) (t : Trail) (e : Exchange α) :
    (x.beginAttempt t e).Attempts := by
  unfold beginAttempt
  dsimp only
  split
  · rename_i y flight hsend
    obtain ⟨-, rfl⟩ := send_eq_ok hsend
    intro phase hphase
    cases hphase
    exact ⟨rfl, rfl⟩
  · exact attempts_done _ _

theorem attempts_attempt (x : Executor) (number : Nat) (failures : List NodeFailure)
    (nodes : List Node) (m : Moment) :
    (x.attempt command options number failures nodes m).Attempts := by
  have hturn := x.turnsTo_attempt command options number failures nodes m
  generalize x.attempt command options number failures nodes m = next at hturn ⊢
  cases hturn with
  | noneLeft | noRequest _ | served _ _ _ _ | noDelay _ => exact attempts_done _ _
  | begins _ => exact x.attempts_beginAttempt _ _
  | pauses _ _ =>
    intro phase hphase
    cases hphase
    exact ⟨rfl, rfl⟩

theorem attempts_follow (x : Executor) (m : Moment) :
    (x.follow command options m).Attempts := by
  unfold follow
  split
  · exact attempts_done _ _
  · exact attempts_attempt _ _ _ _ _

theorem attempts_concludeAttempt (x : Executor) (c : Execution α) (t : Trail) (e : Exchange α)
    (outcome : Outcome α) (m : Moment) : (x.concludeAttempt c t e outcome m).Attempts := by
  unfold concludeAttempt
  cases outcome with
  | answered _ _ _ | ended _ => exact attempts_done _ _
  | failed _ => exact attempts_attempt _ _ _ _ _

theorem afterWish_spec (isFirst : Bool) (y : Executor)
    (progress : Progress Refresh (Except ExecutorError Bool)) :
    y.Aside (afterWish command options m isFirst (y, progress)).1 ∧
      (afterWish command options m isFirst (y, progress)).2.state?.bind Phase.refresh? =
        progress.state? := by
  cases progress with
  | waiting refresh => exact ⟨.refl y, rfl⟩
  | done result =>
    unfold afterWish updateOf
    simp only [Progress.mapState, Progress.map, Progress.state?]
    cases afterUpdate isFirst (y.judge isFirst result) with
    | error e => exact ⟨.refl y, rfl⟩
    | ok _ => exact ⟨y.aside_follow command options m, (y.attempts_follow m).refresh?⟩

def Step.refresh? (step : Step α) : Option Refresh := step.2.state?.bind Call.refresh?

theorem executed_spec (command : Command α) (options : Options) (next : Next α) :
    (executed command options next).1 = next.1 ∧
      Step.refresh? (executed command options next) = next.2.state?.bind Phase.refresh? := by
  obtain ⟨y, progress⟩ := next
  cases progress <;> exact ⟨rfl, rfl⟩

theorem configured_spec (command : Command ConfigurationVersion) (options : Options)
    (next : Next ConfigurationVersion) :
    next.1.Aside (configured command options next : Step α).1 ∧
      Step.refresh? (configured command options next : Step α) =
        next.2.state?.bind Phase.refresh? := by
  obtain ⟨y, progress⟩ := next
  match progress with
  | .waiting phase => exact ⟨.refl y, rfl⟩
  | .done (.error e) => exact ⟨.refl y, rfl⟩
  | .done (.ok executed) => exact ⟨y.aside_configure executed.result, rfl⟩

theorem updated_spec (isFirst : Bool)
    (next : Executor × Progress Refresh (Except ExecutorError Bool)) :
    (updated (updateOf isFirst next) : Step α).1 = next.1 ∧
      Step.refresh? (updated (updateOf isFirst next) : Step α) = next.2.state? := by
  obtain ⟨y, progress⟩ := next
  cases progress <;> exact ⟨rfl, rfl⟩

theorem tested_spec (next : Executor × Progress SpeedTest (Except ExecutorError Unit)) :
    (tested next : Step α).1 = next.1 ∧ Step.refresh? (tested next : Step α) = none := by
  obtain ⟨y, progress⟩ := next
  cases progress <;> exact ⟨rfl, rfl⟩

/-- An order leads to its wish and leaves the rest that is about the topology alone. -/
structure Begins (x : Executor) (wish : Option SweepOrder) (now : Instant) (step : Step α) :
    Prop where
  made : ∀ order, wish = some order →
    (x.refresh order now).1.Aside step.1 ∧ Step.refresh? step = (x.refresh order now).2.state?
  none : wish = none → x.Aside step.1 ∧ Step.refresh? step = none

theorem begins_of_done (x : Executor) (now : Instant) (ending : Ending α) :
    x.Begins none now (x, .done ending) :=
  ⟨fun _ h => (Option.some_ne_none _ h.symm).elim, fun _ => ⟨.refl x, rfl⟩⟩

theorem begins_of_update {wish : Option SweepOrder}
    {next : Executor × Progress Update (Except ExecutorError Bool)} {now : Instant}
    (hmade : ∀ order, wish = some order →
      ∃ isFirst, next = updateOf isFirst (x.refresh order now))
    (hnone : wish = none → ∃ result, next = (x, .done result)) :
    x.Begins wish now (updated next : Step α) := by
  constructor
  · intro order horder
    obtain ⟨isFirst, rfl⟩ := hmade order horder
    obtain ⟨hexecutor, hrefresh⟩ := updated_spec (α := α) isFirst (x.refresh order now)
    exact ⟨hexecutor ▸ .refl _, hrefresh⟩
  · intro h
    obtain ⟨result, rfl⟩ := hnone h
    exact ⟨.refl x, rfl⟩

theorem firstUpdate_eq (x : Executor) (now : Instant) :
    (∀ order, x.firstWish? now = some order →
      ∃ isFirst, x.firstUpdate now = updateOf isFirst (x.refresh order now)) ∧
    (x.firstWish? now = none → ∃ result, x.firstUpdate now = (x, .done result)) := by
  unfold firstWish? firstUpdate
  by_cases hinitialized : x.initialized = true
  · simp [hinitialized]
  · cases hrecent : x.recentFailure? now with
    | some failures => simp [hinitialized]
    | none =>
      by_cases hseeds : x.seeds.isEmpty = true
      · simp [hinitialized, hseeds]
      · simp only [hinitialized, hseeds]
        exact ⟨fun order horder => ⟨true, by cases horder; rfl⟩, fun h => by cases h⟩

theorem execute_spec (x : Executor) (command : Command α) (options : Options) (m : Moment) :
    (∀ order, x.commandWish? m.now = some order →
      (x.refresh order m.now).1.Aside (x.execute command options m).1 ∧
        (x.execute command options m).2.state?.bind Phase.refresh? =
          (x.refresh order m.now).2.state?) ∧
    (x.commandWish? m.now = none → x.Aside (x.execute command options m).1 ∧
      (x.execute command options m).2.state?.bind Phase.refresh? = none) := by
  rw [execute_prepared]
  unfold commandWish?
  cases x.preparation m.now with
  | refused e => exact ⟨fun _ h => (Option.some_ne_none _ h.symm).elim, fun _ => ⟨.refl x, rfl⟩⟩
  | known =>
    exact ⟨fun _ h => (Option.some_ne_none _ h.symm).elim,
      fun _ => ⟨x.aside_follow command options m, (x.attempts_follow m).refresh?⟩⟩
  | sweep isFirst nodes =>
    refine ⟨?_, fun h => (Option.some_ne_none _ h).elim⟩
    intro order horder
    cases horder
    exact afterWish_spec isFirst _ _

theorem begins_execute (x : Executor) (m : Moment) (command : Command α) (options : Options) :
    x.Begins (x.wish? m.now (.execute command options)) m.now
      (x.begin m (.execute command options)) := by
  obtain ⟨hmade, hnone⟩ := x.execute_spec command options m
  obtain ⟨hexecutor, hrefresh⟩ := executed_spec command options (x.execute command options m)
  refine ⟨fun order horder => ?_, fun h => ?_⟩
  · obtain ⟨haside, hstate⟩ := hmade order horder
    exact ⟨hexecutor ▸ haside, hrefresh.trans hstate⟩
  · obtain ⟨haside, hstate⟩ := hnone h
    exact ⟨hexecutor ▸ haside, hrefresh.trans hstate⟩

theorem begins_updateConfiguration (x : Executor) (m : Moment) :
    x.Begins (x.wish? m.now (.updateConfiguration : Order α)) m.now
      (x.begin m (.updateConfiguration : Order α)) := by
  unfold wish? begin
  cases hscope : x.scope with
  | cluster => exact x.begins_of_done m.now _
  | database name =>
    obtain ⟨hmade, hnone⟩ := x.execute_spec (Command.configuration name) {} m
    obtain ⟨hexecutor, hrefresh⟩ := configured_spec (α := α) (Command.configuration name) {}
      (x.execute (Command.configuration name) {} m)
    refine ⟨fun order horder => ?_, fun h => ?_⟩
    · obtain ⟨haside, hstate⟩ := hmade order horder
      exact ⟨haside.trans hexecutor, hrefresh.trans hstate⟩
    · obtain ⟨haside, hstate⟩ := hnone h
      exact ⟨haside.trans hexecutor, hrefresh.trans hstate⟩

theorem begins_updateTopology (x : Executor) (m : Moment) (node : Node) (force : Bool)
    (limit : Option Duration) :
    x.Begins (x.wish? m.now (.updateTopology node force limit : Order α)) m.now
      (x.begin m (.updateTopology node force limit : Order α)) := by
  have hupdate : (∀ order,
      x.wish? m.now (.updateTopology node force limit : Order α) = some order →
      ∃ isFirst, x.updateTopology node force limit m.now =
        updateOf isFirst (x.refresh order m.now)) ∧
    (x.wish? m.now (.updateTopology node force limit : Order α) = none →
      ∃ result, x.updateTopology node force limit m.now = (x, .done result)) := by
    unfold wish? updateTopology
    by_cases hclosed : (x.disposed || !x.updatesTopology) = true
    · simp [hclosed]
    · simp only [hclosed]
      exact ⟨fun order horder => ⟨false, by cases horder; rfl⟩, fun h => by cases h⟩
  exact begins_of_update hupdate.1 hupdate.2

theorem begins_refreshTopology (x : Executor) (m : Moment) (force : Bool) :
    x.Begins (x.wish? m.now (.refreshTopology force : Order α)) m.now
      (x.begin m (.refreshTopology force : Order α)) := by
  have hupdate : (∀ order, x.wish? m.now (.refreshTopology force : Order α) = some order →
      ∃ isFirst, x.refreshTopology force m.now = updateOf isFirst (x.refresh order m.now)) ∧
    (x.wish? m.now (.refreshTopology force : Order α) = none →
      ∃ result, x.refreshTopology force m.now = (x, .done result)) := by
    unfold wish? refreshTopology
    by_cases hclosed : (x.disposed || !x.updatesTopology) = true
    · simp [hclosed]
    · by_cases hinitialized : x.initialized = true
      · simp only [hclosed, hinitialized]
        exact ⟨fun order horder => ⟨false, by cases horder; rfl⟩, fun h => by cases h⟩
      · simp only [hclosed, hinitialized]
        exact x.firstUpdate_eq m.now
  exact begins_of_update hupdate.1 hupdate.2

theorem begins_begin (x : Executor) (m : Moment) (order : Order α) :
    x.Begins (x.wish? m.now order) m.now (x.begin m order) := by
  cases order with
  | execute command options => exact x.begins_execute m command options
  | updateTopology node force limit => exact x.begins_updateTopology m node force limit
  | updateConfiguration => exact x.begins_updateConfiguration m
  | speedTest =>
    refine ⟨fun _ h => (Option.some_ne_none _ h.symm).elim, fun _ => ?_⟩
    obtain ⟨hexecutor, hrefresh⟩ := tested_spec (α := α) (x.speedTest m.now)
    exact ⟨hexecutor ▸ x.aside_speedTest m.now, hrefresh⟩
  | firstUpdate =>
    obtain ⟨hmade, hnone⟩ := x.firstUpdate_eq m.now
    exact begins_of_update hmade hnone
  | refreshTopology force => exact x.begins_refreshTopology m force

theorem advanceExecution_spec (x : Executor) (m : Moment) (signal : Signal) (c : Execution α) :
    (∀ refresh, c.phase.refresh? = some refresh →
      (x.advanceRefresh refresh signal m.now).1.Aside (x.advanceExecution c signal m).1 ∧
        (x.advanceExecution c signal m).2.state?.bind Phase.refresh? =
          (x.advanceRefresh refresh signal m.now).2.state?) ∧
    (c.phase.refresh? = none →
      (∃ mailbox cache,
        ({ x with mailbox, cache } : Executor).Aside (x.advanceExecution c signal m).1) ∧
        (x.advanceExecution c signal m).2.state?.bind Phase.refresh? = none) := by
  obtain ⟨command, options, phase⟩ := c
  cases phase with
  | ensuring update =>
    refine ⟨?_, fun h => (Option.some_ne_none _ h).elim⟩
    intro refresh hrefresh
    cases hrefresh
    exact afterWish_spec update.isFirst _ _
  | pausing trail e pause =>
    refine ⟨fun _ h => (Option.some_ne_none _ h.symm).elim, fun _ => ?_⟩
    cases signal with
    | resumed =>
      exact ⟨⟨x.mailbox, x.cache, x.aside_beginAttempt trail e⟩,
        (x.attempts_beginAttempt trail e).refresh?⟩
    | granted | lockTimedOut | head _ _ | body _ _ | expired _ =>
      exact ⟨⟨x.mailbox, x.cache, .refl x⟩, rfl⟩
  | flying trail flight =>
    refine ⟨fun _ h => (Option.some_ne_none _ h.symm).elim, fun _ => ?_⟩
    obtain ⟨mailbox, cache, hfst⟩ := x.advanceFlight_fst flight signal m.now
    unfold advanceExecution
    dsimp only
    cases hadvance : x.advanceFlight flight signal m.now with
    | mk y progress =>
      rw [hadvance] at hfst
      obtain rfl : y = { x with mailbox, cache } := hfst
      cases progress with
      | waiting flight => exact ⟨⟨mailbox, cache, .refl _⟩, rfl⟩
      | done outcome =>
        exact ⟨⟨mailbox, cache, aside_concludeAttempt _ _ _ _ _ _⟩,
          (attempts_concludeAttempt _ _ _ _ _ _).refresh?⟩

theorem advance_spec (x : Executor) (m : Moment) (signal : Signal) (call : Call α) :
    (∀ refresh, call.refresh? = some refresh →
      (x.advanceRefresh refresh signal m.now).1.Aside (x.advance m signal call).1 ∧
        Step.refresh? (x.advance m signal call) =
          (x.advanceRefresh refresh signal m.now).2.state?) ∧
    (call.refresh? = none →
      (∃ mailbox cache, ({ x with mailbox, cache } : Executor).Aside (x.advance m signal call).1) ∧
        Step.refresh? (x.advance m signal call) = none) := by
  cases call with
  | executing c =>
    obtain ⟨hexecutor, hrefresh⟩ := executed_spec c.command c.options
      (x.advanceExecution c signal m)
    refine ⟨fun refresh h => ?_, fun h => ?_⟩
    · obtain ⟨haside, hstate⟩ := (x.advanceExecution_spec m signal c).1 refresh h
      exact ⟨hexecutor ▸ haside, hrefresh.trans hstate⟩
    · obtain ⟨⟨mailbox, cache, haside⟩, hstate⟩ := (x.advanceExecution_spec m signal c).2 h
      exact ⟨⟨mailbox, cache, hexecutor ▸ haside⟩, hrefresh.trans hstate⟩
  | configuring c =>
    obtain ⟨hexecutor, hrefresh⟩ := configured_spec (α := α) c.command c.options
      (x.advanceExecution c signal m)
    refine ⟨fun refresh h => ?_, fun h => ?_⟩
    · obtain ⟨haside, hstate⟩ := (x.advanceExecution_spec m signal c).1 refresh h
      exact ⟨haside.trans hexecutor, hrefresh.trans hstate⟩
    · obtain ⟨⟨mailbox, cache, haside⟩, hstate⟩ := (x.advanceExecution_spec m signal c).2 h
      exact ⟨⟨mailbox, cache, haside.trans hexecutor⟩, hrefresh.trans hstate⟩
  | updating u =>
    refine ⟨?_, fun h => (Option.some_ne_none _ h).elim⟩
    intro refresh h
    cases h
    obtain ⟨hexecutor, hrefresh⟩ := updated_spec (α := α) u.isFirst
      (x.advanceRefresh u.refresh signal m.now)
    exact ⟨hexecutor ▸ .refl _, hrefresh⟩
  | testing t =>
    refine ⟨fun _ h => (Option.some_ne_none _ h.symm).elim, fun _ => ?_⟩
    obtain ⟨mailbox, cache, hfst⟩ := x.advanceTrials_fst signal m.now t.trials
    have haside := (x.advanceTrials signal m.now t.trials).1.aside_concludeTest
      { t with trials := (x.advanceTrials signal m.now t.trials).2 }
    rw [hfst] at haside
    obtain ⟨hexecutor, hrefresh⟩ := tested_spec (α := α) (x.advanceTest t signal m.now)
    have htest : (x.advanceTest t signal m.now).1 =
        (({ x with mailbox, cache } : Executor).concludeTest
          { t with trials := (x.advanceTrials signal m.now t.trials).2 }).1 := by
      rw [← hfst]
      rfl
    exact ⟨⟨mailbox, cache, (hexecutor.trans htest) ▸ haside⟩, hrefresh⟩

/-- The sweep for the first topology asks the urls that the executor was made with, one after that
the nodes of the topology too. -/
theorem sweep_of_preparation {now : Instant} {isFirst : Bool} {nodes : List Node}
    (h : x.preparation now = .sweep isFirst nodes) :
    (isFirst = true ∧ x.initialized = false ∧ nodes = x.seedNodes) ∨
      (isFirst = false ∧ x.initialized = true ∧ x.updatesTopology = true ∧
        nodes = x.refreshNodes) := by
  unfold preparation at h
  split at h
  · cases h
  · split at h
    · rename_i hfirst
      split at h
      · cases h
      · split at h <;> cases h
        exact .inl ⟨rfl, by simpa using hfirst, rfl⟩
    · rename_i hknown
      split at h
      · rename_i hstale
        cases h
        rw [Bool.and_eq_true, Bool.and_eq_true] at hstale
        exact .inr ⟨rfl, by simpa using hknown, hstale.1.2, rfl⟩
      · cases h

/-- The nodes that were asked for the topology, the last one first. -/
def asked (x : Executor) : List Node := (x.sent.filter (·.purpose = .topology)).map (·.node)

theorem Aside.asked (h : x.Aside y) : y.asked = x.asked := by
  obtain ⟨new, hnew, hpurpose⟩ := h.sent
  have hnone : new.filter (·.purpose = .topology) = [] :=
    List.filter_eq_nil_iff.mpr fun d hd => by simpa using hpurpose d hd
  rw [Executor.asked, hnew, List.filter_append, hnone]
  rfl

theorem asked_carryOut (x : Executor) (caller : Caller) (now : Instant) (stage : Stage) :
    (x.carryOut now stage).1.asked = (x.report caller now stage).asked.reverse ++ x.asked := by
  obtain ⟨new, hnew, hpurpose, hnodes⟩ := x.sent_carryOut caller now stage
  have hall : new.filter (·.purpose = .topology) = new :=
    List.filter_eq_self.mpr fun d hd => by simpa using hpurpose d hd
  rw [asked, hnew, List.filter_append, hall, List.map_append, hnodes]
  rfl

theorem updatesTopology_of_not (h : ¬(x.disposed || !x.updatesTopology) = true) :
    x.updatesTopology = true := by
  simp only [Bool.or_eq_true, not_or, Bool.not_eq_true, Bool.not_eq_false'] at h
  exact h.2

theorem firstWish?_spec {now : Instant} {wish : SweepOrder} (h : x.firstWish? now = some wish) :
    x.initialized = false ∧ wish.onlyIfUninitialized = true ∧ wish.nodes = x.seedNodes := by
  unfold firstWish? at h
  split at h
  · cases h
  · rename_i hneed
    cases h
    simp only [Bool.or_eq_true, not_or, Bool.not_eq_true] at hneed
    exact ⟨hneed.1.1, rfl, rfl⟩

theorem commandWish?_cases {now : Instant} {wish : SweepOrder}
    (h : x.commandWish? now = some wish) :
    (x.initialized = false ∧ wish.onlyIfUninitialized = true ∧ wish.nodes = x.seedNodes) ∨
      (x.updatesTopology = true ∧ wish.onlyIfUninitialized = false ∧ x.initialized = true ∧
        wish.nodes = x.refreshNodes) := by
  unfold commandWish? at h
  cases hprepared : x.preparation now with
  | refused _ | known =>
    rw [hprepared] at h
    cases h
  | sweep isFirst nodes =>
    rw [hprepared] at h
    cases h
    rcases sweep_of_preparation hprepared with
      ⟨hyes, hfirst, hnodes⟩ | ⟨hno, hknown, hupdates, hnodes⟩
    · exact .inl ⟨hfirst, hyes, hnodes⟩
    · exact .inr ⟨hupdates, hno, hknown, hnodes⟩

theorem wish?_refreshTopology_cases {now : Instant} {force : Bool} {wish : SweepOrder}
    (h : x.wish? now (.refreshTopology force : Order α) = some wish) :
    (x.initialized = false ∧ wish.onlyIfUninitialized = true ∧ wish.nodes = x.seedNodes) ∨
      (x.updatesTopology = true ∧ wish.onlyIfUninitialized = false ∧ x.initialized = true ∧
        wish.nodes = x.refreshNodes) := by
  unfold wish? at h
  dsimp only at h
  split at h
  · cases h
  · rename_i hopen
    split at h
    · exact .inl (firstWish?_spec h)
    · rename_i hknown
      cases h
      exact .inr ⟨updatesTopology_of_not hopen, rfl, by simpa using hknown, rfl⟩

theorem wish?_updateTopology_spec {now : Instant} {node : Node} {force : Bool}
    {limit : Option Duration} {wish : SweepOrder}
    (h : x.wish? now (.updateTopology node force limit : Order α) = some wish) :
    x.updatesTopology = true ∧ wish.onlyIfUninitialized = false ∧ wish.nodes = [node] := by
  unfold wish? at h
  dsimp only at h
  split at h
  · cases h
  · rename_i hopen
    cases h
    exact ⟨updatesTopology_of_not hopen, rfl, rfl⟩

/-- A wish is for the first topology, or for a later one if the topology is updated at all: for one
of the nodes that are known, or of the node that an update names. -/
theorem wish?_cases {now : Instant} {order : Order α} {wish : SweepOrder}
    (h : x.wish? now order = some wish) :
    (x.initialized = false ∧ wish.onlyIfUninitialized = true ∧ wish.nodes = x.seedNodes) ∨
      (x.updatesTopology = true ∧ wish.onlyIfUninitialized = false ∧
        ((x.initialized = true ∧ wish.nodes = x.refreshNodes) ∨
          ∃ node force limit, order = .updateTopology node force limit ∧ wish.nodes = [node])) := by
  cases order with
  | execute _ _ =>
    exact (commandWish?_cases h).imp_right fun ⟨hupdates, hno, hagain⟩ =>
      ⟨hupdates, hno, .inl hagain⟩
  | updateConfiguration =>
    unfold wish? at h
    dsimp only at h
    split at h
    · exact (commandWish?_cases h).imp_right fun ⟨hupdates, hno, hagain⟩ =>
        ⟨hupdates, hno, .inl hagain⟩
    · cases h
  | updateTopology node force limit =>
    obtain ⟨hupdates, hno, hnodes⟩ := wish?_updateTopology_spec h
    exact .inr ⟨hupdates, hno, .inr ⟨node, force, limit, rfl, hnodes⟩⟩
  | refreshTopology _ =>
    exact (wish?_refreshTopology_cases h).imp_right fun ⟨hupdates, hno, hagain⟩ =>
      ⟨hupdates, hno, .inl hagain⟩
  | firstUpdate => exact .inl (firstWish?_spec h)
  | speedTest => cases h

theorem initialized_of_wish? {now : Instant} {order : Order α} {wish : SweepOrder}
    (h : x.wish? now order = some wish) (honly : wish.onlyIfUninitialized = true) :
    x.initialized = false := by
  rcases wish?_cases h with ⟨hfirst, -, -⟩ | ⟨-, hno, -⟩
  · exact hfirst
  · cases honly.symm.trans hno

theorem nodes_of_wish? {now : Instant} {order : Order α} {wish : SweepOrder}
    (h : x.wish? now order = some wish) (hfirst : x.initialized = false) :
    wish.nodes = x.seedNodes ∨
      ∃ node force limit, order = .updateTopology node force limit ∧ wish.nodes = [node] := by
  rcases wish?_cases h with ⟨-, -, hnodes⟩ | ⟨-, -, ⟨hknown, -⟩ | hnamed⟩
  · exact .inl hnodes
  · cases hfirst.symm.trans hknown
  · exact .inr hnamed

theorem wish?_eq_none {now : Instant} (order : Order α) (hknown : x.initialized = true)
    (hupdates : x.updatesTopology = false) : x.wish? now order = none := by
  cases hwish : x.wish? now order with
  | none => rfl
  | some wish =>
    rcases wish?_cases hwish with ⟨hfirst, -, -⟩ | ⟨hupdates', -, -⟩
    · cases hknown.symm.trans hfirst
    · cases hupdates.symm.trans hupdates'

end Executor

end ClusterClient
