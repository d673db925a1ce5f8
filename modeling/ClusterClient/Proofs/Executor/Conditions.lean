import ClusterClient.Proofs.Executor.Attempts
import ClusterClient.Proofs.Executor.Stores

/-!
# What requests are conditioned on

A request that names a version was prepared when the cache had an answer with
that version, and the answer was given to the cache before.
-/

namespace ClusterClient

variable {α β : Type}

namespace Cache

def From (c : Cache) (stored : List Stored) : Prop :=
  ∀ key entry, c.get? key = some entry → entry.under key ∈ stored

theorem From.keeps {c d : Cache} {stored given : List Stored} (h : c.From stored)
    (hkeeps : c.Keeps d given) : d.From (given ++ stored) := by
  intro key entry hentry
  rcases hkeeps key entry hentry with hgiven | ⟨old, hold, hsame⟩
  · exact List.mem_append_left _ hgiven
  · exact List.mem_append_right _ (hsame ▸ h key old hold)

end Cache

/-- The answer that the cache had when a request was prepared. -/
def Exchange.stored? (e : Exchange β) : Option Stored :=
  match e.key, e.cached with
  | some key, some entry => some (entry.under key)
  | _, _ => none

def Phase.stored? : Phase β → Option Stored
  | .ensuring _ => none
  | .pausing _ e _ => e.stored?
  | .flying _ f => f.exchange.stored?

/-- The answer that a request is conditioned on was given to the cache, and a request that left
names its version. -/
structure Phase.Rightful (stored : List Stored) (x : Executor) (phase : Phase β) : Prop where
  origin : ∀ item, phase.stored? = some item → item ∈ stored
  carried : ∀ trail f entry, phase = .flying trail f → f.exchange.cached = some entry →
    ∃ d, x.dispatch? f.ticket = some d ∧
      (Headers.ifNoneMatch, Bytes.ofString entry.changeVector) ∈ d.wire.headers

def Call.Rightful (stored : List Stored) (x : Executor) : Call α → Prop
  | .executing c => c.phase.Rightful stored x
  | .configuring c => c.phase.Rightful stored x
  | .updating _ | .testing _ => True

variable {x y : Executor} {command : Command β} {options : Options} {m : Moment}
  {stored more : List Stored}

theorem Executor.dispatch?_of_suffix {ticket : Nat} {d : Dispatch} (hsent : x.sent <:+ y.sent)
    (h : x.dispatch? ticket = some d) : y.dispatch? ticket = some d := by
  obtain ⟨new, hnew⟩ := hsent
  unfold dispatch? at h ⊢
  rw [← hnew, List.reverse_append,
    List.getElem?_append_left (List.getElem?_eq_some_iff.mp h).1]
  exact h

theorem Executor.dispatch?_cons {d : Dispatch} {sent : List Dispatch} (h : x.sent = d :: sent) :
    x.dispatch? sent.length = some d := by
  rw [dispatch?, h, List.reverse_cons, ← List.length_reverse, List.getElem?_concat_length]

theorem Phase.Rightful.mono {phase : Phase β} (h : phase.Rightful stored x)
    (hmore : ∀ item ∈ stored, item ∈ more) (hsent : x.sent <:+ y.sent) :
    phase.Rightful more y := by
  refine ⟨fun item hitem => hmore item (h.origin item hitem),
    fun trail f entry hphase hcached => ?_⟩
  obtain ⟨d, hd, hin⟩ := h.carried trail f entry hphase hcached
  exact ⟨d, Executor.dispatch?_of_suffix hsent hd, hin⟩

theorem Call.Rightful.mono {call : Call α} (h : call.Rightful stored x)
    (hmore : ∀ item ∈ stored, item ∈ more) (hsent : x.sent <:+ y.sent) :
    call.Rightful more y := by
  cases call with
  | executing c => exact Phase.Rightful.mono h hmore hsent
  | configuring c => exact Phase.Rightful.mono h hmore hsent
  | updating _ | testing _ => exact h

namespace Executor

def Leaves (stored : List Stored) (next : Next β) : Prop :=
  ∀ phase, next.2.state? = some phase → phase.Rightful stored next.1

theorem leaves_done (stored : List Stored) (x : Executor)
    (result : Except ExecutorError (Executed β)) : Leaves stored (x, .done result) := by
  intro phase h
  cases h

theorem mem_headers (x : Executor) {e : Exchange β} {entry : Cache.Entry}
    (h : e.cached = some entry) :
    (Headers.ifNoneMatch, Bytes.ofString entry.changeVector) ∈ x.headers e := by
  unfold headers
  rw [h]
  cases e.command.raftRequestId <;> simp [Headers.add]

theorem leaves_beginAttempt (x : Executor) (t : Trail) {e : Exchange β}
    (h : ∀ item, e.stored? = some item → item ∈ stored) : Leaves stored (x.beginAttempt t e) := by
  unfold beginAttempt
  dsimp only
  split
  · rename_i y flight hsend
    obtain ⟨⟨pool, rfl⟩, rfl⟩ := send_eq_ok hsend
    intro phase hphase
    cases hphase
    refine ⟨h, fun trail f entry hflying hcached => ?_⟩
    cases hflying
    exact ⟨_, dispatch?_cons rfl, mem_headers _ hcached⟩
  · exact leaves_done _ _ _

theorem mem_stored_of_prepare {node : Node} {noCaching : Bool} {e : Exchange β} {item : Stored}
    (hcache : x.cache.From stored) (hprepare : x.prepare command node noCaching = .ok e)
    (hitem : e.stored? = some item) : item ∈ stored := by
  obtain ⟨-, -, hread⟩ := prepare_eq_ok hprepare
  unfold Exchange.stored? at hitem
  split at hitem
  · rename_i key entry hkey hcached
    cases hitem
    exact hcache key entry ((hread key hkey).trans hcached)
  · cases hitem

theorem leaves_attempt (number : Nat) (failures : List NodeFailure) (nodes : List Node)
    (hcache : x.cache.From stored) :
    Leaves stored (x.attempt command options number failures nodes m) := by
  have hturn := x.turnsTo_attempt command options number failures nodes m
  generalize x.attempt command options number failures nodes m = next at hturn ⊢
  cases hturn with
  | noneLeft | noRequest _ | served _ _ _ _ | noDelay _ => exact leaves_done _ _ _
  | begins hprepare =>
    exact leaves_beginAttempt x _ fun item hitem => mem_stored_of_prepare hcache hprepare hitem
  | pauses _ hprepare =>
    intro phase hphase
    cases hphase
    exact ⟨fun item hitem => mem_stored_of_prepare hcache hprepare hitem,
      fun _ _ _ hflying => by cases hflying⟩

theorem leaves_follow (hcache : x.cache.From stored) :
    Leaves stored (x.follow command options m) := by
  have hroute := (x.aside_route command options.session).cache
  unfold follow
  split
  · exact leaves_done _ _ _
  · rename_i z nodes hrouted
    rw [hrouted] at hroute
    exact leaves_attempt _ _ _ (hroute ▸ hcache)

theorem leaves_concludeAttempt (c : Execution β) (t : Trail) (e : Exchange β) (outcome : Outcome β)
    (hcache : x.cache.From stored) : Leaves stored (x.concludeAttempt c t e outcome m) := by
  unfold concludeAttempt
  cases outcome with
  | answered _ _ _ => exact leaves_done _ _ _
  | ended _ => exact leaves_done _ _ _
  | failed reason => exact leaves_attempt _ _ _ hcache

theorem leaves_afterWish (isFirst : Bool) (y : Executor)
    (progress : Progress Refresh (Except ExecutorError Bool)) (hcache : y.cache.From stored) :
    Leaves stored (afterWish command options m isFirst (y, progress)) := by
  cases progress with
  | waiting refresh =>
    intro phase hphase
    cases hphase
    exact ⟨fun _ hitem => (Option.some_ne_none _ hitem.symm).elim,
      fun _ _ _ hflying => by cases hflying⟩
  | done result =>
    unfold afterWish updateOf
    simp only [Progress.mapState, Progress.map]
    cases afterUpdate isFirst (y.judge isFirst result) with
    | error e => exact leaves_done _ _ _
    | ok _ => exact leaves_follow hcache

theorem leaves_execute (hcache : x.cache.From stored) :
    Leaves stored (x.execute command options m) := by
  rw [execute_prepared]
  split
  · exact leaves_done _ _ _
  · exact leaves_follow hcache
  · exact leaves_afterWish _ _ _ ((x.cache_refresh _ _).symm ▸ hcache)

theorem leaves_advanceExecution (c : Execution β) (signal : Signal) (hcache : x.cache.From stored)
    (hphase : c.phase.Rightful stored x) :
    Leaves (c.phase.given signal ++ stored) (x.advanceExecution c signal m) := by
  obtain ⟨command, options, phase⟩ := c
  have hstays : ∀ y : Executor, y.sent = x.sent →
      Leaves (phase.given signal ++ stored) (y, .waiting phase) := by
    intro y hsent phase' hphase'
    cases hphase'
    exact hphase.mono (fun item hitem => List.mem_append_right _ hitem) (hsent ▸ List.suffix_rfl)
  cases phase with
  | ensuring update =>
    exact leaves_afterWish _ _ _
      (hcache.keeps (x.keeps_advanceRefresh update.refresh signal m.now))
  | pausing trail e pause =>
    cases signal with
    | resumed => exact leaves_beginAttempt x trail hphase.origin
    | granted | lockTimedOut | head _ _ | body _ _ | expired _ => exact hstays x rfl
  | flying trail flight =>
    obtain ⟨mailbox, cache, hfst⟩ := x.advanceFlight_fst flight signal m.now
    have hkeeps := x.keeps_advanceFlight flight signal m.now
    unfold advanceExecution
    dsimp only
    cases hadvance : x.advanceFlight flight signal m.now with
    | mk y progress =>
      rw [hadvance] at hfst hkeeps
      obtain rfl : y = { x with mailbox, cache } := hfst
      cases progress with
      | done outcome => exact leaves_concludeAttempt _ _ _ _ (hcache.keeps hkeeps)
      | waiting flight' =>
        have hwaiting : (x.advanceFlight flight signal m.now).2 = .waiting flight' := by
          rw [hadvance]
        obtain ⟨head, rfl⟩ := advanceFlight_waiting hwaiting
        intro phase' hphase'
        cases hphase'
        refine ⟨fun item hitem => List.mem_append_right _ (hphase.origin item hitem), ?_⟩
        intro trail' f entry hflying hcached
        cases hflying
        exact hphase.carried trail flight entry rfl hcached

/-! ## Calls -/

def LeavesCall (stored : List Stored) (step : Step α) : Prop :=
  ∀ call, step.2.state? = some call → call.Rightful stored step.1

theorem leaves_executed (command : Command α) (options : Options) {next : Next α}
    (h : Leaves stored next) : LeavesCall stored (executed command options next) := by
  obtain ⟨y, progress⟩ := next
  intro call hcall
  cases progress with
  | done result => cases hcall
  | waiting phase =>
    cases hcall
    exact h phase rfl

theorem leaves_configured (command : Command ConfigurationVersion) (options : Options)
    {next : Next ConfigurationVersion} (h : Leaves stored next) :
    LeavesCall stored (configured command options next : Step α) := by
  obtain ⟨y, progress⟩ := next
  intro call hcall
  match progress with
  | .waiting phase =>
    cases hcall
    exact h phase rfl
  | .done (.error e) => cases hcall
  | .done (.ok executed) => cases hcall

theorem leaves_updated (stored : List Stored)
    (next : Executor × Progress Update (Except ExecutorError Bool)) :
    LeavesCall stored (updated next : Step α) := by
  obtain ⟨y, progress⟩ := next
  intro call hcall
  cases progress <;> cases hcall
  trivial

theorem leaves_tested (stored : List Stored)
    (next : Executor × Progress SpeedTest (Except ExecutorError Unit)) :
    LeavesCall stored (tested next : Step α) := by
  obtain ⟨y, progress⟩ := next
  intro call hcall
  cases progress <;> cases hcall
  trivial

theorem leaves_begin (m : Moment) (order : Order α) (hcache : x.cache.From stored) :
    LeavesCall stored (x.begin m order) := by
  cases order with
  | execute command options => exact leaves_executed command options (leaves_execute hcache)
  | updateTopology node force limit => exact leaves_updated _ _
  | updateConfiguration =>
    unfold begin
    cases x.scope with
    | cluster =>
      intro call hcall
      cases hcall
    | database name => exact leaves_configured _ _ (leaves_execute hcache)
  | speedTest => exact leaves_tested _ _
  | firstUpdate => exact leaves_updated _ _
  | refreshTopology force => exact leaves_updated _ _

theorem leaves_advance (m : Moment) (signal : Signal) (call : Call α) (hcache : x.cache.From stored)
    (hcall : call.Rightful stored x) :
    LeavesCall (call.given signal ++ stored) (x.advance m signal call) := by
  cases call with
  | executing c =>
    exact leaves_executed _ _ (leaves_advanceExecution c signal hcache hcall)
  | configuring c =>
    exact leaves_configured _ _ (leaves_advanceExecution c signal hcache hcall)
  | updating u => exact leaves_updated _ _
  | testing t => exact leaves_tested _ _

/-! ## Requests that left stay on record -/

theorem Aside.suffix (h : x.Aside y) : x.sent <:+ y.sent := by
  obtain ⟨new, hnew, -⟩ := h.sent
  exact ⟨new, hnew.symm⟩

theorem suffix_carryOut (x : Executor) (now : Instant) (stage : Stage) :
    x.sent <:+ (x.carryOut now stage).1.sent := by
  obtain ⟨new, hnew, -⟩ := x.asksOnly_carryOut now stage
  exact ⟨new, hnew.symm⟩

theorem suffix_begin (x : Executor) (m : Moment) (order : Order α) :
    x.sent <:+ (x.begin m order).1.sent := by
  obtain ⟨hmade, hnone⟩ := x.begins_begin m order
  cases hwish : x.wish? m.now order with
  | none => exact (hnone hwish).1.suffix
  | some wish => exact (x.suffix_carryOut m.now (.entering wish)).trans (hmade wish hwish).1.suffix

theorem suffix_advance (x : Executor) (m : Moment) (signal : Signal) (call : Call α) :
    x.sent <:+ (x.advance m signal call).1.sent := by
  obtain ⟨hsome, hnone⟩ := x.advance_spec m signal call
  cases hrefresh : call.refresh? with
  | none =>
    obtain ⟨⟨mailbox, cache, haside⟩, -⟩ := hnone hrefresh
    exact haside.suffix
  | some refresh =>
    exact (x.suffix_carryOut m.now (.under refresh signal)).trans (hsome refresh hrefresh).1.suffix

end Executor

end ClusterClient
