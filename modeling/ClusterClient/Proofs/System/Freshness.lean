import ClusterClient.Proofs.System.Journeys

/-!
# Where cached answers come from

An entry of the cache is the body of an answer that a server gave, and it is as old
as that answer or as the last confirmation of its version.  For that a confirmation
must be about what the cache has: calls that execute commands one after the other
see to it, since nobody else changes the cache meanwhile.
-/

namespace ClusterClient

variable {α β : Type}

def Action.executes : Action α → Bool
  | .begin _ (.execute _ _) => true
  | .begin _ _ | .attend | .tick _ | .signal _ _ | .abandon _ | .dispose => false

def Call.isExecuting : Call α → Bool
  | .executing _ => true
  | .configuring _ | .updating _ | .testing _ => false

theorem Executor.settled_of_phase_upkeep? {x : Executor} {e : Execution β} {signal : Signal}
    {m : Moment} {operation : Cache.Operation} (h : e.phase.upkeep? signal = some operation) :
    (x.advanceExecution e signal m).2.state? = none ∧
      (x.advanceExecution e signal m).1.sent = x.sent := by
  obtain ⟨command, options, phase⟩ := e
  cases phase with
  | ensuring _ | pausing _ _ _ => cases h
  | flying trail f =>
    obtain ⟨outcome, hsettled, hhealthy⟩ := settled_of_upkeep? x h m.now
    obtain ⟨mailbox, cache, hfst⟩ := x.advanceFlight_fst f signal m.now
    have hadvance : x.advanceFlight f signal m.now = ({ x with mailbox, cache }, .done outcome) :=
      Prod.ext hfst hsettled
    unfold advanceExecution
    dsimp only
    rw [hadvance]
    cases outcome with
    | answered _ _ _ | ended _ => exact ⟨rfl, rfl⟩
    | failed _ => cases hhealthy

namespace System

variable {s : System α} {m : Moment} {action : Action α} {c : Caller} {e : Execution α}

/-! ## One call after the other -/

def isFree (s : System α) : Bool := s.calls.all fun (_, call) => !call.isExecuting

/-- Whether along a run calls on commands only start when no other one is under way. -/
def isSequential (s : System α) : Run α → Bool
  | [] => true
  | (_, action) :: before =>
    s.isSequential before && (!action.executes || (s.after before).isFree)

theorem isSequential_of_cons {event : Moment × Action α} {before : Run α}
    (h : s.isSequential (event :: before) = true) : s.isSequential before = true := by
  rw [isSequential, Bool.and_eq_true] at h
  exact h.1

theorem not_executing_of_isFree (h : s.isFree = true) : s.call? c ≠ some (.executing e) := by
  intro hcall
  have hmem := Association.mem_of_lookup hcall
  have hidle := List.all_eq_true.mp h _ hmem
  cases hidle

/-- At most one caller has a call on a command under way. -/
def Alone (s : System α) : Prop :=
  ∀ c d e e', s.call? c = some (.executing e) → s.call? d = some (.executing e') → c = d

theorem Alone.step (h : s.Alone) (m : Moment) (action : Action α)
    (hfree : action.executes = true → s.isFree = true) : (s.step m action).1.Alone := by
  -- A call that was not under way before has just started, and then there was none.
  have hold : ∀ c e, (s.step m action).1.call? c = some (.executing e) →
      s.actor? action = some c ∧ s.isFree = true ∨ ∃ e', s.call? c = some (.executing e') := by
    intro c e hcall
    rcases execution?_of_call? hcall with ⟨-, hold⟩ | hexecution
    · exact .inr ⟨e, hold⟩
    · have hactor := actor?_of_execution? hexecution
      rcases execution?_cases hexecution with ⟨_, rfl, -, -⟩ | ⟨e', _, -, hbefore, -, -⟩
      · exact .inl ⟨hactor, hfree rfl⟩
      · exact .inr ⟨e', hbefore⟩
  intro c d e e' hc hd
  rcases hold c e hc with ⟨hactor, hempty⟩ | ⟨before, hbefore⟩
  · rcases hold d e' hd with ⟨hactor', -⟩ | ⟨before', hbefore'⟩
    · exact Option.some.inj (hactor.symm.trans hactor')
    · exact (not_executing_of_isFree hempty hbefore').elim
  · rcases hold d e' hd with ⟨-, hempty⟩ | ⟨before', hbefore'⟩
    · exact (not_executing_of_isFree hempty hbefore).elim
    · exact h c d before before' hbefore hbefore'

theorem alone_after (hidle : ∀ c, s.call? c = none) {run : Run α}
    (h : s.isSequential run = true) : (s.after run).Alone := by
  induction run with
  | nil => exact fun c _ _ _ hc => by cases (hidle c).symm.trans hc
  | cons event before ih =>
    obtain ⟨m, action⟩ := event
    rw [isSequential, Bool.and_eq_true, Bool.or_eq_true, Bool.not_eq_true'] at h
    exact (ih h.1).step m action fun hexecutes => h.2.resolve_left (by simp [hexecutes])

/-! ## What is told to the cache -/

theorem of_upkeep? {operation : Cache.Operation} (h : s.upkeep? action = some operation) :
    (action = .dispose ∧ operation = .clear) ∨
      ∃ c e signal, action = .signal c signal ∧ s.call? c = some (.executing e) ∧
        e.phase.upkeep? signal = some operation := by
  cases action with
  | begin _ _ | attend | tick _ | abandon _ => cases h
  | dispose =>
    have hcleared : (if s.executor.disposed then none else some Cache.Operation.clear) =
      some operation := h
    split at hcleared <;> cases hcleared
    exact .inl ⟨rfl, rfl⟩
  | signal c signal =>
    obtain ⟨call, hcall, htold⟩ := Option.bind_eq_some_iff.mp h
    cases call with
    | executing e => exact .inr ⟨c, e, signal, rfl, hcall, htold⟩
    | configuring _ | updating _ | testing _ => cases htold

/-- While a call goes on that is alone, the cache is told nothing but that it is given up. -/
theorem Alone.upkeep?_cases (h : s.Alone) (hcall : s.call? c = some (.executing e))
    {e' : Execution α} (hgoes : (s.step m action).1.call? c = some (.executing e')) :
    s.upkeep? action = none ∨ (action = .dispose ∧ s.upkeep? action = some .clear) := by
  cases htold : s.upkeep? action with
  | none => exact .inl rfl
  | some operation =>
    rcases of_upkeep? htold with ⟨hdispose, rfl⟩ | ⟨d, e'', signal, rfl, hd, hupkeep⟩
    · exact .inr ⟨hdispose, rfl⟩
    · obtain rfl := h c d e e'' hcall hd
      rw [step_signal hd, call?_absorb, if_pos rfl] at hgoes
      obtain ⟨hphase, -⟩ := execution_of_executed (Progress.state?_eq_some_iff.mp hgoes)
      cases (Executor.settled_of_phase_upkeep? hupkeep).1.symm.trans hphase

def Disposed (run : Run α) : Prop := ∃ m, (m, Action.dispose) ∈ run

/-- What the requests of calls on commands are conditioned on is what the cache has for them, and
after the cache was given up it has nothing for them. -/
def Current (s : System α) (run : Run α) : Prop :=
  ∀ c phase e, s.phase? c = some phase → phase.exchange? = some e →
    e.cached = e.key.bind s.executor.cache.get? ∨
      (Disposed run ∧ e.key.bind s.executor.cache.get? = none)

theorem Current.step {run : Run α} (h : s.Current run) (hfits : s.Fits) (halone : s.Alone)
    (m : Moment) (action : Action α) : (s.step m action).1.Current ((m, action) :: run) := by
  intro c phase e hphase he
  obtain ⟨x, hx, rfl⟩ := call?_of_phase? hphase
  have hcache := hfits.cache_step m action
  -- The cache stays as it is while a call goes on with the same request.
  have hsame : ∀ before, s.phase? c = some before → before.exchange? = some e →
      e.cached = e.key.bind (s.step m action).1.executor.cache.get? ∨
        (Disposed ((m, action) :: run) ∧
          e.key.bind (s.step m action).1.executor.cache.get? = none) := by
    intro before hbefore hold
    obtain ⟨y, hy, rfl⟩ := call?_of_phase? hbefore
    rcases halone.upkeep?_cases hy hx with hnothing | ⟨rfl, hcleared⟩
    · rw [hnothing, Cache.upkeep_none] at hcache
      rw [hcache]
      exact (h c _ e hbefore hold).imp_right fun ⟨⟨m', hin⟩, hnone⟩ =>
        ⟨⟨m', List.mem_cons_of_mem _ hin⟩, hnone⟩
    · rw [hcleared] at hcache
      refine .inr ⟨⟨m, List.mem_cons_self⟩, ?_⟩
      rw [hcache]
      cases e.key <;> rfl
  rcases execution?_of_call? hx with ⟨-, hold⟩ | hexecution
  · exact hsame _ (phase?_of_call? hold) he
  · obtain ⟨next, hfollows, hstep⟩ := step_of_execution? hfits hexecution m
    have hnext : (s.step m action).1.executor.cache = next.1.cache := by
      rw [hstep, (s.aside_absorb c _).cache, (Executor.executed_spec _ _ next).1]
    rcases hfollows.source x.phase e (state?_of_step hstep hx) he with hold | hprepared
    · obtain ⟨before, hbefore, hold⟩ := Option.bind_eq_some_iff.mp hold
      exact hsame before hbefore hold
    · rw [hnext]
      exact .inl hprepared

theorem current_after (hidle : ∀ c, s.call? c = none) {run : Run α}
    (h : s.isSequential run = true) : (s.after run).Current run := by
  induction run with
  | nil =>
    intro c phase e hphase he
    obtain ⟨x, hx, -⟩ := call?_of_phase? hphase
    cases (hidle c).symm.trans hx
  | cons event before ih =>
    have hbefore := isSequential_of_cons h
    exact (ih hbefore).step ((fits_of_idle hidle).after before) (alone_after hidle hbefore)
      event.1 event.2

/-! ## Where entries come from -/

/-- The body of an answer comes whose head named a version, to a request under this key. -/
def Gives (s : System α) (action : Action α) (key : Cache.Key) (version : String) (body : Bytes) :
    Prop :=
  ∃ c trail f head d, s.phase? c = some (.flying trail f) ∧
    action = .signal c (.body f.ticket (.ok body)) ∧ f.head = some head ∧
    head.status.isSuccess = true ∧ head.headers.text? Headers.etag = some version ∧
    s.executor.dispatch? f.ticket = some d ∧ d.wire.key = key

/-- An answer comes to a request under this key, and confirms the version that the request named. -/
def Confirms (s : System α) (action : Action α) (key : Cache.Key) (version : String) : Prop :=
  ∃ c trail f head d, s.phase? c = some (.flying trail f) ∧
    action = .signal c (.head f.ticket (.ok head)) ∧ f.head = none ∧
    head.status = .notModified ∧
    s.executor.dispatch? f.ticket = some d ∧ d.wire.key = key ∧
    Bytes.ofString version ∈ d.wire.headers.conditions

/-- An entry is the body of the answer along a run with which it was stored, and is from the moment
when that came or when its version was last confirmed. -/
inductive Vouched (s : System α) : Run α → Cache.Key → Cache.Entry → Prop
  | given {before : Run α} {m : Moment} {action : Action α} {key : Cache.Key} {version : String}
      {body : Bytes} (gives : (s.after before).Gives action key version body)
      (stored : ((s.after before).step m action).1.executor.cache.get? key =
        some ⟨version, body, m.now⟩) :
      Vouched s ((m, action) :: before) key ⟨version, body, m.now⟩
  | confirmed {before : Run α} {m : Moment} {action : Action α} {key : Cache.Key}
      {entry : Cache.Entry} (earlier : Vouched s before key entry)
      (confirms : (s.after before).Confirms action key entry.changeVector) :
      Vouched s ((m, action) :: before) key { entry with storedAt := m.now }
  | still {before : Run α} {event : Moment × Action α} {key : Cache.Key} {entry : Cache.Entry}
      (earlier : Vouched s before key entry) : Vouched s (event :: before) key entry

theorem Fits.flight_record (h : s.Fits) {trail : Trail} {f : Flight α} {key : Cache.Key}
    (hphase : s.phase? c = some (.flying trail f)) (hkey : f.exchange.key = some key) :
    ∃ d, s.executor.dispatch? f.ticket = some d ∧ d.Carries .command f.exchange ∧
      d.wire.key = key := by
  obtain ⟨command, noCaching, hfits⟩ := h.flight hphase
  obtain ⟨d, hd, hcarries⟩ := hfits.record
  have hmade := hfits.isFor.key
  rw [hkey] at hmade
  split at hmade
  · cases hmade
    exact ⟨d, hd, hcarries, hcarries.key⟩
  · cases hmade

theorem Fits.gives (h : s.Fits) {trail : Trail} {f : Flight α} {head : ResponseHead}
    {key : Cache.Key} {version : String} (hphase : s.phase? c = some (.flying trail f))
    (hhead : f.head = some head) (hsuccess : head.status.isSuccess = true)
    (hkey : f.exchange.key = some key) (hversion : head.headers.text? Headers.etag = some version)
    (body : Bytes) : s.Gives (.signal c (.body f.ticket (.ok body))) key version body := by
  obtain ⟨d, hd, -, hdkey⟩ := h.flight_record hphase hkey
  exact ⟨c, trail, f, head, d, hphase, rfl, hhead, hsuccess, hversion, hd, hdkey⟩

theorem Fits.confirms (h : s.Fits) {run : Run α} (hcurrent : s.Current run) {trail : Trail}
    {f : Flight α} {head : ResponseHead} {key : Cache.Key} {cached entry : Cache.Entry}
    (hphase : s.phase? c = some (.flying trail f)) (hwaits : f.head = none)
    (hstatus : head.status = .notModified) (hkey : f.exchange.key = some key)
    (hcached : f.exchange.cached = some cached) (hentry : s.executor.cache.get? key = some entry) :
    s.Confirms (.signal c (.head f.ticket (.ok head))) key entry.changeVector := by
  obtain ⟨d, hd, hcarries, hdkey⟩ := h.flight_record hphase hkey
  have hversion : cached = entry := by
    rcases hcurrent c _ f.exchange hphase rfl with hsame | ⟨-, hgone⟩
    · rw [hcached, hkey, Option.bind_some, hentry] at hsame
      exact Option.some.inj hsame
    · rw [hkey, Option.bind_some, hentry] at hgone
      cases hgone
  refine ⟨c, trail, f, head, d, hphase, rfl, hwaits, hstatus, hd, hdkey, ?_⟩
  rw [hcarries.conditions, Exchange.condition, hcached, hversion]
  simp

theorem vouched_step {run : Run α} (hfits : (s.after run).Fits)
    (hcurrent : (s.after run).Current run)
    (h : ∀ key entry, (s.after run).executor.cache.get? key = some entry → s.Vouched run key entry)
    {key : Cache.Key} {entry : Cache.Entry}
    (hentry : ((s.after run).step m action).1.executor.cache.get? key = some entry) :
    s.Vouched ((m, action) :: run) key entry := by
  have hfound := hentry
  rw [hfits.cache_step m action] at hfound
  cases htold : (s.after run).upkeep? action with
  | none =>
    rw [htold, Cache.upkeep_none] at hfound
    exact .still (h key entry hfound)
  | some operation =>
    rw [htold] at hfound
    rcases of_upkeep? htold with ⟨-, rfl⟩ |
      ⟨c, ⟨command, options, phase⟩, signal, rfl, hcall, hupkeep⟩
    · cases hfound
    · cases phase with
      | ensuring _ | pausing _ _ _ => cases hupkeep
      | flying trail f =>
        have hphase := phase?_of_call? hcall
        rcases Flight.of_upkeep? hupkeep with
          ⟨head, key', cached, rfl, hwaits, hstatus, hkey, hcached, rfl⟩ |
          ⟨head, bytes, result, key', etag, rfl, hhead, hsuccess, -, hkey, hetag, rfl⟩
        · have hrefreshed : ((s.after run).executor.cache.refreshAge m.now key').1.get? key =
            some entry := hfound
          rw [Cache.get?_refreshAge_eq] at hrefreshed
          split at hrefreshed
          · rename_i hsame
            subst hsame
            obtain ⟨old, hold, rfl⟩ := Option.map_eq_some_iff.mp hrefreshed
            exact .confirmed (h _ old hold)
              (hfits.confirms hcurrent hphase hwaits hstatus hkey hcached hold)
          · exact .still (h key entry hrefreshed)
        · rcases Cache.get?_put hfound with ⟨rfl, rfl⟩ | hold
          · exact .given (hfits.gives hphase hhead hsuccess hkey hetag bytes) hentry
          · exact .still (h key entry hold)

/-- Whatever the cache has was given by a server, and is as old as that or its confirmation. -/
theorem vouched_after (hidle : ∀ c, s.call? c = none)
    (hempty : ∀ key, s.executor.cache.get? key = none) {run : Run α}
    (h : s.isSequential run = true) {key : Cache.Key} {entry : Cache.Entry}
    (hentry : (s.after run).executor.cache.get? key = some entry) : s.Vouched run key entry := by
  induction run generalizing key entry with
  | nil => cases (hempty key).symm.trans hentry
  | cons event before ih =>
    have hbefore := isSequential_of_cons h
    exact vouched_step ((fits_of_idle hidle).after before) (current_after hidle hbefore)
      (fun _ _ hold => ih hbefore hold) hentry

end System

end ClusterClient
