import ClusterClient.Proofs.Executor.Conditions
import ClusterClient.Proofs.Executor.Servers

/-!
# Requests and what they ask of the cache

Every request that a call waits for was made by a command for a node and stands on
record as it left.  Whether its answer may be kept is up to the command and the
call, and what it is conditioned on is what the cache had.  Requests of the
executor itself have nothing to do with the cache.
-/

namespace ClusterClient

variable {α β : Type}

namespace Headers

def conditions (headers : Headers) : List Bytes := (headers.filter (·.1 = ifNoneMatch)).map (·.2)

theorem conditions_add (headers : Headers) {name : String} (value : String)
    (h : name ≠ ifNoneMatch) : (headers.add name value).conditions = headers.conditions := by
  simp [conditions, add, h]

theorem conditions_add_ifNoneMatch (headers : Headers) (value : String) :
    (headers.add ifNoneMatch value).conditions = headers.conditions ++ [Bytes.ofString value] := by
  simp [conditions, add]

end Headers

def Wire.key (w : Wire) : Cache.Key := .of w.method w.url.text w.body

/-- A command whose answers are never kept and whose requests have no headers of their own. -/
structure Command.Bare (command : Command β) : Prop where
  uncacheable : command.isCacheable = false
  headers : ∀ node request, command.request node = .ok request → request.headers = []

/-- The request that a command makes for a node, with a key if the answer may be kept. -/
structure Exchange.IsFor (e : Exchange β) (command : Command β) (noCaching : Bool) : Prop where
  command_eq : e.command = command
  request : command.request e.node = .ok e.request
  key : e.key = if command.isCacheable && !noCaching then some e.cacheKey else none
  cached : e.key = none → e.cached = none

/-- A request on record is the one of an exchange, conditioned on what the cache had for it. -/
structure Dispatch.Carries (d : Dispatch) (purpose : Purpose) (e : Exchange β) : Prop where
  purpose : d.purpose = purpose
  node : d.node = e.node
  key : d.wire.key = e.cacheKey
  conditions : d.wire.headers.conditions = e.request.headers.conditions ++ e.condition.toList

structure Dispatch.Bare (d : Dispatch) : Prop where
  purpose : d.purpose ≠ .command
  conditions : d.wire.headers.conditions = []

structure Flight.Fits (f : Flight β) (x : Executor) (purpose : Purpose) (command : Command β)
    (noCaching : Bool) : Prop where
  isFor : f.exchange.IsFor command noCaching
  record : ∃ d, x.dispatch? f.ticket = some d ∧ d.Carries purpose f.exchange

def Flight.FitsBare (f : Flight β) (x : Executor) (purpose : Purpose) : Prop :=
  ∃ command, command.Bare ∧ f.Fits x purpose command true

def Refresh.Fits (r : Refresh) (x : Executor) : Prop :=
  ∀ sweep, r = .sweeping sweep → sweep.flight.FitsBare x .topology

def Phase.Fits (phase : Phase β) (x : Executor) (command : Command β) (noCaching : Bool) : Prop :=
  match phase with
  | .ensuring update => update.refresh.Fits x
  | .pausing _ e _ => e.IsFor command noCaching
  | .flying _ f => f.Fits x .command command noCaching

def Trial.Fits (t : Trial) (x : Executor) : Prop :=
  ∀ f, t.state = .underWay f → f.FitsBare x .probe

def Call.Fits (call : Call α) (x : Executor) : Prop :=
  match call with
  | .executing c => c.phase.Fits x c.command c.options.noCaching
  | .configuring c => c.command.Bare ∧ c.phase.Fits x c.command c.options.noCaching
  | .updating u => u.refresh.Fits x
  | .testing t => ∀ trial ∈ t.trials, trial.Fits x

variable {x y : Executor} {command : Command β} {noCaching : Bool} {purpose : Purpose}

/-! ## Commands of the executor itself -/

theorem Command.bare_topology (x : Executor) : x.topologyCommand.Bare := by
  unfold Executor.topologyCommand
  cases x.scope with
  | database name =>
    refine ⟨rfl, fun node request h => ?_⟩
    simp only [databaseTopology, bind, Except.bind] at h
    split at h <;> cases h
    rfl
  | cluster =>
    refine ⟨rfl, fun node request h => ?_⟩
    simp only [clusterTopology, bind, Except.bind] at h
    split at h <;> cases h
    rfl

theorem Command.bare_configuration (database : String) :
    (Command.configuration database).Bare := by
  refine ⟨rfl, fun node request h => ?_⟩
  simp only [configuration, bind, Except.bind] at h
  split at h <;> cases h
  rfl

theorem Command.bare_probe (limit : Duration) : (Command.probe limit).Bare := by
  refine ⟨rfl, fun node request h => ?_⟩
  simp only [probe, bind, Except.bind] at h
  split at h <;> cases h
  rfl

/-! ## Exchanges -/

namespace Exchange.IsFor

variable {e : Exchange β}

theorem key_eq_none (h : e.IsFor command noCaching)
    (hkeep : (command.isCacheable && !noCaching) = false) : e.key = none := by
  rw [h.key, hkeep]
  rfl

theorem cached_eq_none (h : e.IsFor command noCaching)
    (hkeep : (command.isCacheable && !noCaching) = false) : e.cached = none :=
  h.cached (h.key_eq_none hkeep)

theorem conditions_of_bare (h : e.IsFor command noCaching) (hbare : command.Bare) :
    e.request.headers.conditions ++ e.condition.toList = [] := by
  have hcached : e.cached = none := h.cached_eq_none (by rw [hbare.uncacheable]; rfl)
  rw [hbare.headers e.node e.request h.request, Exchange.condition, hcached]
  rfl

end Exchange.IsFor

theorem Dispatch.Carries.bare {d : Dispatch} {e : Exchange β} (h : d.Carries purpose e)
    (hfor : e.IsFor command noCaching) (hbare : command.Bare) (hpurpose : purpose ≠ .command) :
    d.Bare :=
  ⟨h.purpose ▸ hpurpose, h.conditions.trans (hfor.conditions_of_bare hbare)⟩

namespace Executor

theorem conditions_headers (x : Executor) (e : Exchange β) :
    (x.headers e).conditions = e.request.headers.conditions ++ e.condition.toList := by
  have htopology : Headers.topologyEtag ≠ Headers.ifNoneMatch := by decide
  have hconfiguration : Headers.configurationEtag ≠ Headers.ifNoneMatch := by decide
  have hraft : Headers.raftRequestId ≠ Headers.ifNoneMatch := by decide
  unfold headers Exchange.condition
  cases x.scope.isDatabase <;> cases e.cached <;> cases e.command.raftRequestId <;>
    simp [Headers.conditions_add, Headers.conditions_add_ifNoneMatch, htopology, hconfiguration,
      hraft]

theorem carries_wire (x : Executor) (purpose : Purpose) (e : Exchange β)
    (limit : Option Duration) :
    ({ purpose, node := e.node, wire := x.wire e, limit } : Dispatch).Carries purpose e :=
  ⟨rfl, rfl, rfl, x.conditions_headers e⟩

theorem isFor_of_prepare {node : Node} {e : Exchange β}
    (h : x.prepare command node noCaching = .ok e) :
    e.IsFor command noCaching ∧ e.node = node ∧ e.cached = e.key.bind x.cache.get? := by
  unfold prepare at h
  cases hrequest : command.request node with
  | error cause =>
    rw [hrequest] at h
    cases h
  | ok request =>
    rw [hrequest] at h
    cases h
    refine ⟨⟨rfl, hrequest, rfl, fun hkey => ?_⟩, rfl, rfl⟩
    dsimp only at hkey ⊢
    rw [hkey]
    rfl

theorem launch_spec {node : Node} {limit : Option Duration} {f : Flight β}
    (h : x.launch purpose command node limit = .ok (y, f)) :
    ∃ d, y.sent = d :: x.sent ∧ f.ticket = x.sent.length ∧ d.Carries purpose f.exchange ∧
      f.exchange.IsFor command true := by
  unfold launch at h
  cases hprepare : x.prepare command node true with
  | error cause =>
    rw [hprepare] at h
    cases h
  | ok e =>
    rw [hprepare] at h
    obtain ⟨⟨pool, rfl⟩, rfl⟩ := send_eq_ok h
    exact ⟨_, rfl, rfl, x.carries_wire purpose e limit, (isFor_of_prepare hprepare).1⟩

end Executor

/-! ## Requests that left stay on record -/

theorem Flight.Fits.mono {f : Flight β} (h : f.Fits x purpose command noCaching)
    (hsent : x.sent <:+ y.sent) : f.Fits y purpose command noCaching := by
  obtain ⟨d, hd, hcarries⟩ := h.record
  exact ⟨h.isFor, d, Executor.dispatch?_of_suffix hsent hd, hcarries⟩

theorem Flight.FitsBare.mono {f : Flight β} (h : f.FitsBare x purpose)
    (hsent : x.sent <:+ y.sent) : f.FitsBare y purpose := by
  obtain ⟨command, hbare, hfits⟩ := h
  exact ⟨command, hbare, hfits.mono hsent⟩

theorem Refresh.Fits.mono {r : Refresh} (h : r.Fits x) (hsent : x.sent <:+ y.sent) : r.Fits y :=
  fun sweep hr => (h sweep hr).mono hsent

theorem Phase.Fits.mono {phase : Phase β} (h : phase.Fits x command noCaching)
    (hsent : x.sent <:+ y.sent) : phase.Fits y command noCaching := by
  cases phase with
  | ensuring update => exact Refresh.Fits.mono h hsent
  | pausing _ _ _ => exact h
  | flying _ _ => exact Flight.Fits.mono h hsent

theorem Call.Fits.mono {call : Call α} (h : call.Fits x) (hsent : x.sent <:+ y.sent) :
    call.Fits y := by
  cases call with
  | executing c => exact Phase.Fits.mono h hsent
  | configuring c => exact ⟨h.1, h.2.mono hsent⟩
  | updating u => exact Refresh.Fits.mono h hsent
  | testing t => exact fun trial htrial f hf => (h trial htrial f hf).mono hsent

theorem Flight.Fits.advanced {f f' : Flight β} (h : f.Fits x purpose command noCaching)
    (hsame : ∃ head, f' = { f with head }) (hsent : y.sent = x.sent) :
    f'.Fits y purpose command noCaching := by
  obtain ⟨head, rfl⟩ := hsame
  obtain ⟨d, hd, hcarries⟩ := h.record
  exact ⟨h.isFor, d, Executor.dispatch?_of_suffix (hsent ▸ List.suffix_rfl) hd, hcarries⟩

theorem Flight.fitsBare_of_launch {node : Node} {limit : Option Duration} {f : Flight β}
    (h : x.launch purpose command node limit = .ok (y, f)) (hbare : command.Bare) :
    f.FitsBare y purpose := by
  obtain ⟨d, hsent, hticket, hcarries, hfor⟩ := Executor.launch_spec h
  exact ⟨command, hbare, hfor, d, hticket ▸ Executor.dispatch?_cons hsent, hcarries⟩

namespace Executor

/-! ## Wishes -/

/-- A step of a wish sends requests of the executor itself only, and none if the wish comes to its
end. -/
structure AsksBare {ρ : Type} (x : Executor) (next : Executor × Progress Refresh ρ) : Prop where
  sent : ∃ new, next.1.sent = new ++ x.sent ∧ ∀ d ∈ new, d.Bare
  settled : ∀ result, next.2 = .done result → next.1.sent = x.sent
  refresh : ∀ r, next.2.state? = some r → r.Fits next.1

theorem asksBare_done {ρ : Type} (result : ρ) (h : y.sent = x.sent) :
    x.AsksBare (y, .done result) :=
  ⟨⟨[], h, by simp⟩, fun _ _ => h, fun _ hr => by cases hr⟩

theorem asksBare_queued {ρ : Type} (x : Executor) (order : SweepOrder) (observed : Nat) :
    x.AsksBare ((x, .waiting (.queued order observed)) : Executor × Progress Refresh ρ) := by
  refine ⟨⟨[], rfl, by simp⟩, fun _ _ => rfl, fun r hr sweep hsweep => ?_⟩
  cases hr
  cases hsweep

theorem AsksBare.of_sent {ρ : Type} {next : Executor × Progress Refresh ρ} (h : y.AsksBare next)
    (hsent : y.sent = x.sent) : x.AsksBare next :=
  ⟨hsent ▸ h.sent, hsent ▸ h.settled, h.refresh⟩

theorem asksBare_ask (x : Executor) (limit : Option Duration) (failures : List NodeFailure)
    (now : Instant) (nodes : List Node) :
    x.AsksBare ((x.ask limit failures now nodes).1,
      (x.ask limit failures now nodes).2.mapState .sweeping) := by
  induction nodes generalizing failures with
  | nil => exact asksBare_done _ rfl
  | cons node rest ih =>
    rw [ask]
    cases hlaunch : x.launch .topology x.topologyCommand node limit with
    | error fault => exact ih _
    | ok launched =>
      obtain ⟨y, flight⟩ := launched
      have hbare := Command.bare_topology x
      obtain ⟨d, hsent, -, hcarries, hfor⟩ := launch_spec hlaunch
      refine ⟨⟨[d], hsent, ?_⟩, fun _ hdone => (by cases hdone), fun r hr sweep hsweep => ?_⟩
      · simpa using hcarries.bare hfor hbare (by simp)
      · cases hr
        cases hsweep
        exact Flight.fitsBare_of_launch hlaunch hbare

theorem asksBare_refreshLocked (x : Executor) (order : SweepOrder) (observed : Nat)
    (now : Instant) : x.AsksBare (x.refreshLocked order observed now) := by
  unfold refreshLocked
  split
  · exact asksBare_done _ rfl
  · split
    · exact asksBare_done _ rfl
    · exact (asksBare_ask { x with lockHeld := true } order.limit [] now order.nodes).of_sent rfl

theorem asksBare_refresh (x : Executor) (order : SweepOrder) (now : Instant) :
    x.AsksBare (x.refresh order now) := by
  unfold refresh
  split
  · exact x.asksBare_queued order x.sweeps
  · exact x.asksBare_refreshLocked order x.sweeps now

theorem asksBare_advanceRefresh {r : Refresh} (h : r.Fits x) (signal : Signal) (now : Instant) :
    x.AsksBare (x.advanceRefresh r signal now) := by
  cases r with
  | queued order observed =>
    unfold advanceRefresh
    cases signal with
    | granted =>
      dsimp only
      split
      · exact x.asksBare_queued order observed
      · exact x.asksBare_refreshLocked order observed now
    | lockTimedOut => exact asksBare_done _ rfl
    | resumed | head _ _ | body _ _ | expired _ => exact x.asksBare_queued order observed
  | sweeping sweep =>
    obtain ⟨mailbox, cache, hfst⟩ := x.advanceFlight_fst sweep.flight signal now
    unfold advanceRefresh advanceSweep
    dsimp only
    cases hadvance : x.advanceFlight sweep.flight signal now with
    | mk z progress =>
      rw [hadvance] at hfst
      obtain rfl : z = { x with mailbox, cache } := hfst
      match progress with
      | .waiting flight =>
        refine ⟨⟨[], rfl, by simp⟩, fun _ _ => rfl, fun r hr sweep' hsweep => ?_⟩
        cases hr
        cases hsweep
        obtain ⟨command, hbare, hfits⟩ := h sweep rfl
        exact ⟨command, hbare,
          hfits.advanced (advanceFlight_waiting (congrArg Prod.snd hadvance)) rfl⟩
      | .done (.answered topology _ _) =>
        exact asksBare_done _ (({ x with mailbox, cache } : Executor).sent_install topology)
      | .done (.failed reason) =>
        exact (asksBare_ask { x with mailbox, cache } _ _ now sweep.rest).of_sent rfl
      | .done (.ended fault) =>
        exact (asksBare_ask { x with mailbox, cache } _ _ now sweep.rest).of_sent rfl

end Executor

/-! ## Calls on commands -/

def Phase.exchange? : Phase β → Option (Exchange β)
  | .ensuring _ => none
  | .pausing _ e _ => some e
  | .flying _ f => some f.exchange

def Phase.ticket? : Phase β → Option Nat
  | .ensuring _ | .pausing _ _ _ => none
  | .flying _ f => some f.ticket

/-- Where a request of a call on a command comes from: it waited already, or it was prepared with
what the cache has. -/
def Executor.Source (cache : Cache) (before : Option (Phase β)) (e : Exchange β) : Prop :=
  before.bind Phase.exchange? = some e ∨ e.cached = e.key.bind cache.get?

/-- A request that left for a call on a command: one of the executor itself, or one of the
command. -/
def Dispatch.IsFor (d : Dispatch) (command : Command β) (noCaching : Bool) (cache : Cache)
    (before : Option (Phase β)) : Prop :=
  d.Bare ∨ ∃ e, e.IsFor command noCaching ∧ d.Carries .command e ∧ Executor.Source cache before e

namespace Executor

/-- What a step of a call on a command sends, waits for and gets, when this was what it had under
way before. -/
structure Follows (x : Executor) (before : Option (Phase β)) (command : Command β)
    (noCaching : Bool) (next : Next β) : Prop where
  sent : ∃ new, next.1.sent = new ++ x.sent ∧
    ∀ d ∈ new, d.IsFor command noCaching next.1.cache before
  phase : ∀ phase, next.2.state? = some phase → phase.Fits next.1 command noCaching
  source : ∀ phase e, next.2.state? = some phase → phase.exchange? = some e →
    Source next.1.cache before e
  ticket : ∀ phase ticket, next.2.state? = some phase → phase.ticket? = some ticket →
    before.bind Phase.ticket? = some ticket ∨ x.sent.length ≤ ticket
  result : ∀ executed, next.2.result? = some (.ok executed) → executed.fromCache = true →
    (command.isCacheable && !noCaching) = true

variable {before : Option (Phase β)} {options : Options} {m : Moment}

theorem follows_failed (e : ExecutorError) (h : y.sent = x.sent) :
    x.Follows before command noCaching ((y, .done (.error e)) : Next β) :=
  ⟨⟨[], h, by simp⟩, fun _ hphase => (by cases hphase), fun _ _ hphase => (by cases hphase),
    fun _ _ hphase => (by cases hphase), fun _ hresult => by cases hresult⟩

/-- What was sent on the way to a step was sent by the executor itself. -/
theorem Follows.of_sent {next : Next β} (h : y.Follows before command noCaching next)
    (hsent : ∃ new, y.sent = new ++ x.sent ∧ ∀ d ∈ new, d.Bare) :
    x.Follows before command noCaching next := by
  obtain ⟨new, hnew, hfor⟩ := h.sent
  obtain ⟨bare, hbare, hbares⟩ := hsent
  refine ⟨⟨new ++ bare, ?_, ?_⟩, h.phase, h.source, fun phase ticket hphase hticket => ?_, h.result⟩
  · rw [hnew, hbare, List.append_assoc]
  · intro d hd
    rcases List.mem_append.mp hd with hd | hd
    · exact hfor d hd
    · exact .inl (hbares d hd)
  · refine (h.ticket phase ticket hphase hticket).imp_right (Nat.le_trans ?_)
    rw [hbare, List.length_append]
    exact Nat.le_add_left _ _

theorem Follows.of_sent_eq {next : Next β} (h : y.Follows before command noCaching next)
    (hsent : y.sent = x.sent) : x.Follows before command noCaching next :=
  h.of_sent ⟨[], hsent, by simp⟩

theorem follows_beginAttempt (x : Executor) (t : Trail) {e : Exchange β}
    (hfor : e.IsFor command noCaching) (hsource : Source x.cache before e) :
    x.Follows before command noCaching (x.beginAttempt t e) := by
  have hcache := (x.aside_beginAttempt t e).cache
  unfold beginAttempt at hcache ⊢
  dsimp only at hcache ⊢
  split
  · rename_i z f hsend
    rw [hsend] at hcache
    have hcarries := (x.emit (.before e.request.url t.attempt)).carries_wire .command e none
    obtain ⟨⟨pool, rfl⟩, rfl⟩ := send_eq_ok hsend
    refine ⟨⟨[_], rfl, ?_⟩, ?_, ?_, ?_, ?_⟩
    · intro d hd
      cases List.mem_singleton.mp hd
      exact .inr ⟨e, hfor, hcarries, hsource⟩
    · intro phase hphase
      cases hphase
      exact ⟨hfor, _, dispatch?_cons rfl, hcarries⟩
    · intro phase e' hphase he
      cases hphase
      cases he
      exact hsource
    · intro phase ticket hphase hticket
      cases hphase
      cases hticket
      exact .inr (Nat.le_refl _)
    · intro executed hresult
      cases hresult
  · exact follows_failed _ rfl

theorem youngAnswer?_cached {e : Exchange β} {entry : Cache.Entry} {now : Instant}
    (h : x.youngAnswer? e now = some entry) : e.cached = some entry := by
  unfold youngAnswer? at h
  obtain ⟨window, -, h⟩ := Option.bind_eq_some_iff.mp h
  obtain ⟨old, hold, h⟩ := Option.bind_eq_some_iff.mp h
  split at h <;> cases h
  exact hold

theorem keeps_of_cached {e : Exchange β} {entry : Cache.Entry} (hfor : e.IsFor command noCaching)
    (h : e.cached = some entry) : (command.isCacheable && !noCaching) = true := by
  cases hkeep : command.isCacheable && !noCaching with
  | true => rfl
  | false => cases (hfor.cached_eq_none hkeep).symm.trans h

theorem follows_attempt (x : Executor) (before : Option (Phase β)) (command : Command β)
    (options : Options) (number : Nat) (failures : List NodeFailure) (nodes : List Node)
    (m : Moment) :
    x.Follows before command options.noCaching
      (x.attempt command options number failures nodes m) := by
  have hturn := x.turnsTo_attempt command options number failures nodes m
  generalize x.attempt command options number failures nodes m = next at hturn ⊢
  cases hturn with
  | noneLeft | noRequest _ | noDelay _ => exact follows_failed _ rfl
  | served e entry hprepare hyoung =>
    obtain ⟨hfor, -, -⟩ := isFor_of_prepare hprepare
    refine ⟨⟨[], rfl, by simp⟩, fun _ hphase => (by cases hphase),
      fun _ _ hphase => (by cases hphase), fun _ _ hphase => (by cases hphase),
      fun executed _ _ => ?_⟩
    exact keeps_of_cached hfor (youngAnswer?_cached hyoung)
  | begins hprepare =>
    obtain ⟨hfor, -, hcached⟩ := isFor_of_prepare hprepare
    exact x.follows_beginAttempt _ hfor (.inr hcached)
  | pauses _ hprepare =>
    obtain ⟨hfor, -, hcached⟩ := isFor_of_prepare hprepare
    refine ⟨⟨[], rfl, by simp⟩, ?_, ?_, ?_, fun _ hresult => by cases hresult⟩
    · intro phase hphase
      cases hphase
      exact hfor
    · intro phase e hphase he
      cases hphase
      cases he
      exact .inr hcached
    · intro phase ticket hphase hticket
      cases hphase
      cases hticket

theorem sent_route (x : Executor) (command : Command β) (session : Option Int) :
    (x.route command session).1.sent = x.sent := by
  unfold route
  split
  · split <;> rfl
  · rfl

theorem follows_follow (x : Executor) (before : Option (Phase β)) (command : Command β)
    (options : Options) (m : Moment) :
    x.Follows before command options.noCaching (x.follow command options m) := by
  have hroute := x.sent_route command options.session
  unfold follow
  split
  · rename_i z e hrouted
    rw [hrouted] at hroute
    exact follows_failed e hroute
  · rename_i z nodes hrouted
    rw [hrouted] at hroute
    exact (z.follows_attempt before command options 1 [] nodes m).of_sent_eq hroute

theorem follows_afterWish {next : Executor × Progress Refresh (Except ExecutorError Bool)}
    (h : x.AsksBare next) (before : Option (Phase β)) (command : Command β) (options : Options)
    (m : Moment) (isFirst : Bool) :
    x.Follows before command options.noCaching (afterWish command options m isFirst next) := by
  obtain ⟨y, progress⟩ := next
  have hsent := h.sent
  cases progress with
  | waiting refresh =>
    obtain ⟨new, hnew, hbare⟩ := hsent
    refine ⟨⟨new, hnew, fun d hd => .inl (hbare d hd)⟩, ?_, ?_, ?_,
      fun _ hresult => by cases hresult⟩
    · intro phase hphase
      cases hphase
      exact h.refresh refresh rfl
    · intro phase e hphase he
      cases hphase
      cases he
    · intro phase ticket hphase hticket
      cases hphase
      cases hticket
  | done result =>
    unfold afterWish updateOf
    simp only [Progress.mapState, Progress.map]
    cases afterUpdate isFirst (y.judge isFirst result) with
    | error e => exact Follows.of_sent (follows_failed e rfl) hsent
    | ok _ => exact (y.follows_follow before command options m).of_sent hsent

theorem follows_execute (x : Executor) (command : Command β) (options : Options) (m : Moment) :
    x.Follows none command options.noCaching (x.execute command options m) := by
  rw [execute_prepared]
  split
  · exact follows_failed _ rfl
  · exact x.follows_follow none command options m
  · exact follows_afterWish (x.asksBare_refresh _ m.now) none command options m _

theorem fromCache_of_readResult {e : Exchange β} {status status' : Status} {flag fromCache : Bool}
    {parsed : Except CommandError β} {result : β}
    (h : readResult e status flag parsed = .answered result status' fromCache) :
    fromCache = flag := by
  cases parsed <;> cases h
  rfl

theorem cached_of_answered {f : Flight β} {signal : Signal} {now : Instant} {result : β}
    {status : Status}
    (h : (x.advanceFlight f signal now).2 = .done (.answered result status true)) :
    ∃ entry, f.exchange.cached = some entry := by
  have hhead : ∀ head : ResponseHead,
      (x.receiveHead f head now).2 = .done (.answered result status true) →
        ∃ entry, f.exchange.cached = some entry := by
    intro head hhead
    unfold receiveHead confirm at hhead
    dsimp only at hhead
    split at hhead
    · split at hhead
      · rename_i hcached
        exact ⟨_, hcached⟩
      · cases hhead
    · split at hhead
      · cases fromCache_of_readResult (Progress.done.inj hhead)
      · cases hhead
  unfold advanceFlight at h
  split at h
  · split at h
    · exact hhead _ h
    · cases h
  · split at h <;> cases h
  · split at h
    · have hbody := Progress.done.inj h
      unfold receiveBody receiveResult refusal at hbody
      dsimp only at hbody
      repeat' split at hbody
      all_goals cases hbody
    · cases h
  · split at h <;> cases h
  · cases h

theorem follows_concludeAttempt {c : Execution β} {t : Trail} {e : Exchange β} {outcome : Outcome β}
    (h : ∀ result status, outcome = .answered result status true →
      (c.command.isCacheable && !c.options.noCaching) = true) (before : Option (Phase β))
    (m : Moment) :
    x.Follows before c.command c.options.noCaching (x.concludeAttempt c t e outcome m) := by
  unfold concludeAttempt
  cases outcome with
  | answered result status fromCache =>
    refine ⟨⟨[], rfl, by simp⟩, fun _ hphase => (by cases hphase),
      fun _ _ hphase => (by cases hphase), fun _ _ hphase => (by cases hphase),
      fun executed hresult hfrom => ?_⟩
    cases hresult
    obtain rfl : fromCache = true := hfrom
    exact h result status rfl
  | ended fault => exact follows_failed _ rfl
  | failed reason => exact (follows_attempt _ before c.command c.options _ _ _ m).of_sent_eq rfl

/-- Whatever a call turns to after an attempt, it is not the request that was answered. -/
theorem follows_settled {trail : Trail} {flight : Flight β} {signal : Signal} {outcome : Outcome β}
    (hfits : flight.Fits x .command command options.noCaching)
    (hsettled : (x.advanceFlight flight signal m.now).2 = .done outcome)
    (before : Option (Phase β)) :
    x.Follows before command options.noCaching
      (x.advanceExecution ⟨command, options, .flying trail flight⟩ signal m) := by
  obtain ⟨mailbox, cache, hfst⟩ := x.advanceFlight_fst flight signal m.now
  have hadvance : x.advanceFlight flight signal m.now =
      ({ x with mailbox, cache }, .done outcome) := Prod.ext hfst hsettled
  unfold advanceExecution
  dsimp only
  rw [hadvance]
  refine Follows.of_sent_eq (y := { x with mailbox, cache })
    (follows_concludeAttempt (c := ⟨command, options, .flying trail flight⟩) ?_ before m) rfl
  rintro result status rfl
  obtain ⟨entry, hcached⟩ := cached_of_answered hsettled
  exact keeps_of_cached hfits.isFor hcached

theorem follows_advanceExecution {c : Execution β}
    (h : c.phase.Fits x c.command c.options.noCaching) (signal : Signal) (m : Moment) :
    x.Follows (some c.phase) c.command c.options.noCaching (x.advanceExecution c signal m) := by
  obtain ⟨command, options, phase⟩ := c
  have hstays : ∀ y : Executor, y.sent = x.sent →
      x.Follows (some phase) command options.noCaching (y, .waiting phase) := by
    intro y hsent
    refine ⟨⟨[], hsent, by simp⟩, ?_, ?_, ?_, fun _ hresult => by cases hresult⟩
    · intro phase' hphase
      cases hphase
      exact Phase.Fits.mono h (hsent ▸ List.suffix_rfl)
    · intro phase' e hphase he
      cases hphase
      exact .inl he
    · intro phase' ticket hphase hticket
      cases hphase
      exact .inl hticket
  cases phase with
  | ensuring update =>
    exact follows_afterWish (asksBare_advanceRefresh h signal m.now) _ command options m _
  | pausing trail e pause =>
    cases signal with
    | resumed => exact x.follows_beginAttempt trail h (.inl rfl)
    | granted | lockTimedOut | head _ _ | body _ _ | expired _ => exact hstays x rfl
  | flying trail flight =>
    have hflight : flight.Fits x .command command options.noCaching := h
    cases hsnd : (x.advanceFlight flight signal m.now).2 with
    | done outcome => exact follows_settled hflight hsnd _
    | waiting flight' =>
      obtain ⟨mailbox, cache, hfst⟩ := x.advanceFlight_fst flight signal m.now
      have hadvance : x.advanceFlight flight signal m.now =
          ({ x with mailbox, cache }, .waiting flight') := Prod.ext hfst hsnd
      obtain ⟨head, rfl⟩ := advanceFlight_waiting hsnd
      unfold advanceExecution
      dsimp only
      rw [hadvance]
      refine ⟨⟨[], rfl, by simp⟩, ?_, ?_, ?_, fun _ hresult => by cases hresult⟩
      · intro phase' hphase
        cases hphase
        exact hflight.advanced ⟨head, rfl⟩ rfl
      · intro phase' e hphase he
        cases hphase
        exact .inl he
      · intro phase' ticket hphase hticket
        cases hphase
        exact .inl hticket

/-! ## All calls -/

def LeavesFitting (step : Step α) : Prop := ∀ call, step.2.state? = some call → call.Fits step.1

theorem leavesFitting_executed {command : Command α} {options : Options} {next : Next α}
    {before : Option (Phase α)} (h : x.Follows before command options.noCaching next) :
    LeavesFitting (executed command options next) := by
  obtain ⟨y, progress⟩ := next
  intro call hcall
  cases progress with
  | done result => cases hcall
  | waiting phase =>
    cases hcall
    exact h.phase phase rfl

theorem leavesFitting_configured {command : Command ConfigurationVersion} {options : Options}
    {next : Next ConfigurationVersion} {before : Option (Phase ConfigurationVersion)}
    (hbare : command.Bare) (h : x.Follows before command options.noCaching next) :
    LeavesFitting (configured command options next : Step α) := by
  obtain ⟨y, progress⟩ := next
  intro call hcall
  match progress with
  | .waiting phase =>
    cases hcall
    exact ⟨hbare, h.phase phase rfl⟩
  | .done (.error e) => cases hcall
  | .done (.ok executed) => cases hcall

theorem leavesFitting_updated {isFirst : Bool}
    {next : Executor × Progress Refresh (Except ExecutorError Bool)} (h : x.AsksBare next) :
    LeavesFitting (updated (updateOf isFirst next) : Step α) := by
  obtain ⟨y, progress⟩ := next
  intro call hcall
  cases progress with
  | done result => cases hcall
  | waiting refresh =>
    cases hcall
    exact h.refresh refresh rfl

theorem leavesFitting_done (x : Executor) (result : Except ExecutorError Bool) :
    LeavesFitting (updated (x, .done result) : Step α) := by
  intro call hcall
  cases hcall

theorem fits_beginTrials (x : Executor) (now : Instant) (nodes : List Node) :
    ∀ trial ∈ (x.beginTrials now nodes).2, trial.Fits (x.beginTrials now nodes).1 := by
  induction nodes generalizing x with
  | nil => exact fun _ htrial => (List.not_mem_nil htrial).elim
  | cons node nodes ih =>
    have htrial : (x.beginTrial node now).2.Fits (x.beginTrial node now).1 := by
      unfold beginTrial
      dsimp only
      split
      · rename_i y flight hlaunch
        intro f hf
        cases hf
        exact Flight.fitsBare_of_launch hlaunch (Command.bare_probe _)
      · exact fun f hf => by cases hf
    have hsuffix := ((x.beginTrial node now).1.aside_beginTrials now nodes).suffix
    intro trial hin
    rcases List.mem_cons.mp hin with rfl | hin
    · exact fun f hf => (htrial f hf).mono hsuffix
    · exact ih _ trial hin

theorem fits_advanceTrial {t : Trial} (h : t.Fits x) (signal : Signal) (now : Instant)
    (hsent : y.sent = x.sent) : (x.advanceTrial t signal now).2.Fits y := by
  unfold advanceTrial
  split
  · rename_i elapsed hstate
    intro f hf
    cases hstate.symm.trans hf
  · rename_i flight hstate
    split
    · rename_i z flight' hadvance
      intro f hf
      cases hf
      obtain ⟨command, hbare, hfits⟩ := h flight hstate
      exact ⟨command, hbare,
        hfits.advanced (advanceFlight_waiting (congrArg Prod.snd hadvance)) hsent⟩
    · intro f hf
      cases hf

theorem fits_advanceTrials (signal : Signal) (now : Instant) {trials : List Trial}
    (h : ∀ trial ∈ trials, trial.Fits x) (hsent : y.sent = x.sent) :
    ∀ trial ∈ (x.advanceTrials signal now trials).2, trial.Fits y := by
  induction trials generalizing x with
  | nil => exact fun _ htrial => (List.not_mem_nil htrial).elim
  | cons first rest ih =>
    obtain ⟨mailbox, cache, hfst⟩ := x.advanceTrials_fst signal now [first]
    have hfirst : (x.advanceTrial first signal now).1.sent = x.sent := by
      rw [show (x.advanceTrial first signal now).1 = _ from hfst]
    intro trial hin
    rcases List.mem_cons.mp hin with rfl | hin
    · exact fits_advanceTrial (h first List.mem_cons_self) signal now hsent
    · refine ih (fun trial' hrest f hf => ?_) (hsent.trans hfirst.symm) trial hin
      exact (h trial' (List.mem_cons_of_mem _ hrest) f hf).mono (hfirst ▸ List.suffix_rfl)

theorem leavesFitting_tested {t : SpeedTest} (h : ∀ trial ∈ t.trials, trial.Fits x) :
    LeavesFitting (tested (x.concludeTest t) : Step α) := by
  unfold concludeTest
  intro call hcall
  split at hcall
  · cases hcall
    exact h
  · cases hcall

theorem leavesFitting_firstUpdate (x : Executor) (now : Instant) :
    LeavesFitting (updated (x.firstUpdate now) : Step α) := by
  unfold firstUpdate
  split
  · exact leavesFitting_done _ _
  · split
    · exact leavesFitting_done _ _
    · split
      · exact leavesFitting_done _ _
      · exact leavesFitting_updated (x.asksBare_refresh _ now)

theorem leavesFitting_begin (x : Executor) (m : Moment) (order : Order α) :
    LeavesFitting (x.begin m order) := by
  cases order with
  | execute command options => exact leavesFitting_executed (x.follows_execute command options m)
  | updateTopology node force limit =>
    unfold begin updateTopology
    dsimp only
    split
    · exact leavesFitting_done _ _
    · exact leavesFitting_updated (x.asksBare_refresh _ m.now)
  | updateConfiguration =>
    unfold begin
    cases x.scope with
    | cluster => exact fun call hcall => by cases hcall
    | database name =>
      exact leavesFitting_configured (Command.bare_configuration name) (x.follows_execute _ {} m)
  | speedTest =>
    unfold begin speedTest
    dsimp only
    split
    · exact fun call hcall => by cases hcall
    · exact leavesFitting_tested (x.fits_beginTrials m.now x.topology.nodes)
  | firstUpdate => exact x.leavesFitting_firstUpdate m.now
  | refreshTopology force =>
    unfold begin refreshTopology
    dsimp only
    split
    · exact leavesFitting_done _ _
    · split
      · exact x.leavesFitting_firstUpdate m.now
      · exact leavesFitting_updated (x.asksBare_refresh _ m.now)

theorem leavesFitting_advance {call : Call α} (h : call.Fits x) (m : Moment) (signal : Signal) :
    LeavesFitting (x.advance m signal call) := by
  cases call with
  | executing c => exact leavesFitting_executed (follows_advanceExecution h signal m)
  | configuring c => exact leavesFitting_configured h.1 (follows_advanceExecution h.2 signal m)
  | updating u => exact leavesFitting_updated (asksBare_advanceRefresh h signal m.now)
  | testing t =>
    obtain ⟨mailbox, cache, hfst⟩ := x.advanceTrials_fst signal m.now t.trials
    exact leavesFitting_tested
      (fits_advanceTrials signal m.now h (by rw [hfst]))

end Executor

end ClusterClient
