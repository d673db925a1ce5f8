import ClusterClient.Proofs.Executor.Upkeep

/-!
# Turning to nodes

A call sets out with the nodes of its plan, and turns to the next of them when one
has failed.  If the cache has an answer of that node that is young enough, the call
is content with it and asks nobody.
-/

namespace ClusterClient

variable {α β : Type}

/-- A call that turns to the first of the nodes that it has left. -/
structure Turn where
  /-- The executor as the call finds it. -/
  executor : Executor
  /-- Which node of the plan it is, counted from one. -/
  number : Nat
  failures : List NodeFailure
  nodes : List Node

def Turn.take (t : Turn) (command : Command β) (options : Options) (m : Moment) : Executor.Next β :=
  t.executor.attempt command options t.number t.failures t.nodes m

/-- The cache has an answer of the node that is young enough to do without the node. -/
structure Turn.Spares (t : Turn) (command : Command β) (options : Options) (now : Instant)
    (node : Node) (request : Request) (entry : Cache.Entry) : Prop where
  first : t.nodes.head? = some node
  cacheable : command.isCacheable = true
  wanted : options.noCaching = false
  made : command.request node = .ok request
  cached : t.executor.cache.get? (.of request.method request.url.text request.body) = some entry
  young : ∃ window,
    (command.aggressiveCacheDuration <|> t.executor.conventions.aggressiveCacheDuration) =
      some window ∧ entry.age now < window.nanos

def Turn.spared (t : Turn) (command : Command β) (node : Node) (request : Request)
    (entry : Cache.Entry) : Except ExecutorError (Executed β) :=
  match command.parse entry.payload true with
  | .ok result => .ok { result, status := none, node, fromCache := true, attempts := t.number - 1 }
  | .error cause => .error (.fault (.unreadable request.url cause))

def Phase.place? : Phase β → Option (Nat × List Node)
  | .ensuring _ => none
  | .pausing trail e _ => some (trail.attempt, e.node :: trail.rest)
  | .flying trail f => some (trail.attempt, f.exchange.node :: trail.rest)

namespace Executor

variable {x : Executor} {command : Command β} {options : Options} {m : Moment} {t : Turn}

/-! ## When calls turn to nodes -/

def followTurn? (x : Executor) (command : Command β) (options : Options) : Option Turn :=
  match x.route command options.session with
  | (_, .error _) => none
  | (y, .ok nodes) => some ⟨y, 1, [], nodes⟩

def wishTurn? (command : Command β) (options : Options) (isFirst : Bool) :
    Executor × Progress Refresh (Except ExecutorError Bool) → Option Turn
  | (_, .waiting _) => none
  | (y, .done result) =>
    match afterUpdate isFirst (y.judge isFirst result) with
    | .error _ => none
    | .ok () => y.followTurn? command options

def executeTurn? (x : Executor) (command : Command β) (options : Options) (now : Instant) :
    Option Turn :=
  match x.preparation now with
  | .refused _ => none
  | .known => x.followTurn? command options
  | .sweep isFirst nodes =>
    wishTurn? command options isFirst (x.refresh ⟨nodes, false, none, isFirst⟩ now)

def failTurn (x : Executor) (trail : Trail) (e : Exchange β) (reason : FailureReason) : Turn where
  executor := (x.markFailed e.node).emit (.failed e.request.url trail.attempt reason)
  number := trail.attempt + 1
  failures := trail.failures ++ [⟨e.node.url, reason⟩]
  nodes := trail.rest

def advanceTurn? (x : Executor) (c : Execution β) (signal : Signal) (now : Instant) : Option Turn :=
  match c.phase with
  | .ensuring update =>
    wishTurn? c.command c.options update.isFirst (x.advanceRefresh update.refresh signal now)
  | .pausing _ _ _ => none
  | .flying trail f =>
    match x.advanceFlight f signal now with
    | (y, .done (.failed reason)) => some (y.failTurn trail f.exchange reason)
    | _ => none

/-- The result of a call is what the node gave whose answer it was waiting for. -/
structure GivenBy (before : Option (Phase β)) (r : Executed β) : Prop where
  status : r.status ≠ none
  awaited : ∃ trail f, before = some (.flying trail f) ∧ f.exchange.node = r.node ∧
    trail.attempt = r.attempts

/-- A step of a call that does not turn to a node: the call stays where it is, and if it ends with
a result then a node gave it. -/
structure StaysWith (before : Option (Phase β)) (next : Next β) : Prop where
  place : ∀ phase, next.2.state? = some phase → phase.place? = before.bind Phase.place?
  answered : ∀ r, next.2 = .done (.ok r) → GivenBy before r

theorem staysWith_failed (before : Option (Phase β)) (x : Executor) (e : ExecutorError) :
    StaysWith before ((x, .done (.error e)) : Next β) :=
  ⟨fun _ hphase => (by cases hphase), fun _ hdone => (by cases hdone)⟩

theorem staysWith_waiting {before : Option (Phase β)} {phase : Phase β} (x : Executor)
    (h : phase.place? = before.bind Phase.place?) :
    StaysWith before ((x, .waiting phase) : Next β) := by
  refine ⟨fun phase' hphase => ?_, fun r hdone => by cases hdone⟩
  cases hphase
  exact h

/-- What a step of a call is that may turn to a node. -/
def Proceeds (turn : Option Turn) (before : Option (Phase β)) (command : Command β)
    (options : Options) (m : Moment) (next : Next β) : Prop :=
  match turn with
  | some t => next = t.take command options m
  | none => StaysWith before next

theorem proceeds_follow (x : Executor) (command : Command β) (options : Options) (m : Moment)
    (before : Option (Phase β)) :
    Proceeds (x.followTurn? command options) before command options m
      (x.follow command options m) := by
  unfold followTurn? follow
  rcases x.route command options.session with ⟨y, e | nodes⟩
  · exact staysWith_failed before y e
  · exact rfl

theorem proceeds_afterWish {before : Option (Phase β)} (hbefore : before.bind Phase.place? = none)
    (command : Command β) (options : Options) (m : Moment) (isFirst : Bool)
    (next : Executor × Progress Refresh (Except ExecutorError Bool)) :
    Proceeds (wishTurn? command options isFirst next) before command options m
      (afterWish command options m isFirst next) := by
  obtain ⟨y, progress⟩ := next
  cases progress with
  | waiting refresh => exact staysWith_waiting y hbefore.symm
  | done result =>
    unfold afterWish updateOf wishTurn?
    simp only [Progress.mapState, Progress.map]
    cases afterUpdate isFirst (y.judge isFirst result) with
    | error e => exact staysWith_failed before y e
    | ok _ => exact y.proceeds_follow command options m before

theorem proceeds_execute (x : Executor) (command : Command β) (options : Options) (m : Moment) :
    Proceeds (x.executeTurn? command options m.now) none command options m
      (x.execute command options m) := by
  rw [execute_prepared]
  unfold executeTurn?
  cases x.preparation m.now with
  | refused e => exact staysWith_failed none x e
  | known => exact x.proceeds_follow command options m none
  | sweep isFirst nodes => exact proceeds_afterWish rfl command options m isFirst _

theorem place?_beginAttempt {x : Executor} {trail : Trail} {e : Exchange β} {phase : Phase β}
    (h : (x.beginAttempt trail e).2.state? = some phase) :
    phase.place? = some (trail.attempt, e.node :: trail.rest) := by
  unfold beginAttempt at h
  dsimp only at h
  split at h
  · rename_i y f hsend
    obtain ⟨-, rfl⟩ := send_eq_ok hsend
    cases h
    rfl
  · cases h

theorem beginAttempt_unanswered (x : Executor) (trail : Trail) (e : Exchange β) (r : Executed β) :
    (x.beginAttempt trail e).2 ≠ .done (.ok r) := by
  unfold beginAttempt
  dsimp only
  split <;> simp

theorem proceeds_advanceExecution (x : Executor) (c : Execution β) (signal : Signal) (m : Moment) :
    Proceeds (x.advanceTurn? c signal m.now) (some c.phase) c.command c.options m
      (x.advanceExecution c signal m) := by
  obtain ⟨command, options, phase⟩ := c
  cases phase with
  | ensuring update => exact proceeds_afterWish rfl command options m update.isFirst _
  | pausing trail e pause =>
    cases signal with
    | resumed =>
      exact ⟨fun _ hphase => place?_beginAttempt hphase,
        fun r hdone => (x.beginAttempt_unanswered trail e r hdone).elim⟩
    | granted | lockTimedOut | head _ _ | body _ _ | expired _ => exact staysWith_waiting x rfl
  | flying trail f =>
    unfold advanceTurn? advanceExecution
    dsimp only
    cases hadvance : x.advanceFlight f signal m.now with
    | mk y progress =>
      match progress with
      | .waiting f' =>
        obtain ⟨head, rfl⟩ := advanceFlight_waiting (congrArg Prod.snd hadvance)
        exact staysWith_waiting y rfl
      | .done (.answered result status fromCache) =>
        refine ⟨fun phase hphase => (by cases hphase), fun r hdone => ?_⟩
        cases hdone
        exact ⟨Option.some_ne_none status, trail, f, rfl, rfl, rfl⟩
      | .done (.ended fault) => exact staysWith_failed _ _ _
      | .done (.failed reason) => exact rfl

/-! ## How calls find the executor -/

/-- Before a call turns to a node it sends nothing, and leaves the cache as it is. -/
structure Precedes (x : Executor) (t : Turn) : Prop where
  sent : t.executor.sent = x.sent
  cache : t.executor.cache = x.cache

theorem precedes_followTurn? (h : x.followTurn? command options = some t) : x.Precedes t := by
  have hsent := x.sent_route command options.session
  have hcache := (x.aside_route command options.session).cache
  unfold followTurn? at h
  generalize x.route command options.session = routed at h hsent hcache
  obtain ⟨y, e | nodes⟩ := routed
  · cases h
  · cases h
    exact ⟨hsent, hcache⟩

theorem precedes_wishTurn? {isFirst : Bool}
    {next : Executor × Progress Refresh (Except ExecutorError Bool)} (hasks : x.AsksBare next)
    (hcache : next.1.cache = x.cache) (h : wishTurn? command options isFirst next = some t) :
    x.Precedes t := by
  obtain ⟨y, progress⟩ := next
  cases progress with
  | waiting refresh => cases h
  | done result =>
    unfold wishTurn? at h
    dsimp only at h
    split at h
    · cases h
    · have hy := precedes_followTurn? h
      exact ⟨hy.sent.trans (hasks.settled result rfl), hy.cache.trans hcache⟩

theorem precedes_executeTurn? (h : x.executeTurn? command options m.now = some t) :
    x.Precedes t := by
  unfold executeTurn? at h
  split at h
  · cases h
  · exact precedes_followTurn? h
  · exact precedes_wishTurn? (x.asksBare_refresh _ m.now) (x.cache_refresh _ m.now) h

theorem precedes_advanceTurn? {c : Execution β} {signal : Signal}
    (hfits : c.phase.Fits x c.command c.options.noCaching)
    (h : x.advanceTurn? c signal m.now = some t) : x.Precedes t := by
  obtain ⟨command, options, phase⟩ := c
  cases phase with
  | ensuring update =>
    exact precedes_wishTurn? (asksBare_advanceRefresh hfits signal m.now)
      (cache_advanceRefresh hfits signal m.now) h
  | pausing _ _ _ => cases h
  | flying trail f =>
    unfold advanceTurn? at h
    dsimp only at h
    split at h
    · rename_i y reason hadvance
      cases h
      obtain ⟨mailbox, cache, hfst⟩ := x.advanceFlight_fst f signal m.now
      have hcache := x.cache_advanceFlight f signal m.now
      rw [upkeep?_of_failed (congrArg Prod.snd hadvance), Cache.upkeep_none] at hcache
      rw [hadvance] at hfst hcache
      obtain rfl : y = { x with mailbox, cache } := hfst
      exact ⟨rfl, hcache⟩
    · cases h

/-! ## What turns come to -/

theorem place?_take {phase : Phase β} (h : (t.take command options m).2.state? = some phase) :
    phase.place? = some (t.number, t.nodes) := by
  have hturn := t.executor.turnsTo_attempt command options t.number t.failures t.nodes m
  unfold Turn.take at h
  generalize t.executor.attempt command options t.number t.failures t.nodes m = next at h hturn
  generalize t.nodes = nodes at hturn
  cases hturn with
  | noneLeft | noRequest _ | served _ _ _ _ | noDelay _ => cases h
  | begins hprepare => rw [place?_beginAttempt h, (isFor_of_prepare hprepare).2.1]
  | pauses _ hprepare =>
    cases h
    rw [← (isFor_of_prepare hprepare).2.1]
    rfl

end Executor

namespace Turn

variable {command : Command β} {options : Options} {m : Moment} {t : Turn} {node : Node}
  {request : Request} {entry : Cache.Entry}

theorem Spares.take_eq (h : t.Spares command options m.now node request entry) :
    t.take command options m = (t.executor, .done (t.spared command node request entry)) := by
  obtain ⟨rest, hnodes⟩ := List.head?_eq_some_iff.mp h.first
  obtain ⟨window, hwindow, hage⟩ := h.young
  have hprepare : t.executor.prepare command node options.noCaching =
      .ok ⟨command, node, request, some (.of request.method request.url.text request.body),
        some entry⟩ := by
    unfold Executor.prepare
    rw [h.made, h.cacheable, h.wanted, ← h.cached]
    rfl
  have hyoung : t.executor.youngAnswer? (⟨command, node, request,
      some (.of request.method request.url.text request.body), some entry⟩ : Exchange β) m.now =
        some entry := by
    unfold Executor.youngAnswer?
    dsimp only
    rw [hwindow]
    exact if_pos hage
  unfold take Executor.attempt
  rw [hnodes]
  simp only [hprepare, hyoung]
  rfl

/-- A call that has a result as soon as it turns to a node was spared it. -/
theorem spares_of_take {r : Executed β} (h : (t.take command options m).2 = .done (.ok r)) :
    ∃ node request entry, t.Spares command options m.now node request entry := by
  have hturn := t.executor.turnsTo_attempt command options t.number t.failures t.nodes m
  unfold take at h
  generalize t.executor.attempt command options t.number t.failures t.nodes m = next at h hturn
  generalize hnodes : t.nodes = nodes at hturn
  cases hturn with
  | noneLeft | noRequest _ | noDelay _ | pauses _ _ => cases h
  | begins _ => exact (Executor.beginAttempt_unanswered _ _ _ r h).elim
  | @served node rest e entry hprepare hyoung =>
    obtain ⟨hfor, hnode, hcached⟩ := Executor.isFor_of_prepare hprepare
    have hentry := Executor.youngAnswer?_cached hyoung
    have hkeep := Executor.keeps_of_cached hfor hentry
    rw [Bool.and_eq_true, Bool.not_eq_true'] at hkeep
    unfold Executor.youngAnswer? at hyoung
    obtain ⟨window, hwindow, hyoung⟩ := Option.bind_eq_some_iff.mp hyoung
    obtain ⟨old, hold, hyoung⟩ := Option.bind_eq_some_iff.mp hyoung
    split at hyoung
    · rename_i hage
      cases hyoung
      refine ⟨node, e.request, entry, by rw [hnodes]; rfl, hkeep.1, hkeep.2, hnode ▸ hfor.request,
        ?_, window, hfor.command_eq ▸ hwindow, hage⟩
      rw [hfor.key, hkeep.1, hkeep.2] at hcached
      exact hcached.symm.trans hold
    · cases hyoung

end Turn

end ClusterClient
