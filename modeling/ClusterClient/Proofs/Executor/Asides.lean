import ClusterClient.Executor.Call
import ClusterClient.Proofs.Executor.Solo
import ClusterClient.Proofs.Selector.Marks

/-!
# What calls leave alone

Only wishes for a sweep change what an executor knows of the topology.  Whatever
else a call does, it leaves that alone and asks no node for the topology.
-/

namespace ClusterClient

/-- What an executor knows of the topology, and how far the sweeps for it have come. -/
structure Knowledge where
  scope : Scope
  applicationId : String
  conventions : Conventions
  seeds : List Url
  topology : Topology
  initialized : Bool
  lockHeld : Bool
  sweeps : Nat
  lastSweep : Option SweepRecord

namespace Executor

variable {α : Type} {x y z : Executor}

def knowledge (x : Executor) : Knowledge where
  scope := x.scope
  applicationId := x.applicationId
  conventions := x.conventions
  seeds := x.seeds
  topology := x.topology
  initialized := x.initialized
  lockHeld := x.lockHeld
  sweeps := x.sweeps
  lastSweep := x.lastSweep

@[simp] theorem knowledge_initialized (x : Executor) : x.knowledge.initialized = x.initialized :=
  rfl

@[simp] theorem knowledge_lockHeld (x : Executor) : x.knowledge.lockHeld = x.lockHeld := rfl

@[simp] theorem knowledge_sweeps (x : Executor) : x.knowledge.sweeps = x.sweeps := rfl

/-- The first executor turns into the second by work that is not about the topology and does not
touch the cache. -/
structure Aside (x y : Executor) : Prop where
  knowledge : y.knowledge = x.knowledge
  cache : y.cache = x.cache
  sent : ∃ new, y.sent = new ++ x.sent ∧ ∀ d ∈ new, d.purpose ≠ .topology

namespace Aside

theorem refl (x : Executor) : x.Aside x :=
  ⟨rfl, rfl, [], rfl, by simp⟩

theorem trans (hxy : x.Aside y) (hyz : y.Aside z) : x.Aside z := by
  obtain ⟨new, hnew, hpurpose⟩ := hxy.sent
  obtain ⟨newer, hnewer, hpurpose'⟩ := hyz.sent
  refine ⟨hyz.knowledge.trans hxy.knowledge, hyz.cache.trans hxy.cache, newer ++ new, ?_, ?_⟩
  · rw [hnewer, hnew, List.append_assoc]
  · intro d hd
    rcases List.mem_append.mp hd with hd | hd
    · exact hpurpose' d hd
    · exact hpurpose d hd

theorem of_eq {fastest : Option Nat} {failed : List Node.Key} {turn : UInt64} {stale : Bool}
    {pool : Pool} {configuration : ConfigurationVersion} {disposed listening : Bool}
    {mailbox : List Message} {events : List Event}
    (h : y = { x with
      selector := { x.selector with fastest, failed, turn }
      stale, pool, configuration, disposed, listening, mailbox, events }) : x.Aside y := by
  subst h
  exact ⟨rfl, rfl, [], rfl, by simp⟩

end Aside

theorem aside_emit (x : Executor) (event : Event) : x.Aside (x.emit event) := .of_eq rfl

theorem aside_markFailed (x : Executor) (node : Node) : x.Aside (x.markFailed node) := by
  unfold markFailed Selector.markFailed
  split
  · exact .of_eq rfl
  · exact .refl x

theorem aside_restore (x : Executor) (node : Node) : x.Aside (x.restore node) := .of_eq rfl

theorem aside_deafen (x : Executor) : x.Aside x.deafen := .of_eq rfl

theorem aside_configure (x : Executor) (incoming : ConfigurationVersion) :
    x.Aside (x.configure incoming).1 := .of_eq rfl

/-! ## Requests -/

theorem send_eq_ok {purpose : Purpose} {e : Exchange α} {limit : Option Duration} {f : Flight α}
    (h : x.send purpose e limit = .ok (y, f)) :
    (∃ pool, y = { x with pool, sent := ⟨purpose, e.node, x.wire e, limit⟩ :: x.sent }) ∧
      f = { exchange := e, ticket := x.sent.length, limit } := by
  unfold send at h
  split at h
  · cases h
  · rename_i pool _
    cases h
    exact ⟨⟨pool, rfl⟩, rfl⟩

theorem aside_send {purpose : Purpose} {e : Exchange α} {limit : Option Duration} {f : Flight α}
    (hpurpose : purpose ≠ .topology) (h : x.send purpose e limit = .ok (y, f)) : x.Aside y := by
  obtain ⟨⟨pool, rfl⟩, -⟩ := send_eq_ok h
  exact ⟨rfl, rfl, [_], rfl, by simpa using hpurpose⟩

theorem launch_eq_ok {purpose : Purpose} {command : Command α} {node : Node}
    {limit : Option Duration} {f : Flight α}
    (h : x.launch purpose command node limit = .ok (y, f)) :
    (∃ pool wire, y = { x with pool, sent := ⟨purpose, node, wire, limit⟩ :: x.sent }) ∧
      f.exchange.command = command ∧ f.exchange.node = node ∧ f.exchange.key = none ∧
      f.ticket = x.sent.length ∧ f.head = none := by
  unfold launch prepare at h
  cases hrequest : command.request node with
  | error cause =>
    rw [hrequest] at h
    cases h
  | ok request =>
    rw [hrequest] at h
    obtain ⟨⟨pool, rfl⟩, rfl⟩ := send_eq_ok h
    exact ⟨⟨pool, _, rfl⟩, rfl, rfl, by simp, rfl, rfl⟩

theorem aside_launch {purpose : Purpose} {command : Command α} {node : Node}
    {limit : Option Duration} {f : Flight α} (hpurpose : purpose ≠ .topology)
    (h : x.launch purpose command node limit = .ok (y, f)) : x.Aside y := by
  obtain ⟨⟨pool, wire, rfl⟩, -⟩ := launch_eq_ok h
  exact ⟨rfl, rfl, [_], rfl, by simpa using hpurpose⟩

theorem advanceFlight_fst (x : Executor) (f : Flight α) (signal : Signal) (now : Instant) :
    ∃ mailbox cache, (x.advanceFlight f signal now).1 = { x with mailbox, cache } := by
  have hconfirm : ∀ (z : Executor) (e : Exchange α) (status : Status),
      ∃ cache, (z.confirm e status now).1 = { z with cache } := by
    intro z e status
    unfold confirm
    split
    · exact ⟨_, rfl⟩
    · exact ⟨z.cache, rfl⟩
  have hbody : ∀ (head : ResponseHead) (body : Except TransportFailure Bytes),
      ∃ cache, (x.receiveBody f.exchange head body now).1 = { x with cache } := by
    intro head body
    unfold receiveBody receiveResult keep
    repeat' split
    all_goals exact ⟨_, rfl⟩
  have hhead : ∀ head : ResponseHead,
      ∃ mailbox cache, (x.receiveHead f head now).1 = { x with mailbox, cache } := by
    intro head
    obtain ⟨mailbox, hheed⟩ := x.heed_eq head.headers
    obtain ⟨cache, hcache⟩ := hconfirm { x with mailbox } f.exchange head.status
    unfold receiveHead
    rw [hheed]
    dsimp only
    split
    · exact ⟨mailbox, cache, hcache⟩
    · split <;> exact ⟨mailbox, x.cache, rfl⟩
  unfold advanceFlight
  split
  · split
    · exact hhead _
    · exact ⟨x.mailbox, x.cache, rfl⟩
  · split <;> exact ⟨x.mailbox, x.cache, rfl⟩
  · split
    · obtain ⟨cache, hcache⟩ := hbody _ _
      exact ⟨x.mailbox, cache, hcache⟩
    · exact ⟨x.mailbox, x.cache, rfl⟩
  · split <;> exact ⟨x.mailbox, x.cache, rfl⟩
  · exact ⟨x.mailbox, x.cache, rfl⟩

/-! ## Attempts -/

inductive TurnsTo (x : Executor) (command : Command α) (options : Options) (number : Nat)
    (failures : List NodeFailure) (now : Instant) : List Node → Next α → Prop
  | noneLeft : TurnsTo x command options number failures now []
      ({ x with stale := true }, .done (.error (.allNodesUnreachable failures)))
  | noRequest {node : Node} {rest : List Node} (cause : CommandError) :
      TurnsTo x command options number failures now (node :: rest)
        (x, .done (.error (.fault (.noRequest cause))))
  | served {node : Node} {rest : List Node} (e : Exchange α) (entry : Cache.Entry)
      (prepared : x.prepare command node options.noCaching = .ok e)
      (young : x.youngAnswer? e now = some entry) :
      TurnsTo x command options number failures now (node :: rest)
        (x, .done (serveCached e entry (number - 1)))
  | noDelay {node : Node} {rest : List Node} (cause : TimeError) :
      TurnsTo x command options number failures now (node :: rest)
        (x, .done (.error (.overflow cause)))
  | pauses {node : Node} {rest : List Node} {e : Exchange α} (pause : Duration)
      (prepared : x.prepare command node options.noCaching = .ok e) :
      TurnsTo x command options number failures now (node :: rest)
        (x, .waiting (.pausing ⟨number, rest, failures⟩ e pause))
  | begins {node : Node} {rest : List Node} {e : Exchange α}
      (prepared : x.prepare command node options.noCaching = .ok e) :
      TurnsTo x command options number failures now (node :: rest)
        (x.beginAttempt ⟨number, rest, failures⟩ e)

theorem turnsTo_attempt (x : Executor) (command : Command α) (options : Options) (number : Nat)
    (failures : List NodeFailure) (nodes : List Node) (m : Moment) :
    x.TurnsTo command options number failures m.now nodes
      (x.attempt command options number failures nodes m) := by
  unfold attempt
  cases nodes with
  | nil => exact .noneLeft
  | cons node rest =>
    dsimp only
    split
    · exact .noRequest _
    · rename_i e hprepare
      split
      · rename_i hyoung
        exact .served e _ hprepare hyoung
      · split
        · exact .noDelay _
        · split
          · exact .begins hprepare
          · exact .pauses _ hprepare

theorem aside_beginAttempt (x : Executor) (t : Trail) (e : Exchange α) :
    x.Aside (x.beginAttempt t e).1 := by
  have hemit := x.aside_emit (.before e.request.url t.attempt)
  unfold beginAttempt
  dsimp only
  split
  · rename_i hsend
    exact hemit.trans (aside_send (by simp) hsend)
  · exact hemit.trans (aside_emit _ _)

theorem aside_attempt (x : Executor) (command : Command α) (options : Options) (number : Nat)
    (failures : List NodeFailure) (nodes : List Node) (m : Moment) :
    x.Aside (x.attempt command options number failures nodes m).1 := by
  have hturn := x.turnsTo_attempt command options number failures nodes m
  generalize x.attempt command options number failures nodes m = next at hturn ⊢
  cases hturn with
  | noneLeft => exact .of_eq rfl
  | begins _ => exact x.aside_beginAttempt _ _
  | noRequest _ | served _ _ _ _ | noDelay _ | pauses _ _ => exact .refl x

theorem aside_route (x : Executor) (command : Command α) (session : Option Int) :
    x.Aside (x.route command session).1 := by
  unfold route
  split
  · split <;> exact .refl x
  · unfold Selector.plan Selector.firstForRead
    dsimp only
    repeat' split
    all_goals exact .of_eq rfl

theorem ne_nil_of_route {command : Command α} {session : Option Int} {nodes : List Node}
    (h : x.route command session = (y, .ok nodes)) : nodes ≠ [] := by
  unfold route at h
  split at h
  · split at h <;> cases h
    exact List.cons_ne_nil _ _
  · dsimp only at h
    split at h
    · cases h
    · rename_i hplan
      cases h
      simpa using hplan

theorem aside_follow (x : Executor) (command : Command α) (options : Options) (m : Moment) :
    x.Aside (x.follow command options m).1 := by
  have hroute := x.aside_route command options.session
  unfold follow
  split
  · rename_i z e hrouted
    rw [hrouted] at hroute
    exact hroute
  · rename_i z nodes hrouted
    rw [hrouted] at hroute
    exact hroute.trans (z.aside_attempt _ _ _ _ _ _)

theorem aside_concludeAttempt (x : Executor) (c : Execution α) (t : Trail) (e : Exchange α)
    (outcome : Outcome α) (m : Moment) : x.Aside (x.concludeAttempt c t e outcome m).1 := by
  unfold concludeAttempt
  cases outcome with
  | answered result status fromCache =>
    exact (x.aside_restore e.node).trans (aside_emit _ _)
  | ended fault => exact x.aside_emit _
  | failed reason =>
    exact ((x.aside_markFailed e.node).trans (aside_emit _ _)).trans (aside_attempt _ _ _ _ _ _ _)

/-! ## Speed tests -/

theorem aside_beginTrials (x : Executor) (now : Instant) (nodes : List Node) :
    x.Aside (x.beginTrials now nodes).1 := by
  induction nodes generalizing x with
  | nil => exact .refl x
  | cons node nodes ih =>
    have htrial : x.Aside (x.beginTrial node now).1 := by
      unfold beginTrial
      dsimp only
      split
      · rename_i z flight hlaunch
        exact aside_launch (by simp) hlaunch
      · exact .refl x
    exact htrial.trans (ih _)

theorem aside_concludeTest (x : Executor) (t : SpeedTest) : x.Aside (x.concludeTest t).1 := by
  unfold concludeTest
  split
  · exact .refl x
  · rename_i results _
    exact ⟨by simp [knowledge, topology], rfl, [], rfl, by simp⟩

theorem aside_speedTest (x : Executor) (now : Instant) : x.Aside (x.speedTest now).1 := by
  unfold speedTest
  split
  · exact .refl x
  · exact (x.aside_beginTrials now x.topology.nodes).trans (aside_concludeTest _ _)

theorem advanceTrials_fst (x : Executor) (signal : Signal) (now : Instant) (trials : List Trial) :
    ∃ mailbox cache, (x.advanceTrials signal now trials).1 = { x with mailbox, cache } := by
  induction trials generalizing x with
  | nil => exact ⟨x.mailbox, x.cache, rfl⟩
  | cons trial trials ih =>
    have htrial : ∃ mailbox cache,
        (x.advanceTrial trial signal now).1 = { x with mailbox, cache } := by
      unfold advanceTrial
      split
      · exact ⟨x.mailbox, x.cache, rfl⟩
      · rename_i flight _
        obtain ⟨mailbox, cache, hflight⟩ := x.advanceFlight_fst flight signal now
        split
        · rename_i z _ hadvance
          exact ⟨mailbox, cache, by rw [← hflight, hadvance]⟩
        · rename_i z _ hadvance
          exact ⟨mailbox, cache, by rw [← hflight, hadvance]⟩
    obtain ⟨mailbox, cache, htrial⟩ := htrial
    obtain ⟨mailbox', cache', hrest⟩ := ih { x with mailbox, cache }
    refine ⟨mailbox', cache', ?_⟩
    simp only [advanceTrials, htrial, hrest]

end Executor

end ClusterClient
