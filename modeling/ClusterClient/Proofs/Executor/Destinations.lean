import ClusterClient.Proofs.Executor.Exchanges
import ClusterClient.Proofs.Executor.Tenure
import ClusterClient.Proofs.Selector.Plans

/-!
# Where requests go

Commands and probes go to nodes of the topology, requests for a topology to the nodes
of a wish.  Which nodes these may be is a permit, and a call that was begun within a
permit stays within it for all that it does.
-/

namespace ClusterClient

variable {α β : Type}

/-- A dispatch is a request of a command for its node. For the cluster no version of a configuration
is named but by the request itself. -/
structure Dispatch.IsOf (d : Dispatch) (scope : Scope) (purpose : Purpose) (command : Command β)
    (request : Request) : Prop where
  purpose : d.purpose = purpose
  made : command.request d.node = .ok request
  method : d.wire.method = request.method
  url : d.wire.url = request.url
  body : d.wire.body = request.body
  headers : scope = .cluster → ∀ value, (Headers.configurationEtag, value) ∈ d.wire.headers →
    (Headers.configurationEtag, value) ∈ request.headers

/-- Whether a url is an endpoint of a node, whatever its query and its fragment. -/
def Node.Serves (node : Node) (url : Url) : Prop :=
  ∃ path base, node.endpoint path = .ok base ∧
    url = { base with query := url.query, fragment := url.fragment }

/-- All requests of a command are for endpoints of the nodes that they are made for. -/
def Command.IsServed (command : Command β) : Prop :=
  ∀ node request, command.request node = .ok request → node.Serves request.url

structure Permit (α : Type) where
  scope : Scope
  topologyCommand : Command Topology
  /-- The commands of callers. -/
  command : Command α → Prop
  /-- The nodes that may be asked for the topology. -/
  source : Node → Prop
  /-- The nodes that commands and probes may go to. -/
  target : Node → Prop

/-- A request for the topology, a probe, a request for the configuration of a database, or a request
of a caller's command. -/
inductive Permit.Allows (p : Permit α) (d : Dispatch) : Prop where
  | topology (request : Request)
      (isOf : d.IsOf p.scope .topology p.topologyCommand request) (source : p.source d.node)
  | probe (limit : Duration) (request : Request)
      (isOf : d.IsOf p.scope .probe (Command.probe limit) request) (target : p.target d.node)
  | configuration (name : String) (request : Request) (scope : p.scope = .database name)
      (isOf : d.IsOf p.scope .command (Command.configuration name) request)
      (target : p.target d.node)
  | command (command : Command α) (request : Request) (known : p.command command)
      (isOf : d.IsOf p.scope .command command request) (target : p.target d.node)

/-- All requests of a command to nodes that commands may go to are allowed. -/
def Permit.Covers (p : Permit α) (command : Command β) : Prop :=
  ∀ d request, d.IsOf p.scope .command command request → p.target d.node → p.Allows d

/-! ## Requests of the executor itself -/

namespace Command

theorem isServed_get {command : Command β} {path : String} {f : Url → Url}
    (hrequest : ∀ node, command.request node =
      (endpoint node path).bind fun base => .ok (.get (f base)))
    (hf : ∀ base, f base = { base with query := (f base).query, fragment := (f base).fragment }) :
    command.IsServed := by
  intro node request h
  rw [hrequest, endpoint] at h
  cases hendpoint : node.endpoint path with
  | error cause =>
    rw [hendpoint] at h
    cases h
  | ok base =>
    rw [hendpoint] at h
    cases h
    exact ⟨path, base, hendpoint, hf base⟩

theorem isServed_topology (x : Executor) : x.topologyCommand.IsServed := by
  unfold Executor.topologyCommand
  cases x.scope with
  | database name => exact isServed_get (fun _ => rfl) fun _ => rfl
  | cluster => exact isServed_get (fun _ => rfl) fun _ => rfl

theorem isServed_configuration (name : String) : (Command.configuration name).IsServed :=
  isServed_get (fun _ => rfl) fun _ => rfl

theorem isServed_probe (limit : Duration) : (Command.probe limit).IsServed :=
  isServed_get (fun _ => rfl) fun _ => rfl

end Command

theorem Dispatch.IsOf.serves {d : Dispatch} {scope : Scope} {purpose : Purpose}
    {command : Command β} {request : Request} (h : d.IsOf scope purpose command request)
    (hserved : command.IsServed) : d.node.Serves d.wire.url :=
  h.url ▸ hserved d.node request h.made

theorem Permit.Allows.serves {p : Permit α} {d : Dispatch} (h : p.Allows d)
    (htopology : p.topologyCommand.IsServed)
    (hcommands : ∀ command, p.command command → command.IsServed) :
    d.node.Serves d.wire.url := by
  cases h with
  | topology request isOf _ => exact isOf.serves htopology
  | probe limit request isOf _ => exact isOf.serves (Command.isServed_probe limit)
  | configuration name request _ isOf _ => exact isOf.serves (Command.isServed_configuration name)
  | command command request known isOf _ => exact isOf.serves (hcommands command known)

theorem Permit.Allows.target_node {p : Permit α} {d : Dispatch} (h : p.Allows d)
    (hpurpose : d.purpose ≠ .topology) : p.target d.node := by
  cases h with
  | topology request isOf _ => exact (hpurpose isOf.purpose).elim
  | probe _ _ _ target | configuration _ _ _ _ target | command _ _ _ _ target => exact target

theorem Permit.Allows.source_node {p : Permit α} {d : Dispatch} (h : p.Allows d)
    (hpurpose : d.purpose = .topology) : p.source d.node := by
  cases h with
  | topology request isOf source => exact source
  | probe _ _ isOf _ | configuration _ _ _ isOf _ | command _ _ _ isOf _ =>
    cases hpurpose.symm.trans isOf.purpose

theorem Permit.Allows.known_command {p : Permit α} {d : Dispatch} (h : p.Allows d)
    (hcluster : p.scope = .cluster) (hpurpose : d.purpose = .command) :
    ∃ command request, p.command command ∧ d.IsOf p.scope .command command request := by
  cases h with
  | topology _ isOf _ | probe _ _ isOf _ => cases hpurpose.symm.trans isOf.purpose
  | configuration name request scope isOf _ => cases hcluster.symm.trans scope
  | command command request known isOf _ => exact ⟨command, request, known, isOf⟩

theorem Permit.Allows.configurationEtag {p : Permit α} {d : Dispatch} (h : p.Allows d)
    (htopology : p.topologyCommand.Bare) (hcluster : p.scope = .cluster) {value : Bytes}
    (hvalue : (Headers.configurationEtag, value) ∈ d.wire.headers) :
    ∃ command request, p.command command ∧ d.IsOf p.scope .command command request ∧
      (Headers.configurationEtag, value) ∈ request.headers := by
  have hnone : ∀ {β : Type} {purpose : Purpose} {command : Command β} {request : Request},
      d.IsOf p.scope purpose command request → command.Bare → False := by
    intro β purpose command request hof hbare
    have hown := hof.headers hcluster value hvalue
    rw [hbare.headers d.node request hof.made] at hown
    cases hown
  cases h with
  | topology request isOf _ => exact (hnone isOf htopology).elim
  | probe limit request isOf _ => exact (hnone isOf (Command.bare_probe limit)).elim
  | configuration name request _ isOf _ => exact (hnone isOf (Command.bare_configuration name)).elim
  | command command request known isOf _ =>
    exact ⟨command, request, known, isOf, isOf.headers hcluster value hvalue⟩

/-! ## What is under way -/

def Refresh.Within (p : Permit α) : Refresh → Prop
  | .queued order _ => ∀ node ∈ order.nodes, p.source node
  | .sweeping sweep => ∀ node ∈ sweep.rest, p.source node

/-- The request that a call will send next, and the nodes that it may turn to after that. -/
def Phase.Within (p : Permit α) (command : Command β) : Phase β → Prop
  | .ensuring update => update.refresh.Within p
  | .pausing trail e _ => command.request e.node = .ok e.request ∧ p.target e.node ∧
      ∀ node ∈ trail.rest, p.target node
  | .flying trail _ => ∀ node ∈ trail.rest, p.target node

def Call.Within (p : Permit α) : Call α → Prop
  | .executing c => p.command c.command ∧ c.phase.Within p c.command
  | .configuring c => (∃ name, p.scope = .database name ∧ c.command = .configuration name) ∧
      c.phase.Within p c.command
  | .updating u => u.refresh.Within p
  | .testing _ => True

namespace Executor

variable {σ ρ τ υ : Type} {x y : Executor} {p : Permit α}

structure Obeys (x : Executor) (p : Permit α) (within : σ → Prop)
    (next : Executor × Progress σ ρ) : Prop where
  scope : next.1.scope = x.scope
  sent : ∃ new, next.1.sent = new ++ x.sent ∧ ∀ d ∈ new, p.Allows d
  state : ∀ state, next.2 = .waiting state → within state

theorem obeys_done {within : σ → Prop} (result : ρ) (hscope : y.scope = x.scope)
    (hsent : y.sent = x.sent) : x.Obeys p within (y, .done result) :=
  ⟨hscope, ⟨[], hsent, by simp⟩, fun _ h => by cases h⟩

theorem obeys_waiting {within : σ → Prop} (state : σ) (hwithin : within state)
    (hscope : y.scope = x.scope) (hsent : y.sent = x.sent) :
    x.Obeys p within ((y, .waiting state) : Executor × Progress σ ρ) := by
  refine ⟨hscope, ⟨[], hsent, by simp⟩, fun state' h => ?_⟩
  cases h
  exact hwithin

theorem Obeys.trans {within : σ → Prop} {within' : τ → Prop}
    {before : Executor × Progress τ υ} {next : Executor × Progress σ ρ}
    (hbefore : x.Obeys p within' before) (h : before.1.Obeys p within next) :
    x.Obeys p within next := by
  obtain ⟨old, hold, hallowed⟩ := hbefore.sent
  obtain ⟨new, hnew, hallowed'⟩ := h.sent
  refine ⟨h.scope.trans hbefore.scope, ⟨new ++ old, ?_, ?_⟩, h.state⟩
  · rw [hnew, hold, List.append_assoc]
  · exact List.forall_mem_append.mpr ⟨hallowed', hallowed⟩

theorem Obeys.of_eq {within : σ → Prop} {next : Executor × Progress σ ρ}
    (h : y.Obeys p within next) (hscope : y.scope = x.scope) (hsent : y.sent = x.sent) :
    x.Obeys p within next :=
  ⟨h.scope.trans hscope, hsent ▸ h.sent, h.state⟩

/-! ## Requests -/

theorem isOf_wire {scope : Scope} {command : Command β} {e : Exchange β} (purpose : Purpose)
    (limit : Option Duration) (hscope : x.scope = scope)
    (hmade : command.request e.node = .ok e.request) :
    ({ purpose, node := e.node, wire := x.wire e, limit } : Dispatch).IsOf scope purpose command
      e.request := by
  refine ⟨rfl, hmade, rfl, rfl, rfl, fun hcluster value hvalue => ?_⟩
  have hversioned : x.scope.isDatabase = false := by rw [hscope, hcluster]; rfl
  have hadd : ∀ {headers : Headers} {name text : String}, name ≠ Headers.configurationEtag →
      (Headers.configurationEtag, value) ∈ headers.add name text →
        (Headers.configurationEtag, value) ∈ headers := by
    intro headers name text hname hmem
    rcases List.mem_append.mp hmem with hold | hnew
    · exact hold
    · exact (hname (Prod.mk.inj (List.mem_singleton.mp hnew)).1.symm).elim
  have htopology : Headers.topologyEtag ≠ Headers.configurationEtag := by decide
  have hcondition : Headers.ifNoneMatch ≠ Headers.configurationEtag := by decide
  have hraft : Headers.raftRequestId ≠ Headers.configurationEtag := by decide
  change _ ∈ x.headers e at hvalue
  unfold headers at hvalue
  simp only [hversioned] at hvalue
  cases hid : e.command.raftRequestId with
  | none =>
    cases hcached : e.cached with
    | none =>
      rw [hid, hcached] at hvalue
      exact hadd htopology hvalue
    | some entry =>
      rw [hid, hcached] at hvalue
      exact hadd htopology (hadd hcondition hvalue)
  | some id =>
    cases hcached : e.cached with
    | none =>
      rw [hid, hcached] at hvalue
      exact hadd htopology (hadd hraft hvalue)
    | some entry =>
      rw [hid, hcached] at hvalue
      exact hadd htopology (hadd hcondition (hadd hraft hvalue))

theorem isOf_of_launch {purpose : Purpose} {command : Command β} {node : Node}
    {limit : Option Duration} {f : Flight β}
    (h : x.launch purpose command node limit = .ok (y, f)) :
    ∃ d request, y.sent = d :: x.sent ∧ y.scope = x.scope ∧ d.node = node ∧
      d.IsOf x.scope purpose command request := by
  unfold launch at h
  cases hprepare : x.prepare command node true with
  | error cause =>
    rw [hprepare] at h
    cases h
  | ok e =>
    rw [hprepare] at h
    obtain ⟨⟨pool, rfl⟩, -⟩ := send_eq_ok h
    obtain ⟨hfor, hnode, -⟩ := isFor_of_prepare hprepare
    exact ⟨_, e.request, rfl, rfl, hnode, isOf_wire purpose limit rfl hfor.request⟩

/-! ## Wishes -/

theorem mem_of_mem_refreshNodes {node : Node} (h : node ∈ x.refreshNodes) :
    node ∈ x.topology.nodes ∨ node ∈ x.seedNodes := by
  have hfold : ∀ (seeds known : List Node), node ∈ seeds.foldl (fun nodes seed =>
      if nodes.any (·.isSame seed) then nodes else nodes ++ [seed]) known →
        node ∈ known ∨ node ∈ seeds := by
    intro seeds
    induction seeds with
    | nil => exact fun known h => .inl h
    | cons seed rest ih =>
      intro known h
      rw [List.foldl_cons] at h
      rcases ih _ h with hknown | hrest
      · split at hknown
        · exact .inl hknown
        · rcases List.mem_append.mp hknown with hknown | hseed
          · exact .inl hknown
          · exact .inr (List.mem_cons.mpr (.inl (List.mem_singleton.mp hseed)))
      · exact .inr (List.mem_cons_of_mem _ hrest)
  rcases hfold x.seedNodes _ h with hknown | hseed
  · exact .inl ((x.selector.perm_plan _ _ _).mem_iff.mp hknown)
  · exact .inr hseed

theorem obeys_ask (hscope : x.scope = p.scope) (htopology : x.topologyCommand = p.topologyCommand)
    (limit : Option Duration) (failures : List NodeFailure) (now : Instant) {nodes : List Node}
    (hnodes : ∀ node ∈ nodes, p.source node) :
    x.Obeys p (fun sweep => ∀ node ∈ sweep.rest, p.source node)
      (x.ask limit failures now nodes) := by
  induction nodes generalizing failures with
  | nil => exact obeys_done _ rfl rfl
  | cons node rest ih =>
    have hboth := List.forall_mem_cons.mp hnodes
    rw [ask]
    cases hlaunch : x.launch .topology x.topologyCommand node limit with
    | error fault => exact ih _ hboth.2
    | ok launched =>
      obtain ⟨y, flight⟩ := launched
      obtain ⟨d, request, hsent, hsame, hnode, hof⟩ := isOf_of_launch hlaunch
      refine ⟨hsame, ⟨[d], hsent, ?_⟩, fun sweep hsweep => ?_⟩
      · rw [hscope, htopology] at hof
        exact List.forall_mem_singleton.mpr (.topology request hof (hnode ▸ hboth.1))
      · cases hsweep
        exact hboth.2

theorem Obeys.mapState {within : σ → Prop} {within' : τ → Prop} {next : Executor × Progress σ ρ}
    (h : x.Obeys p within next) (f : σ → τ) (hf : ∀ state, within state → within' (f state)) :
    x.Obeys p within' (next.1, next.2.mapState f) := by
  obtain ⟨y, progress⟩ := next
  refine ⟨h.scope, h.sent, fun state hstate => ?_⟩
  cases progress with
  | waiting before =>
    cases hstate
    exact hf before (h.state before rfl)
  | done result => cases hstate

theorem obeys_refreshLocked (hscope : x.scope = p.scope)
    (htopology : x.topologyCommand = p.topologyCommand) {order : SweepOrder}
    (hnodes : ∀ node ∈ order.nodes, p.source node) (observed : Nat) (now : Instant) :
    x.Obeys p (Refresh.Within p) (x.refreshLocked order observed now) := by
  unfold refreshLocked
  split
  · exact obeys_done _ rfl rfl
  · split
    · exact obeys_done _ rfl rfl
    · have hask := obeys_ask (x := { x with lockHeld := true }) hscope htopology order.limit [] now
        hnodes
      exact Obeys.of_eq (hask.mapState Refresh.sweeping fun _ hsweep => hsweep) rfl rfl

theorem obeys_refresh (hscope : x.scope = p.scope)
    (htopology : x.topologyCommand = p.topologyCommand) {order : SweepOrder}
    (hnodes : ∀ node ∈ order.nodes, p.source node) (now : Instant) :
    x.Obeys p (Refresh.Within p) (x.refresh order now) := by
  unfold refresh
  split
  · exact obeys_waiting _ hnodes rfl rfl
  · exact obeys_refreshLocked hscope htopology hnodes x.sweeps now

theorem obeys_advanceRefresh (hscope : x.scope = p.scope)
    (htopology : x.topologyCommand = p.topologyCommand) {refresh : Refresh}
    (h : refresh.Within p) (signal : Signal) (now : Instant) :
    x.Obeys p (Refresh.Within p) (x.advanceRefresh refresh signal now) := by
  cases refresh with
  | queued order observed =>
    unfold advanceRefresh
    cases signal with
    | granted =>
      dsimp only
      split
      · exact obeys_waiting _ h rfl rfl
      · exact obeys_refreshLocked hscope htopology h observed now
    | lockTimedOut => exact obeys_done _ rfl rfl
    | resumed | head _ _ | body _ _ | expired _ => exact obeys_waiting _ h rfl rfl
  | sweeping sweep =>
    obtain ⟨mailbox, cache, hfst⟩ := x.advanceFlight_fst sweep.flight signal now
    have hagain : ∀ failures, x.Obeys p (Refresh.Within p)
        ((({ x with mailbox, cache } : Executor).ask sweep.limit failures now sweep.rest).1,
          (({ x with mailbox, cache } : Executor).ask sweep.limit failures now
            sweep.rest).2.mapState .sweeping) := by
      intro failures
      have hask := obeys_ask (x := { x with mailbox, cache }) hscope htopology sweep.limit failures
        now h
      exact Obeys.of_eq (hask.mapState Refresh.sweeping fun _ hsweep => hsweep) rfl rfl
    unfold advanceRefresh advanceSweep
    dsimp only
    cases hadvance : x.advanceFlight sweep.flight signal now with
    | mk z progress =>
      rw [hadvance] at hfst
      obtain rfl : z = { x with mailbox, cache } := hfst
      match progress with
      | .waiting flight => exact obeys_waiting (Refresh.sweeping { sweep with flight }) h rfl rfl
      | .done (.answered topology _ _) =>
        have hsent := ({ x with mailbox, cache } : Executor).sent_install topology
        have hinstalled : (({ x with mailbox, cache } : Executor).install topology).scope =
            x.scope := by
          unfold install
          dsimp only
          split <;> rfl
        exact obeys_done _ hinstalled hsent
      | .done (.failed reason) => exact hagain _
      | .done (.ended fault) => exact hagain _

/-! ## Calls on commands -/

variable {command : Command β} {options : Options} {m : Moment}

theorem mem_of_route {session : Option Int} {nodes : List Node}
    (h : x.route command session = (y, .ok nodes)) : ∀ node ∈ nodes, node ∈ x.topology.nodes := by
  unfold route at h
  split at h
  · split at h
    · rename_i tag htag index node htagged
      cases h
      have hfound := List.mem_of_find?_eq_some htagged
      obtain ⟨i, -, hi⟩ := List.mem_filterMap.mp hfound
      obtain ⟨found, hnode, hsame⟩ := Option.map_eq_some_iff.mp hi
      cases hsame
      exact List.forall_mem_singleton.mpr (List.mem_of_getElem? hnode)
    · cases h
  · dsimp only at h
    split at h
    · cases h
    · cases h
      exact fun node hnode => (x.selector.perm_plan _ _ _).mem_iff.mp hnode

theorem obeys_beginAttempt (hscope : x.scope = p.scope) (hcovers : p.Covers command) {t : Trail}
    {e : Exchange β} (hmade : command.request e.node = .ok e.request) (htarget : p.target e.node)
    (hrest : ∀ node ∈ t.rest, p.target node) :
    x.Obeys p (Phase.Within p command) (x.beginAttempt t e) := by
  unfold beginAttempt
  dsimp only
  split
  · rename_i z f hsend
    have hof := isOf_wire (x := x.emit (.before e.request.url t.attempt)) .command none hscope hmade
    obtain ⟨⟨pool, rfl⟩, -⟩ := send_eq_ok hsend
    refine ⟨rfl, ⟨[_], rfl, List.forall_mem_singleton.mpr (hcovers _ _ hof htarget)⟩, ?_⟩
    intro phase hphase
    cases hphase
    exact hrest
  · exact obeys_done _ rfl rfl

theorem obeys_attempt (hscope : x.scope = p.scope) (hcovers : p.Covers command) (number : Nat)
    (failures : List NodeFailure) {nodes : List Node} (hnodes : ∀ node ∈ nodes, p.target node)
    (m : Moment) :
    x.Obeys p (Phase.Within p command) (x.attempt command options number failures nodes m) := by
  have hturn := x.turnsTo_attempt command options number failures nodes m
  generalize x.attempt command options number failures nodes m = next at hturn ⊢
  cases hturn with
  | noneLeft | noRequest _ | noDelay _ | served _ _ _ _ => exact obeys_done _ rfl rfl
  | begins hprepare =>
    obtain ⟨hfor, rfl, -⟩ := isFor_of_prepare hprepare
    have hboth := List.forall_mem_cons.mp hnodes
    exact obeys_beginAttempt hscope hcovers hfor.request hboth.1 hboth.2
  | pauses _ hprepare =>
    obtain ⟨hfor, rfl, -⟩ := isFor_of_prepare hprepare
    have hboth := List.forall_mem_cons.mp hnodes
    exact obeys_waiting (Phase.pausing _ _ _) ⟨hfor.request, hboth.1, hboth.2⟩ rfl rfl

theorem obeys_follow (hscope : x.scope = p.scope) (hcovers : p.Covers command)
    (htargets : ∀ node ∈ x.topology.nodes, p.target node) (m : Moment) :
    x.Obeys p (Phase.Within p command) (x.follow command options m) := by
  have hsent := x.sent_route command options.session
  have hsame := congrArg Knowledge.scope (x.aside_route command options.session).knowledge
  unfold follow
  split
  · rename_i z e hrouted
    rw [hrouted] at hsent hsame
    exact obeys_done _ hsame hsent
  · rename_i z nodes hrouted
    have hnodes : ∀ node ∈ nodes, p.target node := fun node hnode =>
      htargets node (mem_of_route hrouted node hnode)
    rw [hrouted] at hsent hsame
    exact (obeys_attempt (hsame.trans hscope) hcovers 1 [] hnodes m).of_eq hsame hsent

theorem obeys_afterWish (hscope : x.scope = p.scope) (hcovers : p.Covers command)
    {next : Executor × Progress Refresh (Except ExecutorError Bool)}
    (h : x.Obeys p (Refresh.Within p) next) {isFirst : Bool}
    (htargets : ∀ node ∈ (afterWish command options m isFirst next).1.topology.nodes,
      p.target node) :
    x.Obeys p (Phase.Within p command) (afterWish command options m isFirst next) := by
  obtain ⟨y, progress⟩ := next
  cases progress with
  | waiting refresh =>
    refine ⟨h.scope, h.sent, fun phase hphase => ?_⟩
    cases hphase
    exact h.state refresh rfl
  | done result =>
    unfold afterWish updateOf at htargets ⊢
    simp only [Progress.mapState, Progress.map] at htargets ⊢
    cases hresult : afterUpdate isFirst (y.judge isFirst result) with
    | error e => exact h.trans (obeys_done _ rfl rfl)
    | ok _ =>
      rw [hresult] at htargets
      have hsame : (y.follow command options m).1.topology = y.topology :=
        congrArg Knowledge.topology (y.aside_follow command options m).knowledge
      refine h.trans (obeys_follow (h.scope.trans hscope) hcovers (fun node hnode => ?_) m)
      exact htargets node (hsame ▸ hnode)

theorem obeys_execute (hscope : x.scope = p.scope)
    (htopology : x.topologyCommand = p.topologyCommand) (hcovers : p.Covers command)
    (hwish : ∀ wish, x.commandWish? m.now = some wish → ∀ node ∈ wish.nodes, p.source node)
    (htargets : ∀ node ∈ (x.execute command options m).1.topology.nodes, p.target node) :
    x.Obeys p (Phase.Within p command) (x.execute command options m) := by
  unfold commandWish? at hwish
  rw [execute_prepared] at htargets ⊢
  cases hprepared : x.preparation m.now with
  | refused e => exact obeys_done _ rfl rfl
  | known =>
    rw [hprepared] at htargets
    have hsame : (x.follow command options m).1.topology = x.topology :=
      congrArg Knowledge.topology (x.aside_follow command options m).knowledge
    exact obeys_follow hscope hcovers (fun node hnode => htargets node (hsame ▸ hnode)) m
  | sweep isFirst nodes =>
    rw [hprepared] at hwish htargets
    exact obeys_afterWish hscope hcovers
      (obeys_refresh hscope htopology (hwish _ rfl) m.now) htargets

theorem obeys_concludeAttempt (hscope : x.scope = p.scope) {c : Execution β} {t : Trail}
    {e : Exchange β} (hcovers : p.Covers c.command) (hrest : ∀ node ∈ t.rest, p.target node)
    (outcome : Outcome β) (m : Moment) :
    x.Obeys p (Phase.Within p c.command) (x.concludeAttempt c t e outcome m) := by
  unfold concludeAttempt
  cases outcome with
  | answered result status fromCache => exact obeys_done _ rfl rfl
  | ended fault => exact obeys_done _ rfl rfl
  | failed reason =>
    have hmarked : ((x.markFailed e.node).emit (.failed e.request.url t.attempt reason)).scope =
        p.scope := hscope
    exact (obeys_attempt hmarked hcovers _ _ hrest m).of_eq rfl rfl

theorem obeys_advanceExecution (hscope : x.scope = p.scope)
    (htopology : x.topologyCommand = p.topologyCommand) {c : Execution β}
    (hcovers : p.Covers c.command) (h : c.phase.Within p c.command) {signal : Signal}
    (htargets : ∀ node ∈ (x.advanceExecution c signal m).1.topology.nodes, p.target node) :
    x.Obeys p (Phase.Within p c.command) (x.advanceExecution c signal m) := by
  obtain ⟨command, options, phase⟩ := c
  cases phase with
  | ensuring update =>
    exact obeys_afterWish hscope hcovers (obeys_advanceRefresh hscope htopology h signal m.now)
      htargets
  | pausing trail e pause =>
    obtain ⟨hmade, htarget, hrest⟩ := h
    cases signal with
    | resumed => exact obeys_beginAttempt hscope hcovers hmade htarget hrest
    | granted | lockTimedOut | head _ _ | body _ _ | expired _ =>
      exact obeys_waiting (Phase.pausing trail e pause) ⟨hmade, htarget, hrest⟩ rfl rfl
  | flying trail flight =>
    obtain ⟨mailbox, cache, hfst⟩ := x.advanceFlight_fst flight signal m.now
    unfold advanceExecution
    dsimp only
    cases hadvance : x.advanceFlight flight signal m.now with
    | mk z progress =>
      rw [hadvance] at hfst
      obtain rfl : z = { x with mailbox, cache } := hfst
      cases progress with
      | waiting flight => exact obeys_waiting (Phase.flying trail flight) h rfl rfl
      | done outcome =>
        have hconclude := obeys_concludeAttempt (x := { x with mailbox, cache })
          (c := ⟨command, options, .flying trail flight⟩) (e := flight.exchange) hscope hcovers h
          outcome m
        exact hconclude.of_eq rfl rfl

/-! ## Speed tests -/

theorem obeys_beginTrials (hscope : x.scope = p.scope) (now : Instant) {nodes : List Node}
    (hnodes : ∀ node ∈ nodes, p.target node) :
    (x.beginTrials now nodes).1.scope = x.scope ∧
      ∃ new, (x.beginTrials now nodes).1.sent = new ++ x.sent ∧ ∀ d ∈ new, p.Allows d := by
  induction nodes generalizing x with
  | nil => exact ⟨rfl, [], rfl, by simp⟩
  | cons node rest ih =>
    have hboth := List.forall_mem_cons.mp hnodes
    have htrial : (x.beginTrial node now).1.scope = x.scope ∧
        ∃ new, (x.beginTrial node now).1.sent = new ++ x.sent ∧ ∀ d ∈ new, p.Allows d := by
      unfold beginTrial
      dsimp only
      split
      · rename_i z flight hlaunch
        obtain ⟨d, request, hsent, hsame, hnode, hof⟩ := isOf_of_launch hlaunch
        rw [hscope] at hof
        exact ⟨hsame, [d], hsent,
          List.forall_mem_singleton.mpr (.probe _ request hof (hnode ▸ hboth.1))⟩
      · exact ⟨rfl, [], rfl, by simp⟩
    obtain ⟨hsame, first, hfirst, hallowed⟩ := htrial
    obtain ⟨hsame', others, hothers, hallowed'⟩ := ih (hsame.trans hscope) hboth.2
    refine ⟨hsame'.trans hsame, others ++ first, ?_,
      List.forall_mem_append.mpr ⟨hallowed', hallowed⟩⟩
    show ((x.beginTrial node now).1.beginTrials now rest).1.sent = _
    rw [hothers, hfirst, List.append_assoc]

theorem obeys_concludeTest (x : Executor) (p : Permit α) (t : SpeedTest) :
    x.Obeys p (fun _ => True) (x.concludeTest t) := by
  unfold concludeTest
  split
  · exact obeys_waiting _ trivial rfl rfl
  · exact obeys_done _ rfl rfl

theorem obeys_speedTest (hscope : x.scope = p.scope) (now : Instant)
    (htargets : ∀ node ∈ x.topology.nodes, p.target node) :
    x.Obeys p (fun _ => True) (x.speedTest now) := by
  obtain ⟨hsame, hsent⟩ := obeys_beginTrials hscope now htargets
  unfold speedTest
  dsimp only
  split
  · exact obeys_done _ rfl rfl
  · have hbegun : x.Obeys p (fun _ : Unit => True)
        ((x.beginTrials now x.topology.nodes).1, (.done () : Progress Unit Unit)) :=
      ⟨hsame, hsent, fun _ h => by cases h⟩
    exact hbegun.trans (obeys_concludeTest _ p _)

/-! ## All calls -/

theorem obeys_executed {command : Command α} (hknown : p.command command) {options : Options}
    {next : Next α} (h : x.Obeys p (Phase.Within p command) next) :
    x.Obeys p (Call.Within p) (executed command options next) := by
  obtain ⟨y, progress⟩ := next
  refine ⟨h.scope, h.sent, fun call hcall => ?_⟩
  cases progress with
  | waiting phase =>
    cases hcall
    exact ⟨hknown, h.state phase rfl⟩
  | done result => cases hcall

theorem obeys_configured {name : String} (hname : p.scope = .database name) {options : Options}
    {next : Next ConfigurationVersion}
    (h : x.Obeys p (Phase.Within p (Command.configuration name)) next) :
    x.Obeys p (Call.Within p)
      (configured (Command.configuration name) options next : Step α) := by
  obtain ⟨y, progress⟩ := next
  match progress with
  | .waiting phase =>
    refine ⟨h.scope, h.sent, fun call hcall => ?_⟩
    cases hcall
    exact ⟨⟨name, hname, rfl⟩, h.state phase rfl⟩
  | .done (.error e) => exact ⟨h.scope, h.sent, fun call hcall => by cases hcall⟩
  | .done (.ok executed) => exact ⟨h.scope, h.sent, fun call hcall => by cases hcall⟩

theorem obeys_updated {isFirst : Bool}
    {next : Executor × Progress Refresh (Except ExecutorError Bool)}
    (h : x.Obeys p (Refresh.Within p) next) :
    x.Obeys p (Call.Within p) (updated (updateOf isFirst next) : Step α) := by
  obtain ⟨y, progress⟩ := next
  refine ⟨h.scope, h.sent, fun call hcall => ?_⟩
  cases progress with
  | waiting refresh =>
    cases hcall
    exact h.state refresh rfl
  | done result => cases hcall

theorem obeys_tested {next : Executor × Progress SpeedTest (Except ExecutorError Unit)}
    (h : x.Obeys p (fun _ => True) next) : x.Obeys p (Call.Within p) (tested next : Step α) := by
  obtain ⟨y, progress⟩ := next
  refine ⟨h.scope, h.sent, fun call hcall => ?_⟩
  cases progress with
  | waiting test =>
    cases hcall
    exact trivial
  | done result => cases hcall

theorem covers_command {command : Command α} (hknown : p.command command) : p.Covers command :=
  fun _ request hof htarget => .command command request hknown hof htarget

theorem covers_configuration {name : String} (hname : p.scope = .database name) :
    p.Covers (Command.configuration name) :=
  fun _ request hof htarget => .configuration name request hname hof htarget

theorem obeys_firstUpdate (hscope : x.scope = p.scope)
    (htopology : x.topologyCommand = p.topologyCommand) {now : Instant}
    (hwish : ∀ wish, x.firstWish? now = some wish → ∀ node ∈ wish.nodes, p.source node) :
    x.Obeys p (Call.Within p) (updated (x.firstUpdate now) : Step α) := by
  obtain ⟨hmade, hnone⟩ := x.firstUpdate_eq now
  cases hfirst : x.firstWish? now with
  | some wish =>
    obtain ⟨isFirst, hupdate⟩ := hmade wish hfirst
    rw [hupdate]
    exact obeys_updated (obeys_refresh hscope htopology (hwish wish hfirst) now)
  | none =>
    obtain ⟨result, hupdate⟩ := hnone hfirst
    rw [hupdate]
    exact obeys_done _ rfl rfl

theorem obeys_updateTopology (hscope : x.scope = p.scope)
    (htopology : x.topologyCommand = p.topologyCommand) {node : Node} {force : Bool}
    {limit : Option Duration} {now : Instant}
    (hwish : ∀ wish, x.wish? now (.updateTopology node force limit : Order α) = some wish →
      ∀ node ∈ wish.nodes, p.source node) :
    x.Obeys p (Call.Within p) (updated (x.updateTopology node force limit now) : Step α) := by
  unfold wish? at hwish
  unfold updateTopology
  dsimp only at hwish ⊢
  split
  · exact obeys_done _ rfl rfl
  · rename_i hopen
    rw [if_neg hopen] at hwish
    exact obeys_updated (obeys_refresh hscope htopology (hwish _ rfl) now)

theorem obeys_refreshTopology (hscope : x.scope = p.scope)
    (htopology : x.topologyCommand = p.topologyCommand) {force : Bool} {now : Instant}
    (hwish : ∀ wish, x.wish? now (.refreshTopology force : Order α) = some wish →
      ∀ node ∈ wish.nodes, p.source node) :
    x.Obeys p (Call.Within p) (updated (x.refreshTopology force now) : Step α) := by
  unfold wish? at hwish
  unfold refreshTopology
  dsimp only at hwish ⊢
  split
  · exact obeys_done _ rfl rfl
  · rename_i hopen
    rw [if_neg hopen] at hwish
    split
    · rename_i huninitialized
      rw [if_pos huninitialized] at hwish
      exact obeys_firstUpdate hscope htopology hwish
    · rename_i hinitialized
      rw [if_neg hinitialized] at hwish
      exact obeys_updated (obeys_refresh hscope htopology (hwish _ rfl) now)

theorem obeys_updateConfiguration (hscope : x.scope = p.scope)
    (htopology : x.topologyCommand = p.topologyCommand) {m : Moment}
    (hwish : ∀ wish, x.wish? m.now (.updateConfiguration : Order α) = some wish →
      ∀ node ∈ wish.nodes, p.source node)
    (htargets : ∀ node ∈ (x.begin m (.updateConfiguration : Order α)).1.topology.nodes,
      p.target node) :
    x.Obeys p (Call.Within p) (x.begin m (.updateConfiguration : Order α)) := by
  unfold wish? at hwish
  unfold begin at htargets ⊢
  dsimp only at hwish htargets ⊢
  cases hdatabase : x.scope with
  | cluster => exact obeys_done _ rfl rfl
  | database name =>
    rw [hdatabase] at hwish htargets
    have hname : p.scope = .database name := hscope.symm.trans hdatabase
    have hsame := congrArg Knowledge.topology (configured_spec (α := α)
      (Command.configuration name) {} (x.execute (Command.configuration name) {} m)).1.knowledge
    change (configured _ {} _ : Step α).1.topology = _ at hsame
    rw [hsame] at htargets
    exact obeys_configured hname
      (obeys_execute hscope htopology (covers_configuration hname) hwish htargets)

theorem obeys_begin (hscope : x.scope = p.scope) (htopology : x.topologyCommand = p.topologyCommand)
    {order : Order α} {m : Moment}
    (hcommand : ∀ command options, order = .execute command options → p.command command)
    (hwish : ∀ wish, x.wish? m.now order = some wish → ∀ node ∈ wish.nodes, p.source node)
    (htargets : ∀ node ∈ (x.begin m order).1.topology.nodes, p.target node) :
    x.Obeys p (Call.Within p) (x.begin m order) := by
  cases order with
  | execute command options =>
    have hknown := hcommand command options rfl
    have hsame : (x.begin m (.execute command options)).1.topology =
        (x.execute command options m).1.topology :=
      congrArg Executor.topology (executed_spec command options (x.execute command options m)).1
    exact obeys_executed hknown (obeys_execute hscope htopology (covers_command hknown) hwish
      (hsame ▸ htargets))
  | updateConfiguration => exact obeys_updateConfiguration hscope htopology hwish htargets
  | updateTopology _ _ _ => exact obeys_updateTopology hscope htopology hwish
  | refreshTopology _ => exact obeys_refreshTopology hscope htopology hwish
  | firstUpdate => exact obeys_firstUpdate hscope htopology hwish
  | speedTest =>
    have hsame : (x.begin m (.speedTest : Order α)).1.topology = x.topology :=
      (congrArg Executor.topology (tested_spec (α := α) (x.speedTest m.now)).1).trans
        (congrArg Knowledge.topology (x.aside_speedTest m.now).knowledge)
    exact obeys_tested (obeys_speedTest hscope m.now (hsame ▸ htargets))

theorem obeys_advance (hscope : x.scope = p.scope)
    (htopology : x.topologyCommand = p.topologyCommand) {call : Call α} (h : call.Within p)
    {m : Moment} {signal : Signal}
    (htargets : ∀ node ∈ (x.advance m signal call).1.topology.nodes, p.target node) :
    x.Obeys p (Call.Within p) (x.advance m signal call) := by
  cases call with
  | executing c =>
    obtain ⟨hknown, hphase⟩ := h
    have hsame : (x.advance m signal (.executing c)).1.topology =
        (x.advanceExecution c signal m).1.topology :=
      congrArg Executor.topology (executed_spec c.command c.options _).1
    exact obeys_executed hknown (obeys_advanceExecution hscope htopology (covers_command hknown)
      hphase (hsame ▸ htargets))
  | configuring c =>
    obtain ⟨command, options, phase⟩ := c
    obtain ⟨⟨name, hname, rfl⟩, hphase⟩ := h
    have hsame := congrArg Knowledge.topology (configured_spec (α := α)
      (Command.configuration name) options
      (x.advanceExecution ⟨Command.configuration name, options, phase⟩ signal m)).1.knowledge
    change (x.advance m signal (.configuring ⟨.configuration name, options, phase⟩)).1.topology =
      (x.advanceExecution ⟨.configuration name, options, phase⟩ signal m).1.topology at hsame
    rw [hsame] at htargets
    exact obeys_configured hname (obeys_advanceExecution hscope htopology
      (covers_configuration hname) hphase htargets)
  | updating u => exact obeys_updated (obeys_advanceRefresh hscope htopology h signal m.now)
  | testing t =>
    obtain ⟨mailbox, cache, hfst⟩ := x.advanceTrials_fst signal m.now t.trials
    exact obeys_tested ((obeys_concludeTest _ p _).of_eq (by rw [hfst]) (by rw [hfst]))

end Executor

end ClusterClient
