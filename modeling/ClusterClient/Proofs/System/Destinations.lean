import ClusterClient.Proofs.Executor.Destinations
import ClusterClient.Proofs.System.Configurations
import ClusterClient.Proofs.System.Seeds

/-!
# Where the requests of a system go

What a system may have sent after a run is what its callers ordered, and to nodes
that it was made with, that callers named or that servers told it of.  With no
updates of the topology this leaves the nodes that it was made with, and for the
cluster nothing that is about configurations.
-/

namespace ClusterClient

open Report

variable {α : Type} {p q : Permit α}

/-! ## Permits -/

structure Permit.Le (p q : Permit α) : Prop where
  scope : q.scope = p.scope
  topologyCommand : q.topologyCommand = p.topologyCommand
  command : ∀ command, p.command command → q.command command
  source : ∀ node, p.source node → q.source node
  target : ∀ node, p.target node → q.target node

theorem Permit.Allows.mono {d : Dispatch} (h : p.Allows d) (hle : p.Le q) : q.Allows d := by
  cases h with
  | topology request isOf source =>
    rw [← hle.scope, ← hle.topologyCommand] at isOf
    exact .topology request isOf (hle.source d.node source)
  | probe limit request isOf target =>
    rw [← hle.scope] at isOf
    exact .probe limit request isOf (hle.target d.node target)
  | configuration name request scope isOf target =>
    rw [← hle.scope] at isOf
    exact .configuration name request (hle.scope.trans scope) isOf (hle.target d.node target)
  | command command request known isOf target =>
    rw [← hle.scope] at isOf
    exact .command command request (hle.command command known) isOf (hle.target d.node target)

theorem Refresh.Within.mono {refresh : Refresh} (h : refresh.Within p) (hle : p.Le q) :
    refresh.Within q := by
  cases refresh with
  | queued order observed => exact fun node hnode => hle.source node (h node hnode)
  | sweeping sweep => exact fun node hnode => hle.source node (h node hnode)

theorem Phase.Within.mono {β : Type} {command : Command β} {phase : Phase β}
    (h : phase.Within p command) (hle : p.Le q) : phase.Within q command := by
  cases phase with
  | ensuring update => exact Refresh.Within.mono h hle
  | pausing trail e pause =>
    exact ⟨h.1, hle.target e.node h.2.1, fun node hnode => hle.target node (h.2.2 node hnode)⟩
  | flying trail flight => exact fun node hnode => hle.target node (h node hnode)

theorem Call.Within.mono {call : Call α} (h : call.Within p) (hle : p.Le q) : call.Within q := by
  cases call with
  | executing c => exact ⟨hle.command c.command h.1, h.2.mono hle⟩
  | configuring c =>
    obtain ⟨⟨name, hname, hcommand⟩, hphase⟩ := h
    exact ⟨⟨name, hle.scope.trans hname, hcommand⟩, hphase.mono hle⟩
  | updating u => exact Refresh.Within.mono h hle
  | testing t => exact trivial

namespace System

variable {s : System α} {m : Moment} {action : Action α}

/-! ## Steps within a permit -/

/-- All that was sent is allowed, and all that is under way is within the permit. -/
structure Obeys (s : System α) (p : Permit α) : Prop where
  sent : ∀ d ∈ s.executor.sent, p.Allows d
  calls : ∀ c call, s.call? c = some call → call.Within p

theorem Obeys.mono (h : s.Obeys p) (hle : p.Le q) : s.Obeys q :=
  ⟨fun d hd => (h.sent d hd).mono hle, fun c call hcall => (h.calls c call hcall).mono hle⟩

theorem Obeys.absorb {x : Executor} {step : Executor.Step α} (h : s.Obeys p) (caller : Caller)
    (hstep : x.Obeys p (Call.Within p) step) (hsent : x.sent = s.executor.sent) :
    (s.absorb caller step).1.Obeys p := by
  obtain ⟨new, hnew, hallowed⟩ := hstep.sent
  refine ⟨fun d hd => ?_, fun c call hcall => ?_⟩
  · rw [sent_absorb, hnew, hsent] at hd
    exact (List.mem_append.mp hd).elim (hallowed d) (h.sent d)
  · rw [call?_absorb] at hcall
    split at hcall
    · exact hstep.state call (Progress.state?_eq_some_iff.mp hcall)
    · exact h.calls c call hcall

theorem Obeys.abandon (h : s.Obeys p) (caller : Caller) : (s.abandon caller).Obeys p := by
  refine ⟨by rw [sent_abandon]; exact h.sent, fun c call hcall => ?_⟩
  rw [call?_abandon] at hcall
  split at hcall
  · cases hcall
  · exact h.calls c call hcall

theorem topology_absorb (s : System α) (caller : Caller) (step : Executor.Step α) :
    (s.absorb caller step).1.executor.topology = step.1.topology := by
  obtain ⟨listening, mailbox, habsorbed⟩ := s.executor_absorb caller step
  rw [habsorbed]
  rfl

theorem Obeys.step (h : s.Obeys p) (hscope : s.executor.scope = p.scope)
    (htopology : s.executor.topologyCommand = p.topologyCommand)
    (hcommand : ∀ number command options, action = .begin number (.execute command options) →
      p.command command)
    (hwish : ∀ caller mailbox order wish,
      s.opening? action = some (caller, { s.executor with mailbox }, order) →
        ({ s.executor with mailbox } : Executor).wish? m.now order = some wish →
          ∀ node ∈ wish.nodes, p.source node)
    (htargets : ∀ node ∈ (s.step m action).1.executor.topology.nodes, p.target node) :
    (s.step m action).1.Obeys p := by
  have hhappens := s.happens_step m action
  generalize s.step m action = next at hhappens htargets ⊢
  cases hhappens with
  | @begins _ caller mailbox order _ hopening =>
    rw [topology_absorb] at htargets
    have hcommands : ∀ command options, order = .execute command options → p.command command := by
      rintro command options rfl
      obtain ⟨number, rfl⟩ := begin_of_opening hopening
        fun message h => by cases message <;> cases h
      exact hcommand number command options rfl
    have hbegun := Executor.obeys_begin (x := { s.executor with mailbox }) hscope htopology
      hcommands (fun wish => hwish caller mailbox order wish hopening) htargets
    exact h.absorb caller hbegun rfl
  | @goesOn caller signal call hcall =>
    rw [topology_absorb] at htargets
    exact h.absorb caller
      (Executor.obeys_advance hscope htopology (h.calls caller call hcall) htargets) rfl
  | abandons caller => exact h.abandon caller
  | disposes _ =>
    have hgiven := h.abandon .background
    exact ⟨by rw [sent_dispose]; exact hgiven.sent, hgiven.calls⟩
  | opensNothing _ _ | findsNothing _ | disposedAlready _ => exact h

/-! ## The permit of a run -/

def Ordered (run : Run α) (command : Command α) : Prop :=
  ∃ m number options, (m, .begin number (.execute command options)) ∈ run

def Named (run : Run α) (node : Node) : Prop :=
  ∃ m number force limit, (m, .begin number (.updateTopology node force limit)) ∈ run

def Known (s : System α) (run : Run α) (node : Node) : Prop :=
  node ∈ s.executor.topology.nodes ∨ ∃ t ∈ fetched (s.reports run), node ∈ t.nodes

/-- What a system may have sent after a run. -/
def permit (s : System α) (run : Run α) : Permit α where
  scope := s.executor.scope
  topologyCommand := s.executor.topologyCommand
  command := Ordered run
  source node := s.Known run node ∨ node ∈ s.executor.seedNodes ∨ Named run node
  target := s.Known run

theorem Known.cons {event : Moment × Action α} {before : Run α} {node : Node}
    (h : s.Known before node) : s.Known (event :: before) node := by
  obtain ⟨m, action⟩ := event
  refine h.imp_right fun ⟨t, ht, hnode⟩ => ⟨t, ?_, hnode⟩
  rw [reports]
  cases (s.after before).report? m action with
  | none => exact ht
  | some r =>
    rw [Option.toList_some, List.singleton_append, fetched_cons]
    exact List.mem_append_right _ ht

theorem permit_le (s : System α) (event : Moment × Action α) (before : Run α) :
    (s.permit before).Le (s.permit (event :: before)) := by
  refine ⟨rfl, rfl, ?_, ?_, fun _ => Known.cons⟩
  · rintro command ⟨m, number, options, hmem⟩
    exact ⟨m, number, options, List.mem_cons_of_mem _ hmem⟩
  · refine fun node => Or.imp Known.cons (Or.imp_right ?_)
    rintro ⟨m, number, force, limit, hmem⟩
    exact ⟨m, number, force, limit, List.mem_cons_of_mem _ hmem⟩

theorem known_of_mem_topology {run : Run α} {node : Node}
    (h : node ∈ (s.after run).executor.topology.nodes) : s.Known run node := by
  have htopology : (s.after run).executor.topology =
      Topology.mergeAll (fetched (s.reports run)) s.executor.topology :=
    (learnt_after s run).topology
  rw [htopology] at h
  rcases Topology.mergeAll_cases (fetched (s.reports run)) s.executor.topology with
    ⟨hsame, -⟩ | ⟨hfetched, -, -⟩
  · exact .inl (hsame ▸ h)
  · exact .inr ⟨_, hfetched, h⟩

theorem source_of_wish {before : Run α} {caller : Caller} {mailbox : List Message}
    {order : Order α} {wish : SweepOrder} {node : Node}
    (hopening : (s.after before).opening? action =
      some (caller, { (s.after before).executor with mailbox }, order))
    (hwish : ({ (s.after before).executor with mailbox } : Executor).wish? m.now order = some wish)
    (hnode : node ∈ wish.nodes) : (s.permit ((m, action) :: before)).source node := by
  have hseeds := seedNodes_after s before
  rcases Executor.wish?_cases hwish with
    ⟨-, -, hnodes⟩ | ⟨-, -, ⟨-, hnodes⟩ | ⟨named, force, limit, rfl, hnodes⟩⟩
  · rw [hnodes] at hnode
    exact .inr (.inl (hseeds ▸ hnode))
  · rw [hnodes] at hnode
    rcases Executor.mem_of_mem_refreshNodes hnode with hknown | hseed
    · exact .inl (Known.cons (known_of_mem_topology hknown))
    · exact .inr (.inl (hseeds ▸ hseed))
  · obtain ⟨number, rfl⟩ := begin_of_opening hopening fun message h => by cases message <;> cases h
    rw [hnodes, List.mem_singleton] at hnode
    exact .inr (.inr ⟨m, number, force, limit, hnode ▸ List.mem_cons_self⟩)

theorem obeys_after (hidle : ∀ c, s.call? c = none) (hsent : s.executor.sent = []) (run : Run α) :
    (s.after run).Obeys (s.permit run) := by
  induction run with
  | nil =>
    refine ⟨fun d hd => ?_, fun c call hcall => by cases (hidle c).symm.trans hcall⟩
    rw [after, hsent] at hd
    cases hd
  | cons event before ih =>
    obtain ⟨m, action⟩ := event
    refine (ih.mono (s.permit_le (m, action) before)).step (scope_after s before)
      (topologyCommand_after s before) ?_ ?_ fun node hnode => known_of_mem_topology hnode
    · rintro number command options rfl
      exact ⟨m, number, options, List.mem_cons_self⟩
    · intro caller mailbox order wish hopening hwish node hnode
      exact source_of_wish hopening hwish hnode

/-! ## Executors that keep their nodes -/

/-- The urls that an executor was made with, each once, are its nodes for good, and it asks none of
them for others. -/
structure KeepsNodes (s : System α) (seeds : List Url) : Prop where
  etag : s.executor.topology.etag = 0
  nodes : s.executor.topology.nodes = (firstOfEach id seeds).map fun url =>
    { Executor.seedNode s.executor.scope url with tag := Executor.standaloneTag }
  unasked : ∀ d ∈ s.executor.sent, d.purpose ≠ .topology
  targets : ∀ d ∈ s.executor.sent, d.node ∈ s.executor.topology.nodes

theorem report?_eq_none (hknown : s.executor.initialized = true)
    (hupdates : s.executor.updatesTopology = false) (hidle : ∀ c, s.refresh? c = none)
    (m : Moment) (action : Action α) : s.report? m action = none := by
  cases hreport : s.report? m action with
  | none => rfl
  | some r =>
    rcases report?_cases hreport with ⟨caller, mailbox, order, wish, -, hwish, -⟩ |
      ⟨caller, signal, refresh, -, hrefresh, -⟩ | ⟨caller, refresh, hrefresh, -⟩
    · cases (Executor.wish?_eq_none order hknown hupdates).symm.trans hwish
    · cases (hidle caller).symm.trans hrefresh
    · cases (hidle caller).symm.trans hrefresh

theorem rests_after (hknown : s.executor.initialized = true)
    (hupdates : s.executor.updatesTopology = false) (hidle : ∀ c, s.refresh? c = none)
    (run : Run α) : s.Rests (s.after run) ∧ s.reports run = [] := by
  induction run with
  | nil => exact ⟨s.rests_refl, rfl⟩
  | cons event before ih =>
    obtain ⟨m, action⟩ := event
    obtain ⟨hrests, hreports⟩ := ih
    have hinitialized : (s.after before).executor.initialized = true :=
      (congrArg Knowledge.initialized hrests.knowledge).trans hknown
    have hconventions : (s.after before).executor.updatesTopology = false := by
      rw [Executor.updatesTopology, conventions_after]
      exact hupdates
    have hnone := report?_eq_none hinitialized hconventions
      (fun c => (hrests.refreshes c).trans (hidle c)) m action
    have hstep := step_rests hnone
    refine ⟨⟨hstep.knowledge.trans hrests.knowledge, hstep.asked.trans hrests.asked,
      fun c => (hstep.refreshes c).trans (hrests.refreshes c)⟩, ?_⟩
    rw [reports, hnone, hreports]
    rfl

theorem keepsNodes_new (scope : Scope) (applicationId : String) (seeds : List Url)
    (conventions : Conventions) (proxy : Option String)
    (hupdates : conventions.disableTopologyUpdates = true) (run : Run α) :
    ((new scope applicationId seeds conventions proxy : System α).after run).KeepsNodes seeds := by
  let start : System α := new scope applicationId seeds conventions proxy
  obtain ⟨mailbox, hexecutor⟩ := executor_new (α := α) scope applicationId seeds conventions proxy
  have hknown : start.executor.initialized = true := by rw [hexecutor, hupdates]
  have hfixed : start.executor.updatesTopology = false := by
    rw [hexecutor, Executor.updatesTopology, Conventions.updatesTopology, hupdates]
    rfl
  obtain ⟨hrests, hreports⟩ := rests_after hknown hfixed (refresh?_new _ _ _ _ _) run
  have htopology : (start.after run).executor.topology = .ofNodes 0 (seeds.map fun url =>
      { Executor.seedNode scope url with tag := Executor.standaloneTag }) := by
    have hsame : (start.after run).executor.topology = start.executor.topology :=
      congrArg Knowledge.topology hrests.knowledge
    rw [hsame, Executor.topology, hexecutor]
    simp [Executor.initialTopology, Conventions.updatesTopology, hupdates]
  have hscope : (start.after run).executor.scope = scope :=
    (scope_after start run).trans (congrArg Executor.scope hexecutor)
  have hasked : (start.after run).executor.asked = [] := hrests.asked.trans (asked_new _ _ _ _ _)
  have hunasked : ∀ d ∈ (start.after run).executor.sent, d.purpose ≠ .topology := by
    intro d hd hpurpose
    have hmem : d.node ∈ (start.after run).executor.asked :=
      List.mem_map_of_mem (List.mem_filter.mpr ⟨hd, by simpa using hpurpose⟩)
    rw [hasked] at hmem
    cases hmem
  refine ⟨by rw [htopology]; rfl, ?_, hunasked, fun d hd => ?_⟩
  · rw [htopology, hscope]
    exact firstOfEach_map (fun a b => by simp [Node.key, Executor.seedNode]) seeds
  · have hallowed := (obeys_after (s := start) (fun _ => rfl)
      (congrArg Executor.sent hexecutor) run).sent d hd
    have htarget : start.Known run d.node := hallowed.target_node (hunasked d hd)
    rcases htarget with hnode | ⟨t, ht, -⟩
    · have hsame : (start.after run).executor.topology = start.executor.topology :=
        congrArg Knowledge.topology hrests.knowledge
      exact hsame ▸ hnode
    · rw [hreports] at ht
      cases ht

/-! ## Executors for the cluster -/

/-- What is sent for the cluster is not about configurations, and none is ever in force. -/
structure KeepsFromConfigurations (s : System α) (conventions : Conventions) (run : Run α) :
    Prop where
  /-- No call for a configuration is under way. -/
  idle : ∀ c e, s.call? c ≠ some (.configuring e)
  /-- Requests of commands are those that callers ordered. -/
  commands : ∀ d ∈ s.executor.sent, d.purpose = .command →
    ∃ command request, Ordered run command ∧ d.IsOf .cluster .command command request
  /-- No request names a configuration unless the command of a caller does. -/
  headers : ∀ d ∈ s.executor.sent, ∀ value, (Headers.configurationEtag, value) ∈ d.wire.headers →
    ∃ command request, Ordered run command ∧ d.IsOf .cluster .command command request ∧
      (Headers.configurationEtag, value) ∈ request.headers
  configuration : s.executor.configuration = .unknown
  readBalance : s.executor.readBalance = conventions.readBalance

theorem configurations_eq_nil (hidle : ∀ c, s.call? c = none) (hsent : s.executor.sent = [])
    (hcluster : s.executor.scope = .cluster) (run : Run α) : s.configurations run = [] := by
  induction run with
  | nil => rfl
  | cons event before ih =>
    obtain ⟨m, action⟩ := event
    rw [configurations, ih, List.append_nil]
    have hnone : (s.after before).configuration? action = none := by
      cases action with
      | begin _ _ | attend | tick _ | abandon _ | dispose => rfl
      | signal c signal =>
        show ((s.after before).call? c).bind (·.configuration? signal) = none
        cases hcall : (s.after before).call? c with
        | none => rfl
        | some call =>
          cases call with
          | executing _ | updating _ | testing _ => rfl
          | configuring e =>
            obtain ⟨⟨name, hname, -⟩, -⟩ := (obeys_after hidle hsent before).calls c _ hcall
            cases hcluster.symm.trans hname
    rw [hnone]
    rfl

theorem keepsFromConfigurations_new (applicationId : String) (seeds : List Url)
    (conventions : Conventions) (proxy : Option String) (run : Run α) :
    ((new .cluster applicationId seeds conventions proxy : System α).after
      run).KeepsFromConfigurations conventions run := by
  let start : System α := new .cluster applicationId seeds conventions proxy
  obtain ⟨mailbox, hexecutor⟩ :=
    executor_new (α := α) .cluster applicationId seeds conventions proxy
  have hidle : ∀ c, start.call? c = none := fun _ => rfl
  have hsent : start.executor.sent = [] := congrArg Executor.sent hexecutor
  have hcluster : start.executor.scope = .cluster := congrArg Executor.scope hexecutor
  have hobeys := obeys_after hidle hsent run
  have hbare : (start.permit run).topologyCommand.Bare := Command.bare_topology _
  have hgenuine : start.Genuine := fun c _ hcall => by cases (hidle c).symm.trans hcall
  have hconfiguration : (start.after run).executor.configuration = .unknown := by
    have hunknown : start.executor.configuration = .unknown :=
      congrArg Executor.configuration hexecutor
    rw [configuration_after (fits_of_idle hidle) hgenuine hunknown,
      configurations_eq_nil hidle hsent hcluster]
    rfl
  constructor
  case idle =>
    intro c e hcall
    obtain ⟨⟨name, hname, -⟩, -⟩ := hobeys.calls c _ hcall
    cases hcluster.symm.trans hname
  case commands =>
    intro d hd hpurpose
    rw [← hcluster]
    exact (hobeys.sent d hd).known_command hcluster hpurpose
  case headers =>
    intro d hd value hvalue
    rw [← hcluster]
    exact (hobeys.sent d hd).configurationEtag hbare hcluster hvalue
  case configuration => exact hconfiguration
  case readBalance =>
    rw [readBalance_eq, hconfiguration, conventions_after, hexecutor]
    rfl

/-! ## Executors that fetch their topology -/

/-- Nodes are used as servers tell of them: commands and probes go to nodes of topologies that
servers sent, and requests for a topology to these, to the urls that the executor was made with and
to nodes that callers named. -/
structure FollowsServers (s start : System α) (seeds : List Url) (run : Run α) : Prop where
  first : fetched (start.reports run) = [] → ∀ d ∈ s.executor.sent, d.purpose = .topology
  targets : ∀ d ∈ s.executor.sent, d.purpose ≠ .topology →
    ∃ t ∈ fetched (start.reports run), d.node ∈ t.nodes
  sources : ∀ d ∈ s.executor.sent, d.purpose = .topology →
    (∃ t ∈ fetched (start.reports run), d.node ∈ t.nodes) ∨
      (∃ url ∈ seeds, d.node = Executor.seedNode s.executor.scope url) ∨ Named run d.node
  /-- A topology counts as fetched only if it came in the body of an answer. -/
  bodies : ∀ t ∈ fetched (start.reports run), ∃ m c ticket bytes,
    (m, .signal c (.body ticket (.ok bytes))) ∈ run ∧
      start.executor.topologyCommand.parse bytes false = .ok t

theorem followsServers_new (scope : Scope) (applicationId : String) (seeds : List Url)
    (conventions : Conventions) (proxy : Option String)
    (hupdates : conventions.disableTopologyUpdates = false) (run : Run α) :
    ((new scope applicationId seeds conventions proxy : System α).after run).FollowsServers
      (new scope applicationId seeds conventions proxy) seeds run := by
  let start : System α := new scope applicationId seeds conventions proxy
  obtain ⟨mailbox, hexecutor⟩ := executor_new (α := α) scope applicationId seeds conventions proxy
  have hobeys := obeys_after (s := start) (fun _ => rfl) (congrArg Executor.sent hexecutor) run
  have hempty : start.executor.topology.nodes = [] := by
    rw [Executor.topology, hexecutor]
    simp [Executor.initialTopology, Conventions.updatesTopology, hupdates, Topology.empty]
  have hseeds : start.executor.seedNodes =
      seeds.map (Executor.seedNode (start.after run).executor.scope) := by
    rw [Executor.seedNodes, scope_after start run, show start.executor.seeds = seeds from
      congrArg Executor.seeds hexecutor]
  have hfetched : ∀ node, start.Known run node →
      ∃ t ∈ fetched (start.reports run), node ∈ t.nodes := by
    rintro node (hnode | hfetched)
    · rw [hempty] at hnode
      cases hnode
    · exact hfetched
  have htargets : ∀ d ∈ (start.after run).executor.sent, d.purpose ≠ .topology →
      ∃ t ∈ fetched (start.reports run), d.node ∈ t.nodes := fun d hd hpurpose =>
    hfetched d.node ((hobeys.sent d hd).target_node hpurpose)
  have hautomatic : start.executor.topologyCommand.disposal = .automatic := by
    unfold Executor.topologyCommand
    split <;> rfl
  constructor
  case first =>
    intro hnone d hd
    by_contra hpurpose
    obtain ⟨t, ht, -⟩ := htargets d hd hpurpose
    rw [hnone] at ht
    cases ht
  case targets => exact htargets
  case sources =>
    intro d hd hpurpose
    rcases (hobeys.sent d hd).source_node hpurpose with hknown | hseed | hnamed
    · exact .inl (hfetched d.node hknown)
    · rw [hseeds] at hseed
      obtain ⟨url, hurl, hnode⟩ := List.mem_map.mp hseed
      exact .inr (.inl ⟨url, hurl, hnode.symm⟩)
    · exact .inr (.inr hnamed)
  case bodies =>
    exact fun t ht => sent_of_fetched (refresh?_new scope applicationId seeds conventions proxy)
      hautomatic run ht

/-- Requests go only where they may, if the requests of the commands that callers order are made for
endpoints of their nodes. Requests stay on record, so this holds of each when it leaves. -/
theorem sends_where_allowed_new (scope : Scope) (applicationId : String) (seeds : List Url)
    (conventions : Conventions) (proxy : Option String) (run : Run α)
    (hcommands : ∀ command : Command α, Ordered run command → command.IsServed) :
    let start : System α := new scope applicationId seeds conventions proxy
    (∀ d ∈ (start.after run).executor.sent,
      (start.permit run).Allows d ∧ d.node.Serves d.wire.url) ∧
    (conventions.disableTopologyUpdates = true → (start.after run).KeepsNodes seeds) ∧
    (scope = .cluster → (start.after run).KeepsFromConfigurations conventions run) ∧
    (conventions.disableTopologyUpdates = false →
      (start.after run).FollowsServers start seeds run) := by
  intro start
  obtain ⟨mailbox, hexecutor⟩ := executor_new (α := α) scope applicationId seeds conventions proxy
  have hobeys := obeys_after (s := start) (fun _ => rfl) (congrArg Executor.sent hexecutor) run
  refine ⟨fun d hd => ⟨hobeys.sent d hd, ?_⟩, ?_, ?_, ?_⟩
  · exact (hobeys.sent d hd).serves (Command.isServed_topology _) hcommands
  · exact fun hupdates => keepsNodes_new scope applicationId seeds conventions proxy hupdates run
  · rintro rfl
    exact keepsFromConfigurations_new applicationId seeds conventions proxy run
  · exact fun hupdates =>
      followsServers_new scope applicationId seeds conventions proxy hupdates run

/-- The node that an executor was made with tells it of another one, which then gets the command. -/
theorem sends_where_allowed_new_fetched :
    let host := fun name => ⟨"http", some ⟨"", "", .name name, some 8080⟩, "/", none, none⟩
    let start : System Bytes := System.new (.database "db") "app" [host "a"] {} none
    let m : Moment := ⟨0, Duration.half⟩
    let answer := Bytes.ofString ("\x7b\"Etag\":5,\"Topology\":\x7b\"Nodes\":" ++
      "[\x7b\"Url\":\"http://b:8080\",\"ClusterTag\":\"B\"\x7d]\x7d\x7d")
    let get : Command Bytes :=
      { request := fun node =>
          (Command.endpoint node "databases/db/docs").bind fun base => .ok (.get base)
        parse := fun body _ => .ok body, isRead := true }
    let run : Run Bytes := [(m, .begin 1 (.execute get {})),
      (m, .signal .background (.body 0 (.ok answer))),
      (m, .signal .background (.head 0 (.ok { status := 200 }))), (m, .attend)]
    (∀ command : Command Bytes, Ordered run command → command.IsServed) ∧
      (start.after run).FollowsServers start [host "a"] run ∧
      (∀ d ∈ (start.after run).executor.sent, d.node.Serves d.wire.url) ∧
      (start.after run).executor.sent.map (fun d => (d.purpose, d.wire.url)) =
        [(.command, { host "b" with path := "/databases/db/docs" }),
          (.topology, { host "a" with
            path := "/topology", query := some "name=db&applicationIdentifier=app" })] := by
  intro host start m answer get run
  have hcommands : ∀ command : Command Bytes, Ordered run command → command.IsServed := by
    rintro command ⟨m', number, options, hmem⟩
    obtain ⟨-, -, rfl, -⟩ :
        m' = m ∧ number = 1 ∧ command = get ∧ options = {} := by simpa [run] using hmem
    exact Command.isServed_get (fun _ => rfl) fun _ => rfl
  obtain ⟨hsent, -, -, hfollows⟩ := sends_where_allowed_new (.database "db") "app" [host "a"] {}
    none run hcommands
  exact ⟨hcommands, hfollows rfl, fun d hd => (hsent d hd).2, by decide +kernel⟩

end System

end ClusterClient
