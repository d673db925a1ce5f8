import ClusterClient.Proofs.Executor.Unavailable
import ClusterClient.Proofs.System.Locks

/-!
# What failed sweeps account for

The failures that a sweep leaves behind are those of its nodes, one for each and
in order.  A call that reports the topology as unavailable hands on what the last
sweep left behind, whoever began that sweep and whichever nodes it was for.
-/

namespace ClusterClient

variable {α : Type} {command : Command Topology} {k k' : Knowledge} {wishes : Wishes}
  {caller : Caller} {after : Option Refresh} {now : Instant} {r : Report} {reports : List Report}

structure Swept where
  order : SweepOrder
  /-- The nodes that were sent a request, the first one first. -/
  asked : List Node
  /-- What the sweep came to, if it ended. -/
  outcome : Option (Except (List NodeFailure) Topology)

namespace Report

/-- The sweeps of these reports, the last one first.  Since sweeps never overlap, every request is
one of the sweep that was begun last. -/
def sweeps : List Report → List Swept
  | [] => []
  | r :: before =>
    match r.began, sweeps before with
    | some order, earlier => ⟨order, r.asked, r.ended⟩ :: earlier
    | none, [] => []
    | none, current :: earlier =>
      { current with asked := current.asked ++ r.asked, outcome := current.outcome.or r.ended } ::
        earlier

theorem sweeps_of_began {order : SweepOrder} (h : r.began = some order) :
    sweeps (r :: reports) = ⟨order, r.asked, r.ended⟩ :: sweeps reports := by
  rw [sweeps, h]

theorem sweeps_of_current {swept : Swept} {earlier : List Swept} (h : r.began = none)
    (hcurrent : sweeps reports = swept :: earlier) :
    sweeps (r :: reports) =
      { swept with asked := swept.asked ++ r.asked, outcome := swept.outcome.or r.ended } ::
        earlier := by
  rw [sweeps, h, hcurrent]

theorem sweeps_of_still (hbegan : r.began = none) (hasked : r.asked = [])
    (hended : r.ended = none) :
    sweeps (r :: reports) = sweeps reports := by
  cases hsweeps : sweeps reports with
  | nil => rw [sweeps, hbegan, hsweeps]
  | cons current earlier =>
    rw [sweeps_of_current hbegan hsweeps, hasked, hended, List.append_nil, Option.or_none]

theorem asked_of_mem_sweeps {swept : Swept} {node : Node} (h : swept ∈ sweeps reports)
    (hnode : node ∈ swept.asked) : ∃ r ∈ reports, node ∈ r.asked := by
  induction reports generalizing swept with
  | nil => cases h
  | cons r before ih =>
    have hearlier : ∀ {swept : Swept}, swept ∈ sweeps before → node ∈ swept.asked →
        ∃ r' ∈ r :: before, node ∈ r'.asked := by
      intro swept hswept hasked
      obtain ⟨r', hr', hin⟩ := ih hswept hasked
      exact ⟨r', List.mem_cons_of_mem r hr', hin⟩
    cases hbegan : r.began with
    | some order =>
      rw [sweeps_of_began hbegan] at h
      rcases List.mem_cons.mp h with rfl | h
      · exact ⟨r, List.mem_cons_self, hnode⟩
      · exact hearlier h hnode
    | none =>
      cases hsweeps : sweeps before with
      | nil =>
        rw [sweeps, hbegan, hsweeps] at h
        cases h
      | cons current earlier =>
        rw [sweeps_of_current hbegan hsweeps] at h
        rcases List.mem_cons.mp h with rfl | h
        · rcases List.mem_append.mp hnode with hnode | hnode
          · exact hearlier (hsweeps ▸ List.mem_cons_self) hnode
          · exact ⟨r, List.mem_cons_self, hnode⟩
        · exact hearlier (hsweeps ▸ List.mem_cons_of_mem current h) hnode

theorem entered_of_lastWish? {c : Caller} {order : SweepOrder}
    (h : lastWish? c reports = some order) : ∃ r ∈ reports, r.entered = some order := by
  induction reports with
  | nil => cases h
  | cons r before ih =>
    have hearlier : lastWish? c before = some order →
        ∃ r' ∈ r :: before, r'.entered = some order := by
      intro hbefore
      obtain ⟨r', hr', hentered⟩ := ih hbefore
      exact ⟨r', List.mem_cons_of_mem r hr', hentered⟩
    rw [lastWish?] at h
    split at h
    · cases hentered : r.entered with
      | none =>
        rw [hentered] at h
        exact hearlier h
      | some entered =>
        rw [hentered] at h
        exact ⟨r, List.mem_cons_self, hentered.trans h⟩
    · exact hearlier h

def lastEnded? (reports : List Report) : Option Swept :=
  (sweeps reports).find? (·.outcome.isSome)

theorem lastEnded?_of_began {order : SweepOrder} (hbegan : r.began = some order)
    (hended : r.ended = none) : lastEnded? (r :: reports) = lastEnded? reports := by
  rw [lastEnded?, sweeps_of_began hbegan, hended]
  rfl

theorem lastEnded?_of_ended {swept : Swept} {earlier : List Swept}
    (hsweeps : sweeps reports = swept :: earlier) (hended : swept.outcome.isSome = true) :
    lastEnded? reports = some swept := by
  rw [lastEnded?, hsweeps]
  exact List.find?_cons_of_pos hended

theorem lastEnded?_of_current {swept : Swept} {earlier : List Swept}
    (hsweeps : sweeps reports = swept :: earlier) (hcurrent : swept.outcome = none)
    (hbegan : r.began = none) (hended : r.ended = none) :
    lastEnded? (r :: reports) = lastEnded? reports := by
  rw [lastEnded?, lastEnded?, sweeps_of_current hbegan hsweeps, hsweeps, hcurrent, hended]
  simp [hcurrent]

end Report

open Report

/-- A node with this url failed after it was asked, or because there was no way to ask it. -/
def Tried (command : Command Topology) (asked : List Node) (url : Url) (failure : NodeFailure) :
    Prop :=
  failure.url = url ∧
    ((∃ node ∈ asked, node.url = url) ∨ ∃ node, node.url = url ∧ Missed command node failure)

/-- The failures are those of these urls, one for each and in order. -/
def AccountFor (command : Command Topology) (asked : List Node) (urls : List Url)
    (failures : List NodeFailure) : Prop :=
  List.Forall₂ (Tried command asked) urls failures

namespace AccountFor

variable {asked : List Node} {urls : List Url} {failures : List NodeFailure}

theorem map_url (h : AccountFor command asked urls failures) : failures.map (·.url) = urls := by
  induction h with
  | nil => rfl
  | cons htried _ ih => rw [List.map_cons, ih, htried.1]

theorem mono (h : AccountFor command asked urls failures) (more : List Node) :
    AccountFor command (asked ++ more) urls failures :=
  List.Forall₂.imp (fun _ _ htried => ⟨htried.1, htried.2.imp_left fun ⟨node, hnode, hurl⟩ =>
    ⟨node, List.mem_append_left more hnode, hurl⟩⟩) h

theorem append {urls' : List Url} {failures' : List NodeFailure}
    (h : AccountFor command asked urls failures) (h' : AccountFor command asked urls' failures') :
    AccountFor command asked (urls ++ urls') (failures ++ failures') :=
  List.rel_append h h'

theorem of_missed {nodes : List Node} {missed : List NodeFailure} (asked : List Node)
    (h : List.Forall₂ (Missed command) nodes missed) :
    AccountFor command asked (nodes.map (·.url)) missed := by
  induction h with
  | nil => exact .nil
  | @cons node failure _ _ hmissed _ ih =>
    refine .cons ⟨?_, .inr ⟨node, rfl, hmissed⟩⟩ ih
    rcases hmissed with rfl | ⟨cause, -, rfl⟩ <;> rfl

theorem next {node : Node} {skipped : List Node} {missed : List NodeFailure}
    (h : AccountFor command asked urls failures) (hnode : node ∈ asked) (reason : FailureReason)
    (hmissed : List.Forall₂ (Missed command) skipped missed) (more : List Node) :
    AccountFor command (asked ++ more) (urls ++ node.url :: skipped.map (·.url))
      (failures ++ ⟨node.url, reason⟩ :: missed) :=
  (h.mono more).append
    (.cons ⟨rfl, .inl ⟨node, List.mem_append_left more hnode, rfl⟩⟩
      (AccountFor.of_missed _ hmissed))

end AccountFor

/-- A sweep under way accounts for the nodes that it has left behind, and has asked the next. -/
structure Sweep.Follows (s : Sweep) (command : Command Topology) (swept : Swept) : Prop where
  outcome : swept.outcome = none
  asked : s.flight.exchange.node ∈ swept.asked
  nodes : ∃ before, swept.order.nodes = before ++ s.flight.exchange.node :: s.rest ∧
    AccountFor command swept.asked (before.map (·.url)) s.failures

/-- A sweep that failed accounts for all its nodes. -/
structure Swept.Failed (swept : Swept) (command : Command Topology) (failures : List NodeFailure) :
    Prop where
  outcome : swept.outcome = some (.error failures)
  account : AccountFor command swept.asked (swept.order.nodes.map (·.url)) failures

namespace Sweep.Follows

variable {sweep : Sweep} {swept : Swept} {order : SweepOrder} {skipped rest : List Node}
  {node : Node} {missed : List NodeFailure} {flight : Flight Topology}

theorem of_begun (nodes : order.nodes = skipped ++ node :: rest)
    (passed : List.Forall₂ (Missed command) skipped missed) (asks : flight.Asks command node) :
    Sweep.Follows ⟨order.limit, rest, missed, flight⟩ command ⟨order, [node], none⟩ := by
  refine ⟨rfl, by simp [asks.node], skipped, ?_, .of_missed _ passed⟩
  rw [asks.node, nodes]

theorem stays (h : sweep.Follows command swept) (same : flight.exchange = sweep.flight.exchange) :
    Sweep.Follows { sweep with flight } command swept :=
  ⟨h.outcome, same ▸ h.asked, same ▸ h.nodes⟩

theorem goesOn (h : sweep.Follows command swept) (nodes : sweep.rest = skipped ++ node :: rest)
    (passed : List.Forall₂ (Missed command) skipped missed) (asks : flight.Asks command node)
    (reason : FailureReason) :
    Sweep.Follows
      ⟨sweep.limit, rest,
        sweep.failures ++ ⟨sweep.flight.exchange.node.url, reason⟩ :: missed, flight⟩ command
      { swept with asked := swept.asked ++ [node], outcome := swept.outcome.or none } := by
  obtain ⟨before, hnodes, haccount⟩ := h.nodes
  refine ⟨by simp [h.outcome], by simp [asks.node],
    before ++ sweep.flight.exchange.node :: skipped, ?_, ?_⟩
  · simp [hnodes, nodes, asks.node]
  · rw [List.map_append, List.map_cons]
    exact haccount.next h.asked reason passed [node]

theorem fails (h : sweep.Follows command swept)
    (passed : List.Forall₂ (Missed command) sweep.rest missed) (reason : FailureReason)
    {failures : List NodeFailure}
    (all : failures = sweep.failures ++ ⟨sweep.flight.exchange.node.url, reason⟩ :: missed) :
    Swept.Failed { swept with
      asked := swept.asked ++ [], outcome := swept.outcome.or (some (.error failures)) }
      command failures := by
  obtain ⟨before, hnodes, haccount⟩ := h.nodes
  refine ⟨by rw [h.outcome]; rfl, ?_⟩
  rw [hnodes, all, List.map_append, List.map_cons]
  exact haccount.next h.asked reason passed []

end Sweep.Follows

/-- Who sweeps carries on the sweep that was begun last, and what an executor remembers of a failure
is what the last sweep that ended left behind. -/
structure Recorded (command : Command Topology) (k : Knowledge) (wishes : Wishes)
    (reports : List Report) : Prop where
  constant : k.topologyCommand = command
  held : Held k wishes (holder? reports)
  current : ∀ c sweep, wishes c = some (.sweeping sweep) →
    ∃ swept earlier, sweeps reports = swept :: earlier ∧ sweep.Follows command swept
  last : ∀ failures, k.lastSweep.bind (·.failures) = some failures →
    ∃ swept, lastEnded? reports = some swept ∧ swept.Failed command failures

namespace Recorded

theorem update (hconstant : k'.topologyCommand = command)
    (hheld : Held k' (Function.update wishes caller after) (holder? reports))
    (hsole : ∀ c, c ≠ caller → (wishes c).any Refresh.isSweeping = false)
    (hcurrent : ∀ sweep, after = some (.sweeping sweep) →
      ∃ swept earlier, sweeps reports = swept :: earlier ∧ sweep.Follows command swept)
    (hlast : ∀ failures, k'.lastSweep.bind (·.failures) = some failures →
      ∃ swept, lastEnded? reports = some swept ∧ swept.Failed command failures) :
    Recorded command k' (Function.update wishes caller after) reports := by
  refine ⟨hconstant, hheld, (Function.forall_update_iff wishes fun _ wish => ∀ sweep,
    wish = some (.sweeping sweep) → ∃ swept earlier,
      sweeps reports = swept :: earlier ∧ sweep.Follows command swept).mpr
    ⟨hcurrent, fun c hc sweep hsweeping => ?_⟩, hlast⟩
  have hidle := hsole c hc
  rw [hsweeping] at hidle
  cases hidle

theorem pass (h : Recorded command k wishes reports) (hconstant : k'.topologyCommand = command)
    (hheld : Held k' (Function.update wishes caller after) (holder? (r :: reports)))
    (hlast : k'.lastSweep = k.lastSweep) (hsweeps : sweeps (r :: reports) = sweeps reports)
    (hafter : after.any Refresh.isSweeping = false) :
    Recorded command k' (Function.update wishes caller after) (r :: reports) := by
  refine ⟨hconstant, hheld, ?_, fun failures hfailures => ?_⟩
  · rw [hsweeps]
    refine (Function.forall_update_iff wishes fun _ wish => ∀ sweep, wish = some (.sweeping sweep) →
      ∃ swept earlier, sweeps reports = swept :: earlier ∧ sweep.Follows command swept).mpr
      ⟨fun sweep hsweeping => ?_, fun c _ => h.current c⟩
    rw [hsweeping] at hafter
    cases hafter
  · rw [lastEnded?, hsweeps]
    exact h.last failures (hlast ▸ hfailures)

theorem sweepsOn {sweep : Sweep} {swept : Swept} {earlier : List Swept}
    (h : Recorded command k wishes reports) (hconstant : k'.topologyCommand = command)
    (hheld : Held k' (Function.update wishes caller (some (.sweeping sweep)))
      (holder? (r :: reports)))
    (hsole : ∀ c, c ≠ caller → (wishes c).any Refresh.isSweeping = false)
    (hlast : k'.lastSweep = k.lastSweep)
    (hended : lastEnded? (r :: reports) = lastEnded? reports)
    (hsweeps : sweeps (r :: reports) = swept :: earlier) (hfollows : sweep.Follows command swept) :
    Recorded command k' (Function.update wishes caller (some (.sweeping sweep)))
      (r :: reports) := by
  refine update hconstant hheld hsole ?_ fun failures hfailures => ?_
  · intro sweep' hsweep'
    cases hsweep'
    exact ⟨swept, earlier, hsweeps, hfollows⟩
  · rw [hended]
    exact h.last failures (hlast ▸ hfailures)

theorem sweepsNoMore (hconstant : k'.topologyCommand = command)
    (hheld : Held k' (Function.update wishes caller none) (holder? (r :: reports)))
    (hsole : ∀ c, c ≠ caller → (wishes c).any Refresh.isSweeping = false)
    (hlast : ∀ failures, k'.lastSweep.bind (·.failures) = some failures →
      ∃ swept, lastEnded? (r :: reports) = some swept ∧ swept.Failed command failures) :
    Recorded command k' (Function.update wishes caller none) (r :: reports) :=
  update hconstant hheld hsole (fun _ hsweep => by cases hsweep) hlast

theorem step (h : Recorded command k wishes reports)
    (htakes : Takes k.topologyCommand k now caller (wishes caller) k' after r) :
    Recorded command k' (Function.update wishes caller after) (r :: reports) := by
  have hconstant := htakes.topologyCommand_eq.trans h.constant
  have hheld := h.held.step htakes
  rw [h.constant] at htakes
  have hfree : k.lockHeld = false →
      ∀ c, c ≠ caller → (wishes c).any Refresh.isSweeping = false :=
    fun hfree c _ => h.held.idle_of_free hfree c
  have hsole : (wishes caller).any Refresh.isSweeping = true →
      ∀ c, c ≠ caller → (wishes c).any Refresh.isSweeping = false := by
    intro hsweeping c hc
    rw [Bool.eq_false_iff]
    exact fun hother => hc (h.held.eq_of_sweeping hother hsweeping)
  have hcurrent := h.current caller
  generalize wishes caller = before at htakes hcurrent hsole
  cases htakes with
  -- A wish without the lock has no part in any sweep.
  | joins _ _ | waits | timesOut | spares _ _ =>
    exact h.pass hconstant hheld rfl (sweeps_of_still rfl rfl rfl) rfl
  | @drops refresh =>
    refine h.pass hconstant hheld ?_ (sweeps_of_still rfl rfl rfl) rfl
    cases refresh <;> rfl
  | begins due nodes passed asks =>
    exact h.sweepsOn hconstant hheld (hfree due.free) rfl (lastEnded?_of_began rfl rfl)
      (sweeps_of_began rfl) (.of_begun nodes passed asks)
  | beginsInVain due passed =>
    refine sweepsNoMore hconstant hheld (hfree due.free) fun failures hfailures => ?_
    cases hfailures
    exact ⟨_, lastEnded?_of_ended (sweeps_of_began rfl) rfl, rfl, .of_missed _ passed⟩
  | @stays sweep flight same =>
    obtain ⟨swept, earlier, hsweeps, hfollows⟩ := hcurrent sweep rfl
    have hstill : sweeps ({ caller } :: reports) = sweeps reports := sweeps_of_still rfl rfl rfl
    have hended : lastEnded? ({ caller } :: reports) = lastEnded? reports := by
      rw [lastEnded?, hstill, lastEnded?]
    exact h.sweepsOn hconstant hheld (hsole rfl) rfl hended (hstill.trans hsweeps)
      (hfollows.stays same)
  | @goesOn sweep reason _ _ _ _ _ nodes passed asks =>
    obtain ⟨swept, earlier, hsweeps, hfollows⟩ := hcurrent sweep rfl
    exact h.sweepsOn hconstant hheld (hsole rfl) rfl
      (lastEnded?_of_current hsweeps hfollows.outcome rfl rfl) (sweeps_of_current rfl hsweeps)
      (hfollows.goesOn nodes passed asks reason)
  | @fails sweep reason missed failures passed all =>
    obtain ⟨swept, earlier, hsweeps, hfollows⟩ := hcurrent sweep rfl
    have hfailed := hfollows.fails passed reason all
    refine sweepsNoMore hconstant hheld (hsole rfl) fun failures' hfailures => ?_
    cases hfailures
    exact ⟨_, lastEnded?_of_ended (sweeps_of_current rfl hsweeps) (by simp), hfailed⟩
  | fetches =>
    refine sweepsNoMore hconstant hheld (hsole rfl) fun failures hfailures => ?_
    cases hfailures

end Recorded

def Wished (reports : List Report) : Prop :=
  ∀ swept ∈ sweeps reports, ∃ r ∈ reports, r.entered = some swept.order

theorem Wished.step (h : Wished reports) (hwatched : Watched k wishes reports)
    (htakes : Takes command k now caller (wishes caller) k' after r) : Wished (r :: reports) := by
  have hearlier : ∀ swept ∈ sweeps reports, ∃ r' ∈ r :: reports, r'.entered = some swept.order := by
    intro swept hswept
    obtain ⟨r', hr', hentered⟩ := h swept hswept
    exact ⟨r', List.mem_cons_of_mem r hr', hentered⟩
  intro swept hswept
  cases hbegan : r.began with
  | some order =>
    rw [sweeps_of_began hbegan] at hswept
    rcases List.mem_cons.mp hswept with rfl | hswept
    · exact entered_of_lastWish? (hwatched.of_began htakes hbegan).1
    · exact hearlier swept hswept
  | none =>
    cases hsweeps : sweeps reports with
    | nil =>
      rw [sweeps, hbegan, hsweeps] at hswept
      cases hswept
    | cons current earlier =>
      rw [sweeps_of_current hbegan hsweeps] at hswept
      rcases List.mem_cons.mp hswept with rfl | hswept
      · exact hearlier current (hsweeps ▸ List.mem_cons_self)
      · exact hearlier swept (hsweeps ▸ List.mem_cons_of_mem current hswept)

/-- Who is told that the topology is unavailable is told what the last sweep left behind. -/
theorem Takes.lastSweep_of_returned {before : Option Refresh} {failures : List NodeFailure}
    (h : Takes command k now caller before k' after r)
    (hreturned : r.returned = some (.error (.topologyUnavailable failures))) :
    k'.lastSweep.bind (·.failures) = some failures := by
  cases h with
  | @spares order observed result free spared =>
    cases hreturned
    have hlast : k.lastOutcome = .error (.topologyUnavailable failures) := by
      unfold Knowledge.spared? at spared
      split at spared
      · cases spared
      · split at spared
        · exact Option.some.inj spared
        · cases spared
    unfold Knowledge.lastOutcome at hlast
    split at hlast
    · rename_i left hleft
      cases hlast
      exact hleft
    · cases hlast
  | beginsInVain due passed =>
    cases hreturned
    rfl
  | fails passed all =>
    cases hreturned
    rfl
  | joins _ _ | waits | timesOut | begins _ _ _ _ | stays _ | goesOn _ _ _ | fetches | drops =>
    cases hreturned

theorem Takes.initialized_of_initialized {before : Option Refresh}
    (h : Takes command k now caller before k' after r) (hinitialized : k.initialized = true) :
    k'.initialized = true := by
  cases h with
  | @drops refresh => cases refresh <;> exact hinitialized
  | fetches => rfl
  | joins _ _ | waits | timesOut | spares _ _ | begins _ _ _ _ | beginsInVain _ _ | stays _
  | goesOn _ _ _ | fails _ _ => exact hinitialized

namespace System

variable {s : System α} {m : Moment} {action : Action α} {c : Caller} {failures : List NodeFailure}

def toldUnavailable? : Ended α → Option (Caller × List NodeFailure)
  | some (c, .error (.topologyUnavailable failures)) => some (c, failures)
  | _ => none

theorem eq_of_toldUnavailable? {ended : Ended α}
    (h : toldUnavailable? ended = some (c, failures)) :
    ended = some (c, .error (.topologyUnavailable failures)) := by
  unfold toldUnavailable? at h
  split at h
  · cases h
    rfl
  · cases h

theorem report?_of_unavailable
    (h : (s.step m action).2 = some (c, .error (.topologyUnavailable failures))) :
    (∃ r, s.report? m action = some r ∧
      r.returned = some (.error (.topologyUnavailable failures))) ∨
    (s.report? m action = none ∧ s.executor.recentFailure? m.now = some failures) := by
  rcases ended_step h with ⟨x, order, hopening, hdone⟩ | ⟨call, signal, rfl, hcall, hdone⟩
  · obtain ⟨-, -, mailbox, rfl⟩ := step_of_opening (m := m) hopening
    have htold : (({ s.executor with mailbox } : Executor).begin m order).2.unavailable? =
        some failures := by
      rw [hdone]
      rfl
    rw [report?_of_opening hopening]
    rcases Executor.blames_of_begin htold with ⟨hwish, hrecent⟩ | ⟨wish, hwish, hrefresh⟩
    · exact .inr ⟨by rw [hwish]; rfl, hrecent⟩
    · exact .inl ⟨_, by rw [hwish]; rfl, Progress.result?_of_unavailable? hrefresh⟩
  · have htold : (s.executor.advance m signal call).2.unavailable? = some failures := by
      rw [hdone]
      rfl
    obtain ⟨refresh, hrefresh, hadvance⟩ := Executor.unavailable_of_advance htold
    refine .inl ⟨s.executor.report c m.now (.under refresh signal), ?_,
      Progress.result?_of_unavailable? hadvance⟩
    rw [report?_signal, refresh?, hcall, Option.bind_some, hrefresh]
    rfl

theorem lastSweep_of_unavailable
    (h : (s.step m action).2 = some (c, .error (.topologyUnavailable failures))) :
    (s.step m action).1.executor.knowledge.lastSweep.bind (·.failures) = some failures := by
  rcases report?_of_unavailable h with ⟨r, hreport, hreturned⟩ | ⟨hreport, hrecent⟩
  · exact (step_moves hreport).takes.lastSweep_of_returned hreturned
  · rw [(step_rests hreport).knowledge]
    obtain ⟨record, hrecord, hfailures⟩ := Option.bind_eq_some_iff.mp hrecent
    rw [show s.executor.knowledge.lastSweep = some record from hrecord]
    split at hfailures
    · exact hfailures
    · cases hfailures

theorem initialized_step (m : Moment) (action : Action α) (h : s.executor.initialized = true) :
    (s.step m action).1.executor.initialized = true := by
  cases hreport : s.report? m action with
  | none => exact (congrArg Knowledge.initialized (step_rests hreport).knowledge).trans h
  | some r => exact (step_moves hreport).takes.initialized_of_initialized h

end System

end ClusterClient
