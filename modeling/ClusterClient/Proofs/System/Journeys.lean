import ClusterClient.Proofs.Executor.Turns
import ClusterClient.Proofs.System.Caching
import ClusterClient.Proofs.System.Tickets

/-!
# Journeys

A call goes through the nodes of the plan that it set out with.  Which node it is at
shows how many it has left behind, and each of those was asked and failed.
-/

namespace ClusterClient

variable {α β : Type}

/-- The nodes that a call set out with, and which of them failed, with the requests that they were
sent, the first one first. -/
structure Journey where
  plan : List Node := []
  failed : List (Nat × Node) := []

namespace Journey

/-- How a journey goes on with a turn: another node has failed, or the call sets out. -/
def turned (j : Journey) (t : Turn) : Option Completion → Journey
  | some (.failed ticket node _) => { j with failed := j.failed ++ [(ticket, node)] }
  | _ => { plan := t.nodes }

theorem turned_eq {completion : Option Completion} (h : completion.bind Completion.ticket? = none)
    (j : Journey) (t : Turn) : j.turned t completion = { plan := t.nodes } := by
  unfold turned
  split
  · cases h
  · rfl

/-- The nodes of the plan have failed up to this one, and from there on they are left. -/
structure Reaches (j : Journey) (number : Nat) (nodes : List Node) : Prop where
  plan : j.plan = j.failed.map (·.2) ++ nodes
  number : number = j.failed.length + 1

theorem reaches_start (nodes : List Node) : ({ plan := nodes } : Journey).Reaches 1 nodes :=
  ⟨rfl, rfl⟩

theorem Reaches.next {j : Journey} {number ticket : Nat} {node : Node} {rest : List Node}
    (h : j.Reaches number (node :: rest)) :
    ({ j with failed := j.failed ++ [(ticket, node)] } : Journey).Reaches (number + 1) rest := by
  refine ⟨?_, ?_⟩
  · simp [h.plan]
  · simp [h.number]

end Journey

namespace Executor

variable {x : Executor} {command : Command β} {options : Options} {m : Moment} {t : Turn}

theorem number_of_followTurn? (h : x.followTurn? command options = some t) : t.number = 1 := by
  unfold followTurn? at h
  split at h <;> cases h
  rfl

theorem number_of_wishTurn? {isFirst : Bool}
    {next : Executor × Progress Refresh (Except ExecutorError Bool)}
    (h : wishTurn? command options isFirst next = some t) : t.number = 1 := by
  obtain ⟨y, progress⟩ := next
  cases progress with
  | waiting _ => cases h
  | done result =>
    unfold wishTurn? at h
    dsimp only at h
    split at h
    · cases h
    · exact number_of_followTurn? h

theorem number_of_executeTurn? {now : Instant} (h : x.executeTurn? command options now = some t) :
    t.number = 1 := by
  unfold executeTurn? at h
  split at h
  · cases h
  · exact number_of_followTurn? h
  · exact number_of_wishTurn? h

theorem reaches_of_advanceTurn? {e : Execution β} {signal : Signal} {caller : Caller} {j : Journey}
    (hj : ∀ number nodes, e.phase.place? = some (number, nodes) → j.Reaches number nodes)
    (h : x.advanceTurn? e signal m.now = some t) :
    (j.turned t (x.phaseEnd? caller e.phase signal m.now)).Reaches t.number t.nodes := by
  obtain ⟨command, options, phase⟩ := e
  cases phase with
  | pausing _ _ _ => cases h
  | ensuring update =>
    have hstarts := Journey.turned_eq (x.bind_wishEnd? (fun _ => rfl) caller m.now
      (.under update.refresh signal)) j t
    rw [number_of_wishTurn? h]
    exact hstarts.symm ▸ Journey.reaches_start t.nodes
  | flying trail f =>
    unfold advanceTurn? at h
    unfold phaseEnd?
    dsimp only at h ⊢
    split at h
    · rename_i y reason hadvance
      cases h
      rw [hadvance]
      exact (hj _ _ rfl).next
    · cases h

theorem wishEnd?_ne_failed (caller : Caller) (now : Instant) (stage : Stage) (ticket : Nat)
    (node : Node) (exhausted : Bool) :
    x.wishEnd? caller now stage ≠ some (.failed ticket node exhausted) := by
  intro hended
  obtain ⟨outcome, -, hswept⟩ := Option.map_eq_some_iff.mp hended
  cases hswept

theorem flying_of_failed {phase : Phase β} {caller : Caller} {signal : Signal} {now : Instant}
    {ticket : Nat} {node : Node} {exhausted : Bool}
    (h : x.phaseEnd? caller phase signal now = some (.failed ticket node exhausted)) :
    ∃ trail f y reason, phase = .flying trail f ∧
      x.advanceFlight f signal now = (y, .done (.failed reason)) ∧
      f.ticket = ticket ∧ f.exchange.node = node ∧ trail.rest.isEmpty = exhausted := by
  cases phase with
  | ensuring update => exact (wishEnd?_ne_failed _ _ _ _ _ _ h).elim
  | pausing _ _ _ => cases h
  | flying trail f =>
    unfold phaseEnd? at h
    dsimp only at h
    split at h
    · cases h
    · cases h
    · cases h
    · rename_i reason hfailed
      cases h
      exact ⟨trail, f, _, reason, rfl, Prod.ext rfl hfailed, rfl, rfl, rfl⟩

theorem asked_of_callEnd? {call : Call α} (hfits : call.Fits x) {caller : Caller} {signal : Signal}
    {now : Instant} {ticket : Nat} {node : Node} {exhausted : Bool}
    (h : x.callEnd? caller signal now call = some (.failed ticket node exhausted)) :
    ∃ d, x.dispatch? ticket = some d ∧ d.purpose = .command ∧ d.node = node := by
  have hphase : ∀ {γ : Type} {phase : Phase γ} {command : Command γ} {noCaching : Bool},
      phase.Fits x command noCaching →
      x.phaseEnd? caller phase signal now = some (.failed ticket node exhausted) →
      ∃ d, x.dispatch? ticket = some d ∧ d.purpose = .command ∧ d.node = node := by
    intro γ phase command noCaching hphase hended
    obtain ⟨trail, f, y, reason, rfl, -, rfl, rfl, -⟩ := flying_of_failed hended
    obtain ⟨d, hd, hcarries⟩ := Flight.Fits.record hphase
    exact ⟨d, hd, hcarries.purpose, hcarries.node⟩
  cases call with
  | executing c => exact hphase hfits h
  | configuring c => exact hphase hfits.2 h
  | updating u => exact (wishEnd?_ne_failed _ _ _ _ _ _ h).elim
  | testing t =>
    obtain ⟨results, -, htested⟩ := Option.map_eq_some_iff.mp h
    cases htested

end Executor

namespace System

variable {s : System α} {m : Moment} {action : Action α} {c : Caller} {t : Turn}

def turn? (s : System α) (m : Moment) : Action α → Option (Caller × Turn)
  | .begin number (.execute command options) =>
    if (s.call? (.outside number)).isSome then none
    else (s.executor.executeTurn? command options m.now).map fun t => (.outside number, t)
  | .signal caller signal =>
    match s.call? caller with
    | some (.executing e) => (s.executor.advanceTurn? e signal m.now).map fun t => (caller, t)
    | _ => none
  | _ => none

theorem turn?_begin {number : Nat} {command : Command α} {options : Options}
    (h : s.call? (.outside number) = none) :
    s.turn? m (.begin number (.execute command options)) =
      (s.executor.executeTurn? command options m.now).map fun t => (.outside number, t) :=
  if_neg (by simp [h])

theorem turn?_signal {e : Execution α} (h : s.call? c = some (.executing e)) (signal : Signal) :
    s.turn? m (.signal c signal) =
      (s.executor.advanceTurn? e signal m.now).map fun t => (c, t) := by
  unfold turn?
  dsimp only
  rw [h]

theorem turn?_cases (h : s.turn? m action = some (c, t)) :
    (∃ number command options, action = .begin number (.execute command options) ∧
      c = .outside number ∧ s.call? (.outside number) = none ∧
      s.executor.executeTurn? command options m.now = some t) ∨
    (∃ e signal, action = .signal c signal ∧ s.call? c = some (.executing e) ∧
      s.executor.advanceTurn? e signal m.now = some t) := by
  unfold turn? at h
  split at h
  · rename_i number command options
    split at h
    · cases h
    · rename_i hfree
      obtain ⟨t', hexecute, ht⟩ := Option.map_eq_some_iff.mp h
      cases ht
      exact .inl ⟨number, command, options, rfl, rfl, by simpa using hfree, hexecute⟩
  · rename_i caller signal
    split at h
    · rename_i e hcall
      obtain ⟨t', hadvance, ht⟩ := Option.map_eq_some_iff.mp h
      cases ht
      exact .inr ⟨e, signal, rfl, hcall, hadvance⟩
    · cases h
  · cases h

def place? (s : System α) (c : Caller) : Option (Nat × List Node) :=
  (s.phase? c).bind Phase.place?

theorem place?_of_call? {e : Execution α} (h : s.call? c = some (.executing e)) :
    s.place? c = e.phase.place? := by
  unfold place?
  rw [phase?_of_call? h]
  rfl

def journey (s : System α) (c : Caller) : Run α → Journey
  | [] => {}
  | (m, action) :: before =>
    match (s.after before).turn? m action with
    | some (caller, t) =>
      if caller = c then
        (s.journey c before).turned t ((s.after before).completion? m action)
      else s.journey c before
    | none => s.journey c before

/-- A step of a call on a command takes the turn that it takes, and else leaves the call at its
place. -/
theorem step_proceeds {command : Command α} {options : Options}
    (h : s.execution? action = some (c, command, options)) (m : Moment) :
    ∃ next, s.step m action = s.absorb c (Executor.executed command options next) ∧
      Executor.Proceeds ((s.turn? m action).map (·.2)) (s.phase? c) command options m next := by
  rcases execution?_cases h with ⟨number, rfl, rfl, hfree⟩ | ⟨e, signal, rfl, hcall, rfl, rfl⟩
  · refine ⟨s.executor.execute command options m, if_neg (by simp [hfree]), ?_⟩
    rw [phase?_of_none hfree, turn?_begin hfree, Option.map_map]
    simp only [Function.comp_def, Option.map_id']
    exact s.executor.proceeds_execute command options m
  · refine ⟨s.executor.advanceExecution e signal m, step_signal hcall, ?_⟩
    rw [phase?_of_call? hcall, turn?_signal hcall, Option.map_map]
    simp only [Function.comp_def, Option.map_id']
    exact s.executor.proceeds_advanceExecution e signal m

theorem execution?_of_turn? (h : s.turn? m action = some (c, t)) :
    ∃ command options, s.execution? action = some (c, command, options) := by
  rcases turn?_cases h with ⟨number, command, options, rfl, rfl, hfree, -⟩ |
    ⟨e, signal, rfl, hcall, -⟩
  · exact ⟨command, options, execution?_begin hfree⟩
  · exact ⟨e.command, e.options, execution?_signal hcall signal⟩

theorem Fits.precedes_of_turn? (h : s.Fits) (hturn : s.turn? m action = some (c, t)) :
    s.executor.Precedes t := by
  rcases turn?_cases hturn with ⟨number, command, options, -, -, -, hexecute⟩ |
    ⟨e, signal, -, hcall, hadvance⟩
  · exact Executor.precedes_executeTurn? hexecute
  · exact Executor.precedes_advanceTurn? (h c _ hcall) hadvance

theorem actor?_of_execution? {command : Command α} {options : Options}
    (h : s.execution? action = some (c, command, options)) : s.actor? action = some c := by
  rcases execution?_cases h with ⟨number, rfl, rfl, hfree⟩ | ⟨e, signal, rfl, -, -, -⟩
  · simp [actor?, opening?, hfree]
  · rfl

theorem execution?_of_opening {x : Executor} {command : Command α} {options : Options}
    (h : s.opening? action = some (c, x, .execute command options)) :
    s.execution? action = some (c, command, options) := by
  unfold opening? at h
  split at h
  · split at h
    · cases h
    · rename_i hfree
      cases h
      exact if_neg hfree
  · split at h
    · rename_i message mailbox _ _
      cases message <;> cases h
    · cases h
  · rename_i message
    split at h
    · cases h
    · cases message <;> cases h
  all_goals cases h

theorem execution?_of_call? {e : Execution α}
    (h : (s.step m action).1.call? c = some (.executing e)) :
    (s.actor? action ≠ some c ∧ s.call? c = some (.executing e)) ∨
      s.execution? action = some (c, e.command, e.options) := by
  rcases call?_step h with hother | ⟨x, order, hopening, -, hbegun⟩ |
    ⟨old, signal, rfl, hold, -, hadvanced⟩
  · exact .inl hother
  · obtain ⟨rfl, -⟩ := order_of_executing hbegun
    exact .inr (execution?_of_opening hopening)
  · obtain ⟨phase, rfl, -⟩ := execution_of_advanced hadvanced
    exact .inr (execution?_signal hold signal)

theorem execution?_of_ended {r : Executed α}
    (h : (s.step m action).2 = some (c, .ok (.executed r))) :
    ∃ command options, s.execution? action = some (c, command, options) := by
  rcases ended_step h with ⟨x, order, hopening, hdone⟩ | ⟨call, signal, rfl, hcall, hdone⟩
  · have hexecutes : Executes (x.begin m order).2 := by
      rw [hdone]
      exact trivial
    obtain ⟨command, options, rfl⟩ := order_of_executes hexecutes
    exact ⟨command, options, execution?_of_opening hopening⟩
  · have hexecutes : Executes (s.executor.advance m signal call).2 := by
      rw [hdone]
      exact trivial
    obtain ⟨e, rfl⟩ := call_of_executes hexecutes
    exact ⟨e.command, e.options, execution?_signal hcall signal⟩

theorem state?_of_step {e : Execution α} {command : Command α} {options : Options}
    {next : Executor.Next α}
    (hstep : s.step m action = s.absorb c (Executor.executed command options next))
    (h : (s.step m action).1.call? c = some (.executing e)) : next.2.state? = some e.phase := by
  rw [hstep, call?_absorb, if_pos rfl] at h
  exact (execution_of_executed (Progress.state?_eq_some_iff.mp h)).1

/-! ## Along a run -/

theorem reaches_of_turn? {j : Journey}
    (hj : ∀ number nodes, s.place? c = some (number, nodes) → j.Reaches number nodes)
    (h : s.turn? m action = some (c, t)) :
    (j.turned t (s.completion? m action)).Reaches t.number t.nodes := by
  rcases turn?_cases h with ⟨number, command, options, rfl, rfl, hfree, hexecute⟩ |
    ⟨e, signal, rfl, hcall, hadvance⟩
  · have hopening : s.opening? (.begin number (.execute command options)) =
        some (.outside number, s.executor, .execute command options) := if_neg (by simp [hfree])
    have hstarts := Journey.turned_eq (completion?_of_opening (m := m) hopening) j t
    rw [hstarts, Executor.number_of_executeTurn? hexecute]
    exact Journey.reaches_start t.nodes
  · have hended : s.completion? m (.signal c signal) =
        s.executor.phaseEnd? c e.phase signal m.now := by
      show (s.call? c).bind (s.executor.callEnd? c signal m.now) = _
      rw [hcall]
      rfl
    rw [hended]
    exact Executor.reaches_of_advanceTurn? (fun number nodes hplace =>
      hj number nodes ((place?_of_call? hcall).trans hplace)) hadvance

/-- A call is at the place that its journey has come to. -/
theorem reaches_after (hidle : ∀ c, s.call? c = none) (run : Run α) {number : Nat}
    {nodes : List Node} (h : (s.after run).place? c = some (number, nodes)) :
    (s.journey c run).Reaches number nodes := by
  induction run generalizing number nodes with
  | nil =>
    unfold place? phase? after at h
    rw [hidle c] at h
    cases h
  | cons event before ih =>
    obtain ⟨m, action⟩ := event
    obtain ⟨phase, hphase, hplace⟩ := Option.bind_eq_some_iff.mp h
    obtain ⟨e, he, rfl⟩ := call?_of_phase? hphase
    rw [journey]
    rcases execution?_of_call? he with ⟨hother, hold⟩ | hexecution
    · have hstill : (s.journey c before).Reaches number nodes :=
        ih ((place?_of_call? hold).trans hplace)
      split
      · rename_i caller t hturn
        split
        · rename_i hc
          obtain ⟨command, options, hexecution⟩ := execution?_of_turn? hturn
          exact (hother (hc ▸ actor?_of_execution? hexecution)).elim
        · exact hstill
      · exact hstill
    · obtain ⟨next, hstep, hproceeds⟩ := step_proceeds hexecution m
      have hnext := state?_of_step hstep he
      split
      · rename_i caller t hturn
        obtain ⟨command, options, hexecution'⟩ := execution?_of_turn? hturn
        obtain rfl : caller = c := by
          cases hexecution.symm.trans hexecution'
          rfl
        rw [hturn] at hproceeds
        obtain rfl : next = _ := hproceeds
        cases hplace.symm.trans (Executor.place?_take hnext)
        rw [if_pos rfl]
        exact reaches_of_turn? (fun _ _ hbefore => ih hbefore) hturn
      · rename_i hturn
        rw [hturn] at hproceeds
        exact ih ((Executor.StaysWith.place hproceeds e.phase hnext).symm.trans hplace)

theorem turn?_of_failed {command : Command α} {options : Options} {ticket : Nat} {node : Node}
    {exhausted : Bool} (hexecution : s.execution? action = some (c, command, options))
    (hended : s.completion? m action = some (.failed ticket node exhausted)) :
    ∃ t, s.turn? m action = some (c, t) ∧ t.nodes.isEmpty = exhausted := by
  obtain ⟨caller, signal, call, rfl, hcall, hend⟩ := signal_of_ticket? hended rfl
  rcases execution?_cases hexecution with ⟨_, hbegin, -, -⟩ | ⟨e, signal', hsame, hcall', -, -⟩
  · cases hbegin
  · cases hsame
    cases hcall.symm.trans hcall'
    obtain ⟨trail, f, y, reason, hphase, hadvance, -, -, hempty⟩ := Executor.flying_of_failed hend
    refine ⟨y.failTurn trail f.exchange reason, ?_, hempty⟩
    rw [turn?_signal hcall]
    unfold Executor.advanceTurn?
    rw [hphase]
    dsimp only
    rw [hadvance]
    rfl

theorem Fits.asked_of_failed (h : s.Fits) {ticket : Nat} {node : Node} {exhausted : Bool}
    (hended : s.completion? m action = some (.failed ticket node exhausted)) :
    ∃ d, s.executor.dispatch? ticket = some d ∧ d.purpose = .command ∧ d.node = node := by
  obtain ⟨caller, signal, call, -, hcall, hend⟩ := signal_of_ticket? hended rfl
  exact Executor.asked_of_callEnd? (h caller call hcall) hend

theorem Fits.asked_after (h : s.Fits) (run : Run α) {ticket : Nat} {node : Node} {exhausted : Bool}
    {event : Instant × Completion} (hevent : event ∈ s.completions run)
    (hfailed : event.2 = .failed ticket node exhausted) :
    ∃ d, (s.after run).executor.dispatch? ticket = some d ∧ d.purpose = .command ∧
      d.node = node := by
  induction run with
  | nil => cases hevent
  | cons first before ih =>
    obtain ⟨m, action⟩ := first
    have hsuffix := (s.after before).suffix_step m action
    rcases List.mem_append.mp hevent with hin | hin
    · obtain ⟨completion, hended, rfl⟩ := Option.map_eq_some_iff.mp (Option.mem_toList.mp hin)
      obtain rfl : completion = _ := hfailed
      obtain ⟨d, hd, hasked⟩ := (h.after before).asked_of_failed hended
      exact ⟨d, Executor.dispatch?_of_suffix hsuffix hd, hasked⟩
    · obtain ⟨d, hd, hasked⟩ := ih hin
      exact ⟨d, Executor.dispatch?_of_suffix hsuffix hd, hasked⟩

theorem completions_of_failed (run : Run α) {contact : Nat × Node}
    (h : contact ∈ (s.journey c run).failed) :
    ∃ event ∈ s.completions run, ∃ exhausted, event.2 = .failed contact.1 contact.2 exhausted := by
  induction run with
  | nil => cases h
  | cons event before ih =>
    obtain ⟨m, action⟩ := event
    have hbefore : contact ∈ (s.journey c before).failed →
        ∃ event ∈ s.completions ((m, action) :: before), ∃ exhausted,
          event.2 = .failed contact.1 contact.2 exhausted := by
      intro hin
      obtain ⟨event, hevent, hfailed⟩ := ih hin
      exact ⟨event, List.mem_append_right _ hevent, hfailed⟩
    rw [journey] at h
    split at h
    · rename_i caller t hturn
      split at h
      · unfold Journey.turned at h
        split at h
        · rename_i ticket node exhausted hended
          rcases List.mem_append.mp h with hin | hin
          · exact hbefore hin
          · cases List.mem_singleton.mp hin
            refine ⟨(m.now, .failed ticket node exhausted), List.mem_append_left _ ?_, exhausted,
              rfl⟩
            rw [hended]
            exact List.mem_singleton_self _
        · cases h
      · exact hbefore h
    · exact hbefore h

end System

end ClusterClient
