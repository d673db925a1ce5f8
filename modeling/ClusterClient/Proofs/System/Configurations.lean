import ClusterClient.Proofs.Executor.Tenure
import ClusterClient.Proofs.Executor.Turns
import ClusterClient.Proofs.System.Fetched
import ClusterClient.Proofs.System.LastSweeps
import ClusterClient.Proofs.System.Upkeep

/-!
# Configurations that servers send

The configuration of an executor is the newest that came in an answer to one of its
requests for one, whichever of these requests overlap and whichever is answered
first.  Of two with one number the first to come stays.
-/

namespace ClusterClient

variable {α β : Type}

namespace ConfigurationVersion

def newest (received : List ConfigurationVersion) : ConfigurationVersion :=
  received.foldr (fun incoming current => current.latest incoming) .unknown

theorem etag_latest (current incoming : ConfigurationVersion) :
    (current.latest incoming).etag = max incoming.etag current.etag := by
  unfold latest
  split <;> omega

theorem latest_of_le {current incoming : ConfigurationVersion}
    (h : incoming.etag ≤ current.etag) : current.latest incoming = current :=
  if_neg (Int.not_lt.mpr h)

theorem etag_newest (received : List ConfigurationVersion) :
    (newest received).etag = (received.map (·.etag)).foldr max unknown.etag := by
  induction received with
  | nil => rfl
  | cons incoming earlier ih =>
    rw [List.map_cons, List.foldr_cons, ← ih]
    exact etag_latest _ _

/-- Among the versions that came, the last one first, this is the first to come of those with the
greatest number; or none is known, if no number is great enough. -/
def FirstNewest (received : List ConfigurationVersion) (current : ConfigurationVersion) : Prop :=
  (current = unknown ∧ ∀ v ∈ received, v.etag ≤ unknown.etag) ∨
    (unknown.etag < current.etag ∧ ∃ later earlier, received = later ++ current :: earlier ∧
      (∀ v ∈ later, v.etag ≤ current.etag) ∧ ∀ v ∈ earlier, v.etag < current.etag)

theorem FirstNewest.unknown_le {received : List ConfigurationVersion}
    {current : ConfigurationVersion} (h : FirstNewest received current) :
    unknown.etag ≤ current.etag := by
  rcases h with ⟨rfl, -⟩ | ⟨hknown, -⟩
  · exact Int.le_refl _
  · exact Int.le_of_lt hknown

theorem FirstNewest.etag_le {received : List ConfigurationVersion}
    {current v : ConfigurationVersion} (h : FirstNewest received current) (hv : v ∈ received) :
    v.etag ≤ current.etag := by
  rcases h with ⟨rfl, hall⟩ | ⟨-, later, earlier, rfl, hlater, hearlier⟩
  · exact hall v hv
  · rcases List.mem_append.mp hv with hv | hv
    · exact hlater v hv
    · rcases List.mem_cons.mp hv with rfl | hv
      · exact Int.le_refl _
      · exact Int.le_of_lt (hearlier v hv)

theorem FirstNewest.latest {received : List ConfigurationVersion}
    {current : ConfigurationVersion} (h : FirstNewest received current)
    (incoming : ConfigurationVersion) :
    FirstNewest (incoming :: received) (current.latest incoming) := by
  by_cases hnewer : current.etag < incoming.etag
  · rw [ConfigurationVersion.latest, if_pos hnewer]
    refine .inr ⟨Int.lt_of_le_of_lt h.unknown_le hnewer, [], received, rfl, by simp, fun v hv => ?_⟩
    exact Int.lt_of_le_of_lt (h.etag_le hv) hnewer
  · have hle : incoming.etag ≤ current.etag := Int.not_lt.mp hnewer
    rw [latest_of_le hle]
    rcases h with ⟨rfl, hall⟩ | ⟨hknown, later, earlier, rfl, hlater, hearlier⟩
    · exact .inl ⟨rfl, List.forall_mem_cons.mpr ⟨hle, hall⟩⟩
    · exact .inr ⟨hknown, incoming :: later, earlier, rfl,
        List.forall_mem_cons.mpr ⟨hle, hlater⟩, hearlier⟩

theorem firstNewest_newest (received : List ConfigurationVersion) :
    FirstNewest received (newest received) := by
  induction received with
  | nil => exact .inl ⟨rfl, by simp⟩
  | cons incoming earlier ih => exact ih.latest incoming

end ConfigurationVersion

/-! ## What a call for the configuration gets -/

def Flight.content? (f : Flight β) : Signal → Option β
  | .body ticket (.ok bytes) =>
    if ticket = f.ticket ∧ f.head.any (·.status.isSuccess) then
      (f.exchange.command.parse bytes false).toOption
    else none
  | .body _ (.error _) | .head _ _ | .granted | .lockTimedOut | .resumed | .expired _ => none

theorem Flight.content?_eq_some_iff {f : Flight β} {signal : Signal} {content : β} :
    f.content? signal = some content ↔ ∃ bytes head, signal = .body f.ticket (.ok bytes) ∧
      f.head = some head ∧ head.status.isSuccess = true ∧
        f.exchange.command.parse bytes false = .ok content := by
  constructor
  · intro h
    unfold content? at h
    split at h
    · rename_i ticket bytes
      split at h
      · rename_i hours
        obtain ⟨rfl, hsuccess⟩ := hours
        obtain ⟨head, hhead, hsuccess⟩ := (Option.any_eq_true _ _).mp hsuccess
        cases hparse : f.exchange.command.parse bytes false with
        | error cause =>
          rw [hparse] at h
          cases h
        | ok parsed =>
          rw [hparse] at h
          cases h
          exact ⟨bytes, head, rfl, hhead, hsuccess, hparse⟩
      · cases h
    all_goals cases h
  · rintro ⟨bytes, head, rfl, hhead, hsuccess, hparse⟩
    simp [content?, hhead, hsuccess, hparse, Except.toOption]

def Call.configuration? : Call α → Signal → Option ConfigurationVersion
  | .configuring ⟨_, _, .flying _ f⟩, signal => f.content? signal
  | .configuring ⟨_, _, .ensuring _⟩, _ | .configuring ⟨_, _, .pausing _ _ _⟩, _
  | .executing _, _ | .updating _, _ | .testing _, _ => none

/-- A call for the configuration executes the command for it. -/
def Call.IsGenuine (call : Call α) : Prop :=
  ∀ c, call = .configuring c → ∃ name, c.command = .configuration name

namespace Executor

variable {x : Executor} {m : Moment} {signal : Signal} {command : Command β} {options : Options}

theorem answered_iff (x : Executor) {f : Flight β} {result : β} (now : Instant)
    (hkey : f.exchange.key = none)
    (hautomatic : f.exchange.command.disposal = .automatic) :
    (∃ status fromCache,
      (x.advanceFlight f signal now).2 = .done (.answered result status fromCache)) ↔
      f.content? signal = some result := by
  rw [Flight.content?_eq_some_iff]
  constructor
  · rintro ⟨status, fromCache, hanswered⟩
    obtain ⟨ticket, bytes, rfl, hparse⟩ := body_of_answered hkey hautomatic hanswered
    unfold advanceFlight at hanswered
    cases hhead : f.head with
    | none => simp [hhead] at hanswered
    | some head =>
      rw [hhead] at hanswered
      dsimp only at hanswered
      split at hanswered
      · rename_i hticket
        have hsuccess : head.status.isSuccess = true := by
          by_contra hrefused
          unfold receiveBody refusal at hanswered
          rw [if_neg hrefused] at hanswered
          dsimp only at hanswered
          split at hanswered <;> cases hanswered
        exact ⟨bytes, head, by rw [hticket], rfl, hsuccess, hparse⟩
      · cases hanswered
  · rintro ⟨bytes, head, rfl, hhead, hsuccess, hparse⟩
    refine ⟨head.status, false, ?_⟩
    simp [advanceFlight, hhead, receiveBody, hsuccess, receiveResult, hparse]

theorem unanswered_take {t : Turn} (huncacheable : command.isCacheable = false) (r : Executed β) :
    (t.take command options m).2 ≠ .done (.ok r) := by
  intro hdone
  obtain ⟨node, request, entry, hspares⟩ := Turn.spares_of_take hdone
  cases huncacheable.symm.trans hspares.cacheable

theorem unanswered_execute (huncacheable : command.isCacheable = false) (x : Executor)
    (options : Options) (m : Moment) (r : Executed β) :
    (x.execute command options m).2 ≠ .done (.ok r) := by
  intro hdone
  have hproceeds := x.proceeds_execute command options m
  cases hturn : x.executeTurn? command options m.now with
  | some t =>
    rw [hturn] at hproceeds
    rw [show x.execute command options m = t.take command options m from hproceeds] at hdone
    exact unanswered_take huncacheable r hdone
  | none =>
    rw [hturn] at hproceeds
    obtain ⟨trail, f, hbefore, -⟩ := (StaysWith.answered hproceeds r hdone).awaited
    cases hbefore

theorem version?_eq_some_iff {next : Next ConfigurationVersion} {v : ConfigurationVersion} :
    next.version? = some v ↔ ∃ r, next.2 = .done (.ok r) ∧ r.result = v := by
  obtain ⟨y, progress⟩ := next
  match progress with
  | .waiting _ | .done (.error _) | .done (.ok _) => simp [Next.version?]

theorem orderVersion?_eq_none (x : Executor) (m : Moment) (order : Order α) :
    x.orderVersion? m order = none := by
  unfold orderVersion?
  cases order with
  | updateConfiguration =>
    dsimp only
    cases x.scope with
    | cluster => rfl
    | database name =>
      rw [Option.eq_none_iff_forall_ne_some]
      intro v hv
      obtain ⟨r, hdone, -⟩ := version?_eq_some_iff.mp hv
      exact unanswered_execute rfl x {} m r hdone
  | execute _ _ | updateTopology _ _ _ | speedTest | firstUpdate | refreshTopology _ => rfl

theorem callVersion?_eq {call : Call α} (hfits : call.Fits x) (hgenuine : call.IsGenuine)
    (m : Moment) (signal : Signal) : x.callVersion? m signal call = call.configuration? signal := by
  cases call with
  | executing _ | updating _ | testing _ => rfl
  | configuring c =>
    obtain ⟨command, options, phase⟩ := c
    obtain ⟨name, rfl⟩ := hgenuine _ rfl
    have hunanswered : ∀ {t : Turn} {r : Executed ConfigurationVersion},
        (t.take (.configuration name) options m).2 ≠ .done (.ok r) := unanswered_take rfl _
    have hproceeds := x.proceeds_advanceExecution ⟨.configuration name, options, phase⟩ signal m
    unfold callVersion?
    dsimp only
    rw [Option.ext_iff]
    intro v
    rw [version?_eq_some_iff]
    cases phase with
    | ensuring update =>
      refine iff_of_false ?_ (by simp [Call.configuration?])
      rintro ⟨r, hdone, -⟩
      cases hturn :
        x.advanceTurn? ⟨.configuration name, options, .ensuring update⟩ signal m.now with
      | some t =>
        rw [hturn] at hproceeds
        exact hunanswered ((congrArg Prod.snd hproceeds).symm.trans hdone)
      | none =>
        rw [hturn] at hproceeds
        obtain ⟨trail, f, hbefore, -⟩ := (StaysWith.answered hproceeds r hdone).awaited
        cases hbefore
    | pausing trail e pause =>
      refine iff_of_false ?_ (by simp [Call.configuration?])
      rintro ⟨r, hdone, -⟩
      obtain ⟨trail', f, hbefore, -⟩ := (StaysWith.answered hproceeds r hdone).awaited
      cases hbefore
    | flying trail f =>
      have hflight : f.Fits x .command (.configuration name) options.noCaching := hfits.2
      have hkey : f.exchange.key = none := hflight.isFor.key_eq_none rfl
      have hcommand : f.exchange.command = .configuration name := hflight.isFor.command_eq
      refine Iff.trans ?_ (x.answered_iff m.now hkey (by rw [hcommand]; rfl))
      unfold advanceExecution
      dsimp only
      cases hadvance : x.advanceFlight f signal m.now with
      | mk y progress =>
        match progress with
        | .waiting _ | .done (.ended _) => simp [concludeAttempt]
        | .done (.answered result status fromCache) => simp [concludeAttempt]
        | .done (.failed reason) =>
          refine iff_of_false ?_ (by simp)
          rintro ⟨r, hdone, -⟩
          exact hunanswered (t := y.failTurn trail f.exchange reason) hdone

theorem not_configuring_executed {command : Command α} (next : Next α)
    (c : Execution ConfigurationVersion) :
    (executed command options next).2 ≠ .waiting (.configuring c) := by
  obtain ⟨y, _ | _⟩ := next <;> intro h <;> cases h

theorem not_configuring_updated (next : Executor × Progress Update (Except ExecutorError Bool))
    (c : Execution ConfigurationVersion) :
    (updated next : Step α).2 ≠ .waiting (.configuring c) := by
  obtain ⟨y, _ | _⟩ := next <;> intro h <;> cases h

theorem not_configuring_tested (next : Executor × Progress SpeedTest (Except ExecutorError Unit))
    (c : Execution ConfigurationVersion) :
    (tested next : Step α).2 ≠ .waiting (.configuring c) := by
  obtain ⟨y, _ | _⟩ := next <;> intro h <;> cases h

theorem configuring_of_configured {command : Command ConfigurationVersion}
    {next : Next ConfigurationVersion} {c : Execution ConfigurationVersion}
    (h : (configured command options next : Step α).2 = .waiting (.configuring c)) :
    c.command = command ∧ c.options = options := by
  obtain ⟨y, progress⟩ := next
  match progress with
  | .waiting phase =>
    cases h
    exact ⟨rfl, rfl⟩
  | .done (.ok _) | .done (.error _) => cases h

theorem configuring_of_begin {order : Order α} {c : Execution ConfigurationVersion}
    (h : (x.begin m order).2 = .waiting (.configuring c)) :
    order = .updateConfiguration ∧ ∃ name, c.command = .configuration name := by
  unfold begin at h
  cases order with
  | execute _ _ => exact (not_configuring_executed _ _ h).elim
  | updateTopology _ _ _ | firstUpdate | refreshTopology _ =>
    exact (not_configuring_updated _ _ h).elim
  | speedTest => exact (not_configuring_tested _ _ h).elim
  | updateConfiguration =>
    dsimp only at h
    split at h
    · cases h
    · exact ⟨rfl, _, (configuring_of_configured h).1⟩

theorem configuring_of_advance {old : Call α} {c : Execution ConfigurationVersion}
    (h : (x.advance m signal old).2 = .waiting (.configuring c)) :
    ∃ e, old = .configuring e ∧ c.command = e.command := by
  unfold advance at h
  cases old with
  | executing _ => exact (not_configuring_executed _ _ h).elim
  | updating _ => exact (not_configuring_updated _ _ h).elim
  | testing _ => exact (not_configuring_tested _ _ h).elim
  | configuring e => exact ⟨e, rfl, (configuring_of_configured h).1⟩

theorem configured_done_iff {command : Command ConfigurationVersion}
    {next : Next ConfigurationVersion} {reply : Reply α} :
    (configured command options next : Step α).2 = .done (.ok reply) ↔
      ∃ v, next.version? = some v ∧ reply = .updated (next.1.configuration.etag < v.etag) := by
  obtain ⟨y, progress⟩ := next
  match progress with
  | .waiting _ | .done (.error _) => simp [configured, Next.version?]
  | .done (.ok r) => simp [configured, Next.version?, configure, eq_comm]

end Executor

/-! ## Configurations in a system -/

namespace System

variable {s : System α} {m : Moment} {action : Action α} {c : Caller}

def configuration? (s : System α) : Action α → Option ConfigurationVersion
  | .signal caller signal => (s.call? caller).bind (·.configuration? signal)
  | .begin _ _ | .attend | .tick _ | .abandon _ | .dispose => none

/-- The configurations that servers sent along a run, the last one first. -/
def configurations (s : System α) : Run α → List ConfigurationVersion
  | [] => []
  | (_, action) :: before =>
    ((s.after before).configuration? action).toList ++ s.configurations before

def IsConfiguring (s : System α) (action : Action α) (c : Caller) : Prop :=
  (∃ x, s.opening? action = some (c, x, .updateConfiguration)) ∨
    ∃ e, s.call? c = some (.configuring e)

def Genuine (s : System α) : Prop := ∀ c call, s.call? c = some call → call.IsGenuine

theorem Genuine.step (h : s.Genuine) (m : Moment) (action : Action α) :
    (s.step m action).1.Genuine := by
  rintro c call hcall e rfl
  rcases call?_step hcall with ⟨-, hold⟩ | ⟨x, order, -, -, hbegun⟩ |
    ⟨old, signal, -, hold, -, hadvanced⟩
  · exact h c _ hold e rfl
  · exact (Executor.configuring_of_begin hbegun).2
  · obtain ⟨before, rfl, hcommand⟩ := Executor.configuring_of_advance hadvanced
    rw [hcommand]
    exact h c _ hold before rfl

theorem Genuine.after (h : s.Genuine) (run : Run α) : (s.after run).Genuine := by
  induction run with
  | nil => exact h
  | cons event before ih => exact ih.step event.1 event.2

theorem configuration?_of_opens (h : action.opens = true) : s.configuration? action = none := by
  cases action with
  | begin _ _ | attend | tick _ => rfl
  | signal _ _ | abandon _ | dispose => cases h

theorem configuration?_signal_of_none (h : s.call? c = none) (signal : Signal) :
    s.configuration? (.signal c signal) = none := by
  show (s.call? c).bind (·.configuration? signal) = _
  rw [h]
  rfl

theorem configuration?_signal {call : Call α} (h : s.call? c = some call) (signal : Signal) :
    s.configuration? (.signal c signal) = call.configuration? signal := by
  show (s.call? c).bind (·.configuration? signal) = _
  rw [h]
  rfl

theorem configuration_absorb (s : System α) (caller : Caller) (step : Executor.Step α) :
    (s.absorb caller step).1.executor.configuration = step.1.configuration := by
  obtain ⟨listening, mailbox, habsorbed⟩ := s.executor_absorb caller step
  rw [habsorbed]

theorem configuration_abandon (s : System α) (caller : Caller) :
    (s.abandon caller).executor.configuration = s.executor.configuration := by
  rw [executor_abandon]

/-- The configuration after a step is the one before, or what came if that is newer. -/
theorem configuration_step (hfits : s.Fits) (hgenuine : s.Genuine) (m : Moment)
    (action : Action α) :
    (s.step m action).1.executor.configuration =
      (s.executor.receive (s.configuration? action)).configuration := by
  have hhappens := s.happens_step m action
  generalize s.step m action = next at hhappens ⊢
  cases hhappens with
  | @begins _ caller mailbox order hopens =>
    rw [configuration?_of_opens hopens, configuration_absorb,
      (Executor.abides_begin _ m order).configuration, Executor.orderVersion?_eq_none]
    rfl
  | opensNothing hopens =>
    rw [configuration?_of_opens hopens]
    rfl
  | @goesOn caller signal call hcall =>
    rw [configuration?_signal hcall, configuration_absorb,
      (s.executor.abides_advance m signal call).configuration,
      Executor.callVersion?_eq (hfits caller call hcall) (hgenuine caller call hcall)]
  | findsNothing hidle =>
    rw [configuration?_signal_of_none hidle]
    rfl
  | abandons caller => exact s.configuration_abandon caller
  | disposes _ =>
    have hdispose : ∀ x : Executor, x.dispose.configuration = x.configuration := by
      intro x
      unfold Executor.dispose
      split <;> rfl
    rw [hdispose]
    exact s.configuration_abandon .background
  | disposedAlready _ => rfl

theorem ended_of_configuration? (hfits : s.Fits) (hgenuine : s.Genuine)
    {v : ConfigurationVersion} (h : s.configuration? action = some v) (m : Moment) :
    ∃ c, s.IsConfiguring action c ∧ (s.step m action).2 =
      some (c, .ok (.updated (s.executor.configuration.etag < v.etag))) := by
  cases action with
  | begin _ _ | attend | tick _ | abandon _ | dispose => cases h
  | signal caller signal =>
    obtain ⟨call, hcall, hcame⟩ := Option.bind_eq_some_iff.mp h
    have hversion := Executor.callVersion?_eq (hfits caller call hcall)
      (hgenuine caller call hcall) m signal
    rw [hcame] at hversion
    cases call with
    | executing _ | updating _ | testing _ => cases hversion
    | configuring e =>
      refine ⟨caller, .inr ⟨e, hcall⟩, ?_⟩
      have hdone : (Executor.configured e.command e.options
          (s.executor.advanceExecution e signal m) : Executor.Step α).2 = .done (.ok (.updated
            ((s.executor.advanceExecution e signal m).1.configuration.etag < v.etag))) :=
        Executor.configured_done_iff.mpr ⟨v, hversion, rfl⟩
      rw [step_signal hcall, ← (s.executor.abides_advanceExecution e signal m).configuration]
      unfold absorb Executor.advance
      dsimp only
      cases hnext : (Executor.configured e.command e.options
        (s.executor.advanceExecution e signal m) : Executor.Step α) with
      | mk y progress =>
        rw [hnext] at hdone
        cases hdone
        rfl

theorem configuration?_of_ended (hfits : s.Fits) (hgenuine : s.Genuine)
    (hconfiguring : s.IsConfiguring action c) (hdatabase : s.executor.scope.isDatabase = true)
    {reply : Reply α} (hended : (s.step m action).2 = some (c, .ok reply)) :
    ∃ v, s.configuration? action = some v := by
  rcases ended_step hended with ⟨x, order, hopening, hdone⟩ | ⟨call, signal, rfl, hcall, hdone⟩
  · obtain ⟨-, hfree, mailbox, rfl⟩ := step_of_opening (m := m) hopening
    rcases hconfiguring with ⟨x, hconfiguring⟩ | ⟨e, hbusy⟩
    · cases hopening.symm.trans hconfiguring
      have hnone := Executor.orderVersion?_eq_none (α := α) { s.executor with mailbox } m
        .updateConfiguration
      unfold Executor.begin at hdone
      unfold Executor.orderVersion? at hnone
      cases hscope : s.executor.scope with
      | cluster =>
        rw [hscope] at hdatabase
        cases hdatabase
      | database name =>
        rw [hscope] at hdone hnone
        obtain ⟨v, hversion, -⟩ := Executor.configured_done_iff.mp hdone
        cases hnone.symm.trans hversion
    · cases hfree.symm.trans hbusy
  · rcases hconfiguring with ⟨x, hconfiguring⟩ | ⟨e, hbusy⟩
    · cases hconfiguring
    · cases hcall.symm.trans hbusy
      obtain ⟨v, hversion, -⟩ := Executor.configured_done_iff.mp hdone
      refine ⟨v, ?_⟩
      rw [configuration?_signal hcall, ← Executor.callVersion?_eq (hfits c _ hcall)
        (hgenuine c _ hcall) m signal]
      exact hversion

theorem body_of_configuration? (hfits : s.Fits) (hgenuine : s.Genuine) {v : ConfigurationVersion}
    (h : s.configuration? action = some v) :
    ∃ c ticket bytes, action = .signal c (.body ticket (.ok bytes)) ∧
      Command.readJson Json.Reader.configurationVersion bytes = .ok v := by
  cases action with
  | begin _ _ | attend | tick _ | abandon _ | dispose => cases h
  | signal c signal =>
    obtain ⟨call, hcall, hcame⟩ := Option.bind_eq_some_iff.mp h
    unfold Call.configuration? at hcame
    split at hcame
    · rename_i command options trail f
      obtain ⟨name, hcommand⟩ := hgenuine c _ hcall _ rfl
      have hflight : f.Fits s.executor .command command options.noCaching := (hfits c _ hcall).2
      have hsame : f.exchange.command = .configuration name :=
        hflight.isFor.command_eq.trans hcommand
      obtain ⟨bytes, head, rfl, -, -, hparse⟩ := Flight.content?_eq_some_iff.mp hcame
      rw [hsame] at hparse
      exact ⟨c, f.ticket, bytes, rfl, hparse⟩
    all_goals cases hcame

/-- The configuration of a system is the newest of those that servers sent, of which the first to
come counts.  Whatever comes later with a number that is no greater changes nothing. -/
structure FollowsNewest (s : System α) (conventions : Conventions)
    (received : List ConfigurationVersion) : Prop where
  etag : s.executor.configuration.etag = (received.map (·.etag)).foldr max (-1)
  newest : ConfigurationVersion.FirstNewest received s.executor.configuration
  inForce : s.executor.readBalance =
    match s.executor.configuration.configuration with
    | some c => if c.disabled then conventions.readBalance
      else c.readBalance.getD conventions.readBalance
    | none => conventions.readBalance
  raises : ∀ m action,
    s.executor.configuration.etag ≤ (s.step m action).1.executor.configuration.etag
  stays : ∀ m action,
    (∀ v, s.configuration? action = some v → v.etag ≤ s.executor.configuration.etag) →
      (s.step m action).1.executor.configuration = s.executor.configuration ∧
        (s.step m action).1.executor.readBalance = s.executor.readBalance
  tells : ∀ m action v, s.configuration? action = some v →
    ∃ c, s.IsConfiguring action c ∧ (s.step m action).2 = some (c, .ok (.updated
      (s.executor.configuration.etag < (s.step m action).1.executor.configuration.etag)))
  told : ∀ m action c reply, s.IsConfiguring action c →
    (s.step m action).2 = some (c, .ok reply) → ∃ v, s.configuration? action = some v

theorem configuration_after (hfits : s.Fits) (hgenuine : s.Genuine)
    (hunknown : s.executor.configuration = .unknown) (run : Run α) :
    (s.after run).executor.configuration =
      ConfigurationVersion.newest (s.configurations run) := by
  induction run with
  | nil => exact hunknown
  | cons event before ih =>
    obtain ⟨m, action⟩ := event
    have hstep := configuration_step (hfits.after before) (hgenuine.after before) m action
    rw [after, hstep, configurations]
    unfold Executor.receive
    rw [ih]
    cases (s.after before).configuration? action <;> rfl

theorem readBalance_eq (x : Executor) : x.readBalance =
    match x.configuration.configuration with
    | some c => if c.disabled then x.conventions.readBalance
      else c.readBalance.getD x.conventions.readBalance
    | none => x.conventions.readBalance := by
  unfold Executor.readBalance ConfigurationVersion.readBalance
  cases x.configuration.configuration with
  | none => rfl
  | some c =>
    rw [Option.bind_some]
    unfold ClientConfiguration.readBalanceOverride
    cases hdisabled : c.disabled <;> simp [hdisabled]

theorem etag_step (hfits : s.Fits) (hgenuine : s.Genuine) (m : Moment) (action : Action α) :
    (s.step m action).1.executor.configuration.etag =
      match s.configuration? action with
      | some v => max v.etag s.executor.configuration.etag
      | none => s.executor.configuration.etag := by
  rw [configuration_step hfits hgenuine]
  cases s.configuration? action with
  | none => rfl
  | some v => exact ConfigurationVersion.etag_latest _ v

theorem readBalance_step (m : Moment) {action : Action α}
    (hsame : (s.step m action).1.executor.configuration = s.executor.configuration) :
    (s.step m action).1.executor.readBalance = s.executor.readBalance := by
  have hconventions : (s.step m action).1.executor.conventions = s.executor.conventions :=
    conventions_after s [(m, action)]
  unfold Executor.readBalance
  rw [hsame, hconventions]

theorem followsNewest_after (hfits : s.Fits) (hgenuine : s.Genuine)
    (hunknown : s.executor.configuration = .unknown)
    (hdatabase : s.executor.scope.isDatabase = true) (run : Run α) :
    (s.after run).FollowsNewest s.executor.conventions (s.configurations run) := by
  have hfits' := hfits.after run
  have hgenuine' := hgenuine.after run
  have hnewest := configuration_after hfits hgenuine hunknown run
  constructor
  case etag =>
    rw [hnewest, ConfigurationVersion.etag_newest]
    rfl
  case newest =>
    rw [hnewest]
    exact ConfigurationVersion.firstNewest_newest _
  case inForce =>
    rw [← conventions_after s run]
    exact readBalance_eq _
  case raises =>
    intro m action
    rw [etag_step hfits' hgenuine']
    cases (s.after run).configuration? action with
    | none => exact Int.le_refl _
    | some v => exact Int.le_max_right _ _
  case stays =>
    intro m action hold
    have hsame : ((s.after run).step m action).1.executor.configuration =
        (s.after run).executor.configuration := by
      rw [configuration_step hfits' hgenuine']
      cases hcame : (s.after run).configuration? action with
      | none => rfl
      | some v => exact ConfigurationVersion.latest_of_le (hold v hcame)
    exact ⟨hsame, readBalance_step m hsame⟩
  case tells =>
    intro m action v hcame
    obtain ⟨c, hconfiguring, hended⟩ := ended_of_configuration? hfits' hgenuine' hcame m
    have hetag : ((s.after run).step m action).1.executor.configuration.etag =
        max v.etag (s.after run).executor.configuration.etag := by
      rw [etag_step hfits' hgenuine', hcame]
    have hraised : (s.after run).executor.configuration.etag <
        ((s.after run).step m action).1.executor.configuration.etag ↔
          (s.after run).executor.configuration.etag < v.etag := by
      omega
    exact ⟨c, hconfiguring, hended.trans (by rw [decide_eq_decide.mpr hraised])⟩
  case told =>
    intro m action c reply hconfiguring hended
    have hscope : (s.after run).executor.scope.isDatabase = true := by
      rw [scope_after]
      exact hdatabase
    exact configuration?_of_ended hfits' hgenuine' hconfiguring hscope hended

theorem body_of_mem_configurations (hfits : s.Fits) (hgenuine : s.Genuine) {run : Run α}
    {v : ConfigurationVersion} (h : v ∈ s.configurations run) :
    ∃ m c ticket bytes, (m, .signal c (.body ticket (.ok bytes))) ∈ run ∧
      Command.readJson Json.Reader.configurationVersion bytes = .ok v := by
  induction run with
  | nil => cases h
  | cons event before ih =>
    obtain ⟨m, action⟩ := event
    rcases List.mem_append.mp h with hcame | hearlier
    · obtain ⟨c, ticket, bytes, rfl, hread⟩ := body_of_configuration? (hfits.after before)
        (hgenuine.after before) (Option.mem_toList.mp hcame)
      exact ⟨m, c, ticket, bytes, List.mem_cons_self, hread⟩
    · obtain ⟨m', c, ticket, bytes, hmem, hread⟩ := ih hearlier
      exact ⟨m', c, ticket, bytes, List.mem_cons_of_mem _ hmem, hread⟩

/-- The executor of a database follows the newest configuration that a server sent it. -/
theorem follows_newest_new (name applicationId : String) (seeds : List Url)
    (conventions : Conventions) (proxy : Option String) (run : Run α) :
    let start : System α := new (.database name) applicationId seeds conventions proxy
    (start.after run).FollowsNewest conventions (start.configurations run) ∧
      ∀ v ∈ start.configurations run, ∃ m c ticket bytes,
        (m, .signal c (.body ticket (.ok bytes))) ∈ run ∧
          Command.readJson Json.Reader.configurationVersion bytes = .ok v := by
  intro start
  obtain ⟨mailbox, hexecutor⟩ :=
    executor_new (α := α) (.database name) applicationId seeds conventions proxy
  have hidle : ∀ c, start.call? c = none := fun _ => rfl
  have hfits : start.Fits := fits_of_idle hidle
  have hgenuine : start.Genuine := fun c _ hcall => by cases (hidle c).symm.trans hcall
  have hconventions : start.executor.conventions = conventions := congrArg _ hexecutor
  have hunknown : start.executor.configuration = .unknown := congrArg _ hexecutor
  have hscope : start.executor.scope = .database name := congrArg _ hexecutor
  refine ⟨?_, fun v hv => body_of_mem_configurations hfits hgenuine hv⟩
  rw [← hconventions]
  exact followsNewest_after hfits hgenuine hunknown (by rw [hscope]; rfl) run

/-- Of two answers the older one comes last, and reads go on as the newer one says. -/
example :
    let start : System Bytes := new (.database "db") "app"
      [⟨"http", some ⟨"", "", .name "a", some 8080⟩, "/", none, none⟩]
      { disableTopologyUpdates := true } none
    let m : Moment := ⟨0, Duration.half⟩
    let answer := fun (etag balance : String) => Bytes.ofString ("\x7b\"Etag\":" ++ etag ++
      ",\"Configuration\":\x7b\"ReadBalanceBehavior\":\"" ++ balance ++ "\"\x7d\x7d")
    let run : Run Bytes := [
      (m, .signal (.outside 1) (.body 0 (.ok (answer "3" "RoundRobin")))),
      (m, .signal (.outside 1) (.head 0 (.ok { status := 200 }))),
      (m, .signal (.outside 2) (.body 1 (.ok (answer "5" "FastestNode")))),
      (m, .signal (.outside 2) (.head 1 (.ok { status := 200 }))),
      (m, .begin 2 .updateConfiguration), (m, .begin 1 .updateConfiguration)]
    (start.configurations run).map (·.etag) = [3, 5] ∧
      (start.after run).executor.configuration.etag = 5 ∧
      (start.after run).executor.readBalance = .fastestNode := by
  decide +kernel

end System

end ClusterClient
