import ClusterClient.Proofs.Executor.Calls

/-!
# Errors of calls

Layer by layer an error is handed on as it is.  Of the errors that are about
several nodes, following a plan ends with one only when no node is left, and
speed tests with none.
-/

namespace ClusterClient

def ExecutorError.isAboutNodes : ExecutorError → Bool
  | .allNodesUnreachable _ | .topologyUnavailable _ => true
  | .fault _ | .timeout _ | .nodeNotFound _ | .emptyTopology | .disposed | .initialFetchTimedOut
  | .overflow _ => false

namespace Progress

variable {σ τ ρ υ γ : Type}

/-- What somebody sees who looks for certain errors. -/
def seen (look : ExecutorError → Option γ) : Progress σ (Except ExecutorError ρ) → Option γ
  | .done (.error e) => look e
  | .done (.ok _) | .waiting _ => none

@[simp] theorem seen_mapState (look : ExecutorError → Option γ) (f : σ → τ)
    (progress : Progress σ (Except ExecutorError ρ)) :
    (progress.mapState f).seen look = progress.seen look := by
  match progress with
  | .waiting _ => rfl
  | .done (.ok _) => rfl
  | .done (.error _) => rfl

@[simp] theorem seen_map (look : ExecutorError → Option γ) (f : ρ → υ)
    (progress : Progress σ (Except ExecutorError ρ)) :
    (progress.map (·.map f)).seen look = progress.seen look := by
  match progress with
  | .waiting _ => rfl
  | .done (.ok _) => rfl
  | .done (.error _) => rfl

end Progress

open Progress

namespace Executor

variable {α γ : Type} {look : ExecutorError → Option γ} {command : Command α} {options : Options}

/-! ## Calls -/

theorem seen_executed (look : ExecutorError → Option γ) (command : Command α) (options : Options)
    (next : Next α) : (executed command options next).2.seen look = next.2.seen look := by
  obtain ⟨y, progress⟩ := next
  exact (seen_mapState _ _ _).trans (seen_map _ _ progress)

theorem seen_configured (look : ExecutorError → Option γ) (command : Command ConfigurationVersion)
    (options : Options) (next : Next ConfigurationVersion) :
    (configured command options next : Step α).2.seen look = next.2.seen look := by
  obtain ⟨y, progress⟩ := next
  match progress with
  | .waiting _ => rfl
  | .done (.ok _) => rfl
  | .done (.error _) => rfl

theorem seen_updated (look : ExecutorError → Option γ)
    (next : Executor × Progress Update (Except ExecutorError Bool)) :
    (updated next : Step α).2.seen look = next.2.seen look := by
  obtain ⟨y, progress⟩ := next
  exact (seen_mapState _ _ _).trans (seen_map _ _ progress)

theorem seen_tested (look : ExecutorError → Option γ)
    (next : Executor × Progress SpeedTest (Except ExecutorError Unit)) :
    (tested next : Step α).2.seen look = next.2.seen look := by
  obtain ⟨y, progress⟩ := next
  exact (seen_mapState _ _ _).trans (seen_map _ _ progress)

theorem seen_updateOf (htimed : look .initialFetchTimedOut = none) (isFirst : Bool)
    (next : Executor × Progress Refresh (Except ExecutorError Bool)) :
    (updateOf isFirst next).2.seen look = next.2.seen look := by
  obtain ⟨y, progress⟩ := next
  match progress with
  | .waiting _ => rfl
  | .done (.error e) => cases isFirst <;> rfl
  | .done (.ok _) =>
    cases isFirst with
    | false => rfl
    | true =>
      unfold updateOf judge
      simp only [Progress.mapState, Progress.map, if_true, Except.bind]
      split
      · rfl
      · exact htimed

/-! ## Wishes -/

section Wishes

variable (hnodes : ∀ failures, look (.topologyUnavailable failures) = none)
include hnodes

theorem seen_ask (x : Executor) (limit : Option Duration) (failures : List NodeFailure)
    (now : Instant) (nodes : List Node) :
    (x.ask limit failures now nodes).2.seen look = none := by
  rcases x.ask_cases limit failures now nodes with
    ⟨missed, -, hask⟩ | ⟨skipped, node, rest, missed, pool, wire, flight, -, -, -, hask⟩
  all_goals rw [hask]
  · exact hnodes _
  · rfl

theorem seen_refreshLocked (x : Executor) (order : SweepOrder) (observed : Nat) (now : Instant) :
    (x.refreshLocked order observed now).2.seen look = none := by
  unfold refreshLocked
  split
  · rfl
  · split
    · unfold lastOutcome
      dsimp only
      split
      · exact hnodes _
      · rfl
    · exact (seen_mapState _ _ _).trans (seen_ask hnodes _ _ _ _ _)

theorem seen_refresh (x : Executor) (order : SweepOrder) (now : Instant) :
    (x.refresh order now).2.seen look = none := by
  unfold refresh
  split
  · rfl
  · exact x.seen_refreshLocked hnodes order x.sweeps now

theorem seen_advanceRefresh (x : Executor) (refresh : Refresh) (signal : Signal) (now : Instant) :
    (x.advanceRefresh refresh signal now).2.seen look = none := by
  unfold advanceRefresh
  cases refresh with
  | queued order observed =>
    cases signal with
    | granted =>
      dsimp only
      split
      · rfl
      · exact x.seen_refreshLocked hnodes order observed now
    | lockTimedOut | resumed | head _ _ | body _ _ | expired _ => rfl
  | sweeping sweep =>
    dsimp only
    rw [seen_mapState]
    obtain ⟨z, -, hnext⟩ := x.advanceSweep_cases sweep signal now
    rcases hnext with ⟨flight, -, -, hadvance⟩ | ⟨reason, -, hadvance⟩ | ⟨topology, -, hadvance⟩
    all_goals rw [hadvance]
    · rfl
    · exact seen_ask hnodes _ _ _ _ _
    · rfl

end Wishes

section AboutNodes

variable (hlook : ∀ e, e.isAboutNodes = false → look e = none)
include hlook

/-! ## Following a plan -/

theorem seen_beginAttempt (x : Executor) (t : Trail) (e : Exchange α) :
    (x.beginAttempt t e).2.seen look = none := by
  unfold beginAttempt
  dsimp only
  split
  · rfl
  · exact hlook _ rfl

theorem seen_attempt (x : Executor) (number : Nat) (failures : List NodeFailure)
    (nodes : List Node) (m : Moment) :
    (x.attempt command options number failures nodes m).2.seen look =
      if nodes.isEmpty then look (.allNodesUnreachable failures) else none := by
  have hturn := x.turnsTo_attempt command options number failures nodes m
  generalize x.attempt command options number failures nodes m = next at hturn ⊢
  cases hturn with
  | noneLeft | pauses _ _ => rfl
  | noRequest _ | noDelay _ => exact hlook _ rfl
  | begins _ => exact x.seen_beginAttempt hlook _ _
  | served e entry _ _ =>
    unfold serveCached
    cases e.command.parse entry.payload true with
    | ok _ => rfl
    | error _ => exact hlook _ rfl

theorem seen_follow (x : Executor) (m : Moment) :
    (x.follow command options m).2.seen look = none := by
  unfold follow
  split
  · rename_i y e hroute
    unfold route at hroute
    repeat' split at hroute
    all_goals cases hroute
    all_goals exact hlook _ rfl
  · rename_i y nodes hroute
    rw [seen_attempt hlook, if_neg]
    simpa using ne_nil_of_route hroute

theorem seen_concludeAttempt (x : Executor) (c : Execution α) (t : Trail) (e : Exchange α)
    (outcome : Outcome α) (m : Moment) :
    (x.concludeAttempt c t e outcome m).2.seen look =
      match outcome with
      | .failed reason =>
        if t.rest.isEmpty then look (.allNodesUnreachable (t.failures ++ [⟨e.node.url, reason⟩]))
        else none
      | .answered _ _ _ | .ended _ => none := by
  unfold concludeAttempt
  cases outcome with
  | answered _ _ _ => rfl
  | ended _ => exact hlook _ rfl
  | failed _ => exact seen_attempt hlook _ _ _ _ _

/-! ## Calls on commands after their wishes -/

theorem seen_afterWish (isFirst : Bool)
    (next : Executor × Progress Refresh (Except ExecutorError Bool)) (m : Moment) :
    (afterWish command options m isFirst next).2.seen look =
      if isFirst then next.2.seen look else none := by
  rw [← seen_updateOf (hlook _ rfl) isFirst]
  unfold afterWish
  cases updateOf isFirst next with
  | mk y progress =>
    match progress with
    | .waiting update => cases isFirst <;> rfl
    | .done (.ok value) =>
      rw [show (Progress.done (.ok value) : Progress Update _).seen look = none from rfl, ite_self]
      exact y.seen_follow hlook m
    | .done (.error e) =>
      cases isFirst with
      | true => rfl
      | false => exact y.seen_follow hlook m

/-! ## Speed tests -/

theorem seen_concludeTest (x : Executor) (t : SpeedTest) :
    (tested (x.concludeTest t) : Step α).2.seen look = none := by
  unfold concludeTest
  split
  · rfl
  · rename_i results _
    dsimp only
    cases (x.selector.applySpeedTest t.etag results (x.readBalance == .fastestNode)).2 with
    | ok _ => rfl
    | error _ => exact hlook _ rfl

theorem seen_speedTest (x : Executor) (now : Instant) :
    (tested (x.speedTest now) : Step α).2.seen look = none := by
  unfold speedTest
  split
  · rfl
  · exact seen_concludeTest hlook _ _

end AboutNodes

end Executor

end ClusterClient
