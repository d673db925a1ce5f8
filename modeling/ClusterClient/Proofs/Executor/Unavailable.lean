import ClusterClient.Proofs.Executor.Errors

/-!
# Where the topology is reported unavailable

A call reports that no node had the topology because its own wish came to that,
or because the last sweep did only just now.
-/

namespace ClusterClient

def ExecutorError.unavailable? : ExecutorError → Option (List NodeFailure)
  | .topologyUnavailable failures => some failures
  | _ => none

theorem ExecutorError.unavailable?_eq_none (e : ExecutorError) (h : e.isAboutNodes = false) :
    e.unavailable? = none := by
  cases e with
  | topologyUnavailable _ => cases h
  | allNodesUnreachable _ | fault _ | timeout _ | nodeNotFound _ | emptyTopology | disposed
  | initialFetchTimedOut | overflow _ => rfl

namespace Progress

variable {σ ρ : Type}

def unavailable? : Progress σ (Except ExecutorError ρ) → Option (List NodeFailure)
  | .done (.error (.topologyUnavailable failures)) => some failures
  | _ => none

theorem unavailable?_eq_seen (progress : Progress σ (Except ExecutorError ρ)) :
    progress.unavailable? = progress.seen ExecutorError.unavailable? := by
  match progress with
  | .waiting _ => rfl
  | .done (.ok _) => rfl
  | .done (.error e) => cases e <;> rfl

theorem result?_of_unavailable? {progress : Progress σ (Except ExecutorError ρ)}
    {failures : List NodeFailure} (h : progress.unavailable? = some failures) :
    progress.result? = some (.error (.topologyUnavailable failures)) := by
  unfold unavailable? at h
  split at h
  · cases h
    rfl
  · cases h

end Progress

open Progress

namespace Executor

variable {α : Type} {x : Executor} {command : Command α} {options : Options} {m : Moment}
  {failures : List NodeFailure}

theorem unavailable?_updateOf (isFirst : Bool)
    (next : Executor × Progress Refresh (Except ExecutorError Bool)) :
    (updateOf isFirst next).2.unavailable? = next.2.unavailable? := by
  rw [unavailable?_eq_seen, unavailable?_eq_seen]
  exact seen_updateOf rfl isFirst next

theorem unavailable?_follow (x : Executor) (m : Moment) :
    (x.follow command options m).2.unavailable? = none := by
  rw [unavailable?_eq_seen]
  exact x.seen_follow ExecutorError.unavailable?_eq_none m

theorem unavailable?_concludeAttempt (x : Executor) (c : Execution α) (t : Trail) (e : Exchange α)
    (outcome : Outcome α) (m : Moment) :
    (x.concludeAttempt c t e outcome m).2.unavailable? = none := by
  rw [unavailable?_eq_seen, seen_concludeAttempt ExecutorError.unavailable?_eq_none]
  cases outcome with
  | answered _ _ _ | ended _ => rfl
  | failed _ => exact ite_self none

theorem unavailable_of_afterWish {isFirst : Bool}
    {next : Executor × Progress Refresh (Except ExecutorError Bool)}
    (h : (afterWish command options m isFirst next).2.unavailable? = some failures) :
    next.2.unavailable? = some failures := by
  rw [unavailable?_eq_seen, seen_afterWish ExecutorError.unavailable?_eq_none] at h
  rw [unavailable?_eq_seen]
  split at h
  · exact h
  · cases h

/-! ## Calls -/

theorem unavailable?_executed (command : Command α) (options : Options) (next : Next α) :
    (executed command options next).2.unavailable? = next.2.unavailable? := by
  rw [unavailable?_eq_seen, seen_executed, unavailable?_eq_seen]

theorem unavailable?_configured (command : Command ConfigurationVersion) (options : Options)
    (next : Next ConfigurationVersion) :
    (configured command options next : Step α).2.unavailable? = next.2.unavailable? := by
  rw [unavailable?_eq_seen, seen_configured, unavailable?_eq_seen]

theorem unavailable?_updated
    (next : Executor × Progress Update (Except ExecutorError Bool)) :
    (updated next : Step α).2.unavailable? = next.2.unavailable? := by
  rw [unavailable?_eq_seen, seen_updated, unavailable?_eq_seen]

/-- The last sweep failed like this only just now, or the wish of the call comes to this. -/
def Blames (x : Executor) (wish : Option SweepOrder) (now : Instant)
    (failures : List NodeFailure) : Prop :=
  (wish = none ∧ x.recentFailure? now = some failures) ∨
    ∃ order, wish = some order ∧ (x.refresh order now).2.unavailable? = some failures

theorem blames_of_firstUpdate {now : Instant}
    (h : (x.firstUpdate now).2.unavailable? = some failures) :
    x.Blames (x.firstWish? now) now failures := by
  unfold firstUpdate at h
  unfold firstWish?
  by_cases hinitialized : x.initialized = true
  · rw [if_pos hinitialized] at h
    cases h
  · rw [if_neg hinitialized] at h
    cases hrecent : x.recentFailure? now with
    | some recent =>
      rw [hrecent] at h
      exact .inl ⟨by simp, hrecent.trans h⟩
    | none =>
      rw [hrecent] at h
      by_cases hseeds : x.seeds.isEmpty = true
      · simp only [if_pos hseeds] at h
        cases h
      · simp only [if_neg hseeds] at h
        rw [unavailable?_updateOf] at h
        exact .inr ⟨_, by simp [hinitialized, hseeds], h⟩

theorem recent_of_preparation {now : Instant}
    (h : x.preparation now = .refused (.topologyUnavailable failures)) :
    x.recentFailure? now = some failures := by
  unfold preparation at h
  split at h
  · cases h
  · split at h
    · split at h
      · rename_i hrecent
        cases h
        exact hrecent
      · split at h <;> cases h
    · split at h <;> cases h

theorem blames_of_execute (h : (x.execute command options m).2.unavailable? = some failures) :
    x.Blames (x.commandWish? m.now) m.now failures := by
  rw [execute_prepared] at h
  unfold commandWish?
  cases hprepared : x.preparation m.now with
  | refused e =>
    rw [hprepared] at h
    obtain rfl : e = .topologyUnavailable failures := by
      cases e <;> cases h
      rfl
    exact .inl ⟨rfl, recent_of_preparation hprepared⟩
  | known =>
    rw [hprepared, unavailable?_follow] at h
    cases h
  | sweep isFirst nodes =>
    rw [hprepared] at h
    exact .inr ⟨_, rfl, unavailable_of_afterWish h⟩

theorem blames_of_begin {order : Order α} (h : (x.begin m order).2.unavailable? = some failures) :
    x.Blames (x.wish? m.now order) m.now failures := by
  cases order with
  | execute command options =>
    exact blames_of_execute ((unavailable?_executed command options _).symm.trans h)
  | updateTopology node force limit =>
    have hupdate :=
      (unavailable?_updated (α := α) (x.updateTopology node force limit m.now)).symm.trans h
    unfold updateTopology at hupdate
    unfold wish?
    dsimp only
    split at hupdate
    · cases hupdate
    · rename_i hopen
      rw [unavailable?_updateOf] at hupdate
      rw [if_neg hopen]
      exact .inr ⟨_, rfl, hupdate⟩
  | updateConfiguration =>
    unfold begin at h
    unfold wish?
    cases hscope : x.scope with
    | cluster =>
      rw [hscope] at h
      cases h
    | database name =>
      rw [hscope] at h
      exact blames_of_execute ((unavailable?_configured _ _ _).symm.trans h)
  | speedTest =>
    rw [unavailable?_eq_seen] at h
    cases (x.seen_speedTest ExecutorError.unavailable?_eq_none m.now).symm.trans h
  | firstUpdate => exact blames_of_firstUpdate ((unavailable?_updated (α := α) _).symm.trans h)
  | refreshTopology force =>
    have hupdate := (unavailable?_updated (α := α) (x.refreshTopology force m.now)).symm.trans h
    unfold refreshTopology at hupdate
    unfold wish?
    dsimp only
    split at hupdate
    · cases hupdate
    · rename_i hopen
      rw [if_neg hopen]
      split at hupdate
      · rename_i hfirst
        rw [if_pos hfirst]
        exact blames_of_firstUpdate hupdate
      · rename_i hknown
        rw [unavailable?_updateOf] at hupdate
        rw [if_neg hknown]
        exact .inr ⟨_, rfl, hupdate⟩

theorem unavailable_of_advanceExecution {signal : Signal} {c : Execution α}
    (h : (x.advanceExecution c signal m).2.unavailable? = some failures) :
    ∃ refresh, c.phase.refresh? = some refresh ∧
      (x.advanceRefresh refresh signal m.now).2.unavailable? = some failures := by
  obtain ⟨command, options, phase⟩ := c
  cases phase with
  | ensuring update => exact ⟨update.refresh, rfl, unavailable_of_afterWish h⟩
  | pausing trail e pause =>
    unfold advanceExecution at h
    cases signal with
    | resumed =>
      rw [unavailable?_eq_seen] at h
      cases (x.seen_beginAttempt ExecutorError.unavailable?_eq_none trail e).symm.trans h
    | granted | lockTimedOut | head _ _ | body _ _ | expired _ => cases h
  | flying trail flight =>
    unfold advanceExecution at h
    dsimp only at h
    cases hadvance : x.advanceFlight flight signal m.now with
    | mk y progress =>
      rw [hadvance] at h
      cases progress with
      | waiting flight => cases h
      | done outcome =>
        rw [unavailable?_concludeAttempt] at h
        cases h

/-- Only a wish makes a later step of a call report that the topology is unavailable. -/
theorem unavailable_of_advance {signal : Signal} {call : Call α}
    (h : (x.advance m signal call).2.unavailable? = some failures) :
    ∃ refresh, call.refresh? = some refresh ∧
      (x.advanceRefresh refresh signal m.now).2.unavailable? = some failures := by
  cases call with
  | executing c =>
    exact unavailable_of_advanceExecution ((unavailable?_executed _ _ _).symm.trans h)
  | configuring c =>
    exact unavailable_of_advanceExecution ((unavailable?_configured _ _ _).symm.trans h)
  | updating u =>
    have hupdate := (unavailable?_updated (α := α) (x.advanceUpdate u signal m.now)).symm.trans h
    unfold advanceUpdate at hupdate
    rw [unavailable?_updateOf] at hupdate
    exact ⟨u.refresh, rfl, hupdate⟩
  | testing t =>
    rw [unavailable?_eq_seen] at h
    cases (seen_concludeTest ExecutorError.unavailable?_eq_none _ _).symm.trans h

end Executor

end ClusterClient
