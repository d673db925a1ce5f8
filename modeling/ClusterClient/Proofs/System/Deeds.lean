import ClusterClient.Proofs.Executor.Standing
import ClusterClient.Proofs.System.Fetched

/-!
# Deeds in a system

Each step of a system is one deed of one call at most, and what the executor
thinks of its nodes after a run is what these deeds, one after the other, make of
what it thought before.
-/

namespace ClusterClient

variable {α : Type}

namespace System

variable {s : System α} {m : Moment} {action : Action α}

def deed (s : System α) (m : Moment) (action : Action α) : Deed :=
  match s.opening? action with
  | some (_, x, order) => x.orderDeed m.now order
  | none =>
    match action with
    | .signal caller signal =>
      ((s.call? caller).map (s.executor.callDeed signal m.now)).getD .nothing
    | .begin _ _ | .attend | .tick _ | .abandon _ | .dispose => .nothing

theorem deed_of_opening {caller : Caller} {x : Executor} {order : Order α}
    (h : s.opening? action = some (caller, x, order)) :
    s.deed m action = x.orderDeed m.now order := by
  unfold deed
  rw [h]

theorem deed_of_no_opening (h : s.opening? action = none) (hopens : action.opens = true) :
    s.deed m action = .nothing := by
  unfold deed
  rw [h]
  cases action with
  | begin _ _ | attend | tick _ => rfl
  | signal _ _ | abandon _ | dispose => cases hopens

theorem deed_signal {caller : Caller} {call : Call α} (h : s.call? caller = some call)
    (signal : Signal) :
    s.deed m (.signal caller signal) = s.executor.callDeed signal m.now call := by
  show ((s.call? caller).map (s.executor.callDeed signal m.now)).getD .nothing = _
  rw [h]
  rfl

theorem deed_signal_of_none {caller : Caller} (h : s.call? caller = none) (signal : Signal) :
    s.deed m (.signal caller signal) = .nothing := by
  show ((s.call? caller).map (s.executor.callDeed signal m.now)).getD .nothing = _
  rw [h]
  rfl

theorem standing_absorb (s : System α) (caller : Caller) (step : Executor.Step α) :
    (s.absorb caller step).1.executor.standing = step.1.standing := by
  obtain ⟨listening, mailbox, habsorbed⟩ := s.executor_absorb caller step
  rw [habsorbed]
  rfl

theorem standing_abandon (s : System α) (caller : Caller) :
    (s.abandon caller).executor.standing = s.executor.standing := by
  rw [executor_abandon]
  rfl

theorem standing_dispose (x : Executor) : x.dispose.standing = x.standing := by
  unfold Executor.dispose
  split <;> rfl

theorem standing_step (s : System α) (m : Moment) (action : Action α) :
    (s.step m action).1.executor.standing = s.executor.standing.after (s.deed m action) := by
  have hhappens := s.happens_step m action
  generalize s.step m action = next at hhappens ⊢
  cases hhappens with
  | begins _ hopening =>
    rw [deed_of_opening hopening, standing_absorb]
    exact Executor.standing_begin _ m _
  | opensNothing hopens hopening =>
    rw [deed_of_no_opening hopening hopens]
    rfl
  | @goesOn caller signal call hcall =>
    rw [deed_signal hcall, standing_absorb]
    exact s.executor.standing_advance m signal call
  | findsNothing hidle =>
    rw [deed_signal_of_none hidle]
    rfl
  | abandons caller => exact s.standing_abandon caller
  | disposes _ => exact (standing_dispose _).trans (s.standing_abandon .background)
  | disposedAlready _ => rfl

/-! ## Topologies that were learned -/

theorem ended_of_fetched? {x : Executor} {c : Caller} {now : Instant} {refresh : Refresh}
    {signal : Signal} {topology : Topology}
    (h : x.fetched? now (.under refresh signal) = some topology) :
    (x.report c now (.under refresh signal)).ended = some (.ok topology) := by
  cases refresh with
  | queued order observed => cases h
  | sweeping sweep =>
    obtain ⟨z, ⟨mailbox, cache, hz⟩, hnext⟩ := x.advanceSweep_cases sweep signal now
    rcases hnext with ⟨flight, -, hfetched, -⟩ | ⟨reason, hfetched, -⟩ | ⟨sent, hfetched, hadvance⟩
    · rw [hfetched] at h
      cases h
    · rw [hfetched] at h
      cases h
    · have hcarry : x.carryOut now (.under (.sweeping sweep) signal) =
          ((z.install sent).endSweep none now, .done (.ok true)) := by
        unfold Executor.carryOut Executor.advanceRefresh
        dsimp only
        rw [hadvance]
        rfl
      have hsweeps : (z.install sent).sweeps = x.sweeps := by
        have hinstalled := congrArg Knowledge.sweeps (z.knowledge_install sent)
        rw [hz] at hinstalled ⊢
        exact hinstalled
      rw [Executor.report_eq hcarry, h]
      simp [Executor.endSweep, hsweeps]

theorem wishDeed_eq_learned_iff {x : Executor} {c : Caller} {now : Instant} {refresh : Refresh}
    {signal : Signal} {topology : Topology} :
    x.wishDeed refresh signal now = .learned topology ↔
      (x.report c now (.under refresh signal)).ended = some (.ok topology) := by
  have hdeed : x.wishDeed refresh signal now = .learned topology ↔
      x.fetched? now (.under refresh signal) = some topology := by
    unfold Executor.wishDeed
    cases x.fetched? now (.under refresh signal) <;> simp
  rw [hdeed]
  exact ⟨ended_of_fetched?, Executor.fetched?_of_ended⟩

theorem testDeed_ne_learned (x : Executor) (t : SpeedTest) (topology : Topology) :
    x.testDeed t ≠ .learned topology := by
  unfold Executor.testDeed
  split <;> exact Deed.noConfusion

theorem orderDeed_ne_learned (x : Executor) (now : Instant) (order : Order α)
    (topology : Topology) : x.orderDeed now order ≠ .learned topology := by
  unfold Executor.orderDeed
  split
  · split
    · exact Deed.noConfusion
    · exact testDeed_ne_learned _ _ _
  all_goals exact Deed.noConfusion

theorem callDeed_eq_learned_iff {x : Executor} {now : Instant} {signal : Signal} {call : Call α}
    {topology : Topology} :
    x.callDeed signal now call = .learned topology ↔
      ∃ refresh, call.refresh? = some refresh ∧
        x.wishDeed refresh signal now = .learned topology := by
  have hphase : ∀ {β : Type} (phase : Phase β),
      x.phaseDeed phase signal now = .learned topology ↔
        ∃ refresh, phase.refresh? = some refresh ∧
          x.wishDeed refresh signal now = .learned topology := by
    intro β phase
    cases phase with
    | ensuring update => simp [Executor.phaseDeed, Phase.refresh?]
    | pausing _ _ _ => simp [Executor.phaseDeed, Phase.refresh?]
    | flying trail flight =>
      have hflying : ∀ progress : Progress (Flight β) (Outcome β),
          trail.deed flight.exchange.node progress ≠ .learned topology := by
        intro progress
        unfold Trail.deed
        split <;> exact Deed.noConfusion
      simpa [Executor.phaseDeed, Phase.refresh?] using hflying _
  cases call with
  | executing c => exact hphase c.phase
  | configuring c => exact hphase c.phase
  | updating u => simp [Executor.callDeed, Call.refresh?]
  | testing t => simpa [Executor.callDeed, Call.refresh?] using testDeed_ne_learned _ _ _

theorem deed_eq_learned_iff {topology : Topology} :
    s.deed m action = .learned topology ↔
      ∃ r, s.report? m action = some r ∧ r.ended = some (.ok topology) := by
  unfold deed report?
  cases hopening : s.opening? action with
  | some opening =>
    obtain ⟨caller, x, order⟩ := opening
    refine iff_of_false (orderDeed_ne_learned _ _ _ _) ?_
    rintro ⟨r, hreport, hended⟩
    obtain ⟨wish, -, rfl⟩ := Option.map_eq_some_iff.mp hreport
    cases Executor.fetched?_of_ended hended
  | none =>
    cases action with
    | begin _ _ | attend | tick _ => simp
    | abandon caller =>
      refine iff_of_false Deed.noConfusion ?_
      rintro ⟨r, hreport, hended⟩
      obtain ⟨refresh, -, rfl⟩ := Option.map_eq_some_iff.mp hreport
      cases hended
    | dispose =>
      refine iff_of_false Deed.noConfusion ?_
      rintro ⟨r, hreport, hended⟩
      dsimp only at hreport
      split at hreport
      · cases hreport
      · obtain ⟨refresh, -, rfl⟩ := Option.map_eq_some_iff.mp hreport
        cases hended
    | signal caller signal =>
      dsimp only
      unfold refresh?
      cases s.call? caller with
      | none => simp
      | some call =>
        rw [Option.map_some, Option.getD_some, callDeed_eq_learned_iff, Option.bind_some]
        constructor
        · rintro ⟨refresh, hrefresh, hlearned⟩
          exact ⟨_, by rw [hrefresh]; rfl, wishDeed_eq_learned_iff.mp hlearned⟩
        · rintro ⟨r, hreport, hended⟩
          obtain ⟨refresh, hrefresh, rfl⟩ := Option.map_eq_some_iff.mp hreport
          exact ⟨refresh, hrefresh, wishDeed_eq_learned_iff.mpr hended⟩

end System

end ClusterClient
