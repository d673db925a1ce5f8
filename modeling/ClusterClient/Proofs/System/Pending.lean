import ClusterClient.Proofs.System.LastSweeps

/-!
# Wishes that a sweep is to end for

A call on a command that has a wish of this kind waits until some sweep ends, or
until it has waited for the lock too long.  It sends no command before.
-/

namespace ClusterClient

variable {α : Type} {command : Command Topology} {k k' : Knowledge} {caller : Caller}
  {before after : Option Refresh} {now : Instant} {r : Report}

/-- Nothing but the end of a sweep, or its own patience, ends the wait of such a wish. -/
def Refresh.Pending (k : Knowledge) : Refresh → Prop
  | .queued order observed =>
    order.force = false ∧ observed = k.sweeps ∧
      (order.onlyIfUninitialized = true → k.initialized = false)
  | .sweeping _ => True

theorem Refresh.Pending.congr {refresh : Refresh} (h : refresh.Pending k)
    (hsame : k'.sweeps = k.sweeps ∧ k'.initialized = k.initialized) : refresh.Pending k' := by
  cases refresh with
  | queued order observed =>
    obtain ⟨hforce, hobserved, honly⟩ := h
    exact ⟨hforce, hobserved.trans hsame.1.symm, fun hif => hsame.2.trans (honly hif)⟩
  | sweeping sweep => trivial

theorem Takes.pending (h : Takes command k now caller before k' after r)
    (hbefore : ∀ refresh, before = some refresh → refresh.Pending k)
    (hentered : ∀ order, r.entered = some order → order.force = false) :
    r.ended.isSome ∨ r.returned = some (.ok false) ∨ r.dropped.isSome ∨
      ∃ refresh, after = some refresh ∧ refresh.Pending k' := by
  cases h with
  | @joins order held onlyIf =>
    exact .inr (.inr (.inr ⟨_, rfl, hentered order rfl, rfl, onlyIf⟩))
  | waits => exact .inr (.inr (.inr ⟨_, rfl, hbefore _ rfl⟩))
  | timesOut => exact .inr (.inl rfl)
  | @spares order observed result free spared =>
    obtain ⟨hforce, hobserved, honly⟩ := hbefore _ rfl
    have hneed : (order.onlyIfUninitialized && k.initialized) = false := by
      cases hif : order.onlyIfUninitialized with
      | false => rfl
      | true => simp [honly hif]
    have hnone : k.spared? order observed = none := by
      simp [Knowledge.spared?, hneed, hforce, hobserved]
    rw [hnone] at spared
    cases spared
  | begins _ _ _ _ | stays _ | goesOn _ _ _ => exact .inr (.inr (.inr ⟨_, rfl, trivial⟩))
  | beginsInVain _ _ | fails _ _ | fetches => exact .inl rfl
  | drops => exact .inr (.inr (.inl rfl))

namespace Executor

variable {x : Executor} {m : Moment} {signal : Signal} {refresh refresh' : Refresh}

/-! ## Calls that wait for their wish -/

theorem execute_of_waiting {β : Type} {wish : SweepOrder} (command : Command β)
    (options : Options) (hwish : x.commandWish? m.now = some wish)
    (hwaiting : (x.refresh wish m.now).2 = .waiting refresh) :
    ∃ isFirst, x.execute command options m =
      ((x.refresh wish m.now).1, .waiting (.ensuring ⟨isFirst, refresh⟩)) := by
  rw [execute_prepared]
  unfold commandWish? at hwish
  cases hprepared : x.preparation m.now with
  | refused _ | known =>
    rw [hprepared] at hwish
    cases hwish
  | sweep isFirst nodes =>
    rw [hprepared] at hwish
    cases hwish
    dsimp only
    cases hrefresh : x.refresh ⟨nodes, false, none, isFirst⟩ m.now with
    | mk y progress =>
      rw [hrefresh] at hwaiting
      obtain rfl : progress = .waiting refresh := hwaiting
      exact ⟨isFirst, rfl⟩

theorem begin_of_waiting {order : Order α} {wish : SweepOrder}
    (hcommand : order.isOnCommand = true) (hwish : x.wish? m.now order = some wish)
    (hwaiting : (x.refresh wish m.now).2 = .waiting refresh) :
    (x.begin m order).1 = (x.refresh wish m.now).1 := by
  cases order with
  | execute command options =>
    obtain ⟨isFirst, hexecute⟩ := execute_of_waiting command options hwish hwaiting
    unfold begin
    dsimp only
    rw [hexecute]
    rfl
  | updateConfiguration =>
    unfold begin
    unfold wish? at hwish
    dsimp only at hwish ⊢
    cases hscope : x.scope with
    | cluster =>
      rw [hscope] at hwish
      cases hwish
    | database name =>
      rw [hscope] at hwish
      obtain ⟨isFirst, hexecute⟩ :=
        execute_of_waiting (Command.configuration name) {} hwish hwaiting
      dsimp only
      rw [hexecute]
      rfl
  | updateTopology _ _ _ | speedTest | firstUpdate | refreshTopology _ => cases hcommand

theorem advance_of_waiting {call : Call α} (hcalled : call.refresh? = some refresh)
    (hwaiting : (x.advanceRefresh refresh signal m.now).2 = .waiting refresh') :
    (x.advance m signal call).1 = (x.advanceRefresh refresh signal m.now).1 := by
  have hexecution : ∀ {β : Type} (c : Execution β), c.phase.refresh? = some refresh →
      ∃ isFirst, x.advanceExecution c signal m =
        ((x.advanceRefresh refresh signal m.now).1, .waiting (.ensuring ⟨isFirst, refresh'⟩)) := by
    intro β c hphase
    obtain ⟨command, options, phase⟩ := c
    cases phase with
    | pausing _ _ _ | flying _ _ => cases hphase
    | ensuring update =>
      cases hphase
      have hafter : x.advanceExecution ⟨command, options, .ensuring update⟩ signal m =
          afterWish command options m update.isFirst
            (x.advanceRefresh update.refresh signal m.now) := rfl
      rw [hafter]
      cases hadvance : x.advanceRefresh update.refresh signal m.now with
      | mk y progress =>
        rw [hadvance] at hwaiting
        obtain rfl : progress = .waiting refresh' := hwaiting
        exact ⟨update.isFirst, rfl⟩
  cases call with
  | executing c =>
    obtain ⟨isFirst, hadvance⟩ := hexecution c hcalled
    unfold advance
    dsimp only
    rw [hadvance]
    rfl
  | configuring c =>
    obtain ⟨isFirst, hadvance⟩ := hexecution c hcalled
    unfold advance
    dsimp only
    rw [hadvance]
    rfl
  | updating u =>
    cases hcalled
    exact (updated_spec (α := α) u.isFirst _).1
  | testing _ => cases hcalled

theorem begin_of_no_wish {order : Order α} (hcommand : order.isOnCommand = true)
    (hknown : x.preparation m.now ≠ .known) (hwish : x.wish? m.now order = none) :
    ∃ ending, x.begin m order = (x, .done ending) := by
  have hrefused : x.commandWish? m.now = none → ∃ e, x.preparation m.now = .refused e := by
    intro hnone
    unfold commandWish? at hnone
    cases hprepared : x.preparation m.now with
    | refused e => exact ⟨e, rfl⟩
    | known => exact (hknown hprepared).elim
    | sweep isFirst nodes =>
      rw [hprepared] at hnone
      cases hnone
  cases order with
  | execute command options =>
    obtain ⟨e, hprepared⟩ := hrefused hwish
    refine ⟨.error e, ?_⟩
    unfold begin
    dsimp only
    rw [execute_prepared, hprepared]
    rfl
  | updateConfiguration =>
    unfold begin
    unfold wish? at hwish
    dsimp only at hwish ⊢
    cases hscope : x.scope with
    | cluster => exact ⟨.ok (.updated false), rfl⟩
    | database name =>
      rw [hscope] at hwish
      obtain ⟨e, hprepared⟩ := hrefused hwish
      refine ⟨.error e, ?_⟩
      dsimp only
      rw [execute_prepared, hprepared]
      rfl
  | updateTopology _ _ _ | speedTest | firstUpdate | refreshTopology _ => cases hcommand

/-- With word that the topology is out of date no call sets out at once, unless the last sweep
failed just now. -/
theorem preparation_ne_known (hstale : x.stale = true) (hupdates : x.updatesTopology = true)
    (hrecent : x.recentFailure? now = none) : x.preparation now ≠ .known := by
  have hdue : (x.stale && x.updatesTopology && (x.recentFailure? now).isNone) = true := by
    simp [hstale, hupdates, hrecent]
  unfold preparation
  rw [if_pos hdue]
  split
  · exact Preparation.noConfusion
  · split
    · rw [hrecent]
      dsimp only
      split <;> exact Preparation.noConfusion
    · exact Preparation.noConfusion

end Executor

end ClusterClient
