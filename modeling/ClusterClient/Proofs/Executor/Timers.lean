import ClusterClient.Executor.Timers
import Mathlib.Tactic.SplitIfs

/-!
# When timers are due

A timer is set once when the background starts, and anew by every look at it that
finds it due.  The background goes on as long as each of these times is on the clock.
-/

namespace ClusterClient

namespace Timers

/-- When a timer is due that was set to go off after a period, and anew whenever it was found due by
one of these looks at it, the last one first. -/
def due (start : Instant) (period : Duration) : List Instant → Instant
  | [] => start + period.nanos
  | now :: before =>
    if due start period before ≤ now then now + period.nanos else due start period before

def OnClock (start : Instant) (period : Duration) (looks : List Instant) : Prop :=
  ∀ before, before <:+ looks → due start period before ≤ lastInstant

theorem onClock_nil {start : Instant} {period : Duration} :
    OnClock start period [] ↔ start + period.nanos ≤ lastInstant := by
  refine ⟨fun h => h [] List.suffix_rfl, fun h before hbefore => ?_⟩
  rw [List.suffix_nil.mp hbefore]
  exact h

theorem onClock_cons {start now : Instant} {period : Duration} {before : List Instant} :
    OnClock start period (now :: before) ↔
      OnClock start period before ∧ due start period (now :: before) ≤ lastInstant := by
  refine ⟨fun h => ⟨fun earlier hearlier => ?_, h _ List.suffix_rfl⟩,
    fun ⟨hbefore, hnow⟩ looks hlooks => ?_⟩
  · exact h earlier (hearlier.trans (List.suffix_cons now before))
  · rcases List.suffix_cons_iff.mp hlooks with rfl | hlooks
    · exact hnow
    · exact hbefore looks hlooks

/-- The timers of a background that started then and has looked at them at these times. -/
def looked (start : Instant) (c : Conventions) (looks : List Instant) : Timers where
  refresh := due start (refreshPeriod c) looks
  speedTest := due start (speedTestPeriod c) looks

def BothOnClock (start : Instant) (c : Conventions) (looks : List Instant) : Prop :=
  OnClock start (refreshPeriod c) looks ∧ OnClock start (speedTestPeriod c) looks

theorem start_eq_ok_iff {start : Instant} {c : Conventions} {t : Timers} :
    Timers.start start c = .ok t ↔ BothOnClock start c [] ∧ looked start c [] = t := by
  unfold Timers.start after BothOnClock
  rw [onClock_nil, onClock_nil]
  by_cases hrefresh : start + (refreshPeriod c).nanos ≤ lastInstant
  · by_cases hspeed : start + (speedTestPeriod c).nanos ≤ lastInstant
    · simp [hrefresh, hspeed, bind, Except.bind, pure, Except.pure, looked, due]
    · simp [hrefresh, hspeed, bind, Except.bind]
  · simp [hrefresh, bind, Except.bind]

theorem fire_eq_ok_iff {start now : Instant} {c : Conventions} {looks : List Instant} {t : Timers}
    (hupdates : c.updatesTopology = true) (h : BothOnClock start c looks) :
    (∃ messages, (looked start c looks).fire now c = .ok (messages, t)) ↔
      BothOnClock start c (now :: looks) ∧ looked start c (now :: looks) = t := by
  have hrefresh := h.1 looks List.suffix_rfl
  have hspeed := h.2 looks List.suffix_rfl
  rw [BothOnClock, onClock_cons, onClock_cons]
  simp only [h.1, h.2, true_and]
  unfold fire looked after
  simp only [due, hupdates, Bool.not_true, Bool.false_eq_true, if_false]
  split_ifs <;> simp_all [bind, Except.bind, pure, Except.pure, -Nat.not_le]

/-- Setting an interval raises it, and so does starting a timer: the second time is in vain. -/
theorem max_minTimerInterval (d : Duration) :
    max (max d Conventions.minTimerInterval) Conventions.minTimerInterval =
      max d Conventions.minTimerInterval := by
  have hmax : ∀ a b : Duration, max a b = if a.nanos ≤ b.nanos then b else a := fun _ _ => rfl
  rw [hmax d]
  split
  · rw [hmax, if_pos (Nat.le_refl _)]
  · rename_i hlonger
    rw [hmax, if_neg hlonger]

end Timers

end ClusterClient
