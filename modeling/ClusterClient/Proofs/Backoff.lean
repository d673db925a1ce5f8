import ClusterClient.Backoff
import ClusterClient.Proofs.Duration
import Mathlib.Algebra.Group.Nat.Defs

/-!
# Bounds of a doubling backoff

A doubling backoff waits at least a base delay, which never gets shorter from one
attempt to the next, and adds at most half of it, without ever waiting longer than
its limit.
-/

namespace ClusterClient.Backoff

variable {initial max d : Duration} {attempt : Nat} {jitter : Duration → Duration}

/-! ## The base delay -/

theorem nanos_base (initial max : Duration) (attempt : Nat) :
    (base initial max attempt).nanos =
      min (min (initial.nanos * 2 ^ min (attempt - 2) 16) maxNanos) max.nanos := by
  rw [base, Duration.nanos_min, Duration.nanos_times]
  rfl

theorem base_le_max (initial max : Duration) (attempt : Nat) : base initial max attempt ≤ max := by
  rw [Duration.le_iff, nanos_base]
  exact Nat.min_le_right _ _

theorem base_mono (initial max : Duration) {a b : Nat} (h : a ≤ b) :
    base initial max a ≤ base initial max b := by
  have hexponent : min (a - 2) 16 ≤ min (b - 2) 16 := by omega
  have hpow : 2 ^ min (a - 2) 16 ≤ 2 ^ min (b - 2) 16 :=
    Nat.pow_le_pow_right (by omega) hexponent
  have hdoubled : initial.nanos * 2 ^ min (a - 2) 16 ≤ initial.nanos * 2 ^ min (b - 2) 16 :=
    Nat.mul_le_mul_left initial.nanos hpow
  rw [Duration.le_iff, nanos_base, nanos_base]
  omega

theorem base_le_last (initial max : Duration) (attempt : Nat) :
    base initial max attempt ≤ base initial max 18 := by
  have hexponent : min (attempt + 18 - 2) 16 = min (18 - 2) 16 := by omega
  have hlast : (base initial max (attempt + 18)).nanos = (base initial max 18).nanos := by
    rw [nanos_base, nanos_base, hexponent]
  rw [Duration.le_iff, ← hlast]
  exact base_mono initial max (Nat.le_add_right attempt 18)

/-! ## Delays -/

theorem delayBefore_first (b : Backoff) (h : attempt ≤ 1) :
    b.delayBefore attempt jitter = .ok .zero := if_pos h

theorem delayBefore_exponential (h : 2 ≤ attempt) :
    (exponential initial max).delayBefore attempt jitter =
      ((base initial max attempt).add (jitter (base initial max attempt))).map (min · max) :=
  if_neg (by omega)

theorem delayBefore_exponential_eq_ok_iff (h : 2 ≤ attempt) :
    (exponential initial max).delayBefore attempt jitter = .ok d ↔
      (base initial max attempt).nanos + (jitter (base initial max attempt)).nanos ≤ maxNanos ∧
      d.nanos = min ((base initial max attempt).nanos + (jitter (base initial max attempt)).nanos)
        max.nanos := by
  rw [delayBefore_exponential h, ← Duration.exists_add_iff]
  cases hsum : (base initial max attempt).add (jitter (base initial max attempt)) with
  | ok sum =>
    rw [← Duration.add_eq_ok_iff.mp hsum, ← Duration.nanos_min]
    constructor
    · rintro ⟨⟩
      exact ⟨⟨sum, rfl⟩, rfl⟩
    · rintro ⟨-, hnanos⟩
      exact congrArg Except.ok (Duration.eq_of_nanos_eq hnanos.symm)
  | error cause =>
    constructor
    · rintro ⟨⟩
    · rintro ⟨⟨_, ⟨⟩⟩, _⟩

theorem bounds_of_delayBefore (h : 2 ≤ attempt)
    (hjitter : jitter (base initial max attempt) ≤ (base initial max attempt).half)
    (hdelay : (exponential initial max).delayBefore attempt jitter = .ok d) :
    base initial max attempt ≤ d ∧ d ≤ max ∧
      d.nanos ≤ (base initial max attempt).nanos + (base initial max attempt).nanos / 2 := by
  obtain ⟨-, hnanos⟩ := (delayBefore_exponential_eq_ok_iff h).mp hdelay
  have hbase : (base initial max attempt).nanos ≤ max.nanos := base_le_max initial max attempt
  rw [Duration.le_iff, Duration.nanos_half] at hjitter
  rw [Duration.le_iff, Duration.le_iff, hnanos]
  omega

/-- There is a delay unless base delay and what is added to it are longer than any duration. -/
theorem exists_delayBefore_iff (b : Backoff) (attempt : Nat) (jitter : Duration → Duration) :
    (∃ d, b.delayBefore attempt jitter = .ok d) ↔
      ∀ initial max, b = exponential initial max → 2 ≤ attempt →
        (base initial max attempt).nanos +
          (jitter (base initial max attempt)).nanos ≤ maxNanos := by
  by_cases hfirst : attempt ≤ 1
  · refine iff_of_true ⟨.zero, b.delayBefore_first hfirst⟩ fun _ _ _ hlater => ?_
    omega
  · have hlater : 2 ≤ attempt := by omega
    cases b with
    | none => exact iff_of_true ⟨.zero, if_neg hfirst⟩ fun _ _ => nofun
    | fixed delay => exact iff_of_true ⟨delay, if_neg hfirst⟩ fun _ _ => nofun
    | exponential initial max =>
      constructor
      · rintro ⟨d, hdelay⟩ _ _ ⟨⟩ -
        exact ((delayBefore_exponential_eq_ok_iff hlater).mp hdelay).1
      · intro hfits
        obtain ⟨sum, hsum⟩ := Duration.exists_add_iff.mpr (hfits initial max rfl hlater)
        exact ⟨min sum max, by rw [delayBefore_exponential hlater, hsum]; rfl⟩

theorem forall_exists_delayBefore_iff (b : Backoff) (attempt : Nat) :
    (∀ jitter, (∀ d, jitter d ≤ d.half) → ∃ d, b.delayBefore attempt jitter = .ok d) ↔
      ∀ initial max, b = exponential initial max → 2 ≤ attempt →
        (base initial max attempt).nanos + (base initial max attempt).nanos / 2 ≤ maxNanos := by
  simp only [exists_delayBefore_iff]
  constructor
  · exact fun hall => hall Duration.half fun d => Nat.le_refl d.half.nanos
  · intro hfits jitter hjitter initial max hb hattempt
    have hadded :
        (jitter (base initial max attempt)).nanos ≤ (base initial max attempt).nanos / 2 :=
      hjitter _
    have hsum := hfits initial max hb hattempt
    omega

/-- The base delay before attempt 18 is the longest, so it decides for all attempts. -/
theorem never_overflows_iff (b : Backoff) :
    (∀ attempt jitter, (∀ d, jitter d ≤ d.half) → ∃ d, b.delayBefore attempt jitter = .ok d) ↔
      ∀ initial max, b = exponential initial max →
        (base initial max 18).nanos + (base initial max 18).nanos / 2 ≤ maxNanos := by
  simp only [forall_exists_delayBefore_iff]
  constructor
  · exact fun hall initial max hb => hall 18 initial max hb (by omega)
  · intro hlast attempt initial max hb _
    have hbase : (base initial max attempt).nanos ≤ (base initial max 18).nanos :=
      base_le_last initial max attempt
    have hsum := hlast initial max hb
    omega

/-- The delays of a doubling backoff to which at most half of the base delay is added.  The first
attempt never waits.  A later one waits at least its base delay, which is the initial delay doubled
for each attempt since the second, sixteen times at most, and cut off at the longest duration and at
the limit; it waits at most half of that longer, and never longer than the limit.  No later attempt
has a shorter base delay, so none waits less than an earlier one has to.  And there is a delay if
base delay and half of it are together a duration. -/
theorem delayBefore_bounded (initial max : Duration) (jitter : Duration → Duration)
    (hjitter : ∀ d, jitter d ≤ d.half) :
    (∀ attempt ≤ 1, (exponential initial max).delayBefore attempt jitter = .ok .zero) ∧
    (∀ attempt ≥ 2, (base initial max attempt).nanos =
      min (min (initial.nanos * 2 ^ min (attempt - 2) 16) maxNanos) max.nanos) ∧
    (∀ attempt ≥ 2, ∀ d, (exponential initial max).delayBefore attempt jitter = .ok d →
      base initial max attempt ≤ d ∧ d ≤ max ∧
        d.nanos ≤ (base initial max attempt).nanos + (base initial max attempt).nanos / 2) ∧
    (∀ earlier ≥ 2, ∀ later ≥ earlier, base initial max earlier ≤ base initial max later ∧
      ∀ d, (exponential initial max).delayBefore later jitter = .ok d →
        base initial max earlier ≤ d) ∧
    (∀ attempt d, (exponential initial max).delayBefore attempt jitter = .ok d → d ≤ max) ∧
    ∀ attempt, (base initial max attempt).nanos + (base initial max attempt).nanos / 2 ≤ maxNanos →
      ∃ d, (exponential initial max).delayBefore attempt jitter = .ok d := by
  refine ⟨fun attempt => delayBefore_first _, fun attempt _ => nanos_base initial max attempt,
    fun attempt hattempt d => bounds_of_delayBefore hattempt (hjitter _), ?_, ?_, ?_⟩
  · intro earlier hearlier later hlater
    have hmono := base_mono initial max hlater
    refine ⟨hmono, fun d hdelay => ?_⟩
    have hleast := (bounds_of_delayBefore (by omega) (hjitter _) hdelay).1
    exact Nat.le_trans hmono hleast
  · intro attempt d hdelay
    by_cases hfirst : attempt ≤ 1
    · rw [delayBefore_first _ hfirst] at hdelay
      cases hdelay
      exact Nat.zero_le max.nanos
    · exact (bounds_of_delayBefore (by omega) (hjitter _) hdelay).2.1
  · intro attempt hfits
    refine (forall_exists_delayBefore_iff _ attempt).mpr ?_ jitter hjitter
    rintro _ _ ⟨⟩ -
    exact hfits

/-- The third delay is the whole of its base delay and half of it; the base delay of the tenth one
is the limit already. -/
theorem delayBefore_bounded_limit :
    let initial := Duration.ofMillis 100
    let max := Duration.ofMillis 350
    (∀ d : Duration, d.half ≤ d.half) ∧
      (exponential initial max).delayBefore 3 .half = .ok (.ofMillis 300) ∧
      (base initial max 3).nanos = 200000000 ∧ base initial max 3 ≤ .ofMillis 300 ∧
      (exponential initial max).delayBefore 10 .half = .ok max ∧ base initial max 10 ≤ max ∧
      base initial max 3 ≤ base initial max 10 := by
  intro initial max
  have hhalf : ∀ d : Duration, d.half ≤ d.half := fun d => Nat.le_refl d.half.nanos
  obtain ⟨-, hbase, hbounds, hmono, -, -⟩ := delayBefore_bounded initial max .half hhalf
  have hthird : (exponential initial max).delayBefore 3 .half = .ok (.ofMillis 300) :=
    (delayBefore_exponential_eq_ok_iff (by omega)).mpr (by decide)
  have htenth : (exponential initial max).delayBefore 10 .half = .ok max :=
    (delayBefore_exponential_eq_ok_iff (by omega)).mpr (by decide)
  have hnanos : (base initial max 3).nanos = 200000000 := (hbase 3 (by omega)).trans (by decide)
  exact ⟨hhalf, hthird, hnanos, (hbounds 3 (by omega) _ hthird).1, htenth,
    (hbounds 10 (by omega) _ htenth).1, (hmono 3 (by omega) 10 (by omega)).1⟩

end ClusterClient.Backoff
