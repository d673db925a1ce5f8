import ClusterClient.Duration

/-!
# Sums and bounds of durations

A duration is known by its nanoseconds, and arithmetic on durations is arithmetic on
these, up to the longest duration.
-/

namespace ClusterClient.Duration

variable {a b c : Duration}

theorem le_iff : a ≤ b ↔ a.nanos ≤ b.nanos := Iff.rfl

theorem eq_of_nanos_eq (h : a.nanos = b.nanos) : a = b := by
  cases a
  cases b
  congr

@[simp] theorem nanos_min (a b : Duration) : (min a b).nanos = min a.nanos b.nanos := by
  show (if a.nanos ≤ b.nanos then a else b).nanos = _
  split <;> omega

@[simp] theorem nanos_times (d : Duration) (n : Nat) :
    (d.times n).nanos = min (d.nanos * n) maxNanos := rfl

@[simp] theorem nanos_half (d : Duration) : d.half.nanos = d.nanos / 2 := rfl

theorem add_eq_ok_iff : a.add b = .ok c ↔ c.nanos = a.nanos + b.nanos := by
  unfold add ofNanos?
  by_cases hfits : a.nanos + b.nanos ≤ maxNanos
  · rw [dif_pos hfits]
    constructor
    · rintro ⟨⟩
      rfl
    · intro hsum
      exact congrArg Except.ok (eq_of_nanos_eq hsum.symm)
  · rw [dif_neg hfits]
    constructor
    · rintro ⟨⟩
    · intro hsum
      exact absurd (hsum ▸ c.nanos_le) hfits

theorem exists_add_iff : (∃ c, a.add b = .ok c) ↔ a.nanos + b.nanos ≤ maxNanos := by
  constructor
  · rintro ⟨c, hsum⟩
    rw [← add_eq_ok_iff.mp hsum]
    exact c.nanos_le
  · exact fun hfits => ⟨⟨_, hfits⟩, add_eq_ok_iff.mpr rfl⟩

theorem add_eq_error_iff {cause : TimeError} :
    a.add b = .error cause ↔ maxNanos < a.nanos + b.nanos ∧ cause = .durationOverflow := by
  unfold add ofNanos?
  by_cases hfits : a.nanos + b.nanos ≤ maxNanos
  · simp [hfits, Nat.not_lt.mpr hfits]
  · simp [hfits, eq_comm, Nat.lt_of_not_le]

end ClusterClient.Duration
