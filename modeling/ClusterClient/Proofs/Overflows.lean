import ClusterClient.Proofs.Backoff
import ClusterClient.Proofs.Selector.SpeedTests

/-!
# Sums of times out of range

Two sums of times can leave the range of durations: a base delay with what is added
to it at random, and the best time of a speed test with the tolerance.  This module
says exactly when they do, and what a speed test has changed by then.
-/

namespace ClusterClient

namespace Selector

variable {s : Selector} {results : List Probe}

/-- Whether a speed test compares the fastest node with a best time that is too long for the
tolerance to be added: it may pick a fastest node and was taken under the topology, the fastest node
answered, and every node that answered took that long. -/
structure ComparesTooLate (s : Selector) (etag : Int) (results : List Probe)
    (updateFastest : Bool) : Prop where
  picks : updateFastest = true
  current : s.topology.etag = etag
  answered : ∃ node elapsed, s.fastestNode? = some node ∧ elapsedOf? results node = some elapsed
  late : ∀ node ∈ s.nodes, ∀ elapsed, elapsedOf? results node = some elapsed →
    maxNanos < elapsed.nanos + tieTolerance.nanos

theorem fastestAfter_of_late {node : Node} {elapsed : Duration}
    (hfastest : s.fastestNode? = some node) (hanswered : elapsedOf? results node = some elapsed)
    (hlate : ∀ node ∈ s.nodes, ∀ elapsed, elapsedOf? results node = some elapsed →
      maxNanos < elapsed.nanos + tieTolerance.nanos) :
    s.fastestAfter results = .error .durationOverflow := by
  rcases s.fastestAfter_cases results with ⟨hsilent, -⟩ | ⟨first, best, hfirst, hpicked⟩
  · rw [hsilent node (fastestNode?_mem hfastest)] at hanswered
    cases hanswered
  · obtain ⟨quickest, hquickest, hbest⟩ := Option.bind_eq_some_iff.mp hfirst.time
    have hsum : best.add tieTolerance = .error .durationOverflow :=
      Duration.add_eq_error_iff.mpr
        ⟨hlate quickest (List.mem_of_getElem? hquickest) best hbest, rfl⟩
    rcases hpicked with ⟨hmissed, -⟩ | ⟨_, _, -, -, hpicked⟩
    · rw [hfastest, Option.bind_some, hanswered] at hmissed
      cases hmissed
    · rw [hpicked, hsum]
      rfl

theorem late_of_fastestAfter {cause : TimeError} (h : s.fastestAfter results = .error cause) :
    (∃ node elapsed, s.fastestNode? = some node ∧ elapsedOf? results node = some elapsed) ∧
    ∀ node ∈ s.nodes, ∀ elapsed, elapsedOf? results node = some elapsed →
      maxNanos < elapsed.nanos + tieTolerance.nanos := by
  rcases s.fastestAfter_cases results with ⟨-, hkept⟩ | ⟨first, best, hfirst,
    ⟨-, hpicked⟩ | ⟨old, elapsed, hold, helapsed, hpicked⟩⟩
  · rw [hkept] at h
    cases h
  · rw [hpicked] at h
    cases h
  · obtain ⟨node, hnode, hanswered⟩ := Option.bind_eq_some_iff.mp helapsed
    refine ⟨⟨node, elapsed, by rw [fastestNode?, hold, Option.bind_some, hnode], hanswered⟩, ?_⟩
    have hlate : maxNanos < best.nanos + tieTolerance.nanos := by
      rw [hpicked] at h
      cases hsum : best.add tieTolerance with
      | ok limit =>
        rw [hsum] at h
        cases h
      | error other => exact (Duration.add_eq_error_iff.mp hsum).1
    intro other hother time htime
    have hleast : best.nanos ≤ time.nanos := hfirst.least other hother time htime
    omega

theorem applySpeedTest_of_comparesTooLate {etag : Int} {updateFastest : Bool}
    (h : s.ComparesTooLate etag results updateFastest) :
    s.applySpeedTest etag results updateFastest =
      (results.foldl applyProbe s, .error .durationOverflow) := by
  obtain ⟨rfl, rfl, ⟨node, elapsed, hfastest, hanswered⟩, hlate⟩ := h
  unfold applySpeedTest
  dsimp only
  rw [if_pos (by simp), fastestAfter_applyProbes, fastestAfter_of_late hfastest hanswered hlate]

theorem exists_applySpeedTest_iff (s : Selector) (etag : Int) (results : List Probe)
    (updateFastest : Bool) :
    (∃ fastest, (s.applySpeedTest etag results updateFastest).2 = .ok fastest) ↔
      ¬s.ComparesTooLate etag results updateFastest := by
  constructor
  · rintro ⟨fastest, hok⟩ hlate
    rw [applySpeedTest_of_comparesTooLate hlate] at hok
    cases hok
  · intro hnot
    cases hanswer : (s.applySpeedTest etag results updateFastest).2 with
    | ok fastest => exact ⟨fastest, rfl⟩
    | error cause =>
      refine absurd ?_ hnot
      unfold applySpeedTest at hanswer
      dsimp only at hanswer
      split at hanswer
      · rename_i hpicks
        rw [topology_applyProbes, Bool.and_eq_true, decide_eq_true_iff] at hpicks
        rw [fastestAfter_applyProbes] at hanswer
        split at hanswer
        · cases hanswer
        · rename_i other hfailed
          obtain ⟨hanswered, hlate⟩ := late_of_fastestAfter hfailed
          exact ⟨hpicks.1, hpicks.2, hanswered, hlate⟩
      · cases hanswer

end Selector

/-- Where sums of times fit.  There is a delay before an attempt exactly if its base delay and what
is added to it are together a duration; a backoff always has one, whatever is added, exactly if that
holds of its longest base delay and half of it.  A speed test ends well exactly if it does not
compare too late; if it does, its marks are made and the fastest place is still the old one. -/
theorem sums_fit_iff (b : Backoff) (s : Selector) (etag : Int) (results : List Selector.Probe)
    (updateFastest : Bool) :
    (∀ (attempt : Nat) (jitter : Duration → Duration),
      (∃ d, b.delayBefore attempt jitter = .ok d) ↔
        ∀ initial max, b = .exponential initial max → 2 ≤ attempt →
          (Backoff.base initial max attempt).nanos +
            (jitter (Backoff.base initial max attempt)).nanos ≤ maxNanos) ∧
    ((∀ attempt jitter, (∀ d, jitter d ≤ d.half) → ∃ d, b.delayBefore attempt jitter = .ok d) ↔
      ∀ initial max, b = .exponential initial max →
        (Backoff.base initial max 18).nanos + (Backoff.base initial max 18).nanos / 2 ≤ maxNanos) ∧
    ((∃ fastest, (s.applySpeedTest etag results updateFastest).2 = .ok fastest) ↔
      ¬s.ComparesTooLate etag results updateFastest) ∧
    (s.ComparesTooLate etag results updateFastest →
      s.applySpeedTest etag results updateFastest =
          (results.foldl Selector.applyProbe s, .error .durationOverflow) ∧
        (results.foldl Selector.applyProbe s).fastest = s.fastest) := by
  refine ⟨b.exists_delayBefore_iff, b.never_overflows_iff,
    s.exists_applySpeedTest_iff etag results updateFastest, fun hlate => ?_⟩
  exact ⟨Selector.applySpeedTest_of_comparesTooLate hlate, s.fastest_applyProbes results⟩

/-- With the longest durations there is no second delay, and of two speed tests in which the longest
times are measured the second one takes a mark away and fails. -/
theorem sums_fit_iff_longest :
    let host := fun name => ⟨"http", some ⟨"", "", .name name, some 8080⟩, "/", none, none⟩
    let a : Node := { url := host "a", database := "db" }
    let b : Node := { url := host "b", database := "db" }
    let s := (Selector.initial (.ofNodes 1 [a, b])).afterUses
      [.operation (.speedTest 1 [(a, some .longest), (b, none)] true)]
    let results := [(a, some Duration.longest), (b, some Duration.longest)]
    let tested := (s.applySpeedTest 1 results true).1
    (¬∃ d, (Backoff.exponential .longest .longest).delayBefore 2 .half = .ok d) ∧
      s.Reachable ∧ s.ComparesTooLate 1 results true ∧
      s.failed = [b.key] ∧ tested.failed = [] ∧ tested.fastest = s.fastest := by
  intro host a b s results tested
  obtain ⟨hdelay, -, hends, hlate⟩ :=
    sums_fit_iff (.exponential .longest .longest) s 1 results true
  have hfailed : (s.applySpeedTest 1 results true).2 = .error .durationOverflow := by decide +kernel
  have hcompares : s.ComparesTooLate 1 results true := by
    by_contra hnot
    obtain ⟨fastest, hok⟩ := hends.mpr hnot
    rw [hfailed] at hok
    cases hok
  have hsame : tested.fastest = s.fastest := by
    obtain ⟨hmarked, hkept⟩ := hlate hcompares
    rw [show tested = _ from congrArg Prod.fst hmarked, hkept]
  refine ⟨?_, ⟨_, _, rfl⟩, hcompares, by decide +kernel, by decide +kernel, hsame⟩
  rw [hdelay]
  intro hfits
  exact absurd (hfits .longest .longest rfl (by omega)) (by decide +kernel)

end ClusterClient
