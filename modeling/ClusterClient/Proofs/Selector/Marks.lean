import ClusterClient.Selector
import ClusterClient.Proofs.Topology.Members

/-!
# Failure marks

What marking, restoring and the results of a speed test do to the set of failed
keys.  None of them touches the topology, the fastest place or the turn.
-/

namespace ClusterClient.Selector

theorem isFailed_iff (s : Selector) (node : Node) :
    s.isFailed node = true ↔ node.key ∈ s.failed := by
  simp [isFailed]

/-! ## Marking one node -/

@[simp] theorem topology_markFailed (s : Selector) (node : Node) :
    (s.markFailed node).topology = s.topology := by
  unfold markFailed
  split <;> rfl

@[simp] theorem fastest_markFailed (s : Selector) (node : Node) :
    (s.markFailed node).fastest = s.fastest := by
  unfold markFailed
  split <;> rfl

@[simp] theorem turn_markFailed (s : Selector) (node : Node) :
    (s.markFailed node).turn = s.turn := by
  unfold markFailed
  split <;> rfl

@[simp] theorem topology_restore (s : Selector) (node : Node) :
    (s.restore node).topology = s.topology := rfl

@[simp] theorem fastest_restore (s : Selector) (node : Node) :
    (s.restore node).fastest = s.fastest := rfl

@[simp] theorem turn_restore (s : Selector) (node : Node) :
    (s.restore node).turn = s.turn := rfl

theorem mem_failed_markFailed (s : Selector) (node : Node) (key : Node.Key) :
    key ∈ (s.markFailed node).failed ↔
      key ∈ s.failed ∨ (key = node.key ∧ node.key ∈ s.topology.keys) := by
  unfold markFailed
  by_cases hmember : node.key ∈ s.topology.keys
  · have hcontains : s.topology.contains node = true := (s.topology.contains_iff node).mpr hmember
    by_cases hfailed : s.isFailed node = true
    · have hkey : node.key ∈ s.failed := (s.isFailed_iff node).mp hfailed
      rw [if_neg (by simp [hfailed])]
      exact ⟨Or.inl, fun h => h.elim id fun h => h.1 ▸ hkey⟩
    · rw [if_pos (by simp [hcontains, hfailed])]
      simp [hmember, or_comm]
  · have hcontains : ¬s.topology.contains node = true := by rwa [Topology.contains_iff]
    rw [if_neg (by simp [hcontains])]
    simp [hmember]

theorem mem_failed_restore (s : Selector) (node : Node) (key : Node.Key) :
    key ∈ (s.restore node).failed ↔ key ∈ s.failed ∧ key ≠ node.key := by
  simp [restore]

/-! ## The marks of a speed test -/

@[simp] theorem topology_applyProbe (s : Selector) (probe : Probe) :
    (s.applyProbe probe).topology = s.topology := by
  unfold applyProbe
  split <;> simp

@[simp] theorem fastest_applyProbe (s : Selector) (probe : Probe) :
    (s.applyProbe probe).fastest = s.fastest := by
  unfold applyProbe
  split <;> simp

@[simp] theorem turn_applyProbe (s : Selector) (probe : Probe) :
    (s.applyProbe probe).turn = s.turn := by
  unfold applyProbe
  split <;> simp

@[simp] theorem topology_applyProbes (s : Selector) (results : List Probe) :
    (results.foldl applyProbe s).topology = s.topology := by
  induction results generalizing s with
  | nil => rfl
  | cons probe results ih => rw [List.foldl_cons, ih, topology_applyProbe]

@[simp] theorem fastest_applyProbes (s : Selector) (results : List Probe) :
    (results.foldl applyProbe s).fastest = s.fastest := by
  induction results generalizing s with
  | nil => rfl
  | cons probe results ih => rw [List.foldl_cons, ih, fastest_applyProbe]

@[simp] theorem turn_applyProbes (s : Selector) (results : List Probe) :
    (results.foldl applyProbe s).turn = s.turn := by
  induction results generalizing s with
  | nil => rfl
  | cons probe results ih => rw [List.foldl_cons, ih, turn_applyProbe]

/-! ## Speed tests -/

@[simp] theorem topology_applySpeedTest (s : Selector) (etag : Int) (results : List Probe)
    (updateFastest : Bool) :
    (s.applySpeedTest etag results updateFastest).1.topology = s.topology := by
  unfold applySpeedTest
  dsimp only
  split
  · split <;> simp
  · simp

@[simp] theorem turn_applySpeedTest (s : Selector) (etag : Int) (results : List Probe)
    (updateFastest : Bool) :
    (s.applySpeedTest etag results updateFastest).1.turn = s.turn := by
  unfold applySpeedTest
  dsimp only
  split
  · split <;> simp
  · simp

@[simp] theorem turn_update (s : Selector) (incoming : Topology) :
    (s.update incoming).1.turn = s.turn := by
  unfold update
  split <;> rfl

end ClusterClient.Selector
