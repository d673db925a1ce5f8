import ClusterClient.Cache
import ClusterClient.Proofs.Association

/-!
# What the cache holds

An entry that is found after a change was put in by that change or was there
before, perhaps younger now.
-/

namespace ClusterClient.Cache

open Association

theorem lookup_evictOldest {entries : List (Key × Entry)} {k : Key} {entry : Entry}
    (h : (evictOldest entries).lookup k = some entry) : entries.lookup k = some entry := by
  unfold evictOldest at h
  split at h
  · rw [others, lookup_filter] at h
    split at h
    · cases h
    · exact h
  · exact h

theorem get?_put {c : Cache} {now : Instant} {key k : Key} {changeVector : String}
    {payload : Bytes} {entry : Entry}
    (h : (c.put now key changeVector payload).get? k = some entry) :
    (k = key ∧ entry = ⟨changeVector, payload, now⟩) ∨ c.get? k = some entry := by
  unfold put at h
  split at h
  · exact Or.inr h
  · rw [get?, lookup_cons] at h
    split at h
    · rename_i hk
      exact Or.inl ⟨hk, (Option.some.inj h).symm⟩
    · rename_i hk
      rw [others, lookup_filter, if_neg hk] at h
      refine Or.inr ?_
      split at h
      · exact lookup_evictOldest h
      · exact h

theorem get?_refreshAge_eq (c : Cache) (now : Instant) (key k : Key) :
    (c.refreshAge now key).1.get? k =
      if k = key then (c.get? key).map fun entry => { entry with storedAt := now }
      else c.get? k := by
  unfold refreshAge
  cases hentry : c.get? key with
  | none =>
    by_cases hk : k = key
    · rw [if_pos hk, hk]
      exact hentry
    · rw [if_neg hk]
  | some entry =>
    dsimp only
    rw [get?, lookup_cons]
    by_cases hk : k = key
    · rw [if_pos hk, if_pos hk]
      rfl
    · rw [if_neg hk, if_neg hk, others, lookup_filter, if_neg hk]
      rfl

theorem refreshAge_snd (c : Cache) (now : Instant) (key : Key) :
    (c.refreshAge now key).2 = (c.get? key).map fun entry => { entry with storedAt := now } := by
  unfold refreshAge
  cases c.get? key <;> rfl

theorem payload_refreshAge (c : Cache) (now : Instant) (key : Key) (entry : Entry) :
    ((c.refreshAge now key).2.getD entry).payload = ((c.get? key).getD entry).payload := by
  rw [refreshAge_snd]
  cases c.get? key <;> rfl

theorem get?_refreshAge {c : Cache} {now : Instant} {key k : Key} {entry : Entry}
    (h : (c.refreshAge now key).1.get? k = some entry) :
    ∃ old, c.get? k = some old ∧ entry.changeVector = old.changeVector ∧
      entry.payload = old.payload := by
  rw [get?_refreshAge_eq] at h
  split at h
  · rename_i hk
    obtain ⟨old, hold, rfl⟩ := Option.map_eq_some_iff.mp h
    exact ⟨old, hk ▸ hold, rfl, rfl⟩
  · exact ⟨entry, h, rfl, rfl⟩

end ClusterClient.Cache
