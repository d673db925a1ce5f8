import Mathlib.Data.List.Basic

/-!
# Lists of pairs

Looking up in a list of keys and values after a pair was added, or all pairs of a
key were taken out.
-/

namespace ClusterClient.Association

variable {κ β : Type} [DecidableEq κ]

theorem lookup_cons (key k : κ) (value : β) (pairs : List (κ × β)) :
    ((key, value) :: pairs).lookup k = if k = key then some value else pairs.lookup k := by
  by_cases hk : k = key
  · simp [hk]
  · have hne : (k == key) = false := by simpa using hk
    rw [List.lookup_cons, hne, if_neg hk]

theorem mem_of_lookup {key : κ} {value : β} {pairs : List (κ × β)}
    (h : pairs.lookup key = some value) : (key, value) ∈ pairs := by
  induction pairs with
  | nil => cases h
  | cons pair rest ih =>
    rw [lookup_cons] at h
    split at h
    · rename_i hkey
      cases h
      exact hkey ▸ List.mem_cons_self
    · exact List.mem_cons_of_mem _ (ih h)

theorem lookup_eq_none_iff {key : κ} {pairs : List (κ × β)} :
    pairs.lookup key = none ↔ key ∉ pairs.map (·.1) := by
  rw [List.lookup_eq_none_iff]
  constructor
  · intro h hmem
    obtain ⟨pair, hpair, rfl⟩ := List.mem_map.mp hmem
    simpa using h pair hpair
  · intro h pair hpair
    rw [bne_iff_ne]
    exact fun heq => h (heq ▸ List.mem_map_of_mem hpair)

theorem lookup_eq_some_iff_mem {pairs : List (κ × β)} (hkeys : (pairs.map (·.1)).Nodup) {key : κ}
    {value : β} : pairs.lookup key = some value ↔ (key, value) ∈ pairs := by
  refine ⟨mem_of_lookup, fun hmem => ?_⟩
  induction pairs with
  | nil => cases hmem
  | cons pair rest ih =>
    obtain ⟨first, _⟩ := pair
    rw [List.map_cons, List.nodup_cons] at hkeys
    rw [lookup_cons]
    rcases List.mem_cons.mp hmem with heq | hrest
    · cases heq
      exact if_pos rfl
    · have hkey : key ∈ rest.map (·.1) := List.mem_map_of_mem hrest
      have hne : key ≠ first := fun heq => hkeys.1 (heq ▸ hkey)
      rw [if_neg hne, ih hkeys.2 hrest]

theorem lookup_perm {pairs pairs' : List (κ × β)} (hkeys : (pairs.map (·.1)).Nodup)
    (hperm : pairs.Perm pairs') (key : κ) : pairs'.lookup key = pairs.lookup key := by
  have hkeys' : (pairs'.map (·.1)).Nodup := (hperm.map _).nodup_iff.mp hkeys
  ext value
  rw [lookup_eq_some_iff_mem hkeys', lookup_eq_some_iff_mem hkeys, hperm.mem_iff]

theorem lookup_filter (key k : κ) (pairs : List (κ × β)) :
    (pairs.filter (·.1 ≠ key)).lookup k = if k = key then none else pairs.lookup k := by
  induction pairs with
  | nil => simp
  | cons pair rest ih =>
    obtain ⟨k', value⟩ := pair
    by_cases hk' : k' = key
    · subst hk'
      rw [List.filter_cons_of_neg (by simp), ih, lookup_cons]
      split <;> rfl
    · rw [List.filter_cons_of_pos (by simpa using hk'), lookup_cons, lookup_cons, ih]
      by_cases hk : k = k'
      · subst hk
        rw [if_pos rfl, if_neg hk', if_pos rfl]
      · rw [if_neg hk, if_neg hk]

end ClusterClient.Association
