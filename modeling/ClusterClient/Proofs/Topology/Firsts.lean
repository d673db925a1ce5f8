import ClusterClient.Topology.Basic
import Mathlib.Data.List.Sort

/-!
# The first of each group

What is left of a list when only the first of the elements with one key stays: no
key is lost, the order is kept, and the list begins as before.  These are the
elements at the places before which their key does not occur.
-/

namespace ClusterClient

variable {α κ ι : Type} [BEq κ] [BEq ι] {key : α → κ} {l : List α}

theorem sublist_firstOfEach (key : α → κ) (l : List α) : (firstOfEach key l).Sublist l := by
  induction l with
  | nil => exact .slnil
  | cons a rest ih => exact (List.filter_sublist.trans ih).cons_cons a

theorem head?_firstOfEach (key : α → κ) (l : List α) : (firstOfEach key l).head? = l.head? := by
  cases l <;> rfl

theorem exists_mem_firstOfEach [LawfulBEq κ] {a : α} (h : a ∈ l) :
    ∃ b ∈ firstOfEach key l, key b = key a := by
  induction l with
  | nil => cases h
  | cons first rest ih =>
    by_cases hkey : key first = key a
    · exact ⟨first, List.mem_cons_self, hkey⟩
    · have hrest : a ∈ rest := (List.mem_cons.mp h).resolve_left fun heq => hkey (heq ▸ rfl)
      obtain ⟨b, hb, hsame⟩ := ih hrest
      have hkept : (!(key b == key first)) = true := by simpa [hsame] using Ne.symm hkey
      exact ⟨b, List.mem_cons_of_mem first (List.mem_filter.mpr ⟨hb, hkept⟩), hsame⟩

theorem firstOfEach_congr [LawfulBEq κ] [LawfulBEq ι] {key' : α → ι}
    (h : ∀ a ∈ l, ∀ b ∈ l, key a = key b ↔ key' a = key' b) :
    firstOfEach key l = firstOfEach key' l := by
  induction l with
  | nil => rfl
  | cons first rest ih =>
    rw [firstOfEach, firstOfEach, ih fun a ha b hb => h a (List.mem_cons_of_mem first ha) b
      (List.mem_cons_of_mem first hb)]
    congr 1
    refine List.filter_congr fun b hb => ?_
    have hmem : b ∈ rest := (sublist_firstOfEach key' rest).mem hb
    rw [Bool.eq_iff_iff]
    simpa using not_congr (h b (List.mem_cons_of_mem first hmem) first List.mem_cons_self)

theorem firstOfEach_eq_self [LawfulBEq κ] (h : (l.map key).Nodup) : firstOfEach key l = l := by
  induction l with
  | nil => rfl
  | cons a rest ih =>
    obtain ⟨hnew, hrest⟩ := List.nodup_cons.mp h
    rw [firstOfEach, ih hrest]
    congr 1
    refine List.filter_eq_self.mpr fun b hb => ?_
    have hne : key b ≠ key a := fun heq => hnew (heq ▸ List.mem_map_of_mem hb)
    simpa using hne

/-! ## Places -/

/-- The places of the elements whose key no earlier element has. -/
structure FirstPlaces (key : α → κ) (l : List α) (places : List Nat) : Prop where
  ascending : places.Pairwise (· < ·)
  mem_iff : ∀ i, i ∈ places ↔
    ∃ a, l[i]? = some a ∧ ∀ j < i, ∀ b, l[j]? = some b → key b ≠ key a

/-- Whether these are the elements whose key no earlier element has, in order. -/
def KeepsFirsts (key : α → κ) (l kept : List α) : Prop :=
  ∃ places, FirstPlaces key l places ∧ kept = places.filterMap (l[·]?)

/-- In front of another element the places move on, without those of its key. -/
theorem FirstPlaces.cons [LawfulBEq κ] {places : List Nat} (h : FirstPlaces key l places) (a : α) :
    FirstPlaces key (a :: l)
      (0 :: (places.filter fun i => l[i]?.any fun b => !(key b == key a)).map (· + 1)) where
  ascending := by
    refine List.pairwise_cons.mpr ⟨fun i hi => ?_, ?_⟩
    · obtain ⟨j, -, rfl⟩ := List.mem_map.mp hi
      exact Nat.succ_pos j
    · exact (h.ascending.filter _).map (· + 1) fun i j hlt => Nat.succ_lt_succ hlt
  mem_iff i := by
    cases i with
    | zero => simp
    | succ i =>
      have hplace : i + 1 ∈ (0 :: (places.filter fun i => l[i]?.any fun b =>
          !(key b == key a)).map (· + 1)) ↔
          i ∈ places ∧ ∃ b, l[i]? = some b ∧ key b ≠ key a := by
        simp [Option.any_eq_true]
      rw [hplace, h.mem_iff, List.getElem?_cons_succ]
      constructor
      · rintro ⟨⟨b, hb, hfirst⟩, b', hb', hne⟩
        cases hb.symm.trans hb'
        refine ⟨b, hb, fun j hj c hc => ?_⟩
        cases j with
        | zero =>
          cases hc
          exact hne.symm
        | succ j => exact hfirst j (Nat.lt_of_succ_lt_succ hj) c hc
      · rintro ⟨b, hb, hfirst⟩
        exact ⟨⟨b, hb, fun j hj c hc => hfirst (j + 1) (Nat.succ_lt_succ hj) c hc⟩, b, hb,
          (hfirst 0 (Nat.succ_pos i) a rfl).symm⟩

theorem keepsFirsts_firstOfEach [LawfulBEq κ] (key : α → κ) (l : List α) :
    KeepsFirsts key l (firstOfEach key l) := by
  induction l with
  | nil => exact ⟨[], ⟨.nil, by simp⟩, rfl⟩
  | cons a rest ih =>
    obtain ⟨places, hplaces, hkept⟩ := ih
    refine ⟨_, hplaces.cons a, ?_⟩
    rw [firstOfEach, hkept, List.filterMap_cons, List.getElem?_cons_zero, List.filter_filterMap,
      List.filterMap_map, List.filterMap_filter]
    congr 1
    refine List.filterMap_congr fun i _ => ?_
    cases hi : rest[i]? with
    | none => simp
    | some b => simp [hi, Option.filter]

end ClusterClient
