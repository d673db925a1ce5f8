import Mathlib.Data.List.TakeDrop
import ClusterClient.Url.Host

/-!
# Divided texts

How a text falls apart at separators: `splitWhere` divides it at all of them, `span` at the first
character that ends what comes before.
-/

namespace ClusterClient.Url

variable {test : Char → Bool} {cs rest : List Char}

theorem span_append (h : ∀ c ∈ cs, test c = true) (hrest : ∀ c ∈ rest.head?, test c = false) :
    (cs ++ rest).span test = (cs, rest) := by
  rw [List.span_eq_takeWhile_dropWhile, List.takeWhile_append_of_pos h,
    List.dropWhile_append_of_pos h]
  cases rest with
  | nil => simp
  | cons c rest =>
    have hc := hrest c rfl
    simp [hc]

theorem span_of_all (h : ∀ c ∈ cs, test c = true) : cs.span test = (cs, []) := by
  have hspan : (cs ++ []).span test = (cs, []) := span_append h (by simp)
  rwa [List.append_nil] at hspan

/-! ## At all separators -/

theorem splitWhere_ne_nil (test : Char → Bool) (cs : List Char) : splitWhere test cs ≠ [] := by
  cases cs with
  | nil => simp [splitWhere]
  | cons c cs =>
    rw [splitWhere]
    split
    · simp
    · split <;> simp

theorem splitWhere_cons_of_not {c : Char} (h : test c = false) {part : List Char}
    {parts : List (List Char)} (hcs : splitWhere test cs = part :: parts) :
    splitWhere test (c :: cs) = (c :: part) :: parts := by
  rw [splitWhere, if_neg (by simp [h]), hcs]

theorem splitWhere_of_none (h : ∀ c ∈ cs, test c = false) : splitWhere test cs = [cs] := by
  induction cs with
  | nil => rfl
  | cons c cs ih =>
    exact splitWhere_cons_of_not (h c List.mem_cons_self)
      (ih fun d hd => h d (List.mem_cons_of_mem c hd))

theorem splitWhere_append_cons {d : Char} (hd : test d = true) (cs rest : List Char) :
    splitWhere test (cs ++ d :: rest) = splitWhere test cs ++ splitWhere test rest := by
  induction cs with
  | nil => simp [splitWhere, hd]
  | cons c cs ih =>
    rw [List.cons_append, splitWhere, splitWhere, ih]
    split
    · rfl
    · obtain ⟨part, parts, hparts⟩ := List.exists_cons_of_ne_nil (splitWhere_ne_nil test cs)
      simp [hparts]

theorem of_mem_splitWhere {part : List Char} (h : part ∈ splitWhere test cs) :
    ∀ c ∈ part, c ∈ cs ∧ test c = false := by
  induction cs generalizing part with
  | nil =>
    rw [splitWhere, List.mem_singleton] at h
    subst h
    simp
  | cons c cs ih =>
    have hcons : ∀ p ∈ splitWhere test cs, ∀ e ∈ p, e ∈ c :: cs ∧ test e = false :=
      fun p hp e he => ⟨List.mem_cons_of_mem c (ih hp e he).1, (ih hp e he).2⟩
    by_cases hc : test c = true
    · rw [splitWhere, if_pos hc] at h
      obtain rfl | h := List.mem_cons.mp h
      · simp
      · exact hcons part h
    · obtain ⟨p, ps, hps⟩ := List.exists_cons_of_ne_nil (splitWhere_ne_nil test cs)
      rw [splitWhere_cons_of_not (by simpa using hc) hps] at h
      obtain rfl | h := List.mem_cons.mp h
      · intro e he
        obtain rfl | he := List.mem_cons.mp he
        · exact ⟨List.mem_cons_self, by simpa using hc⟩
        · exact hcons p (by rw [hps]; exact List.mem_cons_self) e he
      · exact hcons part (by rw [hps]; exact List.mem_cons_of_mem p h)

theorem of_splitWhere_eq_singleton {part : List Char} (h : splitWhere test cs = [part]) :
    ∀ c ∈ cs, test c = false := by
  induction cs generalizing part with
  | nil => simp
  | cons c cs ih =>
    obtain ⟨p, ps, hps⟩ := List.exists_cons_of_ne_nil (splitWhere_ne_nil test cs)
    cases hc : test c with
    | true =>
      rw [splitWhere, if_pos hc, hps] at h
      cases h
    | false =>
      rw [splitWhere_cons_of_not hc hps] at h
      cases h
      intro d hd
      obtain rfl | hd := List.mem_cons.mp hd
      · exact hc
      · exact ih hps d hd

theorem flatten_splitWhere (test : Char → Bool) (cs : List Char) :
    (splitWhere test cs).flatten = cs.filter (!test ·) := by
  induction cs with
  | nil => rfl
  | cons c cs ih =>
    cases hc : test c with
    | true => rw [splitWhere, if_pos hc, List.flatten_cons, ih]; simp [hc]
    | false =>
      obtain ⟨part, parts, hparts⟩ := List.exists_cons_of_ne_nil (splitWhere_ne_nil test cs)
      rw [splitWhere_cons_of_not hc hparts]
      rw [hparts] at ih
      simpa [hc] using ih

theorem mem_intercalate {d c : Char} {parts : List (List Char)}
    (h : c ∈ List.intercalate [d] parts) : c = d ∨ ∃ part ∈ parts, c ∈ part := by
  match parts with
  | [] => cases h
  | [part] => exact .inr ⟨part, List.mem_cons_self, by simpa [List.intercalate] using h⟩
  | part :: next :: parts =>
    rw [List.intercalate_cons_cons, List.append_assoc, List.singleton_append, List.mem_append,
      List.mem_cons] at h
    obtain h | rfl | h := h
    · exact .inr ⟨part, List.mem_cons_self, h⟩
    · exact .inl rfl
    · obtain h | ⟨p, hp, hc⟩ := mem_intercalate h
      · exact .inl h
      · exact .inr ⟨p, List.mem_cons_of_mem part hp, hc⟩

theorem splitWhere_intercalate {d : Char} (hd : test d = true) {parts : List (List Char)}
    (hne : parts ≠ []) (h : ∀ part ∈ parts, ∀ c ∈ part, test c = false) :
    splitWhere test (List.intercalate [d] parts) = parts := by
  induction parts with
  | nil => exact absurd rfl hne
  | cons part parts ih =>
    have hpart := splitWhere_of_none (h part List.mem_cons_self)
    cases parts with
    | nil => simpa [List.intercalate] using hpart
    | cons next parts =>
      have hrest := ih (by simp) fun p hp => h p (List.mem_cons_of_mem part hp)
      rw [List.intercalate_cons_cons, List.append_assoc, List.singleton_append,
        splitWhere_append_cons hd, hpart, hrest, List.singleton_append]

end ClusterClient.Url
