import Mathlib.Algebra.GroupWithZero.Nat
import ClusterClient.Proofs.Url.Path

/-!
# What a path stands for

A segment stands for the octets that it decodes to. A path that is built below a directory stands
for no more octets than the directory and the text that it was built from have together, and for as
many only if every segment of that text was added as it is written.
-/

namespace ClusterClient

namespace Bytes

theorem length_ofChars_le {cs ds : List Char} (h : cs.Sublist ds) :
    (ofChars cs).length ≤ (ofChars ds).length := by
  induction h with
  | slnil => exact Nat.le_refl 0
  | cons d _ ih =>
    rw [ofChars_cons, List.length_append]
    omega
  | cons_cons c _ ih =>
    rw [ofChars_cons, ofChars_cons, List.length_append, List.length_append]
    omega

theorem eq_of_sublist {cs ds : List Char} (h : cs.Sublist ds)
    (hlength : (ofChars ds).length ≤ (ofChars cs).length) : cs = ds := by
  induction h with
  | slnil => rfl
  | @cons cs ds d hsub ih =>
    have hle := length_ofChars_le hsub
    have hpos := List.length_pos_iff.mpr (String.utf8EncodeChar_ne_nil (c := d))
    rw [ofChars_cons, List.length_append] at hlength
    omega
  | cons_cons c _ ih =>
    rw [ofChars_cons, ofChars_cons, List.length_append, List.length_append] at hlength
    rw [ih (by omega)]

end Bytes

namespace Url.Path

variable {segments : List (List Char)} {written : List Char}

/-! ## Trails -/

/-- The segments of the path that a walk leads to, the last one with them. -/
def trail (segments : List (List Char)) : List (List Char) → List (List Char)
  | [] => segments ++ [[]]
  | [written] =>
    if isDoubleDot written then up segments ++ [[]]
    else if isSingleDot written then segments ++ [[]]
    else segments ++ [written]
  | written :: rest => trail (enter segments written) rest

theorem walk_eq (segments writtens : List (List Char)) :
    walk segments writtens = '/' :: List.intercalate ['/'] (trail segments writtens) := by
  have hdirectory : ∀ segments, directory segments =
      '/' :: List.intercalate ['/'] (segments ++ [[]]) := by
    intro segments
    rw [← directory_append_eq_cons, List.append_nil]
  match writtens with
  | [] => exact hdirectory segments
  | [written] =>
    rw [walk, finish, trail]
    split
    · exact hdirectory _
    · split
      · exact hdirectory _
      · exact directory_append_eq_cons segments written
  | written :: next :: rest =>
    rw [walk, trail, walk_eq]
    · exact List.cons_ne_nil _ _
    · exact List.cons_ne_nil _ _

theorem not_mem_trail {segments writtens : List (List Char)} (h : ∀ s ∈ segments, '/' ∉ s)
    (hwrittens : ∀ w ∈ writtens, '/' ∉ w) : ∀ s ∈ trail segments writtens, '/' ∉ s := by
  have hconcat : ∀ {segments : List (List Char)} {last : List Char}, (∀ s ∈ segments, '/' ∉ s) →
      '/' ∉ last → ∀ s ∈ segments ++ [last], '/' ∉ s := by
    intro segments last h hlast s hs
    obtain hs | hs := List.mem_append.mp hs
    · exact h s hs
    · exact List.mem_singleton.mp hs ▸ hlast
  match writtens with
  | [] => exact hconcat h (by simp)
  | [written] =>
    rw [trail]
    split
    · exact hconcat (fun s hs => h s ((isPrefix_up segments).subset hs)) (by simp)
    · split
      · exact hconcat h (by simp)
      · exact hconcat h (hwrittens written List.mem_cons_self)
  | written :: next :: rest =>
    rw [trail]
    · exact not_mem_trail (not_mem_enter h (hwrittens written List.mem_cons_self))
        fun w hw => hwrittens w (List.mem_cons_of_mem written hw)
    · exact List.cons_ne_nil _ _

theorem trail_ne_nil (segments writtens : List (List Char)) : trail segments writtens ≠ [] := by
  match writtens with
  | [] => simp [trail]
  | [written] =>
    rw [trail]
    split
    · simp
    · split <;> simp
  | written :: next :: rest =>
    rw [trail]
    · exact trail_ne_nil _ _
    · exact List.cons_ne_nil _ _

theorem eq_of_intercalate_eq {ws us : List (List Char)} (hws : ws ≠ []) (hus : us ≠ [])
    (hw : ∀ w ∈ ws, '/' ∉ w) (hu : ∀ u ∈ us, '/' ∉ u)
    (h : List.intercalate ['/'] ws = List.intercalate ['/'] us) : ws = us := by
  have hsplit : ∀ {ws : List (List Char)}, ws ≠ [] → (∀ w ∈ ws, '/' ∉ w) →
      splitWhere (· == '/') (List.intercalate ['/'] ws) = ws := by
    intro ws hne hno
    refine splitWhere_intercalate (by decide) hne fun w hw c hc => ?_
    rw [beq_eq_false_iff_ne]
    rintro rfl
    exact hno w hw hc
  rw [← hsplit hws hw, h, hsplit hus hu]

/-! ## Octets -/

def weight (written : List Char) : Nat := (Percent.decode (Bytes.ofChars written)).length

/-- How many octets segments stand for, with a slash for each. -/
def total (writtens : List (List Char)) : Nat := (writtens.map fun w => weight w + 1).sum

@[simp] theorem total_nil : total [] = 0 := rfl

@[simp] theorem total_cons (w : List Char) (ws : List (List Char)) :
    total (w :: ws) = weight w + 1 + total ws := by
  simp [total]

@[simp] theorem total_append (ws us : List (List Char)) :
    total (ws ++ us) = total ws + total us := by
  simp [total]

theorem total_up_le (segments : List (List Char)) : total (up segments) ≤ total segments := by
  obtain ⟨rest, hrest⟩ := isPrefix_up segments
  have htotal := total_append (up segments) rest
  rw [hrest] at htotal
  omega

theorem decode_singleDot (h : isSingleDot written = true) :
    Percent.decode (Bytes.ofChars written) = Bytes.ofChars ['.'] := by
  have hall : ∀ w ∈ singleDots, Percent.decode (Bytes.ofChars w) = Bytes.ofChars ['.'] := by decide
  exact hall written (mem_singleDots h)

theorem decode_doubleDot (h : isDoubleDot written = true) :
    Percent.decode (Bytes.ofChars written) = Bytes.ofChars ['.', '.'] := by
  have hall : ∀ w ∈ doubleDots, Percent.decode (Bytes.ofChars w) =
      Bytes.ofChars ['.', '.'] := by decide
  exact hall written (mem_doubleDots h)

theorem total_enter (segments : List (List Char)) (written : List Char) :
    total (enter segments written) < total segments + (weight written + 1)
      ∨ enter segments written = segments ++ [written] := by
  have hup := total_up_le segments
  rw [enter]
  split
  · exact .inl (by omega)
  · split
    · exact .inl (by omega)
    · exact .inr rfl

/-- Along a walk, either every segment is added as it is written or octets are lost. -/
theorem total_trail (segments : List (List Char)) {writtens : List (List Char)}
    (hne : writtens ≠ []) :
    total (trail segments writtens) < total segments + total writtens
      ∨ trail segments writtens = segments ++ writtens := by
  match writtens with
  | [] => exact absurd rfl hne
  | [written] =>
    have hup := total_up_le segments
    have hempty : weight [] = 0 := rfl
    rw [trail]
    split
    case isTrue h =>
      have hweight : weight written = 2 := congrArg List.length (decode_doubleDot h)
      simp only [total_append, total_cons, total_nil, hempty]
      exact .inl (by omega)
    case isFalse =>
      split
      case isTrue h =>
        have hweight : weight written = 1 := congrArg List.length (decode_singleDot h)
        simp only [total_append, total_cons, total_nil, hempty]
        exact .inl (by omega)
      case isFalse => exact .inr rfl
  | written :: next :: rest =>
    -- What is lost at the first segment no later one makes up for.
    rw [trail, total_cons]
    · obtain htrail | htrail := total_trail (enter segments written)
        (List.cons_ne_nil next rest)
      · obtain henter | henter := total_enter segments written
        · exact .inl (by omega)
        · rw [henter] at htrail ⊢
          simp only [total_append, total_cons, total_nil] at htrail
          exact .inl (by simp only [total_cons]; omega)
      · rw [htrail, total_append]
        obtain henter | henter := total_enter segments written
        · exact .inl (by omega)
        · exact .inr (by rw [henter, List.append_assoc, List.singleton_append])
    · exact List.cons_ne_nil _ _

/-- A segment is written so that it stands for at most its own octets. -/
theorem weight_write_le (segment : List Char) :
    weight (write segment) ≤ (Bytes.ofChars segment).length := by
  have hdecode := Percent.length_decode_encode Percent.keepsEscapes_path (kept segment)
  have hkept := Bytes.length_ofChars_le (List.filter_sublist (p := (!isBreak ·)) (l := segment))
  rw [weight, write]
  rw [kept] at hdecode ⊢
  omega

theorem sum_splitWhere (input : List Char) :
    ((splitWhere separates input).map fun s => (Bytes.ofChars s).length + 1).sum
      = (Bytes.ofChars input).length + 1 := by
  induction input with
  | nil => rfl
  | cons c cs ih =>
    obtain ⟨part, parts, hparts⟩ := List.exists_cons_of_ne_nil (splitWhere_ne_nil separates cs)
    cases hc : separates c with
    | true =>
      have hascii : c.toNat < 0x80 := by
        simp only [separates, Bool.or_eq_true, beq_iff_eq] at hc
        obtain rfl | rfl := hc <;> decide
      rw [splitWhere, if_pos hc, List.map_cons, List.sum_cons, ih, Bytes.ofChars_cons_ascii hascii]
      simp only [Bytes.ofChars_nil, List.length_nil, List.length_cons]
      omega
    | false =>
      rw [hparts, List.map_cons, List.sum_cons] at ih
      rw [splitWhere_cons_of_not hc hparts, List.map_cons, List.sum_cons, Bytes.ofChars_cons,
        Bytes.ofChars_cons, List.length_append, List.length_append]
      omega

theorem total_map_write_le (ss : List (List Char)) :
    total (ss.map write) ≤ (ss.map fun s => (Bytes.ofChars s).length + 1).sum := by
  induction ss with
  | nil => exact Nat.le_refl 0
  | cons s ss ih =>
    have hs := weight_write_le s
    simp only [List.map_cons, total_cons, List.sum_cons]
    omega

theorem total_parts_le (input : List Char) :
    total (parts input) ≤ (Bytes.ofChars input).length + 1 := by
  rw [← sum_splitWhere]
  exact total_map_write_le _

theorem parts_ne_nil (input : List Char) : parts input ≠ [] := by
  simpa [parts] using splitWhere_ne_nil separates input

end Url.Path

end ClusterClient
