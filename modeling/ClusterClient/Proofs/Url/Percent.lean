import ClusterClient.Url.Percent
import ClusterClient.Proofs.Text.Octets

/-!
# Percent encoding

Which texts a part of a URL keeps as they are, and what an encoded text stands for. Percent signs
are not escaped on the way in, so a text with escapes of its own decodes to fewer octets than it
has; every other text comes back as it was.
-/

namespace ClusterClient

theorem forall_ascii {P : Char → Prop} (h : ∀ n < 0x80, P (Char.ofNat n)) :
    ∀ c : Char, c.toNat < 0x80 → P c := by
  intro c hc
  have hP := h c.toNat hc
  rwa [Char.ofNat_toNat] at hP

theorem forall_octets {P : UInt8 → Prop} (h : ∀ n < 256, P (UInt8.ofNat n)) (b : UInt8) : P b := by
  have hP := h b.toNat b.toNat_lt
  rwa [UInt8.ofNat_toNat] at hP

namespace Hex

theorem value?_ascii {c : Char} (h : (value? c).isSome) : c.toNat < 0x80 := by
  have hle : ∀ d : Char, c ≤ d → c.toNat ≤ d.toNat := fun _ h => h
  simp only [value?] at h
  split at h
  case isTrue hc => exact Nat.lt_of_le_of_lt (hle '9' (by simp_all)) (by decide)
  split at h
  case isTrue hc => exact Nat.lt_of_le_of_lt (hle 'f' (by simp_all)) (by decide)
  split at h
  case isTrue hc => exact Nat.lt_of_le_of_lt (hle 'F' (by simp_all)) (by decide)
  cases h

theorem value?_upperDigit : ∀ n < 16, value? (upperDigit n) = some n := by decide

theorem toNat_upperDigit_lt : ∀ n < 16, (upperDigit n).toNat < 0x80 := by decide

end Hex

namespace Url.Percent

variable {set : EscapeSet} {c : Char} {cs ds : List Char}

/-! ## Texts that stand as they are -/

/-- Whether a part with this escape set keeps a text as it is. -/
def Stands (set : EscapeSet) (cs : List Char) : Prop :=
  ∀ c ∈ cs, c.toNat < 0x80 ∧ set c = false

theorem Stands.append (hc : Stands set cs) (hd : Stands set ds) : Stands set (cs ++ ds) := by
  intro c h
  obtain h | h := List.mem_append.mp h
  · exact hc c h
  · exact hd c h

@[simp] theorem encode_nil : encode set [] = [] := rfl

theorem encode_cons : encode set (c :: cs) = encodeChar set c ++ encode set cs :=
  List.flatMap_cons

theorem encode_append : encode set (cs ++ ds) = encode set cs ++ encode set ds :=
  List.flatMap_append

theorem encodeChar_of_stands (hascii : c.toNat < 0x80) (hset : set c = false) :
    encodeChar set c = [c] := by
  simp [encodeChar, hascii, hset]

theorem encode_of_stands (h : Stands set cs) : encode set cs = cs := by
  induction cs with
  | nil => rfl
  | cons c cs ih =>
    obtain ⟨hascii, hset⟩ := h c List.mem_cons_self
    rw [encode_cons, encodeChar_of_stands hascii hset,
      ih fun d hd => h d (List.mem_cons_of_mem c hd), List.singleton_append]

/-- Whether a set leaves alone what escapes are made of: percent signs and digits of either
case. -/
def KeepsEscapes (set : EscapeSet) : Prop :=
  ∀ c : Char, c.toNat < 0x80 → (c = '%' ∨ (Hex.value? c).isSome) → set c = false

theorem keepsEscapes_userinfo : KeepsEscapes userinfo := forall_ascii (by decide)

theorem keepsEscapes_path : KeepsEscapes path := forall_ascii (by decide)

theorem keepsEscapes_specialQuery : KeepsEscapes specialQuery := forall_ascii (by decide)

theorem keepsEscapes_fragment : KeepsEscapes fragment := forall_ascii (by decide)

theorem KeepsEscapes.percent (hkeeps : KeepsEscapes set) : set '%' = false :=
  hkeeps '%' (by decide) (.inl rfl)

theorem stands_escape (hkeeps : KeepsEscapes set) (b : UInt8) : Stands set (escape b) := by
  have hdigit : ∀ n < 16, Stands set [Hex.upperDigit n] := by
    intro n hn c hc
    rw [List.mem_singleton.mp hc]
    have hascii := Hex.toNat_upperDigit_lt n hn
    exact ⟨hascii, hkeeps _ hascii (.inr (by rw [Hex.value?_upperDigit n hn]; rfl))⟩
  have hpercent : Stands set ['%'] := by
    intro c hc
    rw [List.mem_singleton.mp hc]
    exact ⟨by decide, hkeeps.percent⟩
  have hb := b.toNat_lt
  exact hpercent.append ((hdigit _ (by omega)).append (hdigit _ (by omega)))

theorem stands_encode (hkeeps : KeepsEscapes set) (cs : List Char) :
    Stands set (encode set cs) := by
  intro c hc
  obtain ⟨d, -, hd⟩ := List.mem_flatMap.mp hc
  rw [encodeChar] at hd
  split at hd
  case isTrue hstands =>
    simp only [Bool.and_eq_true, decide_eq_true_eq, Bool.not_eq_true'] at hstands
    rw [List.mem_singleton.mp hd]
    exact hstands
  case isFalse =>
    obtain ⟨b, -, hb⟩ := List.mem_flatMap.mp hd
    exact stands_escape hkeeps b c hb

theorem not_mem_encode (hpercent : c ≠ '%') (hdigit : Hex.value? c = none) (h : c ∉ cs) :
    c ∉ encode set cs := by
  intro hmem
  obtain ⟨d, hd, hc⟩ := List.mem_flatMap.mp hmem
  rw [encodeChar] at hc
  split at hc
  case isTrue => exact h (List.mem_singleton.mp hc ▸ hd)
  case isFalse =>
    obtain ⟨b, -, hb⟩ := List.mem_flatMap.mp hc
    have hb' := b.toNat_lt
    have hupper : ∀ n < 16, c ≠ Hex.upperDigit n := by
      rintro n hn rfl
      rw [Hex.value?_upperDigit n hn] at hdigit
      cases hdigit
    simp only [escape, List.mem_cons, List.not_mem_nil, or_false] at hb
    obtain hb | hb | hb := hb
    · exact hpercent hb
    · exact hupper _ (by omega) hb
    · exact hupper _ (by omega) hb

/-! ## What an encoded text stands for -/

def startsWithDigits : List Char → Bool
  | a :: b :: _ => (Hex.value? a).isSome && (Hex.value? b).isSome
  | _ => false

/-- Whether there is a percent sign with two digits after it. -/
def hasEscape : List Char → Bool
  | [] => false
  | c :: cs => (c == '%' && startsWithDigits cs) || hasEscape cs

theorem decode_cons {b : UInt8} (h : b ≠ 0x25) (bs : Bytes) :
    decode (b :: bs) = b :: decode bs := by
  match bs with
  | [] => rfl
  | [_] => rfl
  | _ :: _ :: _ => rw [decode, if_neg (by simpa using h)]

theorem decode_append {bs : Bytes} (h : ∀ b ∈ bs, b ≠ 0x25) (rest : Bytes) :
    decode (bs ++ rest) = bs ++ decode rest := by
  induction bs with
  | nil => rfl
  | cons b bs ih =>
    rw [List.cons_append, decode_cons (h b List.mem_cons_self),
      ih fun c hc => h c (List.mem_cons_of_mem b hc), List.cons_append]

theorem decode_eq_self {bs : Bytes} (h : ∀ b ∈ bs, b ≠ 0x25) : decode bs = bs := by
  have := decode_append h []
  simpa [decode] using this

theorem char_ofNat_octet (h : c.toNat < 0x80) : Char.ofNat (UInt8.ofNat c.toNat).toNat = c := by
  rw [UInt8.toNat_ofNat', Nat.mod_eq_of_lt (by omega), Char.ofNat_toNat]

theorem decode_escape (b : UInt8) (rest : Bytes) :
    decode (Bytes.ofChars (escape b) ++ rest) = b :: decode rest := by
  have hb := b.toNat_lt
  have hhigh : b.toNat / 16 < 16 := by omega
  have hlow : b.toNat % 16 < 16 := by omega
  have hvalue : b.toNat / 16 * 16 + b.toNat % 16 = b.toNat := by omega
  rw [escape, Bytes.ofChars_cons_ascii (by decide),
    Bytes.ofChars_cons_ascii (Hex.toNat_upperDigit_lt _ hhigh),
    Bytes.ofChars_cons_ascii (Hex.toNat_upperDigit_lt _ hlow)]
  simp only [Bytes.ofChars_nil, List.cons_append, List.nil_append]
  rw [decode, if_pos (by decide), char_ofNat_octet (Hex.toNat_upperDigit_lt _ hhigh),
    char_ofNat_octet (Hex.toNat_upperDigit_lt _ hlow), Hex.value?_upperDigit _ hhigh,
    Hex.value?_upperDigit _ hlow]
  simp only [hvalue, UInt8.ofNat_toNat]

theorem decode_escapes (bs rest : Bytes) :
    decode (Bytes.ofChars (bs.flatMap escape) ++ rest) = bs ++ decode rest := by
  induction bs with
  | nil => rfl
  | cons b bs ih =>
    rw [List.flatMap_cons, Bytes.ofChars_append, List.append_assoc, decode_escape, ih,
      List.cons_append]

theorem octet_ne_percent (hascii : c.toNat < 0x80) (h : c ≠ '%') : UInt8.ofNat c.toNat ≠ 0x25 := by
  intro heq
  have hc := char_ofNat_octet hascii
  rw [heq] at hc
  exact h hc.symm

theorem decode_encodeChar (h : c ≠ '%') (rest : Bytes) :
    decode (Bytes.ofChars (encodeChar set c) ++ rest)
      = String.utf8EncodeChar c ++ decode rest := by
  rw [encodeChar]
  split
  case isTrue hstands =>
    simp only [Bool.and_eq_true, decide_eq_true_eq] at hstands
    rw [Bytes.ofChars_cons_ascii hstands.1, Bytes.utf8EncodeChar_ascii hstands.1]
    exact decode_cons (octet_ne_percent hstands.1 h) rest
  case isFalse => exact decode_escapes _ rest

/-- An octet that is a digit comes from a character that stands for itself. -/
theorem exists_digit_of_encode {ds : List Char} {b : UInt8} {bs : Bytes}
    (hbs : Bytes.ofChars (encode set ds) = b :: bs)
    (hdigit : (Hex.value? (Char.ofNat b.toNat)).isSome) :
    ∃ d ds', ds = d :: ds' ∧ (Hex.value? d).isSome ∧ bs = Bytes.ofChars (encode set ds') := by
  cases ds with
  | nil => cases hbs
  | cons d ds =>
    rw [encode_cons, encodeChar] at hbs
    split at hbs
    case isTrue hstands =>
      simp only [Bool.and_eq_true, decide_eq_true_eq] at hstands
      rw [List.singleton_append, Bytes.ofChars_cons_ascii hstands.1] at hbs
      cases hbs
      rw [char_ofNat_octet hstands.1] at hdigit
      exact ⟨d, ds, rfl, hdigit, rfl⟩
    case isFalse =>
      obtain ⟨o, os, hos⟩ := List.exists_cons_of_ne_nil (String.utf8EncodeChar_ne_nil (c := d))
      rw [hos, List.flatMap_cons, escape] at hbs
      simp only [List.cons_append, Bytes.ofChars_cons_ascii (c := '%') (by decide)] at hbs
      cases hbs
      cases hdigit

theorem decode_percent (set : EscapeSet) (h : startsWithDigits cs = false) :
    decode (0x25 :: Bytes.ofChars (encode set cs)) =
      0x25 :: decode (Bytes.ofChars (encode set cs)) := by
  match hbs : Bytes.ofChars (encode set cs) with
  | [] => rfl
  | [_] => rfl
  | a :: b :: rest =>
    rw [decode, if_pos (by decide)]
    split
    case h_2 => rfl
    case h_1 ha hb =>
      obtain ⟨d, ds, rfl, hd, hds⟩ := exists_digit_of_encode hbs (by rw [ha]; rfl)
      obtain ⟨e, es, rfl, he, -⟩ := exists_digit_of_encode hds.symm (by rw [hb]; rfl)
      rw [startsWithDigits, hd, he] at h
      cases h

theorem decode_encode (hpercent : set '%' = false) (h : hasEscape cs = false) :
    decode (Bytes.ofChars (encode set cs)) = Bytes.ofChars cs := by
  induction cs with
  | nil => rfl
  | cons c cs ih =>
    simp only [hasEscape, Bool.or_eq_false_iff] at h
    by_cases hc : c = '%'
    · subst hc
      rw [encode_cons, encodeChar_of_stands (by decide) hpercent, List.singleton_append,
        Bytes.ofChars_cons_ascii (by decide), Bytes.ofChars_cons_ascii (by decide), ← ih h.2]
      exact decode_percent set (by simpa using h.1)
    · rw [encode_cons, Bytes.ofChars_append, decode_encodeChar hc, ih h.2, Bytes.ofChars_cons]

/-- An encoded text stands for at most as many octets as the text has, and for fewer if the text
has escapes of its own. -/
theorem length_decode_encode (hkeeps : KeepsEscapes set) (cs : List Char) :
    (decode (Bytes.ofChars (encode set cs))).length + (if hasEscape cs then 1 else 0)
      ≤ (Bytes.ofChars cs).length := by
  match cs with
  | [] => simp [decode, hasEscape]
  | c :: cs =>
    have ih := length_decode_encode hkeeps cs
    by_cases hc : c = '%'
    · subst hc
      cases hdigits : startsWithDigits cs with
      | false =>
        rw [encode_cons, encodeChar_of_stands (by decide) hkeeps.percent, List.singleton_append,
          Bytes.ofChars_cons_ascii (by decide), Bytes.ofChars_cons_ascii (by decide)]
        have hdecode := decode_percent set hdigits
        simp only [hasEscape, hdigits, Bool.and_false, Bool.false_or]
        rw [show UInt8.ofNat '%'.toNat = 0x25 from rfl, hdecode]
        simp only [List.length_cons]
        omega
      | true =>
        match cs, hdigits with
        | a :: b :: rest, hdigits =>
          -- An escape in the text itself is three characters and stands for one octet.
          simp only [startsWithDigits, Bool.and_eq_true] at hdigits
          have haascii := Hex.value?_ascii hdigits.1
          have hbascii := Hex.value?_ascii hdigits.2
          have ih := length_decode_encode hkeeps rest
          obtain ⟨high, hhigh⟩ := Option.isSome_iff_exists.mp hdigits.1
          obtain ⟨low, hlow⟩ := Option.isSome_iff_exists.mp hdigits.2
          rw [encode_cons, encodeChar_of_stands (by decide) hkeeps.percent, encode_cons,
            encodeChar_of_stands haascii (hkeeps a haascii (.inr hdigits.1)), encode_cons,
            encodeChar_of_stands hbascii (hkeeps b hbascii (.inr hdigits.2))]
          simp only [List.singleton_append, Bytes.ofChars_cons_ascii haascii,
            Bytes.ofChars_cons_ascii hbascii, Bytes.ofChars_cons_ascii (c := '%') (by decide)]
          rw [decode, if_pos (by decide), char_ofNat_octet haascii, char_ofNat_octet hbascii,
            hhigh, hlow]
          simp only [List.length_cons]
          split <;> omega
    · rw [encode_cons, Bytes.ofChars_append, decode_encodeChar hc, Bytes.ofChars_cons]
      simp only [List.length_append, hasEscape, beq_eq_false_iff_ne.mpr hc, Bool.false_and,
        Bool.false_or]
      omega

end Url.Percent

end ClusterClient
