import Mathlib.Data.List.Forall2
import ClusterClient.Proofs.Text.Order

/-!
# Lenient readings

A lenient reading replaces what no character is spelled by.  The octets of a text have nothing of
the kind, so the text itself is read.
-/

namespace ClusterClient.Bytes

variable {ranges : List (UInt8 × UInt8)} {tail : Bytes}

/-- Whether octets lie in ranges, one in each. -/
def Lie (ranges : List (UInt8 × UInt8)) (tail : Bytes) : Prop :=
  List.Forall₂ (fun range b => range.1 ≤ b ∧ b ≤ range.2) ranges tail

theorem Lie.matching_append (h : Lie ranges tail) (rest : Bytes) :
    matching ranges (tail ++ rest) = ranges.length := by
  induction h with
  | nil => rfl
  | cons hb _ ih =>
    rw [List.cons_append, matching, if_pos (by simp [hb.1, hb.2]), ih, List.length_cons]

theorem lenientChars_cons {first : UInt8} (hfirst : continuation first = some ranges)
    (h : Lie ranges tail) (rest : Bytes) :
    lenientChars (first :: (tail ++ rest))
      = Char.ofNat (scalar first tail) :: lenientChars rest := by
  have hlength : ranges.length = tail.length := List.Forall₂.length_eq h
  rw [lenientChars, hfirst]
  simp only [h.matching_append, if_true, hlength, List.take_left, List.drop_left]

/-! ## The octets of one character -/

theorem continuation_one : ∀ a < 0x80, continuation (UInt8.ofNat a) = some [] := by decide

theorem continuation_two : ∀ a < 0x20, 2 ≤ a →
    continuation (UInt8.ofNat (a + 192)) = some [(0x80, 0xbf)] := by decide

/-- Numbers below 0x800 and surrogates are left out. -/
theorem continuation_three : ∀ a < 0x10, continuation (UInt8.ofNat (a + 224))
    = some [(if a = 0 then 0xa0 else 0x80, if a = 13 then 0x9f else 0xbf), (0x80, 0xbf)] := by
  decide

/-- Numbers below 0x10000 and above 0x10ffff are left out. -/
theorem continuation_four : ∀ a < 5, continuation (UInt8.ofNat (a + 240))
    = some [(if a = 0 then 0x90 else 0x80, if a = 4 then 0x8f else 0xbf), (0x80, 0xbf),
        (0x80, 0xbf)] := by
  decide

theorem octet_of_digit : ∀ b < 64, 0x80 ≤ UInt8.ofNat (b + 128) ∧ UInt8.ofNat (b + 128) ≤ 0xbf := by
  decide

theorem lenientChars_utf8EncodeChar (c : Char) (rest : Bytes) :
    lenientChars (String.utf8EncodeChar c ++ rest) = c :: lenientChars rest := by
  have hvalid : c.toNat < 0xd800 ∨ 0xdfff < c.toNat ∧ c.toNat < 0x110000 := c.valid
  have hread : ∀ {first : UInt8} {ranges : List (UInt8 × UInt8)} {tail : Bytes},
      continuation first = some ranges → Lie ranges tail → scalar first tail = c.toNat →
        lenientChars (first :: tail ++ rest) = c :: lenientChars rest := by
    intro first ranges tail hfirst htail hscalar
    rw [List.cons_append, lenientChars_cons hfirst htail, hscalar, Char.ofNat_toNat]
  rcases exists_digits c with ⟨a, ha, hc, hoctets⟩ | ⟨a, b, ha, hb, hc, hoctets⟩ |
    ⟨a, b, d, ha, hb, hd, hmin, hc, hoctets⟩ | ⟨a, b, d, e, ha, hb, hd, he, hmin, hc, hoctets⟩ <;>
    rw [hoctets]
  · refine hread (continuation_one a ha) .nil ?_
    simp [scalar]
    omega
  · refine hread (continuation_two a ha.2 ha.1) (.cons (octet_of_digit b hb) .nil) ?_
    simp [scalar]
    omega
  · -- The second octet leaves out what fewer octets spell, and surrogates.
    have hsecond : (if a = 0 then 0xa0 else 0x80) ≤ UInt8.ofNat (b + 128)
        ∧ UInt8.ofNat (b + 128) ≤ (if a = 13 then 0x9f else 0xbf) := by
      constructor <;> split <;> simp [UInt8.le_iff_toNat_le] <;> omega
    refine hread (continuation_three a ha) (.cons hsecond (.cons (octet_of_digit d hd) .nil)) ?_
    simp [scalar]
    omega
  · -- The second octet leaves out what fewer octets spell, and what lies beyond the last character.
    have hsecond : (if a = 0 then 0x90 else 0x80) ≤ UInt8.ofNat (b + 128)
        ∧ UInt8.ofNat (b + 128) ≤ (if a = 4 then 0x8f else 0xbf) := by
      constructor <;> split <;> simp [UInt8.le_iff_toNat_le] <;> omega
    refine hread (continuation_four a (by omega)) (.cons hsecond (.cons (octet_of_digit d hd)
      (.cons (octet_of_digit e he) .nil))) ?_
    simp [scalar]
    omega

theorem lenientChars_ofChars (cs : List Char) : lenientChars (ofChars cs) = cs := by
  induction cs with
  | nil => rw [ofChars_nil, lenientChars]
  | cons c cs ih => rw [ofChars_cons, lenientChars_utf8EncodeChar, ih]

theorem lenientString_ofString (s : String) : lenientString (ofString s) = s := by
  rw [lenientString, ← ofChars_toList, lenientChars_ofChars, String.ofList_toList]

end ClusterClient.Bytes
