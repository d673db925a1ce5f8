import ClusterClient.Proofs.Text.Octets
import Mathlib.Data.String.Basic

/-!
# The order of texts

Texts are compared character by character.  That is the order of their octets: a
character with a greater number has the greater octets, and none is spelled by the
beginning of another.
-/

namespace ClusterClient.Bytes

theorem exists_digits (c : Char) :
    (∃ a, a < 0x80 ∧ c.toNat = a ∧ String.utf8EncodeChar c = [UInt8.ofNat a]) ∨
    (∃ a b, (2 ≤ a ∧ a < 0x20) ∧ b < 64 ∧ c.toNat = a * 64 + b ∧
      String.utf8EncodeChar c = [UInt8.ofNat (a + 192), UInt8.ofNat (b + 128)]) ∨
    (∃ a b d, a < 0x10 ∧ b < 64 ∧ d < 64 ∧ 0x800 ≤ c.toNat ∧ c.toNat = a * 4096 + b * 64 + d ∧
      String.utf8EncodeChar c =
        [UInt8.ofNat (a + 224), UInt8.ofNat (b + 128), UInt8.ofNat (d + 128)]) ∨
    (∃ a b d e, a < 8 ∧ b < 64 ∧ d < 64 ∧ e < 64 ∧ 0x10000 ≤ c.toNat ∧
      c.toNat = a * 262144 + b * 4096 + d * 64 + e ∧
      String.utf8EncodeChar c = [UInt8.ofNat (a + 240), UInt8.ofNat (b + 128),
        UInt8.ofNat (d + 128), UInt8.ofNat (e + 128)]) := by
  have hmax : c.toNat < 0x110000 := by
    rcases c.valid with h | h
    · exact Nat.lt_trans h (by decide)
    · exact h.2
  rw [String.utf8EncodeChar, show c.val.toNat = c.toNat from rfl]
  generalize c.toNat = n at hmax ⊢
  by_cases hone : n ≤ 0x7f
  · exact .inl ⟨n, by omega, rfl, if_pos hone⟩
  by_cases htwo : n ≤ 0x7ff
  · refine .inr (.inl ⟨n / 64 % 32, n % 64, by omega, by omega, by omega, ?_⟩)
    rw [if_neg hone, if_pos htwo]
  by_cases hthree : n ≤ 0xffff
  · refine .inr (.inr (.inl ⟨n / 4096 % 16, n / 64 % 64, n % 64, by omega, by omega, by omega,
      by omega, by omega, ?_⟩))
    rw [if_neg hone, if_neg htwo, if_pos hthree]
  · refine .inr (.inr (.inr ⟨n / 262144 % 8, n / 4096 % 64, n / 64 % 64, n % 64, by omega,
      by omega, by omega, by omega, by omega, by omega, ?_⟩))
    rw [if_neg hone, if_neg htwo, if_neg hthree]

theorem ofChars_lt_of_lt {c d : Char} (h : c < d) (cs ds : List Char) :
    ofChars (c :: cs) < ofChars (d :: ds) := by
  have hlt : c.toNat < d.toNat := h
  rw [ofChars_cons, ofChars_cons]
  rcases exists_digits c with ⟨a, ha, hc, hoctets⟩ | ⟨a, b, ha, hb, hc, hoctets⟩ |
    ⟨a, b, e, ha, hb, he, hmin, hc, hoctets⟩ | ⟨a, b, e, f, ha, hb, he, hf, hmin, hc, hoctets⟩ <;>
  rcases exists_digits d with ⟨a', ha', hd, hoctets'⟩ | ⟨a', b', ha', hb', hd, hoctets'⟩ |
    ⟨a', b', e', ha', hb', he', hmin', hd, hoctets'⟩ |
    ⟨a', b', e', f', ha', hb', he', hf', hmin', hd, hoctets'⟩ <;>
  rw [hoctets, hoctets'] <;>
  simp only [List.cons_append, List.nil_append, List.cons_lt_cons_iff, UInt8.lt_iff_toNat_lt,
    ← UInt8.toNat_inj, UInt8.toNat_ofNat'] <;>
  omega

theorem ofChars_cons_pos (c : Char) (cs : List Char) : [] < ofChars (c :: cs) := by
  rw [ofChars_cons]
  rcases exists_digits c with ⟨_, _, _, h⟩ | ⟨_, _, _, _, _, h⟩ | ⟨_, _, _, _, _, _, _, _, h⟩ |
    ⟨_, _, _, _, _, _, _, _, _, _, h⟩ <;>
  rw [h] <;>
  exact List.nil_lt_cons _ _

theorem ofChars_strictMono {cs ds : List Char} (h : cs < ds) : ofChars cs < ofChars ds := by
  induction cs generalizing ds with
  | nil =>
    cases ds with
    | nil => exact absurd h (List.not_lt_nil [])
    | cons d ds => exact ofChars_cons_pos d ds
  | cons c cs ih =>
    cases ds with
    | nil => exact absurd h (List.not_lt_nil _)
    | cons d ds =>
      rcases List.cons_lt_cons_iff.mp h with hlt | ⟨rfl, hrest⟩
      · exact ofChars_lt_of_lt hlt cs ds
      · rw [ofChars_cons, ofChars_cons]
        exact List.append_left_lt (ih hrest)

/-- The order of texts is the order of their octets. -/
theorem ofString_lt_iff (s t : String) : ofString s < ofString t ↔ s < t := by
  have hmono : ∀ {s t : String}, s < t → ofString s < ofString t := by
    intro s t h
    rw [← ofChars_toList, ← ofChars_toList]
    exact ofChars_strictMono (String.lt_iff_toList_lt.mp h)
  rcases lt_trichotomy s t with h | rfl | h
  · exact iff_of_true (hmono h) h
  · exact iff_of_false (List.lt_irrefl _) (lt_irrefl s)
  · exact iff_of_false (List.lt_asymm (hmono h)) (lt_asymm h)

end ClusterClient.Bytes
