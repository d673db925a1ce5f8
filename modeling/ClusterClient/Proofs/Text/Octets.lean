import ClusterClient.Text.Bytes

/-!
# Texts and their octets

A text that octets spell is encoded as those octets again.
-/

namespace ClusterClient.Bytes

theorem toList_loop_eq (a : ByteArray) (i : Nat) (r : List UInt8) :
    ByteArray.toList.loop a i r = r.reverse ++ a.data.toList.drop i := by
  fun_induction ByteArray.toList.loop a i r with
  | case1 i r h ih =>
    have hi : i < a.data.toList.length := h
    rw [ih, List.drop_eq_getElem_cons hi]
    simp [ByteArray.get!, h]
  | case2 i r h =>
    have hi : a.data.toList.length ≤ i := Nat.le_of_not_lt h
    rw [List.drop_of_length_le hi, List.append_nil]

theorem toString?_ofString (s : String) : toString? (ofString s) = some s := by
  have hbytes : (ofString s).toByteArray = s.toByteArray := by
    rw [ofString, ByteArray.toList, toList_loop_eq]
    apply ByteArray.ext
    simp [String.toUTF8]
  rw [toString?, hbytes, String.fromUTF8?, dif_pos s.isValidUTF8]
  rfl

theorem ofString_injective {s t : String} (h : ofString s = ofString t) : s = t := by
  have hs := toString?_ofString s
  rw [h, toString?_ofString t] at hs
  exact (Option.some.inj hs).symm

def ofChars (cs : List Char) : Bytes := cs.flatMap String.utf8EncodeChar

@[simp] theorem ofChars_nil : ofChars [] = [] := rfl

theorem ofChars_cons (c : Char) (cs : List Char) :
    ofChars (c :: cs) = String.utf8EncodeChar c ++ ofChars cs :=
  List.flatMap_cons

theorem ofChars_append (cs ds : List Char) : ofChars (cs ++ ds) = ofChars cs ++ ofChars ds :=
  List.flatMap_append

theorem ofString_ofList (cs : List Char) : ofString (String.ofList cs) = ofChars cs := by
  rw [ofString, ByteArray.toList, toList_loop_eq]
  simp [String.toUTF8, List.utf8Encode, ofChars]

theorem ofChars_toList (s : String) : ofChars s.toList = ofString s := by
  rw [← ofString_ofList, String.ofList_toList]

theorem utf8EncodeChar_ascii {c : Char} (h : c.toNat < 0x80) :
    String.utf8EncodeChar c = [UInt8.ofNat c.toNat] := by
  have hval : c.val.toNat ≤ 127 := by
    have heq : c.val.toNat = c.toNat := rfl
    omega
  rw [String.utf8EncodeChar, if_pos hval]
  rfl

theorem ofChars_cons_ascii {c : Char} (h : c.toNat < 0x80) (cs : List Char) :
    ofChars (c :: cs) = UInt8.ofNat c.toNat :: ofChars cs := by
  rw [ofChars_cons, utf8EncodeChar_ascii h, List.singleton_append]

end ClusterClient.Bytes
