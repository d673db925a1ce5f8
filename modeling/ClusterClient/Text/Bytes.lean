/-!
# Bytes and the texts they spell

A byte sequence is a list of octets. It spells a text when it is well-formed UTF-8, and it always
has a lenient reading in which every ill-formed run becomes a replacement character.
-/

namespace ClusterClient

/-- The octets of a body, a header value or an encoded text. -/
abbrev Bytes := List UInt8

namespace Bytes

def ofString (s : String) : Bytes :=
  s.toUTF8.toList

def toString? (bytes : Bytes) : Option String :=
  String.fromUTF8? bytes.toByteArray

/-- The ranges that the octets after the first octet of a character may lie in. `none` where no
character starts with that octet. -/
def continuation (first : UInt8) : Option (List (UInt8 × UInt8)) :=
  if first < 0x80 then some []
  else if first < 0xc2 then none
  else if first < 0xe0 then some [(0x80, 0xbf)]
  else if first == 0xe0 then some [(0xa0, 0xbf), (0x80, 0xbf)]
  else if first == 0xed then some [(0x80, 0x9f), (0x80, 0xbf)]
  else if first < 0xf0 then some [(0x80, 0xbf), (0x80, 0xbf)]
  else if first == 0xf0 then some [(0x90, 0xbf), (0x80, 0xbf), (0x80, 0xbf)]
  else if first < 0xf4 then some [(0x80, 0xbf), (0x80, 0xbf), (0x80, 0xbf)]
  else if first == 0xf4 then some [(0x80, 0x8f), (0x80, 0xbf), (0x80, 0xbf)]
  else none

def matching : List (UInt8 × UInt8) → Bytes → Nat
  | (low, high) :: ranges, b :: bytes =>
    if low ≤ b && b ≤ high then matching ranges bytes + 1 else 0
  | _, _ => 0

def scalar (first : UInt8) (tail : Bytes) : Nat :=
  let lead := first.toNat % (1 <<< (if tail.isEmpty then 7 else 6 - tail.length))
  tail.foldl (fun value b => value * 64 + b.toNat % 64) lead

/-- The lenient reading as characters: an octet no character starts with, and the octets of a
character that breaks off, become one replacement character. -/
def lenientChars : Bytes → List Char
  | [] => []
  | first :: rest =>
    match continuation first with
    | none => '\ufffd' :: lenientChars rest
    | some ranges =>
      let taken := matching ranges rest
      let char := if taken = ranges.length then Char.ofNat (scalar first (rest.take taken))
        else '\ufffd'
      char :: lenientChars (rest.drop taken)
  termination_by bytes => bytes.length
  decreasing_by
    · simp
    · simp only [List.length_drop, List.length_cons]; omega

def lenientString (bytes : Bytes) : String :=
  String.ofList (lenientChars bytes)

end Bytes

end ClusterClient
