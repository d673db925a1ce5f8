import ClusterClient.Text.Bytes
import ClusterClient.Text.Hex
/-!
# Percent encoding

Characters outside ASCII and the ASCII characters of an escape set are written as `%XX`, one escape
for each octet of their UTF-8 form. Each part of a URL has its own escape set.
-/

namespace ClusterClient.Url.Percent

/-- Which ASCII characters are escaped. Characters beyond ASCII always are. -/
abbrev EscapeSet := Char → Bool

def controls : EscapeSet := fun c => c.toNat < 0x20 || c.toNat == 0x7f

def fragment : EscapeSet := fun c => controls c || [' ', '\x22', '<', '>', '\x60'].contains c

def path : EscapeSet := fun c => fragment c || ['#', '?', '\x7b', '\x7d'].contains c

def userinfo : EscapeSet :=
  fun c => path c || ['/', ':', ';', '=', '@', '[', '\\', ']', '^', '|'].contains c

def query : EscapeSet := fun c => controls c || [' ', '\x22', '#', '<', '>'].contains c

def specialQuery : EscapeSet := fun c => query c || c == '\x27'

def escape (b : UInt8) : List Char :=
  ['%', Hex.upperDigit (b.toNat / 16), Hex.upperDigit (b.toNat % 16)]

def encodeChar (set : EscapeSet) (c : Char) : List Char :=
  if c.toNat < 0x80 && !set c then [c] else (String.utf8EncodeChar c).flatMap escape

/-- A text as it stands in a part with this escape set. -/
def encode (set : EscapeSet) (cs : List Char) : List Char :=
  cs.flatMap (encodeChar set)

/-- The octets that a text stands for: each escape is one octet, all else is itself. A percent sign
without two digits after it stands for itself. -/
def decode : Bytes → Bytes
  | [] => []
  | [a] => [a]
  | [a, b] => [a, b]
  | a :: b :: c :: rest =>
    if a == 0x25 then
      match Hex.value? (Char.ofNat b.toNat), Hex.value? (Char.ofNat c.toNat) with
      | some high, some low => UInt8.ofNat (high * 16 + low) :: decode rest
      | _, _ => a :: decode (b :: c :: rest)
    else a :: decode (b :: c :: rest)

end ClusterClient.Url.Percent
