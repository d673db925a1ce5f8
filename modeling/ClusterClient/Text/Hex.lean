import ClusterClient.Text.Bytes
/-!
# Hexadecimal digits

Digits in both directions, octets as pairs of digits, and numbers without leading zeros.
-/

namespace ClusterClient.Hex

def lowerDigit (n : Nat) : Char :=
  if n < 10 then Char.ofNat (48 + n) else Char.ofNat (87 + n)

def upperDigit (n : Nat) : Char :=
  if n < 10 then Char.ofNat (48 + n) else Char.ofNat (55 + n)

/-- The value of a digit of either case. -/
def value? (c : Char) : Option Nat :=
  if '0' ≤ c && c ≤ '9' then some (c.toNat - 48)
  else if 'a' ≤ c && c ≤ 'f' then some (c.toNat - 87)
  else if 'A' ≤ c && c ≤ 'F' then some (c.toNat - 55)
  else none

def ofBytes (bytes : Bytes) : String :=
  String.ofList (bytes.flatMap fun b => [lowerDigit (b.toNat / 16), lowerDigit (b.toNat % 16)])

def bytesOfChars? : List Char → Option Bytes
  | [] => some []
  | high :: low :: rest => do
    let h ← value? high
    let l ← value? low
    let bytes ← bytesOfChars? rest
    pure (UInt8.ofNat (h * 16 + l) :: bytes)
  | [_] => none

def toBytes? (text : String) : Option Bytes :=
  bytesOfChars? text.toList

/-- A number in lower-case digits, without leading zeros. -/
def ofNat (n : Nat) : String :=
  String.ofList (Nat.toDigits 16 n)

end ClusterClient.Hex
