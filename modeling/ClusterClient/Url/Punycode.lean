/-!
# Punycode

A way to write any characters with letters, digits and hyphens: first come the ASCII characters as
they are, and after the last hyphen numbers that say which other characters go where. Numbers are
written in base 36, least digit first, and end at a digit below a threshold that follows the sizes
of the numbers before.
-/

namespace ClusterClient.Url.Punycode

/-- The value of a digit: letters are 0 to 25 and figures are 26 to 35. -/
def digit? (c : Char) : Option Nat :=
  if 'a' ≤ c && c ≤ 'z' then some (c.toNat - 'a'.toNat)
  else if '0' ≤ c && c ≤ '9' then some (c.toNat - '0'.toNat + 26)
  else none

/-- The threshold of a digit at a position, counted in steps of 36. -/
def threshold (position bias : Nat) : Nat :=
  if position ≤ bias then 1 else if bias + 26 ≤ position then 26 else position - bias

/-- Divides by 35 until at most 455 is left, and counts in steps of 36. -/
def shrink (n count : Nat) : Nat × Nat :=
  if 455 < n then shrink (n / 35) (count + 36) else (n, count)
termination_by n
decreasing_by exact Nat.div_lt_self (by omega) (by omega)

/-- The bias after a number; `length` is how many characters there are then. -/
def nextBias (number length : Nat) (isFirst : Bool) : Nat :=
  let halved := if isFirst then number / 700 else number / 2
  let (n, count) := shrink (halved + halved / length) 0
  count + 36 * n / (n + 38)

structure Reading where
  text : List Char
  code : Nat := 128
  /-- Where the next insertion counts from. -/
  index : Nat := 0
  bias : Nat := 72
  /-- The sum of `index` and the digits of a number so far. -/
  sum : Nat := 0
  weight : Nat := 1
  position : Nat := 36
  deriving DecidableEq, Repr

def bounded? (n : Nat) : Option Nat := if n < UInt32.size then some n else none

def character? (n : Nat) : Option Char :=
  if h : n.isValidChar then some (Char.ofNatAux n h) else none

def insert? (r : Reading) (sum : Nat) : Option Reading := do
  let length := r.text.length + 1
  let code ← bounded? (r.code + sum / length)
  let c ← character? code
  let place := sum % length
  some {
    text := r.text.take place ++ c :: r.text.drop place
    code
    index := place + 1
    bias := nextBias (sum - r.index) length (r.index == 0)
    sum := place + 1 }

def step? (r : Reading) (c : Char) : Option Reading := do
  let digit ← digit? c
  let product ← bounded? (digit * r.weight)
  let sum ← bounded? (r.sum + product)
  let t := threshold r.position r.bias
  if digit < t then insert? r sum
  else do
    let weight ← bounded? (r.weight * (36 - t))
    some { r with sum, weight, position := r.position + 36 }

/-- The ASCII characters and the digits, divided by the last hyphen unless it comes first. -/
def split (cs : List Char) : List Char × List Char :=
  let (digits, before) := cs.reverse.span (· != '-')
  match before with
  | _ :: b :: bs => ((b :: bs).reverse, digits.reverse)
  | _ => ([], cs)

/-- Reads a text; `none` if a number is cut short, too large or no character. -/
def decode? (cs : List Char) : Option (List Char) := do
  let (plain, digits) := split cs
  let last ← digits.foldlM step? { text := plain }
  if last.position = 36 then some last.text else none

end ClusterClient.Url.Punycode
