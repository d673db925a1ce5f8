/-!
# Binary floating point

A finite number of 53 significant bits, kept as an integer times a power of two, so that every
operation is exact arithmetic and one rounding. The decimal form is the shortest one that lies
nearer to the number than to any other.
-/

namespace ClusterClient.Json

/-- A finite double: `significand * 2 ^ exponent`, with fewer than 54 significant bits and the
exponent as small as they allow, but never below `-1074`. -/
structure Double where
  negative : Bool
  significand : Nat
  exponent : Int
  deriving DecidableEq, Repr

namespace Double

def zero (negative : Bool) : Double := ⟨negative, 0, -1074⟩

def minExponent : Int := -1074

def maxExponent : Int := 971

def scaled (num den : Nat) (shift : Int) : Nat × Nat :=
  (num <<< shift.toNat, den <<< (-shift).toNat)

/-- A quotient rounded to the nearest integer, ties to the even one. -/
def roundDiv (num den : Nat) : Nat :=
  let q := num / den
  let twice := 2 * (num % den)
  if twice < den then q else if den < twice then q + 1 else q + q % 2

/-- The exponent under which a positive quotient has 53 bits, or the least one. -/
def exponentFor (num den : Nat) : Int :=
  let guess : Int := (Nat.log2 num : Int) - (Nat.log2 den : Int) - 52
  let (n, d) := scaled num den (-guess)
  let exponent := if n < d <<< 52 then guess - 1 else guess
  max exponent minExponent

/-- The double nearest to a quotient; `none` when that is too large. -/
def ofRatio? (negative : Bool) (num den : Nat) : Option Double :=
  if num = 0 then some (zero negative)
  else
    let exponent := exponentFor num den
    let (n, d) := scaled num den (-exponent)
    let m := roundDiv n d
    let (m, exponent) := if m = 1 <<< 53 then (1 <<< 52, exponent + 1) else (m, exponent)
    if maxExponent < exponent then none else some ⟨negative, m, exponent⟩

def ratio (x : Double) : Nat × Nat :=
  (x.significand <<< x.exponent.toNat, 1 <<< (-x.exponent).toNat)

def mulPowerOfTen? (x : Double) (k : Nat) : Option Double := do
  let p ← ofRatio? false (Nat.pow 10 k) 1
  ofRatio? x.negative (x.ratio.1 * p.ratio.1) (x.ratio.2 * p.ratio.2)

def divPowerOfTen? (x : Double) (k : Nat) : Option Double := do
  let p ← ofRatio? false (Nat.pow 10 k) 1
  ofRatio? x.negative (x.ratio.1 * p.ratio.2) (x.ratio.2 * p.ratio.1)

def maxStep : Nat := 308

/-- The magnitude divided by the greatest power of ten, as often as said or until it is zero. -/
def divSteps? : Nat → Double → Option Double
  | 0, x => some x
  | n + 1, x => if x.significand = 0 then some x else (x.divPowerOfTen? maxStep).bind (divSteps? n)

/-- The number times ten to a power, in steps that are each rounded. `none` when it is too large. -/
def scaleByTen? (x : Double) (k : Int) : Option Double :=
  if 0 ≤ k then
    if x.significand = 0 then some x
    else if maxStep < k.toNat then none
    else x.mulPowerOfTen? k.toNat
  else
    let steps := (k.natAbs - 1) / maxStep
    (divSteps? steps x).bind (·.divPowerOfTen? (k.natAbs - steps * maxStep))

def covers (x : Double) (num den : Nat) : Bool :=
  let (n, d) := x.ratio
  let m := x.significand
  let lowGap := if m = 1 <<< 52 && minExponent < x.exponent then 4 else 2
  -- The bounds are `n / d * (1 ± 1 / (gap * m))`.
  let low := (n * (lowGap * m - 1) * den, num * d * (lowGap * m))
  let high := (num * d * (2 * m), n * (2 * m + 1) * den)
  if m % 2 = 0 then low.1 ≤ low.2 && high.1 ≤ high.2 else low.1 < low.2 && high.1 < high.2

/-- The number of decimal digits before the point of `num / den`; zero or negative when the
quotient is below one. At most `fuel` zeros after the point are counted. -/
def integerDigits (num den : Nat) (fuel : Nat) : Int :=
  if den ≤ num then ((Nat.toDigits 10 (num / den)).length : Int)
  else
    match fuel with
    | 0 => 0
    | fuel + 1 => integerDigits (num * 10) den fuel - 1

def shiftTen (num den : Nat) (k : Int) : Nat × Nat :=
  (num * Nat.pow 10 (-k).toNat, den * Nat.pow 10 k.toNat)

/-- The neighbours of a positive double on the grid of multiples of `10 ^ k`, those of them that
round to it, and of two the nearer, or the even one. -/
def onGrid? (x : Double) (k : Int) : Option Nat :=
  let (n, d) := x.ratio
  let (n, d) := shiftTen n d k
  let below := n / d
  let back := fun digits => shiftTen digits 1 (-k)
  let fits := fun digits => 0 < digits && x.covers (back digits).1 (back digits).2
  match fits below, fits (below + 1) with
  | true, true => some (roundDiv n d)
  | true, false => some below
  | false, true => some (below + 1)
  | false, false => none

/-- The shortest digits and their exponent among grids of `count`, `count + 1`, … digits. -/
def shortestFrom (x : Double) (size : Int) (count : Nat) : Nat → Nat × Int
  | 0 => (0, 0)
  | fuel + 1 =>
    match onGrid? x (size - count) with
    | some digits => (digits, size - count)
    | none => shortestFrom x size (count + 1) fuel

def dropZeros (digits : Nat) (k : Int) : Nat × Int :=
  if 0 < digits ∧ digits % 10 = 0 then dropZeros (digits / 10) (k + 1) else (digits, k)
  termination_by digits
  decreasing_by omega

/-- The shortest decimal digits that read back as a positive double, and their exponent. Seventeen
digits always suffice. -/
def shortest (x : Double) : Nat × Int :=
  let (n, d) := x.ratio
  let (digits, k) := shortestFrom x (integerDigits n d 400) 1 17
  dropZeros digits k

def zeros (n : Nat) : String :=
  String.ofList (List.replicate n '0')

/-- The written form: positional from `1e-5` up to `1e+16`, with a signed exponent beyond; a number
without a fraction is written with `.0`. -/
def text (x : Double) : String :=
  let sign := if x.negative then "-" else ""
  if x.significand = 0 then sign ++ "0.0"
  else
    let (number, k) := x.shortest
    let digits := Nat.toDigits 10 number
    let all := String.ofList digits
    let point : Int := digits.length + k
    let part := fun cs => String.ofList cs
    sign ++
      if 0 ≤ k && point ≤ 16 then all ++ zeros k.toNat ++ ".0"
      else if 0 < point && point ≤ 16 then
        part (digits.take point.toNat) ++ "." ++ part (digits.drop point.toNat)
      else if -5 < point && point ≤ 0 then "0." ++ zeros (-point).toNat ++ all
      else
        let fraction := if digits.length = 1 then "" else "." ++ part (digits.drop 1)
        let plus := if 0 < point then "+" else ""
        part (digits.take 1) ++ fraction ++ "e" ++ plus ++ toString (point - 1)

end Double

end ClusterClient.Json
