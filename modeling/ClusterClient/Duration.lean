/-!
# Durations

A span of time in whole nanoseconds whose seconds fit 64 bits. Sums that would leave that range do
not exist; products are cut off at the largest duration where that is asked for.
-/

namespace ClusterClient

/-- Nanoseconds in the longest duration: `2 ^ 64` seconds less one nanosecond. -/
def maxNanos : Nat := UInt64.size * 1000000000 - 1

inductive TimeError where
  | durationOverflow
  | instantOverflow
  deriving DecidableEq, Repr

structure Duration where
  nanos : Nat
  nanos_le : nanos ≤ maxNanos
  deriving DecidableEq

namespace Duration

def ofNanos (n : Nat) : Duration :=
  ⟨min n maxNanos, Nat.min_le_right _ _⟩

def ofNanos? (n : Nat) : Option Duration :=
  if h : n ≤ maxNanos then some ⟨n, h⟩ else none

def zero : Duration := ⟨0, Nat.zero_le _⟩

def longest : Duration := ⟨maxNanos, Nat.le_refl _⟩

def ofMillis (n : Nat) : Duration := ofNanos (n * 1000000)

def ofSeconds (n : Nat) : Duration := ofNanos (n * 1000000000)

def seconds (d : Duration) : Nat := d.nanos / 1000000000

def subsecond (d : Duration) : Nat := d.nanos % 1000000000

instance : LE Duration := ⟨fun a b => a.nanos ≤ b.nanos⟩
instance : LT Duration := ⟨fun a b => a.nanos < b.nanos⟩
instance (a b : Duration) : Decidable (a ≤ b) := inferInstanceAs (Decidable (a.nanos ≤ b.nanos))
instance (a b : Duration) : Decidable (a < b) := inferInstanceAs (Decidable (a.nanos < b.nanos))

instance : Min Duration := ⟨fun a b => if a.nanos ≤ b.nanos then a else b⟩

instance : Max Duration := ⟨fun a b => if a.nanos ≤ b.nanos then b else a⟩

instance : Inhabited Duration := ⟨zero⟩

def add (a b : Duration) : Except TimeError Duration :=
  match ofNanos? (a.nanos + b.nanos) with
  | some sum => .ok sum
  | none => .error .durationOverflow

/-- A multiple, cut off at the longest duration. -/
def times (d : Duration) (n : Nat) : Duration := ofNanos (d.nanos * n)

def half (d : Duration) : Duration :=
  ⟨d.nanos / 2, Nat.le_trans (Nat.div_le_self _ _) d.nanos_le⟩

def fractionText (value width : Nat) : String :=
  let digits := Nat.toDigits 10 value
  let padded := List.replicate (width - digits.length) '0' ++ digits
  let kept := (padded.reverse.dropWhile (· == '0')).reverse
  if kept.isEmpty then "" else "." ++ String.ofList kept

/-- The duration in the largest unit of which it has one, with the fraction in full. -/
def text (d : Duration) : String :=
  let n := d.nanos
  if 1000000000 ≤ n then toString (n / 1000000000) ++ fractionText (n % 1000000000) 9 ++ "s"
  else if 1000000 ≤ n then toString (n / 1000000) ++ fractionText (n % 1000000) 6 ++ "ms"
  else if 1000 ≤ n then toString (n / 1000) ++ fractionText (n % 1000) 3 ++ "µs"
  else toString n ++ "ns"

instance : Repr Duration := ⟨fun d _ => d.text⟩

end Duration

end ClusterClient
