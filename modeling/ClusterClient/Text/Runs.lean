/-!
# Runs of code points

Properties of characters change at few code points. A table holds where runs of characters with a
property begin and end in turn, or at which code points a value changes.
-/

namespace ClusterClient.Text.Runs

/-- Whether a code point lies in a run: an odd number of bounds come before or at it. -/
def covers (bounds : List Nat) (n : Nat) : Bool := bounds.countP (· ≤ n) % 2 == 1

/-- The value of the last change before or at a code point, zero before the first. -/
def valueAt (changes : List (Nat × Nat)) (n : Nat) : Nat :=
  changes.foldl (fun value change => if change.1 ≤ n then change.2 else value) 0

end ClusterClient.Text.Runs
