import ClusterClient.Duration
/-!
# Backoff

How long one call waits before it turns to its next node.
-/

namespace ClusterClient

/-- The spacing of the attempts of one call. -/
inductive Backoff where
  | none
  | fixed (delay : Duration)
  /-- Doubles from `initial` up to `max`, plus up to half of that at random. -/
  | exponential (initial max : Duration)
  deriving DecidableEq, Repr

namespace Backoff

def maxDoublings : Nat := 16

def base (initial max : Duration) (attempt : Nat) : Duration :=
  Min.min (initial.times (Nat.pow 2 (Nat.min (attempt - 2) maxDoublings))) max

/-- The delay before an attempt, counted from one. `jitter` is what is added at random to a base
delay, half of it at most. The first attempt never waits. -/
def delayBefore (backoff : Backoff) (attempt : Nat) (jitter : Duration → Duration) :
    Except TimeError Duration :=
  if attempt ≤ 1 then .ok .zero
  else
    match backoff with
    | .none => .ok .zero
    | .fixed delay => .ok delay
    | .exponential initial max =>
      let least := base initial max attempt
      (least.add (jitter least)).map (Min.min · max)

end Backoff

end ClusterClient
