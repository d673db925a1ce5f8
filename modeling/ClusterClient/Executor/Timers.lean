import ClusterClient.Conventions
import ClusterClient.Cache
import ClusterClient.Executor.Basic
/-!
# Timers

The background refreshes the topology and tests the speed of the nodes from time to time. A timer
that is late fires once and starts afresh from then.
-/

namespace ClusterClient

structure Timers where
  refresh : Instant
  speedTest : Instant
  deriving DecidableEq, Repr

namespace Timers

/-- The last moment of the clock: its seconds are signed 64-bit integers. -/
def lastInstant : Instant := UInt64.size / 2 * 1000000000 - 1

def after (now : Instant) (d : Duration) : Except TimeError Instant :=
  if now + d.nanos ≤ lastInstant then .ok (now + d.nanos) else .error .instantOverflow

def refreshPeriod (c : Conventions) : Duration :=
  max c.topologyRefreshInterval Conventions.minTimerInterval

def speedTestPeriod (c : Conventions) : Duration :=
  max c.speedTestInterval Conventions.minTimerInterval

/-- Starts both timers, whether or not they are to have an effect. -/
def start (now : Instant) (c : Conventions) : Except TimeError Timers := do
  let refresh ← after now (refreshPeriod c)
  let speedTest ← after now (speedTestPeriod c)
  pure { refresh, speedTest }

def fire (t : Timers) (now : Instant) (c : Conventions) :
    Except TimeError (List Message × Timers) :=
  if !c.updatesTopology then .ok ([], t)
  else do
    let refresh ← if t.refresh ≤ now then after now (refreshPeriod c) else .ok t.refresh
    let speedTest ← if t.speedTest ≤ now then after now (speedTestPeriod c) else .ok t.speedTest
    let refreshDue := if t.refresh ≤ now then [Message.updateTopology false] else []
    let speedTestDue := if t.speedTest ≤ now then [Message.speedTest] else []
    pure (refreshDue ++ speedTestDue, { refresh, speedTest })

end Timers

namespace Executor

/-- Starts the background of a new executor. It never comes to its messages if the clock does not
reach as far as its timers. -/
def startBackground (x : Executor) (now : Instant) : Executor × Option Timers :=
  match Timers.start now x.conventions with
  | .ok timers => (x, some timers)
  | .error _ => (x.deafen, none)

def fireTimers (x : Executor) (t : Timers) (now : Instant) :
    Executor × Option Timers × List Message :=
  if !x.listening then (x, none, [])
  else
    match t.fire now x.conventions with
    | .ok (due, timers) => (x, some timers, due)
    | .error _ => (x.deafen, none, [])

end Executor

end ClusterClient
