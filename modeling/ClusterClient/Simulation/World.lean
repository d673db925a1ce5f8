import ClusterClient.Command.Custom
import ClusterClient.Executor.System
import ClusterClient.Executor.Timers
import ClusterClient.Simulation.Network
import ClusterClient.Store.Basic
/-!
# A simulated world

Executors at work on a scripted network, under one clock. What will happen later stands on an
agenda; at one moment, waiting ends before answers come. A second clock drives the timers alone.
-/

namespace ClusterClient.Simulation

inductive Happening where
  | signal (signal : Signal)
  | answer (ticket : Nat) (head : ResponseHead) (body : Except TransportFailure Bytes)
  | deadline

structure Entry where
  time : Instant
  /-- Whether something comes, as opposed to a wait that ends. -/
  isArrival : Bool
  executor : Nat
  caller : Caller
  happening : Happening

structure Running where
  system : System Answer
  timers : Option Timers := none
  due : List Message := []

/-- A store and the executors it made, by the store's numbers. -/
structure OpenStore where
  store : Store
  executors : List (Nat × Nat) := []

/-- A name for an executor, and how many of its events were seen under this name. -/
structure Handle where
  executor : Nat
  seen : Nat := 0

abbrev Endings := List (Nat × Ending Answer)

structure World where
  network : Network
  clock : Instant := 0
  timerClock : Instant := 0
  executors : List (Nat × Running) := []
  handles : List (String × Handle) := []
  stores : List (String × OpenStore) := []
  agenda : List Entry := []
  /-- Requests that no server heard of, whose calls are still to be told. -/
  refusals : List (Nat × Caller × Nat × TransportFailure) := []
  endings : Endings := []
  /-- The requests that reached servers, the last one first. -/
  requests : List Wire := []
  made : Nat := 0
  calls : Nat := 0

def put {κ α : Type} [BEq κ] (key : κ) (value : α) : List (κ × α) → List (κ × α)
  | [] => [(key, value)]
  | (k, v) :: rest => if k == key then (key, value) :: rest else (k, v) :: put key value rest

def erase {κ α : Type} [BEq κ] (key : κ) (entries : List (κ × α)) : List (κ × α) :=
  entries.filter fun (k, _) => !(k == key)

def Entry.precedes (a b : Entry) : Bool :=
  a.time < b.time || (a.time == b.time && !a.isArrival && b.isArrival)

/-- Takes the entry that comes first; of entries that come at once, the one that was made first. -/
def takeFirst? : List Entry → Option (Entry × List Entry)
  | [] => none
  | e :: rest =>
    match takeFirst? rest with
    | none => some (e, [])
    | some (best, others) => if best.precedes e then some (best, e :: others) else some (e, rest)

def waitOf? (s : System Answer) (caller : Caller) : Option Wait := (s.call? caller).map Call.wait

def callerOf : Action Answer → Option Caller
  | .begin number _ => some (.outside number)
  | .attend | .tick _ => some .background
  | .signal caller _ | .abandon caller => some caller
  | .dispose => none

namespace World

/-- What a step sees. Chance makes every pause as long as it may. -/
def moment (w : World) : Moment := { now := w.clock, jitter := Duration.half }

def running? (w : World) (id : Nat) : Option Running := w.executors.lookup id

def schedule (w : World) (entry : Entry) : World := { w with agenda := w.agenda ++ [entry] }

def scheduleEnd (w : World) (id : Nat) (caller : Caller) (length : Duration)
    (happening : Happening) : World :=
  w.schedule
    { time := w.clock + length.nanos, isArrival := false, executor := id, caller, happening }

def scheduleArrival (w : World) (id : Nat) (caller : Caller)
    (delay : Duration) (happening : Happening) : World :=
  w.schedule { time := w.clock + delay.nanos, isArrival := true, executor := id, caller, happening }

/-- What comes of a request that reached its server: the reply, unless it takes too long. -/
def awaitReply (w : World) (id : Nat) (caller : Caller) (ticket : Nat)
    (wire : Wire) (reply : Scripted) : World :=
  let timeout := w.scheduleEnd id caller wire.timeout (.signal (.head ticket (.error .timedOut)))
  match reply.treatment with
  | .silence => timeout
  | .breakOff =>
    if reply.delay < wire.timeout then
      w.scheduleArrival id caller reply.delay (.signal (.head ticket (.error .broken)))
    else timeout
  | .answer head body =>
    if reply.delay < wire.timeout then
      w.scheduleArrival id caller reply.delay (.answer ticket head body)
    else timeout

def carry (w : World) (id : Nat) (caller : Caller) (ticket : Nat) (d : Dispatch) : World :=
  let (network, passage) := w.network.carry d.wire
  let w := { w with network }
  match passage with
  | .refused failure => { w with refusals := w.refusals ++ [(id, caller, ticket, failure)] }
  | .delivered reply =>
    let w := { w with requests := d.wire :: w.requests }
    let w := match d.limit with
      | some limit => w.scheduleEnd id caller limit (.signal (.expired ticket))
      | none => w
    w.awaitReply id caller ticket d.wire reply

def carryAll (w : World) (id : Nat) (caller : Caller) : Nat → List Dispatch → World
  | _, [] => w
  | ticket, d :: rest => (w.carry id caller ticket d).carryAll id caller (ticket + 1) rest

def scheduleWait (w : World) (id : Nat) (caller : Caller) (c : Conventions) : Option Wait → World
  | some .lock => w.scheduleEnd id caller c.topologyLockTimeout (.signal .lockTimedOut)
  | some (.pause length) => w.scheduleEnd id caller length (.signal .resumed)
  | some .answers | none => w

def conclude (w : World) (id : Nat) : Ended Answer → World
  | none => w
  | some (caller, ending) =>
    let agenda := w.agenda.filter fun e => !(e.executor == id && e.caller == caller)
    match caller with
    | .background => { w with agenda }
    | .outside number => { w with agenda, endings := put number ending w.endings }

def act (w : World) (id : Nat) (action : Action Answer) : World :=
  match w.running? id with
  | none => w
  | some before =>
    let (system, ended) := before.system.step w.moment action
    let w := { w with executors := put id { before with system } w.executors }
    match callerOf action with
    | none => w
    | some caller =>
      let known := before.system.executor.sent.length
      let left := (system.executor.sent.take (system.executor.sent.length - known)).reverse
      let w := w.carryAll id caller known left
      let wait := waitOf? system caller
      let w := if wait == waitOf? before.system caller then w
        else w.scheduleWait id caller system.executor.conventions wait
      w.conclude id ended

def grantable? (w : World) : Option (Nat × Caller) :=
  w.executors.findSome? fun (id, running) =>
    if running.system.executor.lockHeld then none
    else
      (running.system.calls.find? fun (_, call) => call.wait == .lock).map
        fun (caller, _) => (id, caller)

/-- Lets everything happen that takes no time: refusals reach their calls, and a free lock goes to
whoever has waited longest. -/
def settle : Nat → World → World
  | 0, w => w
  | fuel + 1, w =>
    match w.refusals, w.grantable? with
    | (id, caller, ticket, failure) :: refusals, _ =>
      settle fuel ({ w with refusals }.act id (.signal caller (.head ticket (.error failure))))
    | [], some (id, caller) => settle fuel (w.act id (.signal caller .granted))
    | [], none => w

/-- How many steps a simulation may take before it is cut off. -/
def fuel : Nat := 1000000

def perform (w : World) (id : Nat) (action : Action Answer) : World := (w.act id action).settle fuel

def expire (w : World) (id : Nat) (caller : Caller) : World :=
  match (w.running? id).bind fun running => (running.system.expire caller).2 with
  | some ended => (w.perform id (.abandon caller)).conclude id (some ended)
  | none => w

def happen (w : World) (e : Entry) : World :=
  match e.happening with
  | .signal signal => w.perform e.executor (.signal e.caller signal)
  | .answer ticket head body =>
    let w := w.scheduleArrival e.executor e.caller .zero (.signal (.body ticket body))
    w.perform e.executor (.signal e.caller (.head ticket (.ok head)))
  | .deadline => w.expire e.executor e.caller

/-- Works off the agenda until a test holds. -/
def runUntil (isDone : World → Bool) : Nat → World → World
  | 0, w => w
  | fuel + 1, w =>
    if isDone w then w
    else
      match takeFirst? w.agenda with
      | none => w
      | some (entry, agenda) =>
        runUntil isDone fuel ({ w with agenda, clock := Nat.max w.clock entry.time }.happen entry)

def begin (w : World) (id : Nat) (order : Order Answer) : World × Nat :=
  let number := w.calls
  let w := { w with calls := number + 1 }.perform id (.begin number order)
  let deadline := match order with
    | .execute _ options => options.deadline
    | _ => none
  match deadline, w.endings.lookup number with
  | some limit, none => (w.scheduleEnd id (.outside number) limit .deadline, number)
  | _, _ => (w, number)

def beginAll (w : World) : List (Nat × Order Answer) → World × List Nat
  | [] => (w, [])
  | (id, order) :: rest =>
    let (w, number) := w.begin id order
    let (w, numbers) := w.beginAll rest
    (w, number :: numbers)

def runCalls (w : World) (orders : List (Nat × Order Answer)) : World × List (Ending Answer) :=
  let (w, numbers) := w.beginAll orders
  let isDone := fun w : World => numbers.all fun number => (w.endings.lookup number).isSome
  let w := w.runUntil isDone fuel
  ({ w with endings := [] }, numbers.filterMap (w.endings.lookup ·))

def runCall (w : World) (id : Nat) (order : Order Answer) : World × Option (Ending Answer) :=
  let (w, endings) := w.runCalls [(id, order)]
  (w, endings.head?)

/-- The first executor whose background has something to turn to, and what that is. -/
def backgroundWork? (w : World) : Option (Nat × Action Answer) :=
  w.executors.findSome? fun (id, running) =>
    if running.system.isAttending then none
    else if !running.system.executor.mailbox.isEmpty then some (id, .attend)
    else running.due.head?.map fun message => (id, .tick message)

def removeDue (w : World) (id : Nat) : Action Answer → World
  | .tick _ =>
    match w.running? id with
    | some running =>
      { w with executors := put id { running with due := running.due.drop 1 } w.executors }
    | none => w
  | _ => w

def isAttending (w : World) : Bool := w.executors.any fun (_, running) => running.system.isAttending

def runBackground : Nat → World → World
  | 0, w => w
  | fuel + 1, w =>
    match w.backgroundWork? with
    | some (id, action) => runBackground fuel ((w.removeDue id action).perform id action)
    | none =>
      if w.isAttending then
        match takeFirst? w.agenda with
        | none => w
        | some (entry, agenda) =>
          runBackground fuel ({ w with agenda, clock := Nat.max w.clock entry.time }.happen entry)
      else w

end World

end ClusterClient.Simulation
