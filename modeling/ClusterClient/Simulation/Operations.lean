import ClusterClient.Simulation.World
/-!
# Operations on a simulated world

Executors and stores are known by names. Every name has its own view of the events of its executor;
an executor without a name that no store has in use is gone.
-/

namespace ClusterClient.Simulation

/-- How many events a listener that falls behind keeps. -/
def eventCapacity : Nat := 256

structure Notices where
  name : String
  /-- How many events were lost before those that are left. -/
  lost : Nat
  events : List Event

def applicationId (id : Nat) : String :=
  let digits := Nat.toDigits 16 (id + 1)
  "00000000-0000-4000-8000-" ++ String.ofList (List.replicate (12 - digits.length) '0' ++ digits)

namespace World

def find? (w : World) (name : String) : Option Nat := (w.handles.lookup name).map (·.executor)

def executor? (w : World) (id : Nat) : Option Executor :=
  (w.running? id).map (·.system.executor)

def named? (w : World) (name : String) : Option Executor := (w.find? name).bind w.executor?

def names (w : World) : List String :=
  (w.handles.map (·.1)).mergeSort fun a b => !(b < a)

def change (w : World) (id : Nat) (f : Executor → Executor) : World :=
  match w.running? id with
  | some running =>
    let system := { running.system with executor := f running.system.executor }
    { w with executors := put id { running with system } w.executors }
  | none => w

def reachable (w : World) : List Nat :=
  w.handles.map (·.2.executor) ++ w.stores.flatMap fun (_, opened) => opened.executors.map (·.2)

def collect (w : World) : World :=
  let reachable := w.reachable
  { w with executors := w.executors.filter fun (id, _) => reachable.contains id }

def addExecutor (w : World) (create : String → Executor) : World × Nat :=
  let id := w.made
  let (x, timers) := (create (applicationId id)).startBackground w.timerClock
  let running := { system := { executor := x }, timers }
  ({ w with made := id + 1, executors := w.executors ++ [(id, running)] }, id)

def name (w : World) (name : String) (id : Nat) : World :=
  let seen := ((w.executor? id).map fun x => x.events.length).getD 0
  { w with handles := put name ⟨id, seen⟩ w.handles }.collect

/-- The first other name of the executor of a database. -/
def nameOf? (w : World) (id : Nat) : Option String :=
  if (w.executor? id).any (·.scope.isDatabase) then
    w.names.find? fun name => w.find? name == some id
  else none

def share (w : World) (label : String) (id : Nat) : World × Option String :=
  (w.name label id, w.nameOf? id)

def openExecutor (w : World) (label : String) (scope : Scope) (seeds : List Url) (c : Conventions) :
    World :=
  let (w, id) := w.addExecutor fun applicationId => .new scope applicationId seeds c none
  w.name label id

def drop (w : World) (label : String) : World × Bool :=
  ({ w with handles := erase label w.handles }.collect, (w.find? label).isSome)

def dispose (w : World) (id : Nat) : World := w.perform id .dispose

def closeStore (w : World) (label : String) : World :=
  match w.stores.lookup label with
  | none => w
  | some opened =>
    let (store, numbers) := opened.store.close
    let ids := numbers.filterMap (opened.executors.lookup ·)
    let w := ids.foldl dispose w
    { w with stores := put label { store } w.stores }.collect

/-- Makes a store under a name. A store that had the name is closed. -/
def openStore (w : World) (label : String) (settings : StoreSettings) :
    World × Except StoreError Unit :=
  match Store.build settings with
  | .error e => (w, .error e)
  | .ok store =>
    let w := w.closeStore label
    ({ w with stores := put label { store } w.stores }, .ok ())

def dropStore (w : World) (label : String) : World × Bool :=
  let closed := w.closeStore label
  ({ closed with stores := erase label closed.stores }, (w.stores.lookup label).isSome)

def shareFromStore (w : World) (label storeLabel : String) (opened : OpenStore) (scope : Scope)
    (provided : Store × Nat) : World × Option String :=
  let (store, number) := provided
  match opened.executors.lookup number with
  | some id => { w with stores := put storeLabel { opened with store } w.stores }.share label id
  | none =>
    let (w, id) := w.addExecutor (opened.store.newExecutor scope)
    let opened := { store, executors := put number id opened.executors }
    { w with stores := put storeLabel opened w.stores }.share label id

def storeExecutor (w : World) (label storeLabel : String) (opened : OpenStore)
    (database : Option String) :
    World × Except StoreError (Option String) :=
  match opened.store.executor database with
  | .error e => (w, .error e)
  | .ok provided =>
    let scope := Scope.database ((database <|> opened.store.database).getD "")
    let (w, sameAs) := w.shareFromStore label storeLabel opened scope provided
    (w, .ok sameAs)

def storeCluster (w : World) (label storeLabel : String) (opened : OpenStore) :
    World × Except StoreError (Option String) :=
  match opened.store.clusterExecutor with
  | .error e => (w, .error e)
  | .ok provided =>
    let (w, sameAs) := w.shareFromStore label storeLabel opened .cluster provided
    (w, .ok sameAs)

def fireTimers (now : Instant) (running : Running) : Running :=
  match running.timers with
  | none => running
  | some timers =>
    let (x, timers, due) := running.system.executor.fireTimers timers now
    { system := { running.system with executor := x }, timers, due := running.due ++ due }

def advance (w : World) (length : Duration) : World :=
  let now := w.timerClock + length.nanos
  { w with
    timerClock := now
    executors := w.executors.map fun (id, running) => (id, fireTimers now running) }

/-- What was seen under a name since the last time. -/
def noticesOf (w : World) (label : String) : Option Notices := do
  let handle ← w.handles.lookup label
  let x ← w.executor? handle.executor
  let fresh := x.events.take (x.events.length - handle.seen)
  if fresh.isEmpty then none
  else some ⟨label, fresh.length - eventCapacity, (fresh.take eventCapacity).reverse⟩

def markSeen (w : World) : World :=
  { w with handles := w.handles.map fun (label, handle) =>
      (label, { handle with
        seen := ((w.executor? handle.executor).map fun x => x.events.length).getD 0 }) }

/-- Lets all background work come to its end, and returns the requests that reached servers and what
was seen under each name since the last time. -/
def finish (w : World) : World × List Wire × List Notices :=
  let w := w.runBackground fuel
  ({ w with requests := [] }.markSeen, w.requests.reverse, w.names.filterMap w.noticesOf)

end World

end ClusterClient.Simulation
