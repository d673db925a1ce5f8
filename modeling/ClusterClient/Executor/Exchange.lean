import ClusterClient.Executor.Basic
/-!
# Exchanges

One request to one node and what its answer means: a result, a failure of the node, after which the
next node may be tried, or a fault that ends the call.
-/

namespace ClusterClient

structure Exchange (α : Type) where
  command : Command α
  node : Node
  request : Request
  /-- What the answer may be kept under, if it may be kept. -/
  key : Option Cache.Key
  /-- What is kept there already. -/
  cached : Option Cache.Entry

structure Flight (α : Type) where
  exchange : Exchange α
  /-- Which of the executor's requests it is, counted from zero. -/
  ticket : Nat
  /-- How long the answer may take before the node counts as failed. -/
  limit : Option Duration
  head : Option ResponseHead := none

inductive Outcome (α : Type) where
  | answered (result : α) (status : Status) (fromCache : Bool)
  | failed (reason : FailureReason)
  /-- Another node would do no better. -/
  | ended (fault : Fault)

inductive Signal where
  /-- The right to ask for the topology is free. -/
  | granted
  | lockTimedOut
  | resumed
  /-- The head of an answer came, or no answer will. -/
  | head (ticket : Nat) (result : Except TransportFailure ResponseHead)
  | body (ticket : Nat) (result : Except TransportFailure Bytes)
  | expired (ticket : Nat)

namespace Executor

variable {α : Type}

def prepare (x : Executor) (command : Command α) (node : Node) (noCaching : Bool) :
    Except CommandError (Exchange α) := do
  let request ← command.request node
  let key :=
    if command.isCacheable && !noCaching then
      some (Cache.Key.of request.method request.url.text request.body)
    else none
  pure { command, node, request, key, cached := key.bind x.cache.get? }

/-- The headers of a request: its own, then the versions the executor has, so that servers can tell
when they have newer ones. -/
def headers (x : Executor) (e : Exchange α) : Headers :=
  let own := e.request.headers.add Headers.topologyEtag (toString x.topology.etag)
  let versioned :=
    if x.scope.isDatabase then own.add Headers.configurationEtag (toString x.configuration.etag)
    else own
  let conditional := match e.cached with
    | some entry => versioned.add Headers.ifNoneMatch entry.changeVector
    | none => versioned
  match e.command.raftRequestId with
  | some id => conditional.add Headers.raftRequestId id
  | none => conditional

def wire (x : Executor) (e : Exchange α) : Wire :=
  { method := e.request.method
    url := e.request.url
    headers := x.headers e
    body := e.request.body
    timeout := e.command.timeout.getD x.conventions.requestTimeout }

def send (x : Executor) (purpose : Purpose) (e : Exchange α) (limit : Option Duration) :
    Except Fault (Executor × Flight α) :=
  match x.pool.open? e.request.url with
  | none => .error .noClient
  | some pool =>
    let dispatch := { purpose, node := e.node, wire := x.wire e, limit }
    .ok ({ x with pool, sent := dispatch :: x.sent },
      { exchange := e, ticket := x.sent.length, limit })

/-- Sends a request of the executor itself: the cache has no part in it. -/
def launch (x : Executor) (purpose : Purpose) (command : Command α) (node : Node)
    (limit : Option Duration) : Except Fault (Executor × Flight α) := do
  let e ← (x.prepare command node true).mapError .noRequest
  x.send purpose e limit

/-- Asks the background for what the headers of an answer say is out of date. -/
def heed (x : Executor) (headers : Headers) : Executor :=
  let x :=
    if headers.flag Headers.refreshTopology && x.updatesTopology then x.post (.updateTopology false)
    else x
  if headers.flag Headers.refreshConfiguration && x.scope.isDatabase then
    x.post .updateConfiguration
  else x

def readResult (e : Exchange α) (status : Status) (fromCache : Bool) :
    Except CommandError α → Outcome α
  | .ok result => .answered result status fromCache
  | .error cause => .ended (.unreadable e.request.url cause)

/-- The answer confirms what the cache had when the request was made, or has now. -/
def confirm (x : Executor) (e : Exchange α) (status : Status) (now : Instant) :
    Executor × Outcome α :=
  match e.key, e.cached with
  | some key, some entry =>
    let (cache, refreshed) := x.cache.refreshAge now key
    let payload := (refreshed.getD entry).payload
    ({ x with cache }, readResult e status true (e.command.parse payload true))
  | _, _ => (x, .ended (.unconfirmed e.request.url))

/-- Takes in the head of an answer. The body is waited for unless the head says it all or the
command wants to take the answer from there. -/
def receiveHead (x : Executor) (f : Flight α) (head : ResponseHead) (now : Instant) :
    Executor × Progress (Flight α) (Outcome α) :=
  let x := x.heed head.headers
  let e := f.exchange
  if head.status = Status.notModified then
    let (x, outcome) := x.confirm e head.status now
    (x, .done outcome)
  else if head.status.isSuccess && e.command.disposal == .manual then
    (x, .done (readResult e head.status false (e.command.take head)))
  else (x, .waiting { f with head := some head })

def keep (x : Executor) (e : Exchange α) (head : ResponseHead) (body : Bytes) (now : Instant) :
    Executor :=
  match e.key, head.headers.text? Headers.etag with
  | some key, some etag => { x with cache := x.cache.put now key etag body }
  | _, _ => x

/-- Takes in the body of a success. Only an answer with a result is kept. -/
def receiveResult (x : Executor) (e : Exchange α) (head : ResponseHead)
    (body : Except TransportFailure Bytes) (now : Instant) : Executor × Outcome α :=
  match body with
  | .error failure => (x, .failed (.transport failure))
  | .ok bytes =>
    match e.command.parse bytes false with
    | .error cause => (x, .ended (.unreadable e.request.url cause))
    | .ok result => (x.keep e head bytes now, .answered result head.status false)

/-- The outcome of an answer that is no success. A body that cannot be read counts as empty. -/
def refusal (status : Status) (body : Except TransportFailure Bytes) : Outcome α :=
  let error := ServerError.ofAnswer status (body.toOption.getD [])
  if status.isServerError then .failed (.serverFailed error) else .ended (.rejected error)

def receiveBody (x : Executor) (e : Exchange α) (head : ResponseHead)
    (body : Except TransportFailure Bytes) (now : Instant) : Executor × Outcome α :=
  if head.status.isSuccess then x.receiveResult e head body now else (x, refusal head.status body)

/-- What a signal means for a request that was sent. Signals for others change nothing. -/
def advanceFlight (x : Executor) (f : Flight α) (signal : Signal) (now : Instant) :
    Executor × Progress (Flight α) (Outcome α) :=
  match signal, f.head, f.limit with
  | .head ticket (.ok head), none, _ =>
    if ticket = f.ticket then x.receiveHead f head now else (x, .waiting f)
  | .head ticket (.error failure), none, _ =>
    if ticket = f.ticket then (x, .done (.failed (.transport failure))) else (x, .waiting f)
  | .body ticket body, some head, _ =>
    if ticket = f.ticket then
      let (x, outcome) := x.receiveBody f.exchange head body now
      (x, .done outcome)
    else (x, .waiting f)
  | .expired ticket, _, some limit =>
    if ticket = f.ticket then (x, .done (.failed (.expired limit))) else (x, .waiting f)
  | _, _, _ => (x, .waiting f)

end Executor

end ClusterClient
