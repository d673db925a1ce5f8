import ClusterClient.Proofs.Executor.Attempts
import ClusterClient.Proofs.Selector.Plans

/-!
# Trying one node after the other

A call on its plan, once the topology is known.  The nodes that fail are a prefix
of the plan; the first node that does not fail decides.  From the responses alone
follow the requests that leave, the marks, what listeners are told, whether the
topology counts as out of date, and what the caller gets.
-/

namespace ClusterClient

/-- One node's turn in a call. -/
structure Try (α : Type) where
  /-- Counted from one. -/
  number : Nat
  exchange : Exchange α
  wire : Wire
  response : Response
  /-- When the call turned to the node. -/
  start : Moment

namespace Try

variable {α : Type}

def outcome (t : Try α) : Outcome α := t.exchange.outcome t.response

def dispatch (t : Try α) : Dispatch :=
  { purpose := .command, node := t.exchange.node, wire := t.wire, limit := none }

def events (t : Try α) : List Event :=
  let url := t.exchange.request.url
  match t.outcome with
  | .answered _ status _ => [.before url t.number, .succeeded url t.number status]
  | .failed reason => [.before url t.number, .failed url t.number reason]
  | .ended fault => [.before url t.number, .failed url t.number (.fault fault)]

def failure? (t : Try α) : Option NodeFailure :=
  match t.outcome with
  | .failed reason => some ⟨t.exchange.node.url, reason⟩
  | _ => none

def verdict? (t : Try α) : Option (Except ExecutorError (Executed α)) :=
  match t.outcome with
  | .answered result status fromCache =>
    some (.ok
      { result, status := some status, node := t.exchange.node, fromCache, attempts := t.number })
  | .failed _ => none
  | .ended fault => some (.error (.fault fault))

def failing (ts : List (Try α)) : List (Try α) := ts.takeWhile (·.outcome.isFailure)

def deciding? (ts : List (Try α)) : Option (Try α) := ts.find? (!·.outcome.isFailure)

def asked (ts : List (Try α)) : List (Try α) := failing ts ++ (deciding? ts).toList

theorem asked_cons_of_isFailure {t : Try α} (ht : t.outcome.isFailure = true)
    (ts : List (Try α)) :
    failing (t :: ts) = t :: failing ts ∧ deciding? (t :: ts) = deciding? ts ∧
      asked (t :: ts) = t :: asked ts := by
  simp [asked, failing, deciding?, ht]

theorem asked_cons_of_not_isFailure {t : Try α} (ht : t.outcome.isFailure = false)
    (ts : List (Try α)) :
    failing (t :: ts) = [] ∧ deciding? (t :: ts) = some t ∧ asked (t :: ts) = [t] := by
  simp [asked, failing, deciding?, ht]

theorem mem_asked_cons (t : Try α) (ts : List (Try α)) : t ∈ asked (t :: ts) := by
  cases ht : t.outcome.isFailure with
  | true => rw [(asked_cons_of_isFailure ht ts).2.2]; exact List.mem_cons_self
  | false => rw [(asked_cons_of_not_isFailure ht ts).2.2]; exact List.mem_cons_self

end Try

/-- The turns of these nodes, from a number and a request on, if all of them came. -/
def Surroundings.tries {α : Type} (w : Surroundings) (exchange : Node → Exchange α)
    (wire : Exchange α → Wire) (number ticket : Nat) (start : Moment) : List Node → List (Try α)
  | [] => []
  | node :: rest =>
    let e := exchange node
    let response := w.response ticket (wire e)
    { number, exchange := e, wire := wire e, response, start } ::
      w.tries exchange wire (number + 1) (ticket + 1)
        (e.settledAt response (w.headAt ticket) (w.bodyAt ticket)) rest

/-- What a call leaves behind that began its tries after some nodes had failed already. -/
structure RetryContract {α : Type} (command : Command α) (x : Executor)
    (earlier : List NodeFailure) (nodes : List Node) (ts : List (Try α)) (y : Executor)
    (r : Except ExecutorError (Executed α)) : Prop where
  /-- One request goes to each node up to the deciding one, in order, and none to another. -/
  nodes_asked : (Try.asked ts).map (·.exchange.node) = nodes.take (Try.asked ts).length
  sent : y.sent = ((Try.asked ts).map Try.dispatch).reverse ++ x.sent
  raftRequestId : ∀ id, command.raftRequestId = some id → ∀ t ∈ Try.asked ts,
    (Headers.raftRequestId, Bytes.ofString id) ∈ t.wire.headers
  /-- The failing nodes are marked; only a result takes a mark off. -/
  failed : ∀ key, key ∈ y.selector.failed ↔
    (∃ t ∈ Try.failing ts, t.exchange.node.key = key) ∨
    (key ∈ x.selector.failed ∧
      ∀ t ∈ Try.deciding? ts, t.outcome.isAnswered = true → t.exchange.node.key ≠ key)
  events : y.events = ((Try.asked ts).flatMap Try.events).reverse ++ x.events
  stale : y.stale = (x.stale || (Try.deciding? ts).isNone)
  /-- The caller gets the verdict of the deciding node, or else every failure. -/
  result : r = ((Try.deciding? ts).bind Try.verdict?).getD
    (.error (.allNodesUnreachable (earlier ++ ts.filterMap Try.failure?)))

namespace Executor

variable {α : Type} {w : Surroundings} {command : Command α} {options : Options}

/-! ## One try -/

theorem raftRequestId_mem_wire (x : Executor) (e : Exchange α) {id : String}
    (hid : e.command.raftRequestId = some id) :
    (Headers.raftRequestId, Bytes.ofString id) ∈ (x.wire e).headers := by
  simp [wire, headers, hid, Headers.add]

/-- What a failing try makes of the executor. -/
structure FailedOn (x : Executor) (t : Try α) (z : Executor) : Prop where
  sent : z.sent = t.dispatch :: x.sent
  events : z.events = t.events.reverse ++ x.events
  stale : z.stale = x.stale
  selector : z.selector = x.selector.markFailed t.exchange.node
  cache : z.cache = x.cache
  conventions : z.conventions = x.conventions
  pool : x.pool.open? t.exchange.request.url = some z.pool
  wire : (z.wire : Exchange α → Wire) = x.wire

theorem ends_attempt_of_failed (x : Executor) (number : Nat) (earlier : List NodeFailure)
    (node : Node) (rest : List Node) (m : Moment) {e : Exchange α} {pause : Duration}
    {reason : FailureReason}
    (hexchange : x.prepare command node options.noCaching = .ok e)
    (hclient : (x.pool.open? e.request.url).isSome = true)
    (hyoung : x.youngAnswer? e m.now = none)
    (hpause : x.conventions.backoff.delayBefore number m.jitter = .ok pause)
    (hfailed : e.outcome (w.response x.sent.length (x.wire e)) = .failed reason) :
    let response := w.response x.sent.length (x.wire e)
    let t : Try α := { number, exchange := e, wire := x.wire e, response, start := m }
    ∃ z, x.FailedOn t z ∧ ∀ y r,
      Ends w command options (x.attempt command options number earlier (node :: rest) m) y r ↔
      Ends w command options (z.attempt command options (number + 1)
        (earlier ++ [⟨e.node.url, reason⟩]) rest
        (e.settledAt response (w.headAt x.sent.length) (w.bodyAt x.sent.length))) y r := by
  intro response t
  obtain ⟨pool, mailbox, phase, hpool, hends⟩ :=
    ends_attempt_cons (w := w) x number earlier node rest m hexchange hclient hyoung hpause
  let z : Executor := (markFailed { x with
      pool, mailbox
      sent := t.dispatch :: x.sent
      events := .before e.request.url number :: x.events } e.node).emit
    (.failed e.request.url number reason)
  have houtcome : t.outcome = .failed reason := hfailed
  refine ⟨z, ⟨rfl, ?_, rfl, rfl, rfl, rfl, hpool, ?_⟩, fun y r => ?_⟩
  · rw [Try.events, houtcome]
    rfl
  · funext e'
    simp [wire, headers, topology, z, emit, markFailed]
  · have hcache : e.cacheAfter x.cache response (w.headAt x.sent.length) (w.bodyAt x.sent.length) =
        x.cache :=
      Exchange.cacheAfter_of_isFailure (show t.outcome.isFailure = true by rw [houtcome]; rfl) _ _ _
    rw [hends, hcache, hfailed]
    rfl

end Executor

/-! ## The contract, one try at a time -/

section Contract

variable {α : Type} {command : Command α} {x y z : Executor} {t : Try α} {ts : List (Try α)}
  {rest : List Node} {earlier : List NodeFailure}

/-- A failing try comes before what the contract says of the others. -/
theorem RetryContract.cons {reason : FailureReason} {r : Except ExecutorError (Executed α)}
    (hfailed : t.outcome = .failed reason) (hz : x.FailedOn t z)
    (hmember : t.exchange.node.key ∈ x.topology.keys)
    (hraft : ∀ id, command.raftRequestId = some id →
      (Headers.raftRequestId, Bytes.ofString id) ∈ t.wire.headers)
    (hdistinct : ∀ t' ∈ ts, t'.exchange.node.key ≠ t.exchange.node.key)
    (h : RetryContract command z (earlier ++ [⟨t.exchange.node.url, reason⟩]) rest ts y r) :
    RetryContract command x earlier (t.exchange.node :: rest) (t :: ts) y r := by
  have ht : t.outcome.isFailure = true := by rw [hfailed]; rfl
  obtain ⟨hfailing, hdeciding, hasked⟩ := Try.asked_cons_of_isFailure ht ts
  have hmarks : ∀ key, key ∈ z.selector.failed ↔
      key ∈ x.selector.failed ∨ key = t.exchange.node.key := by
    intro key
    rw [hz.selector, Selector.mem_failed_markFailed]
    exact or_congr_right (and_iff_left hmember)
  constructor
  · rw [hasked, List.map_cons, List.length_cons, List.take_succ_cons, h.nodes_asked]
  · rw [hasked, h.sent, hz.sent]
    simp
  · intro id hid t' ht'
    rw [hasked] at ht'
    rcases List.mem_cons.mp ht' with rfl | hmem
    · exact hraft id hid
    · exact h.raftRequestId id hid t' hmem
  · intro key
    rw [h.failed key, hmarks key, hfailing, hdeciding]
    constructor
    · rintro (⟨t', ht', rfl⟩ | ⟨hmarked | rfl, hkept⟩)
      · exact Or.inl ⟨t', List.mem_cons_of_mem t ht', rfl⟩
      · exact Or.inr ⟨hmarked, hkept⟩
      · exact Or.inl ⟨t, List.mem_cons_self, rfl⟩
    · rintro (⟨t', ht', rfl⟩ | ⟨hmarked, hkept⟩)
      · rcases List.mem_cons.mp ht' with rfl | hmem
        · exact Or.inr ⟨Or.inr rfl, fun d hd _ => hdistinct d (List.mem_of_find?_eq_some hd)⟩
        · exact Or.inl ⟨t', hmem, rfl⟩
      · exact Or.inr ⟨Or.inl hmarked, hkept⟩
  · rw [hasked, h.events, hz.events]
    simp
  · rw [h.stale, hz.stale, hdeciding]
  · have hfailure : t.failure? = some ⟨t.exchange.node.url, reason⟩ := by
      rw [Try.failure?, hfailed]
    rw [h.result, hdeciding, List.filterMap_cons_some hfailure, List.append_assoc]
    rfl

theorem RetryContract.of_verdict (ts : List (Try α)) (rest : List Node)
    (earlier : List NodeFailure) {r : Except ExecutorError (Executed α)}
    (hdecides : t.outcome.isFailure = false) (hverdict : t.verdict? = some r)
    (hsent : y.sent = t.dispatch :: x.sent) (hevents : y.events = t.events.reverse ++ x.events)
    (hstale : y.stale = x.stale)
    (hmarks : ∀ key, key ∈ y.selector.failed ↔ key ∈ x.selector.failed ∧
      (t.outcome.isAnswered = true → t.exchange.node.key ≠ key))
    (hraft : ∀ id, command.raftRequestId = some id →
      (Headers.raftRequestId, Bytes.ofString id) ∈ t.wire.headers) :
    RetryContract command x earlier (t.exchange.node :: rest) (t :: ts) y r := by
  obtain ⟨hfailing, hdeciding, hasked⟩ := Try.asked_cons_of_not_isFailure hdecides ts
  constructor
  · rw [hasked]; rfl
  · rw [hasked]; exact hsent
  · intro id hid t' ht'
    rw [hasked, List.mem_singleton] at ht'
    rw [ht']
    exact hraft id hid
  · intro key
    rw [hfailing, hdeciding, hmarks key]
    simp
  · rw [hasked, hevents]
    simp
  · rw [hdeciding, hstale]
    simp
  · rw [hdeciding, Option.bind_some, hverdict]
    rfl

/-- A try that is no failure ends the call as the contract says. -/
theorem RetryContract.of_deciding (ts : List (Try α)) (rest : List Node)
    (earlier : List NodeFailure) (c : Execution α) (m : Moment)
    (hdecides : t.outcome.isFailure = false)
    (hsent : z.sent = t.dispatch :: x.sent)
    (hevents : z.events = .before t.exchange.request.url t.number :: x.events)
    (hstale : z.stale = x.stale) (hmarks : z.selector.failed = x.selector.failed)
    (hraft : ∀ id, command.raftRequestId = some id →
      (Headers.raftRequestId, Bytes.ofString id) ∈ t.wire.headers) :
    ∃ y r, z.concludeAttempt c { attempt := t.number, rest, failures := earlier } t.exchange
        t.outcome m = (y, .done r) ∧
      RetryContract command x earlier (t.exchange.node :: rest) (t :: ts) y r := by
  cases houtcome : t.outcome with
  | failed reason => simp [houtcome, Outcome.isFailure] at hdecides
  | answered result status fromCache =>
    refine ⟨_, _, rfl, .of_verdict ts rest earlier hdecides ?_ hsent ?_ hstale ?_ hraft⟩
    · rw [Try.verdict?, houtcome]
    · rw [Try.events, houtcome, Executor.emit, Executor.restore, hevents]
      rfl
    · intro key
      rw [Executor.emit, Executor.restore, Selector.mem_failed_restore, hmarks, houtcome, ne_comm]
      simp [Outcome.isAnswered]
  | ended fault =>
    refine ⟨_, _, rfl, .of_verdict ts rest earlier hdecides ?_ hsent ?_ hstale ?_ hraft⟩
    · rw [Try.verdict?, houtcome]
    · rw [Try.events, houtcome, Executor.emit, hevents]
      rfl
    · intro key
      rw [Executor.emit, hmarks, houtcome]
      simp [Outcome.isAnswered]

theorem RetryContract.of_nil : RetryContract command x earlier [] ([] : List (Try α))
    { x with stale := true } (.error (.allNodesUnreachable earlier)) := by
  constructor <;> simp [Try.asked, Try.failing, Try.deciding?]

theorem RetryContract.ne_overflow {nodes : List Node} {r : Except ExecutorError (Executed α)}
    (h : RetryContract command x earlier nodes ts y r) (cause : TimeError) :
    r ≠ .error (.overflow cause) := by
  rw [h.result]
  cases Try.deciding? ts with
  | none => simp
  | some t =>
    cases houtcome : t.outcome <;> simp [Try.verdict?, houtcome]

end Contract

/-! ## All tries -/

theorem Surroundings.exists_exchange_of_mem_tries {α : Type} {w : Surroundings}
    {exchange : Node → Exchange α} {wire : Exchange α → Wire} {nodes : List Node} {t : Try α} :
    ∀ {number ticket : Nat} {start : Moment},
      t ∈ w.tries exchange wire number ticket start nodes →
        ∃ node ∈ nodes, t.exchange = exchange node := by
  induction nodes with
  | nil =>
    intro _ _ _ ht
    cases ht
  | cons node rest ih =>
    intro _ _ _ ht
    rcases List.mem_cons.mp ht with rfl | hmem
    · exact ⟨node, List.mem_cons_self, rfl⟩
    · obtain ⟨other, hother, heq⟩ := ih hmem
      exact ⟨other, List.mem_cons_of_mem node hother, heq⟩

namespace Executor

variable {α : Type} {w : Surroundings} {command : Command α} {options : Options}

def delay (x : Executor) (t : Try α) : Except TimeError Duration :=
  x.conventions.backoff.delayBefore t.number t.start.jitter

/-- Every one of these nodes, members of the topology and all different, can be sent a request. -/
structure Reaches (x : Executor) (command : Command α) (options : Options)
    (exchange : Node → Exchange α) (nodes : List Node) : Prop where
  exchanges : ∀ node ∈ nodes, x.prepare command node options.noCaching = .ok (exchange node)
  clients : ∀ node ∈ nodes, (x.pool.open? (exchange node).request.url).isSome = true
  distinct : (nodes.map Node.key).Nodup
  members : ∀ node ∈ nodes, node.key ∈ x.topology.keys

theorem Reaches.of_failed {x z : Executor} {exchange : Node → Exchange α} {node : Node}
    {rest : List Node} {t : Try α} (h : x.Reaches command options exchange (node :: rest))
    (hz : x.FailedOn t z) : z.Reaches command options exchange rest where
  exchanges other hother := by
    rw [← h.exchanges other (List.mem_cons_of_mem node hother)]
    unfold prepare
    rw [hz.cache]
  clients other hother :=
    isSome_open?_of_isSome hz.pool (h.clients other (List.mem_cons_of_mem node hother))
  distinct := (List.nodup_cons.mp h.distinct).2
  members other hother := by
    rw [topology, hz.selector, Selector.topology_markFailed]
    exact h.members other (List.mem_cons_of_mem node hother)

theorem Reaches.ne_of_mem_tries {x : Executor} {exchange : Node → Exchange α} {node : Node}
    {rest : List Node} (h : x.Reaches command options exchange (node :: rest))
    {wire : Exchange α → Wire} {number ticket : Nat} {start : Moment} {t : Try α}
    (ht : t ∈ w.tries exchange wire number ticket start rest) :
    t.exchange.node.key ≠ node.key := by
  obtain ⟨other, hother, heq⟩ := Surroundings.exists_exchange_of_mem_tries ht
  have hnode := (prepare_eq_ok (h.exchanges other (List.mem_cons_of_mem node hother))).2.1
  rw [heq, hnode]
  intro hkey
  exact (List.nodup_cons.mp h.distinct).1 (hkey ▸ List.mem_map_of_mem hother)

theorem ends_attempt_of_deciding (x : Executor) (number : Nat) (earlier : List NodeFailure)
    (node : Node) (rest : List Node) (m : Moment) {e : Exchange α} {pause : Duration}
    (hexchange : x.prepare command node options.noCaching = .ok e)
    (hclient : (x.pool.open? e.request.url).isSome = true)
    (hyoung : x.youngAnswer? e m.now = none)
    (hpause : x.conventions.backoff.delayBefore number m.jitter = .ok pause) (ts : List (Try α))
    (hdecides : (e.outcome (w.response x.sent.length (x.wire e))).isFailure = false) :
    let response := w.response x.sent.length (x.wire e)
    let t : Try α := { number, exchange := e, wire := x.wire e, response, start := m }
    ∃ y r, Ends w command options (x.attempt command options number earlier (node :: rest) m) y r ∧
      RetryContract command x earlier (node :: rest) (t :: ts) y r := by
  intro response t
  obtain ⟨hcommand, rfl, -⟩ := prepare_eq_ok hexchange
  obtain ⟨pool, mailbox, phase, -, hends⟩ :=
    ends_attempt_cons (w := w) x number earlier e.node rest m hexchange hclient hyoung hpause
  let headAt := w.headAt x.sent.length
  let bodyAt := w.bodyAt x.sent.length
  let z : Executor := { x with
    pool, mailbox
    cache := e.cacheAfter x.cache response headAt bodyAt
    sent := t.dispatch :: x.sent
    events := .before e.request.url number :: x.events }
  obtain ⟨y, r, hdone, hcontract⟩ := RetryContract.of_deciding (x := x) (z := z) (t := t) ts rest
    earlier ⟨command, options, phase⟩ (e.settledAt response headAt bodyAt) hdecides rfl rfl rfl rfl
    fun id hid => x.raftRequestId_mem_wire e (by rw [hcommand]; exact hid)
  refine ⟨y, r, (hends y r).mpr ?_, hcontract⟩
  exact (congrArg (fun next => Ends w command options next y r) hdone).mpr (.done y r)

/-- The attempts on these nodes end: as the contract says if there is a delay before every try that
takes place, and with a time out of range if there is none before some. -/
def Settles (w : Surroundings) (command : Command α) (options : Options)
    (exchange : Node → Exchange α) (x : Executor) (number : Nat) (earlier : List NodeFailure)
    (m : Moment) (nodes : List Node) : Prop :=
  let ts := w.tries exchange x.wire number x.sent.length m nodes
  (∀ t ∈ Try.asked ts, x.youngAnswer? t.exchange t.start.now = none) →
  ((∀ t ∈ Try.asked ts, ∃ pause, x.delay t = .ok pause) →
    ∃ y r, Ends w command options (x.attempt command options number earlier nodes m) y r ∧
      RetryContract command x earlier nodes ts y r) ∧
  ((∃ t ∈ Try.asked ts, ∀ pause, x.delay t ≠ .ok pause) →
    ∃ y cause, Ends w command options (x.attempt command options number earlier nodes m) y
      (.error (.overflow cause)))

section Step

variable {exchange : Node → Exchange α} {x : Executor} {number : Nat} {earlier : List NodeFailure}
  {m : Moment} {node : Node} {rest : List Node}

theorem settles_of_no_delay {cause : TimeError}
    (hreaches : x.Reaches command options exchange (node :: rest))
    (hdelay : x.conventions.backoff.delayBefore number m.jitter = .error cause) :
    Settles w command options exchange x number earlier m (node :: rest) := by
  unfold Settles
  intro ts hyoung
  let e := exchange node
  let response := w.response x.sent.length (x.wire e)
  let t : Try α := { number, exchange := e, wire := x.wire e, response, start := m }
  obtain ⟨others, hts⟩ : ∃ others, ts = t :: others := ⟨_, rfl⟩
  have hfirst : t ∈ Try.asked ts := hts ▸ Try.mem_asked_cons t others
  constructor
  · intro hall
    obtain ⟨pause, hpause⟩ := hall t hfirst
    exact absurd (hdelay.symm.trans hpause) (by simp)
  · intro _
    refine ⟨x, cause, ?_⟩
    rw [attempt_of_no_delay (hreaches.exchanges node List.mem_cons_self) (hyoung t hfirst) hdelay]
    exact .done _ _

theorem settles_of_deciding {pause : Duration}
    (hreaches : x.Reaches command options exchange (node :: rest))
    (hdelay : x.conventions.backoff.delayBefore number m.jitter = .ok pause)
    (hdecides : ((exchange node).outcome
      (w.response x.sent.length (x.wire (exchange node)))).isFailure = false) :
    Settles w command options exchange x number earlier m (node :: rest) := by
  unfold Settles
  intro ts hyoung
  let e := exchange node
  let response := w.response x.sent.length (x.wire e)
  let t : Try α := { number, exchange := e, wire := x.wire e, response, start := m }
  obtain ⟨others, hts⟩ : ∃ others, ts = t :: others := ⟨_, rfl⟩
  have hasked : Try.asked (t :: others) = [t] :=
    (Try.asked_cons_of_not_isFailure (t := t) hdecides others).2.2
  rw [hts, hasked] at hyoung ⊢
  constructor
  · intro _
    exact ends_attempt_of_deciding x number earlier node rest m
      (hreaches.exchanges node List.mem_cons_self) (hreaches.clients node List.mem_cons_self)
      (hyoung t List.mem_cons_self) hdelay others hdecides
  · rintro ⟨t', ht', hnone⟩
    rw [List.mem_singleton.mp ht'] at hnone
    exact absurd hdelay (hnone pause)

/-- If the first node fails, what becomes of the call is what becomes of it on the others. -/
theorem settles_of_failed {pause : Duration} {reason : FailureReason}
    (hreaches : x.Reaches command options exchange (node :: rest))
    (hdelay : x.conventions.backoff.delayBefore number m.jitter = .ok pause)
    (hfailed : (exchange node).outcome (w.response x.sent.length (x.wire (exchange node))) =
      .failed reason)
    (hrest : ∀ (z : Executor) (earlier : List NodeFailure) (m : Moment),
      z.Reaches command options exchange rest →
      Settles w command options exchange z (number + 1) earlier m rest) :
    Settles w command options exchange x number earlier m (node :: rest) := by
  unfold Settles
  intro ts hyoung
  let e := exchange node
  let response := w.response x.sent.length (x.wire e)
  let t : Try α := { number, exchange := e, wire := x.wire e, response, start := m }
  let settled := e.settledAt response (w.headAt x.sent.length) (w.bodyAt x.sent.length)
  let others := w.tries exchange x.wire (number + 1) (x.sent.length + 1) settled rest
  have houtcome : t.outcome = .failed reason := hfailed
  have hts : ts = t :: others := rfl
  have hasked : Try.asked ts = t :: Try.asked others :=
    (Try.asked_cons_of_isFailure (by rw [houtcome]; rfl) others).2.2
  rw [hasked] at hyoung ⊢
  have hexchange : x.prepare command node options.noCaching = .ok e :=
    hreaches.exchanges node List.mem_cons_self
  obtain ⟨hcommand, hnode, -⟩ := prepare_eq_ok hexchange
  obtain ⟨z, hz, hnext⟩ := ends_attempt_of_failed (w := w) x number earlier node rest m hexchange
    (hreaches.clients node List.mem_cons_self) (hyoung t List.mem_cons_self) hdelay hfailed
  -- What the failure leaves behind changes neither the requests to the others nor their answers.
  have hothers : w.tries exchange z.wire (number + 1) z.sent.length settled rest = others := by
    rw [hz.wire, hz.sent]
    rfl
  have hsame : ∀ t' : Try α, z.delay t' = x.delay t' := fun t' => by
    rw [delay, hz.conventions, delay]
  have hyoungOthers : ∀ t' ∈ Try.asked others, z.youngAnswer? t'.exchange t'.start.now = none := by
    intro t' ht'
    have h := hyoung t' (List.mem_cons_of_mem t ht')
    rwa [youngAnswer?, hz.conventions]
  obtain ⟨hdelays, hoverflow⟩ := hrest z (earlier ++ [⟨e.node.url, reason⟩]) settled
    (hreaches.of_failed hz) (by rwa [hothers])
  rw [hothers] at hdelays hoverflow
  constructor
  · intro hall
    obtain ⟨y, r, hrun, hcontract⟩ := hdelays fun t' ht' =>
      hsame t' ▸ hall t' (List.mem_cons_of_mem t ht')
    have hmember : t.exchange.node.key ∈ x.topology.keys :=
      hnode ▸ hreaches.members node List.mem_cons_self
    have hnodes : node :: rest = t.exchange.node :: rest := by rw [hnode]
    refine ⟨y, r, (hnext y r).mpr hrun, ?_⟩
    rw [hts, hnodes]
    refine hcontract.cons houtcome hz hmember ?_ ?_
    · exact fun id hid => x.raftRequestId_mem_wire e (by rw [hcommand]; exact hid)
    · intro t' ht'
      rw [show t.exchange.node = node from hnode]
      exact hreaches.ne_of_mem_tries ht'
  · rintro ⟨t', ht', hnone⟩
    rcases List.mem_cons.mp ht' with rfl | hmem
    · exact absurd hdelay (hnone pause)
    · obtain ⟨y, cause, hrun⟩ := hoverflow ⟨t', hmem, fun p => hsame t' ▸ hnone p⟩
      exact ⟨y, cause, (hnext _ _).mpr hrun⟩

end Step

theorem settles (exchange : Node → Exchange α) (nodes : List Node) :
    ∀ (x : Executor) (number : Nat) (earlier : List NodeFailure) (m : Moment),
    x.Reaches command options exchange nodes →
    Settles w command options exchange x number earlier m nodes := by
  induction nodes with
  | nil =>
    intro x number earlier m _
    unfold Settles
    intro ts _
    refine ⟨fun _ => ⟨_, _, .done _ _, .of_nil⟩, ?_⟩
    rintro ⟨t, ht, -⟩
    cases ht
  | cons node rest ih =>
    intro x number earlier m hreaches
    cases hdelay : x.conventions.backoff.delayBefore number m.jitter with
    | error cause => exact settles_of_no_delay hreaches hdelay
    | ok pause =>
      cases houtcome : (exchange node).outcome
          (w.response x.sent.length (x.wire (exchange node))) with
      | failed reason =>
        exact settles_of_failed hreaches hdelay houtcome fun z earlier m =>
          ih z (number + 1) earlier m
      | answered _ _ _ => exact settles_of_deciding hreaches hdelay (by rw [houtcome]; rfl)
      | ended _ => exact settles_of_deciding hreaches hdelay (by rw [houtcome]; rfl)

/-! ## The call -/

theorem route_spec {x : Executor} {session : Option Int} {nodes : List Node}
    (h : (x.route command session).2 = .ok nodes) :
    ∃ turn, (x.route command session).1 = { x with selector := { x.selector with turn } } ∧
      (nodes.map Node.key).Nodup ∧ ∀ node ∈ nodes, node ∈ x.topology.nodes := by
  unfold route at h ⊢
  cases htag : command.nodeTag with
  | some tag =>
    simp only [htag] at h ⊢
    cases htagged : x.selector.taggedNode? tag with
    | none =>
      rw [htagged] at h
      cases h
    | some place =>
      obtain ⟨i, node⟩ := place
      rw [htagged] at h
      cases h
      refine ⟨x.selector.turn, rfl, by simp, ?_⟩
      intro other hother
      rw [List.mem_singleton.mp hother]
      obtain ⟨j, -, hj⟩ := List.mem_filterMap.mp (List.mem_of_find?_eq_some htagged)
      obtain ⟨found, hfound, heq⟩ := Option.map_eq_some_iff.mp hj
      cases heq
      exact List.mem_of_getElem? hfound
  | none =>
    simp only [htag] at h ⊢
    obtain ⟨turn, hplan⟩ := x.selector.plan_eq command.isRead x.readBalance session
    have hperm := x.selector.perm_plan command.isRead x.readBalance session
    refine ⟨turn, by rw [hplan], ?_⟩
    split at h
    · cases h
    · cases h
      exact ⟨(hperm.map Node.key).nodup_iff.mpr x.topology.distinct, fun node => hperm.mem_iff.mp⟩

/-- A call on its plan, once the topology is known, with no deadline and no young cached answer.  It
keeps the contract exactly if there is a delay before every node that it asks: there is none where a
delay and what is added to it at random are together longer than the longest duration. -/
theorem follow_keeps_contract_iff (x : Executor) (command : Command α) (options : Options)
    (m : Moment) (w : Surroundings) (nodes : List Node) (exchange : Node → Exchange α)
    (hroute : (x.route command options.session).2 = .ok nodes)
    (hexchange : ∀ node ∈ nodes, x.prepare command node options.noCaching = .ok (exchange node))
    (hclients : ∀ node ∈ nodes, (x.pool.open? (exchange node).request.url).isSome = true)
    (hyoung : ∀ t ∈ Try.asked (w.tries exchange x.wire 1 x.sent.length m nodes),
      x.youngAnswer? t.exchange t.start.now = none) :
    let ts := w.tries exchange x.wire 1 x.sent.length m nodes
    (∃ y r, Ends w command options (x.follow command options m) y r ∧
      RetryContract command x [] nodes ts y r) ↔
    ∀ t ∈ Try.asked ts, ∃ pause,
      x.conventions.backoff.delayBefore t.number t.start.jitter = .ok pause := by
  intro ts
  obtain ⟨turn, hrouted, hdistinct, hmembers⟩ := route_spec hroute
  let z : Executor := { x with selector := { x.selector with turn } }
  have hfollow : x.follow command options m = z.attempt command options 1 [] nodes m := by
    unfold follow
    rw [show x.route command options.session = (z, .ok nodes) from Prod.ext hrouted hroute]
  have hreaches : z.Reaches command options exchange nodes :=
    ⟨hexchange, hclients, hdistinct, fun node hnode => Topology.key_mem_keys (hmembers node hnode)⟩
  obtain ⟨hdelays, hoverflow⟩ := settles (w := w) exchange nodes z 1 [] m hreaches hyoung
  rw [hfollow]
  constructor
  · rintro ⟨y, r, hrun, hcontract⟩ t ht
    cases hdelay : x.conventions.backoff.delayBefore t.number t.start.jitter with
    | ok pause => exact ⟨pause, rfl⟩
    | error cause =>
      have hnone : ∀ pause, z.delay t ≠ .ok pause := by
        intro pause hpause
        rw [show z.delay t = .error cause from hdelay] at hpause
        cases hpause
      obtain ⟨y', cause', hrun'⟩ := hoverflow ⟨t, ht, hnone⟩
      exact absurd (hrun'.unique hrun).2 (hcontract.ne_overflow cause')
  · intro hall
    obtain ⟨y, r, hrun, h⟩ := hdelays hall
    exact ⟨y, r, hrun, h.nodes_asked, h.sent, h.raftRequestId,
      h.failed, h.events, h.stale, h.result⟩

/-- Two nodes that cannot be reached are both asked without a pause; with the longest durations for
a pause there is none before the second node, and the contract is broken. -/
theorem follow_keeps_contract_iff_longest :
    let host := fun name => ⟨"http", some ⟨"", "", .name name, some 8080⟩, "/", none, none⟩
    let x := fun backoff => Executor.new (.database "db") "app" [host "a", host "b"]
      { disableTopologyUpdates := true, backoff } none
    let command : Command Bytes :=
      { request := fun node => .ok (.get node.url), parse := fun body _ => .ok body,
        isRead := true }
    let m : Moment := ⟨0, Duration.half⟩
    let w : Surroundings :=
      { response := fun _ _ => ⟨.error .connectionFailed, .error .broken⟩
        headAt := fun _ => m, bodyAt := fun _ => m, resumedAt := fun _ => m }
    let nodes := (x .none).topology.nodes
    let exchange := fun node : Node =>
      { command, node, request := .get node.url, key := some (.of "GET" node.url.text none)
        cached := none : Exchange Bytes }
    let Keeps := fun backoff => ∃ y r,
      Ends w command {} ((x backoff).follow command {} m) y r ∧
        RetryContract command (x backoff) [] nodes
          (w.tries exchange (x backoff).wire 1 0 m nodes) y r
    Keeps .none ∧ ¬Keeps (.exponential .longest .longest) := by
  intro host x command m w nodes exchange Keeps
  have hroute : ∀ backoff, ((x backoff).route command none).2 = .ok nodes := fun _ => rfl
  have hexchange : ∀ backoff, ∀ node ∈ nodes,
      (x backoff).prepare command node false = .ok (exchange node) := fun _ _ _ => rfl
  have hclients : ∀ backoff, ∀ node ∈ nodes,
      ((x backoff).pool.open? (exchange node).request.url).isSome = true := fun _ _ _ => rfl
  have h := fun backoff => follow_keeps_contract_iff (x backoff) command {} m w nodes exchange
    (hroute backoff) (hexchange backoff) (hclients backoff)
  constructor
  · refine (h .none (by decide +kernel)).mpr fun t _ => ⟨.zero, ?_⟩
    have hbackoff : (x .none).conventions.backoff = .none := rfl
    rw [hbackoff, Backoff.delayBefore]
    split <;> rfl
  · intro hkeeps
    have hall := (h (.exponential .longest .longest) (by decide +kernel)).mp hkeeps
    have hnone : ∃ t ∈ Try.asked (w.tries exchange
        (x (.exponential .longest .longest)).wire 1 0 m nodes),
        (Backoff.exponential .longest .longest).delayBefore t.number t.start.jitter =
          .error .durationOverflow := by decide +kernel
    obtain ⟨t, ht, hoverflow⟩ := hnone
    obtain ⟨pause, hpause⟩ := hall t ht
    exact absurd (hoverflow.symm.trans hpause) (by simp)

end Executor

end ClusterClient
