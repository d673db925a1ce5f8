import ClusterClient.Proofs.Executor.Servers

/-!
# Executors with and without a cache

Two executors that are the same but for what they cached, what they left to the
background, the conditions of their requests and the statuses of successes.  All
that a call does to one of them it does to the other.
-/

namespace ClusterClient

def Dispatch.unconditional (d : Dispatch) : Dispatch :=
  { d with wire := { d.wire with
      headers := d.wire.headers.filter (·.1 != Headers.ifNoneMatch) } }

def Event.plain : Event → Event
  | .succeeded url attempt _ => .succeeded url attempt 200
  | event => event

namespace Executor

variable {α : Type}

theorem route_fst (x : Executor) (command : Command α) (session : Option Int) :
    (x.route command session).1 =
      { x with selector := match command.nodeTag with
        | some _ => x.selector
        | none => (x.selector.plan command.isRead x.readBalance session).1 } := by
  unfold route
  cases command.nodeTag with
  | none => rfl
  | some tag =>
    simp only
    split <;> rfl

/-- Executors that are the same but for their caches, their messages, the conditions of their
requests and the statuses of successes. -/
def Twin (x y : Executor) : Prop :=
  ∃ cache mailbox sent events, y = { x with cache, mailbox, sent, events } ∧
    sent.map Dispatch.unconditional = x.sent.map Dispatch.unconditional ∧
    events.map Event.plain = x.events.map Event.plain

theorem Twin.refl (x : Executor) : x.Twin x :=
  ⟨x.cache, x.mailbox, x.sent, x.events, rfl, rfl, rfl⟩

/-- Twins, the first of which has a cache that the servers vouch for but may not go without
asking them. -/
structure Paired (s : Servers) (x y : Executor) : Prop where
  twin : x.Twin y
  vouch : s.Vouch x.cache
  window : x.conventions.aggressiveCacheDuration = none

namespace Paired

variable {s : Servers} {x y : Executor}

theorem sent_length (h : x.Paired s y) : y.sent.length = x.sent.length := by
  obtain ⟨cache, mailbox, sent, events, rfl, hsent, -⟩ := h.twin
  simpa using congrArg List.length hsent

theorem congr {β : Type} (h : x.Paired s y) (f : Executor → β)
    (hf : ∀ (x : Executor) cache mailbox sent events,
      f { x with cache, mailbox, sent, events } = f x) : f y = f x := by
  obtain ⟨cache, mailbox, sent, events, rfl, -, -⟩ := h.twin
  exact hf x cache mailbox sent events

theorem map (h : x.Paired s y) (f : Executor → Executor)
    (hf : ∀ (x : Executor) cache mailbox sent events,
      f { x with cache, mailbox, sent, events } = { f x with cache, mailbox, sent, events })
    (hkept : ∀ x : Executor, (f x).sent = x.sent ∧ (f x).events = x.events ∧
      (f x).cache = x.cache ∧ (f x).conventions = x.conventions) : (f x).Paired s (f y) := by
  obtain ⟨cache, mailbox, sent, events, rfl, hsent, hevents⟩ := h.twin
  obtain ⟨hfsent, hfevents, hfcache, hfconventions⟩ := hkept x
  refine ⟨⟨cache, mailbox, sent, events, hf x cache mailbox sent events, ?_, ?_⟩, ?_, ?_⟩
  · rw [hfsent, hsent]
  · rw [hfevents, hevents]
  · rw [hfcache]
    exact h.vouch
  · rw [hfconventions]
    exact h.window

theorem emit (h : x.Paired s y) {e e' : Event} (he : e'.plain = e.plain) :
    (x.emit e).Paired s (y.emit e') := by
  obtain ⟨cache, mailbox, sent, events, rfl, hsent, hevents⟩ := h.twin
  refine ⟨⟨cache, mailbox, sent, e' :: events, rfl, hsent, ?_⟩, h.vouch, h.window⟩
  simp only [Executor.emit, List.map_cons, he, hevents]

theorem markFailed (h : x.Paired s y) (node : Node) :
    (x.markFailed node).Paired s (y.markFailed node) :=
  h.map (·.markFailed node) (fun _ _ _ _ _ => rfl) fun _ => ⟨rfl, rfl, rfl, rfl⟩

theorem restore (h : x.Paired s y) (node : Node) : (x.restore node).Paired s (y.restore node) :=
  h.map (·.restore node) (fun _ _ _ _ _ => rfl) fun _ => ⟨rfl, rfl, rfl, rfl⟩

theorem exhausted (h : x.Paired s y) :
    ({ x with stale := true } : Executor).Paired s { y with stale := true } :=
  h.map ({ · with stale := true }) (fun _ _ _ _ _ => rfl) fun _ => ⟨rfl, rfl, rfl, rfl⟩

theorem lock (h : x.Paired s y) :
    ({ x with lockHeld := true } : Executor).Paired s { y with lockHeld := true } :=
  h.map ({ · with lockHeld := true }) (fun _ _ _ _ _ => rfl) fun _ => ⟨rfl, rfl, rfl, rfl⟩

theorem endSweep (h : x.Paired s y) (failures : Option (List NodeFailure)) (now : Instant) :
    (x.endSweep failures now).Paired s (y.endSweep failures now) :=
  h.map (·.endSweep failures now) (fun _ _ _ _ _ => rfl) fun _ => ⟨rfl, rfl, rfl, rfl⟩

theorem install (h : x.Paired s y) (topology : Topology) :
    (x.install topology).Paired s (y.install topology) := by
  have hinstalled : ∀ z : Executor, z.install topology =
      let next : Executor := { z with
        selector := (z.selector.update topology).1, initialized := true, stale := false }
      if (z.selector.update topology).2 then
        next.emit (.topologyUpdated topology.etag topology.size) else next := fun _ => rfl
  have hselector : y.selector = x.selector := h.congr (·.selector) fun _ _ _ _ _ => rfl
  have hnext := h.map
    (fun z => { z with
      selector := (z.selector.update topology).1, initialized := true, stale := false })
    (fun _ _ _ _ _ => rfl) fun _ => ⟨rfl, rfl, rfl, rfl⟩
  rw [hinstalled x, hinstalled y, hselector] at *
  dsimp only
  split
  · exact hnext.emit rfl
  · exact hnext

theorem exchange (h : x.Paired s y) {d d' : Dispatch} {pool : Pool} {cache cache' : Cache}
    {mailbox mailbox' : List Message} (hd : d'.unconditional = d.unconditional)
    (hcache : s.Vouch cache) :
    ({ x with pool, mailbox, cache, sent := d :: x.sent } : Executor).Paired s
      { y with pool, mailbox := mailbox', cache := cache', sent := d' :: y.sent } := by
  obtain ⟨_, _, sent, events, rfl, hsent, hevents⟩ := h.twin
  refine ⟨⟨cache', mailbox', d' :: sent, events, rfl, ?_, hevents⟩, hcache, h.window⟩
  simp only [List.map_cons, hd, hsent]

theorem mailbox (h : x.Paired s y) (first second : List Message) :
    ({ x with mailbox := first } : Executor).Paired s { y with mailbox := second } := by
  obtain ⟨cache, _, sent, events, rfl, hsent, hevents⟩ := h.twin
  exact ⟨⟨cache, second, sent, events, rfl, hsent, hevents⟩, h.vouch, h.window⟩

theorem route (h : x.Paired s y) (command : Command α) (session : Option Int) :
    (y.route command session).2 = (x.route command session).2 ∧
      (x.route command session).1.Paired s (y.route command session).1 := by
  constructor
  · refine h.congr (fun z => (z.route command session).2) fun z _ _ _ _ => ?_
    unfold Executor.route
    cases command.nodeTag with
    | none => rfl
    | some tag =>
      simp only
      split <;> rfl
  · rw [route_fst x, route_fst y]
    exact h.map
      (fun z => { z with selector := match command.nodeTag with
        | some _ => z.selector
        | none => (z.selector.plan command.isRead z.readBalance session).1 })
      (fun _ _ _ _ _ => rfl) fun _ => ⟨rfl, rfl, rfl, rfl⟩

theorem launch (h : x.Paired s y) (purpose : Purpose) (command : Command α) (node : Node)
    (limit : Option Duration) :
    (∃ fault, x.launch purpose command node limit = .error fault ∧
      y.launch purpose command node limit = .error fault) ∨
    ∃ x' y' f d, x.launch purpose command node limit = .ok (x', f) ∧
      y.launch purpose command node limit = .ok (y', f) ∧ x'.Paired s y' ∧
      x'.dispatch? f.ticket = some d ∧ y'.dispatch? f.ticket = some d ∧
      f.head = none ∧ f.exchange.key = none := by
  have hlength := h.sent_length
  obtain ⟨cache, mailbox, sent, events, rfl, hsent, hevents⟩ := h.twin
  cases hrequest : command.request node with
  | error cause =>
    refine Or.inl ⟨.noRequest cause, ?_, ?_⟩ <;>
    · unfold Executor.launch prepare
      rw [hrequest]
      rfl
  | ok request =>
    let e : Exchange α := { command, node, request, key := none, cached := none }
    have hlaunch : ∀ z : Executor, z.launch purpose command node limit =
        z.send purpose e limit := by
      intro z
      unfold Executor.launch prepare
      rw [hrequest, Bool.not_true, Bool.and_false]
      rfl
    rw [hlaunch x, hlaunch]
    unfold send
    cases hpool : x.pool.open? request.url with
    | none =>
      exact Or.inl ⟨.noClient, rfl, rfl⟩
    | some pool =>
      let d : Dispatch := { purpose, node, wire := x.wire e, limit }
      refine Or.inr ⟨{ x with pool, sent := d :: x.sent },
        { x with cache, mailbox, events, pool, sent := d :: sent },
        { exchange := e, ticket := x.sent.length, limit }, d, ?_, ?_, ?_, ?_, ?_, rfl, rfl⟩
      · rfl
      · have hticket : sent.length = x.sent.length := hlength
        simp only [e, hticket]
        rfl
      · refine ⟨⟨cache, mailbox, d :: sent, events, rfl, ?_, hevents⟩, h.vouch, h.window⟩
        simp only [List.map_cons, hsent]
      · simp [dispatch?]
      · have hticket : sent.length = x.sent.length := hlength
        simp [dispatch?, ← hticket]

end Paired

end Executor

end ClusterClient
