import ClusterClient.Proofs.Cache.Lookup
import ClusterClient.Proofs.Executor.Calls

/-!
# What the cache is given to keep

A call gives the cache the bodies of its answers to keep, and conditions its
requests on what the cache has when they are prepared.
-/

namespace ClusterClient

/-- An answer that the cache was given to keep: what it answers, its version and its body. -/
structure Stored where
  key : Cache.Key
  changeVector : String
  payload : Bytes

def Cache.Entry.under (entry : Cache.Entry) (key : Cache.Key) : Stored :=
  ⟨key, entry.changeVector, entry.payload⟩

namespace Cache

/-- Whatever a cache has now was given to it or was there before, with the same version and body. -/
def Keeps (before after : Cache) (given : List Stored) : Prop :=
  ∀ key entry, after.get? key = some entry → entry.under key ∈ given ∨
    ∃ old, before.get? key = some old ∧ old.under key = entry.under key

variable {c d e : Cache} {given given' : List Stored}

theorem Keeps.refl (c : Cache) (given : List Stored) : c.Keeps c given :=
  fun _ entry h => .inr ⟨entry, h, rfl⟩

theorem Keeps.trans (hcd : c.Keeps d given) (hde : d.Keeps e given') :
    c.Keeps e (given' ++ given) := by
  intro key entry h
  rcases hde key entry h with hgiven | ⟨old, hold, hsame⟩
  · exact .inl (List.mem_append_left _ hgiven)
  · rcases hcd key old hold with hgiven | ⟨older, holder, hsame'⟩
    · exact .inl (List.mem_append_right _ (hsame ▸ hgiven))
    · exact .inr ⟨older, holder, hsame'.trans hsame⟩

theorem keeps_put (c : Cache) (now : Instant) (key : Key) (changeVector : String)
    (payload : Bytes) :
    c.Keeps (c.put now key changeVector payload) [⟨key, changeVector, payload⟩] := by
  intro k entry h
  rcases get?_put h with ⟨rfl, rfl⟩ | hold
  · exact .inl List.mem_cons_self
  · exact .inr ⟨entry, hold, rfl⟩

theorem keeps_refreshAge (c : Cache) (now : Instant) (key : Key) :
    c.Keeps (c.refreshAge now key).1 [] := by
  intro k entry h
  obtain ⟨old, hold, hversion, hpayload⟩ := get?_refreshAge h
  exact .inr ⟨old, hold, by rw [Entry.under, Entry.under, hversion, hpayload]⟩

end Cache

variable {α β : Type} {now : Instant}

/-! ## What calls give the cache -/

def Flight.given (f : Flight β) : Signal → List Stored
  | .body ticket (.ok bytes) =>
    match f.head with
    | some head =>
      if ticket = f.ticket && head.status.isSuccess then
        match f.exchange.command.parse bytes false, f.exchange.key,
          head.headers.text? Headers.etag with
        | .ok _, some key, some etag => [⟨key, etag, bytes⟩]
        | _, _, _ => []
      else []
    | none => []
  | _ => []

def Refresh.given : Refresh → Signal → List Stored
  | .queued _ _, _ => []
  | .sweeping sweep, signal => sweep.flight.given signal

def Phase.given : Phase β → Signal → List Stored
  | .ensuring update, signal => update.refresh.given signal
  | .pausing _ _ _, _ => []
  | .flying _ flight, signal => flight.given signal

def Trial.given (t : Trial) (signal : Signal) : List Stored :=
  match t.state with
  | .underWay flight => flight.given signal
  | .settled _ => []

def Call.given : Call α → Signal → List Stored
  | .executing c, signal => c.phase.given signal
  | .configuring c, signal => c.phase.given signal
  | .updating u, signal => u.refresh.given signal
  | .testing t, signal => (t.trials.reverse).flatMap (·.given signal)

namespace Executor

variable {x y : Executor}

theorem keeps_of_cache_eq (h : y.cache = x.cache) (given : List Stored) :
    x.cache.Keeps y.cache given :=
  h ▸ Cache.Keeps.refl x.cache given

theorem Aside.keeps {given : List Stored} {c : Cache} (h : x.Aside y) (hx : c.Keeps x.cache given) :
    c.Keeps y.cache given :=
  h.cache ▸ hx

theorem keeps_receiveHead (x : Executor) (f : Flight β) (head : ResponseHead) (now : Instant) :
    x.cache.Keeps (x.receiveHead f head now).1.cache [] := by
  have hheed : (x.heed head.headers).cache = x.cache := by
    obtain ⟨mailbox, hheed⟩ := x.heed_eq head.headers
    rw [hheed]
  have hconfirm :
      x.cache.Keeps ((x.heed head.headers).confirm f.exchange head.status now).1.cache [] := by
    unfold confirm
    split
    · rename_i key entry _ _
      exact hheed ▸ (x.heed head.headers).cache.keeps_refreshAge now key
    · exact keeps_of_cache_eq hheed []
  unfold receiveHead
  dsimp only
  split
  · exact hconfirm
  · split <;> exact keeps_of_cache_eq hheed []

theorem keeps_receiveBody (x : Executor) (f : Flight β) (head : ResponseHead)
    (body : Except TransportFailure Bytes) (now : Instant) (hhead : f.head = some head) :
    x.cache.Keeps (x.receiveBody f.exchange head body now).1.cache
      (f.given (.body f.ticket body)) := by
  unfold receiveBody Flight.given
  cases body with
  | error failure => split <;> exact .refl _ _
  | ok bytes =>
    simp only [hhead]
    by_cases hsuccess : head.status.isSuccess = true
    · simp only [hsuccess, receiveResult]
      cases hparse : f.exchange.command.parse bytes false with
      | error cause => exact .refl _ _
      | ok result =>
        simp only [keep]
        cases hkey : f.exchange.key with
        | none => exact .refl _ _
        | some key =>
          cases hetag : head.headers.text? Headers.etag with
          | none => exact .refl _ _
          | some etag => exact x.cache.keeps_put now key etag bytes
    · simp only [hsuccess]
      simpa using Cache.Keeps.refl x.cache []

theorem keeps_advanceFlight (x : Executor) (f : Flight β) (signal : Signal) (now : Instant) :
    x.cache.Keeps (x.advanceFlight f signal now).1.cache (f.given signal) := by
  unfold advanceFlight
  split
  · split
    · exact x.keeps_receiveHead f _ now
    · exact .refl _ _
  · split <;> exact .refl _ _
  · rename_i ticket body head hhead
    split
    · rename_i hticket
      rw [hticket]
      exact x.keeps_receiveBody f head body now hhead
    · exact .refl _ _
  · split <;> exact .refl _ _
  · exact .refl _ _

theorem cache_ask (x : Executor) (limit : Option Duration) (failures : List NodeFailure)
    (now : Instant) (nodes : List Node) :
    (x.ask limit failures now nodes).1.cache = x.cache := by
  rcases x.ask_cases limit failures now nodes with
    ⟨missed, -, hask⟩ | ⟨skipped, node, rest, missed, pool, wire, flight, -, -, -, hask⟩
  · rw [hask]
    rfl
  · rw [hask]

theorem cache_refreshLocked (x : Executor) (order : SweepOrder) (observed : Nat) (now : Instant) :
    (x.refreshLocked order observed now).1.cache = x.cache := by
  unfold refreshLocked
  split
  · rfl
  · split
    · rfl
    · exact cache_ask { x with lockHeld := true } order.limit [] now order.nodes

theorem cache_refresh (x : Executor) (order : SweepOrder) (now : Instant) :
    (x.refresh order now).1.cache = x.cache := by
  unfold refresh
  split
  · rfl
  · exact x.cache_refreshLocked order x.sweeps now

theorem cache_install (x : Executor) (topology : Topology) :
    (x.install topology).cache = x.cache := by
  unfold install
  dsimp only
  split <;> rfl

theorem cache_advanceSweep (x : Executor) (sweep : Sweep) (signal : Signal) (now : Instant) :
    (x.advanceRefresh (.sweeping sweep) signal now).1.cache =
      (x.advanceFlight sweep.flight signal now).1.cache := by
  show (x.advanceSweep sweep signal now).1.cache = _
  unfold advanceSweep
  split
  · rename_i hadvance
    rw [hadvance]
  · rename_i z topology _ _ hadvance
    rw [hadvance]
    exact z.cache_install topology
  · rename_i hadvance
    rw [hadvance]
    exact cache_ask _ _ _ _ _
  · rename_i hadvance
    rw [hadvance]
    exact cache_ask _ _ _ _ _

theorem keeps_advanceRefresh (x : Executor) (refresh : Refresh) (signal : Signal) (now : Instant) :
    x.cache.Keeps (x.advanceRefresh refresh signal now).1.cache (refresh.given signal) := by
  cases refresh with
  | queued order observed =>
    unfold advanceRefresh
    cases signal with
    | granted =>
      dsimp only
      split
      · exact .refl _ _
      · exact keeps_of_cache_eq (x.cache_refreshLocked order observed now) _
    | lockTimedOut | resumed | head _ _ | body _ _ | expired _ => exact .refl _ _
  | sweeping sweep =>
    rw [cache_advanceSweep]
    exact x.keeps_advanceFlight sweep.flight signal now

theorem keeps_advanceTrials (x : Executor) (signal : Signal) (now : Instant) (trials : List Trial) :
    x.cache.Keeps (x.advanceTrials signal now trials).1.cache
      (trials.reverse.flatMap (·.given signal)) := by
  induction trials generalizing x with
  | nil => exact .refl _ _
  | cons trial trials ih =>
    have htrial : x.cache.Keeps (x.advanceTrial trial signal now).1.cache (trial.given signal) := by
      unfold advanceTrial Trial.given
      cases trial.state with
      | settled elapsed => exact .refl _ _
      | underWay flight =>
        have hflight := x.keeps_advanceFlight flight signal now
        dsimp only
        split
        · rename_i z _ hadvance
          rw [hadvance] at hflight
          exact hflight
        · rename_i z _ hadvance
          rw [hadvance] at hflight
          exact hflight
    rw [List.reverse_cons, List.flatMap_append, List.flatMap_singleton]
    exact htrial.trans (ih _)

theorem cache_begin (x : Executor) (m : Moment) (order : Order α) :
    (x.begin m order).1.cache = x.cache := by
  obtain ⟨hmade, hnone⟩ := x.begins_begin m order
  cases hwish : x.wish? m.now order with
  | none => exact (hnone hwish).1.cache
  | some wish => exact (hmade wish hwish).1.cache.trans (x.cache_refresh wish m.now)

theorem keeps_advanceExecution (x : Executor) (m : Moment) (signal : Signal) (c : Execution β) :
    x.cache.Keeps (x.advanceExecution c signal m).1.cache (c.phase.given signal) := by
  obtain ⟨command, options, phase⟩ := c
  cases phase with
  | ensuring update =>
    exact (afterWish_spec update.isFirst _ _).1.keeps
      (x.keeps_advanceRefresh update.refresh signal m.now)
  | pausing trail e pause =>
    cases signal with
    | resumed => exact keeps_of_cache_eq (x.aside_beginAttempt trail e).cache _
    | granted | lockTimedOut | head _ _ | body _ _ | expired _ => exact .refl _ _
  | flying trail flight =>
    have hflight := x.keeps_advanceFlight flight signal m.now
    unfold advanceExecution
    dsimp only
    cases hadvance : x.advanceFlight flight signal m.now with
    | mk y progress =>
      rw [hadvance] at hflight
      cases progress with
      | waiting flight => exact hflight
      | done outcome =>
        exact (aside_concludeAttempt _ _ _ _ _ _).keeps hflight

/-- A call gives the cache the bodies of its answers. -/
theorem keeps_advance (x : Executor) (m : Moment) (signal : Signal) (call : Call α) :
    x.cache.Keeps (x.advance m signal call).1.cache (call.given signal) := by
  cases call with
  | executing c =>
    obtain ⟨hexecutor, -⟩ := executed_spec c.command c.options (x.advanceExecution c signal m)
    exact hexecutor ▸ x.keeps_advanceExecution m signal c
  | configuring c =>
    obtain ⟨haside, -⟩ := configured_spec (α := α) c.command c.options
      (x.advanceExecution c signal m)
    exact haside.keeps (x.keeps_advanceExecution m signal c)
  | updating u =>
    obtain ⟨hexecutor, -⟩ := updated_spec (α := α) u.isFirst
      (x.advanceRefresh u.refresh signal m.now)
    exact hexecutor ▸ x.keeps_advanceRefresh u.refresh signal m.now
  | testing t =>
    obtain ⟨hexecutor, -⟩ := tested_spec (α := α) (x.advanceTest t signal m.now)
    have hconclude := (x.advanceTrials signal m.now t.trials).1.aside_concludeTest
      { t with trials := (x.advanceTrials signal m.now t.trials).2 }
    have htest := hconclude.keeps (x.keeps_advanceTrials signal m.now t.trials)
    exact hexecutor ▸ htest

end Executor

end ClusterClient
