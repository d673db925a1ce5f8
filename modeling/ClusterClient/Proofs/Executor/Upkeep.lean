import ClusterClient.Proofs.Cache.Operations
import ClusterClient.Proofs.Executor.Exchanges

/-!
# Upkeep of the cache

What a call tells the cache is decided by the signal that it is advanced with: a
confirmation makes an entry young again, the body of a success is put in.  Nothing
else that a call does reaches the cache.
-/

namespace ClusterClient

variable {α β : Type}

/-- What the cache is told when a signal for a request comes. -/
def Flight.upkeep? (f : Flight β) : Signal → Option Cache.Operation
  | .head ticket (.ok head) =>
    if ticket = f.ticket ∧ f.head = none ∧ head.status = .notModified then
      match f.exchange.key, f.exchange.cached with
      | some key, some _ => some (.refreshAge key)
      | _, _ => none
    else none
  | .body ticket body =>
    (f.given (.body ticket body)).head?.map fun stored =>
      .put stored.key stored.changeVector stored.payload
  | .head _ (.error _) | .granted | .lockTimedOut | .resumed | .expired _ => none

def Phase.upkeep? : Phase β → Signal → Option Cache.Operation
  | .ensuring _, _ | .pausing _ _ _, _ => none
  | .flying _ f, signal => f.upkeep? signal

def Call.upkeep? : Call α → Signal → Option Cache.Operation
  | .executing c, signal => c.phase.upkeep? signal
  | .configuring _, _ | .updating _, _ | .testing _, _ => none

variable {f : Flight β} {signal : Signal} {now : Instant}

theorem Flight.given_body {ticket : Nat} {body : Except TransportFailure Bytes} {stored : Stored}
    (h : stored ∈ f.given (.body ticket body)) :
    ticket = f.ticket ∧ ∃ head bytes result, f.head = some head ∧ head.status.isSuccess = true ∧
      body = .ok bytes ∧ f.exchange.command.parse bytes false = .ok result ∧
      f.exchange.key = some stored.key ∧
      head.headers.text? Headers.etag = some stored.changeVector ∧ stored.payload = bytes := by
  unfold given at h
  cases body with
  | error failure => cases h
  | ok bytes =>
    cases hhead : f.head with
    | none => simp [hhead] at h
    | some head =>
      simp only [hhead] at h
      split at h
      · rename_i hours
        rw [Bool.and_eq_true, decide_eq_true_iff] at hours
        split at h
        · rename_i result key etag hparse hkey hetag
          cases List.mem_singleton.mp h
          exact ⟨hours.1, head, bytes, result, rfl, hours.2, rfl, hparse, hkey, hetag, rfl⟩
        · cases h
      · cases h

namespace Flight

theorem upkeep?_head {ticket : Nat} {head : ResponseHead}
    (h : ¬(ticket = f.ticket ∧ f.head = none ∧ head.status = .notModified)) :
    f.upkeep? (.head ticket (.ok head)) = none := if_neg h

theorem of_upkeep? {operation : Cache.Operation} (h : f.upkeep? signal = some operation) :
    (∃ head key entry, signal = .head f.ticket (.ok head) ∧ f.head = none ∧
      head.status = .notModified ∧ f.exchange.key = some key ∧ f.exchange.cached = some entry ∧
      operation = .refreshAge key) ∨
    ∃ head bytes result key etag, signal = .body f.ticket (.ok bytes) ∧ f.head = some head ∧
      head.status.isSuccess = true ∧ f.exchange.command.parse bytes false = .ok result ∧
      f.exchange.key = some key ∧ head.headers.text? Headers.etag = some etag ∧
      operation = .put key etag bytes := by
  unfold upkeep? at h
  split at h
  · split at h
    · rename_i ticket head hours
      obtain ⟨rfl, hwaits, hstatus⟩ := hours
      split at h
      · rename_i key entry hkey hcached
        cases h
        exact .inl ⟨head, key, entry, rfl, hwaits, hstatus, hkey, hcached, rfl⟩
      · cases h
    · cases h
  · obtain ⟨stored, hstored, rfl⟩ := Option.map_eq_some_iff.mp h
    obtain ⟨rfl, head, bytes, result, hhead, hsuccess, rfl, hparse, hkey, hetag, hpayload⟩ :=
      given_body (List.mem_of_mem_head? hstored)
    exact .inr ⟨head, bytes, result, stored.key, stored.changeVector, rfl, hhead, hsuccess, hparse,
      hkey, hetag, by rw [hpayload]⟩
  all_goals cases h

theorem upkeep?_body {ticket : Nat} {body : Except TransportFailure Bytes}
    (h : ¬(ticket = f.ticket ∧ ∃ head, f.head = some head)) :
    f.upkeep? (.body ticket body) = none := by
  cases hupkeep : f.upkeep? (.body ticket body) with
  | none => rfl
  | some operation =>
    rcases of_upkeep? hupkeep with ⟨_, _, _, hsignal, -⟩ | ⟨head, _, _, _, _, hsignal, hhead, -⟩
    · cases hsignal
    · cases hsignal
      exact (h ⟨rfl, head, hhead⟩).elim

theorem upkeep?_of_key_eq_none (h : f.exchange.key = none) (signal : Signal) :
    f.upkeep? signal = none := by
  cases hupkeep : f.upkeep? signal with
  | none => rfl
  | some operation =>
    rcases of_upkeep? hupkeep with ⟨_, _, _, -, -, -, hkey, -⟩ |
      ⟨_, _, _, _, _, -, -, -, -, hkey, -⟩
    · cases h.symm.trans hkey
    · cases h.symm.trans hkey

end Flight

namespace Executor

variable {x y : Executor} {command : Command β} {noCaching : Bool}

theorem cache_receiveHead (x : Executor) (hwaits : f.head = none) (head : ResponseHead)
    (now : Instant) :
    (x.receiveHead f head now).1.cache =
      x.cache.upkeep now (f.upkeep? (.head f.ticket (.ok head))) := by
  obtain ⟨mailbox, hheed⟩ := x.heed_eq head.headers
  unfold receiveHead
  rw [hheed]
  dsimp only
  by_cases hconfirms : head.status = .notModified
  · have htold : f.upkeep? (.head f.ticket (.ok head)) =
        match f.exchange.key, f.exchange.cached with
        | some key, some _ => some (.refreshAge key)
        | _, _ => none := if_pos ⟨rfl, hwaits, hconfirms⟩
    rw [if_pos hconfirms, htold]
    unfold confirm
    cases f.exchange.key <;> cases f.exchange.cached <;> rfl
  · rw [if_neg hconfirms, Flight.upkeep?_head fun h => hconfirms h.2.2]
    split <;> rfl

theorem cache_receiveBody (x : Executor) {head : ResponseHead} (hhead : f.head = some head)
    (body : Except TransportFailure Bytes) (now : Instant) :
    (x.receiveBody f.exchange head body now).1.cache =
      x.cache.upkeep now (f.upkeep? (.body f.ticket body)) := by
  unfold receiveBody Flight.upkeep? Flight.given
  cases body with
  | error failure => split <;> rfl
  | ok bytes =>
    simp only [hhead, decide_true, Bool.true_and]
    by_cases hsuccess : head.status.isSuccess = true
    · simp only [hsuccess, if_true, receiveResult]
      cases f.exchange.command.parse bytes false with
      | error cause => rfl
      | ok result =>
        simp only [keep]
        cases f.exchange.key with
        | none => rfl
        | some key => cases head.headers.text? Headers.etag <;> rfl
    · simp only [hsuccess]
      rfl

theorem cache_advanceFlight (x : Executor) (f : Flight β) (signal : Signal) (now : Instant) :
    (x.advanceFlight f signal now).1.cache = x.cache.upkeep now (f.upkeep? signal) := by
  unfold advanceFlight
  cases signal with
  | granted | lockTimedOut | resumed => rfl
  | head ticket result =>
    cases result with
    | error failure => cases f.head <;> dsimp only <;> (try split) <;> rfl
    | ok head =>
      cases hwaits : f.head with
      | some earlier =>
        rw [Flight.upkeep?_head fun h => by cases hwaits.symm.trans h.2.1]
        rfl
      | none =>
        dsimp only
        split
        · rename_i hticket
          rw [hticket]
          exact x.cache_receiveHead hwaits head now
        · rename_i hticket
          rw [Flight.upkeep?_head fun h => hticket h.1]
          rfl
  | body ticket body =>
    cases hhead : f.head with
    | none =>
      rw [Flight.upkeep?_body fun ⟨_, _, hhead'⟩ => by cases hhead.symm.trans hhead']
      rfl
    | some head =>
      dsimp only
      split
      · rename_i hticket
        rw [hticket]
        exact x.cache_receiveBody hhead body now
      · rename_i hticket
        rw [Flight.upkeep?_body fun h => hticket h.1]
        rfl
  | expired ticket => cases f.limit <;> cases f.head <;> dsimp only <;> (try split) <;> rfl

theorem advanceFlight_confirmed {key : Cache.Key}
    {entry : Cache.Entry} {head : ResponseHead} (hwaits : f.head = none)
    (hkey : f.exchange.key = some key) (hcached : f.exchange.cached = some entry)
    (hstatus : head.status = .notModified) (now : Instant) :
    ∃ mailbox, x.advanceFlight f (.head f.ticket (.ok head)) now =
      ({ x with mailbox, cache := (x.cache.refreshAge now key).1 },
        .done (readResult f.exchange head.status true
          (f.exchange.command.parse ((x.cache.get? key).getD entry).payload true))) := by
  obtain ⟨mailbox, hheed⟩ := x.heed_eq head.headers
  refine ⟨mailbox, ?_⟩
  unfold advanceFlight
  simp only [hwaits, if_true]
  unfold receiveHead
  rw [hheed]
  dsimp only
  rw [if_pos hstatus]
  unfold confirm
  simp only [hkey, hcached]
  rw [x.cache.payload_refreshAge now key entry]

theorem settled_of_upkeep? {operation : Cache.Operation} (x : Executor)
    (h : f.upkeep? signal = some operation) (now : Instant) :
    ∃ outcome, (x.advanceFlight f signal now).2 = .done outcome ∧ outcome.isFailure = false := by
  rcases Flight.of_upkeep? h with ⟨head, key, entry, rfl, hwaits, hstatus, hkey, hcached, -⟩ |
    ⟨head, bytes, result, key, etag, rfl, hhead, hsuccess, hparse, -⟩
  · obtain ⟨mailbox, hflight⟩ := advanceFlight_confirmed hwaits hkey hcached hstatus now
    refine ⟨_, congrArg Prod.snd hflight, ?_⟩
    cases f.exchange.command.parse _ true <;> rfl
  · refine ⟨.answered result head.status false, ?_, rfl⟩
    simp [advanceFlight, hhead, receiveBody, hsuccess, receiveResult, hparse]

theorem upkeep?_of_waiting {f' : Flight β} (h : (x.advanceFlight f signal now).2 = .waiting f') :
    f.upkeep? signal = none := by
  cases hupkeep : f.upkeep? signal with
  | none => rfl
  | some operation =>
    obtain ⟨outcome, hsettled, -⟩ := settled_of_upkeep? x hupkeep now
    cases h.symm.trans hsettled

theorem upkeep?_of_failed {reason : FailureReason}
    (h : (x.advanceFlight f signal now).2 = .done (.failed reason)) : f.upkeep? signal = none := by
  cases hupkeep : f.upkeep? signal with
  | none => rfl
  | some operation =>
    obtain ⟨outcome, hsettled, hhealthy⟩ := settled_of_upkeep? x hupkeep now
    cases h.symm.trans hsettled
    cases hhealthy

/-! ## Calls -/

theorem upkeep?_of_isFor (hfor : f.exchange.IsFor command noCaching)
    (hkeep : (command.isCacheable && !noCaching) = false) (signal : Signal) :
    f.upkeep? signal = none :=
  Flight.upkeep?_of_key_eq_none (hfor.key_eq_none hkeep) signal

theorem upkeep?_of_fits {phase : Phase β} (h : phase.Fits x command noCaching)
    (hkeep : (command.isCacheable && !noCaching) = false) (signal : Signal) :
    phase.upkeep? signal = none := by
  cases phase with
  | ensuring _ | pausing _ _ _ => rfl
  | flying _ f => exact upkeep?_of_isFor (Flight.Fits.isFor h) hkeep signal

theorem cache_of_fitsBare {purpose : Purpose} (h : f.FitsBare x purpose) (signal : Signal)
    (now : Instant) : (x.advanceFlight f signal now).1.cache = x.cache := by
  obtain ⟨command, hbare, hfits⟩ := h
  rw [cache_advanceFlight,
    upkeep?_of_isFor hfits.isFor (by rw [hbare.uncacheable]; rfl), Cache.upkeep_none]

theorem cache_advanceRefresh {r : Refresh} (h : r.Fits x) (signal : Signal) (now : Instant) :
    (x.advanceRefresh r signal now).1.cache = x.cache := by
  cases r with
  | queued order observed =>
    unfold advanceRefresh
    cases signal with
    | granted =>
      dsimp only
      split
      · rfl
      · exact x.cache_refreshLocked order observed now
    | lockTimedOut | resumed | head _ _ | body _ _ | expired _ => rfl
  | sweeping sweep =>
    rw [cache_advanceSweep]
    exact cache_of_fitsBare (h sweep rfl) signal now

theorem cache_advanceExecution {c : Execution β}
    (h : c.phase.Fits x c.command c.options.noCaching) (m : Moment) (signal : Signal) :
    (x.advanceExecution c signal m).1.cache = x.cache.upkeep m.now (c.phase.upkeep? signal) := by
  obtain ⟨command, options, phase⟩ := c
  cases phase with
  | ensuring update =>
    exact (afterWish_spec update.isFirst _ _).1.cache.trans (cache_advanceRefresh h signal m.now)
  | pausing trail e pause =>
    cases signal with
    | resumed => exact (x.aside_beginAttempt trail e).cache
    | granted | lockTimedOut | head _ _ | body _ _ | expired _ => rfl
  | flying trail flight =>
    have hflight := x.cache_advanceFlight flight signal m.now
    unfold advanceExecution
    dsimp only
    cases hadvance : x.advanceFlight flight signal m.now with
    | mk y progress =>
      rw [hadvance] at hflight
      cases progress with
      | waiting flight => exact hflight
      | done outcome => exact (aside_concludeAttempt _ _ _ _ _ _).cache.trans hflight

theorem cache_advanceTrials (signal : Signal) (now : Instant) {trials : List Trial} {x : Executor}
    (h : ∀ trial ∈ trials, trial.Fits x) :
    (x.advanceTrials signal now trials).1.cache = x.cache := by
  induction trials generalizing x with
  | nil => rfl
  | cons first rest ih =>
    have hfirst : (x.advanceTrial first signal now).1.cache = x.cache := by
      unfold advanceTrial
      split
      · rfl
      · rename_i flight hstate
        have hflight := cache_of_fitsBare (h first List.mem_cons_self flight hstate) signal now
        split
        · rename_i hadvance
          rw [hadvance] at hflight
          exact hflight
        · rename_i hadvance
          rw [hadvance] at hflight
          exact hflight
    obtain ⟨mailbox, cache, hfst⟩ := x.advanceTrials_fst signal now [first]
    have hsent : (x.advanceTrial first signal now).1.sent = x.sent := by
      rw [show (x.advanceTrial first signal now).1 = _ from hfst]
    refine (ih fun trial hrest f hf => ?_).trans hfirst
    exact (h trial (List.mem_cons_of_mem _ hrest) f hf).mono (hsent ▸ List.suffix_rfl)

/-- The cache after a step of a call is what the cache was told makes of it. -/
theorem cache_advance {call : Call α} (h : call.Fits x) (m : Moment) (signal : Signal) :
    (x.advance m signal call).1.cache = x.cache.upkeep m.now (call.upkeep? signal) := by
  cases call with
  | executing c =>
    obtain ⟨hexecutor, -⟩ := executed_spec c.command c.options (x.advanceExecution c signal m)
    exact hexecutor ▸ cache_advanceExecution h m signal
  | configuring c =>
    obtain ⟨haside, -⟩ := configured_spec (α := α) c.command c.options
      (x.advanceExecution c signal m)
    have hnothing : c.phase.upkeep? signal = none :=
      upkeep?_of_fits h.2 (by rw [h.1.uncacheable]; rfl) signal
    refine haside.cache.trans ?_
    rw [cache_advanceExecution h.2 m signal, hnothing]
    rfl
  | updating u =>
    obtain ⟨hexecutor, -⟩ := updated_spec (α := α) u.isFirst
      (x.advanceRefresh u.refresh signal m.now)
    exact hexecutor ▸ cache_advanceRefresh h signal m.now
  | testing t =>
    obtain ⟨hexecutor, -⟩ := tested_spec (α := α) (x.advanceTest t signal m.now)
    have hconclude := (x.advanceTrials signal m.now t.trials).1.aside_concludeTest
      { t with trials := (x.advanceTrials signal m.now t.trials).2 }
    have htest : (x.advanceTest t signal m.now).1.cache = x.cache :=
      hconclude.cache.trans (cache_advanceTrials signal m.now h)
    exact hexecutor ▸ htest

end Executor

end ClusterClient
