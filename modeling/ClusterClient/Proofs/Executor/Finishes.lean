import ClusterClient.Proofs.Cache.Lookup
import ClusterClient.Proofs.Executor.Standing

/-!
# How requests end

Seen from outside, a request ends when no answer comes, when the time allowed for
one is over, or with an answer that has a result or has none.  The outcome that
an executor draws from the signals for a request shows which of these it was.
-/

namespace ClusterClient

variable {α β : Type}

inductive Finish where
  /-- It could not be made, or there was no client for it. -/
  | unsent
  /-- No answer came, or not all of the body of a success. -/
  | broken
  | timedOut
  | answered (status : Status) (hasResult : Bool)
  deriving DecidableEq, Repr

namespace Exchange

/-- Whether the answer that is confirmed has a result: the one that the cache has now, or had when
the request was made. -/
def confirmsResult (e : Exchange α) (cache : Cache) : Bool :=
  match e.key, e.cached with
  | some key, some entry => (e.command.parse ((cache.get? key).getD entry).payload true).isOk
  | _, _ => false

def finishWithHead? (e : Exchange α) (cache : Cache) (head : ResponseHead) : Option Finish :=
  if head.status = .notModified then some (.answered head.status (e.confirmsResult cache))
  else if head.status.isSuccess && e.command.disposal == .manual then
    some (.answered head.status (e.command.take head).isOk)
  else none

/-- How a request ends with the body of its answer.  The body of what is no success is not
missed. -/
def finishWithBody (e : Exchange α) (head : ResponseHead) (body : Except TransportFailure Bytes) :
    Finish :=
  if head.status.isSuccess then
    match body with
    | .error _ => .broken
    | .ok bytes => .answered head.status (e.command.parse bytes false).isOk
  else .answered head.status false

end Exchange

namespace Flight

/-- How a request ends with a signal, if it does. -/
def finish? (f : Flight α) (cache : Cache) : Signal → Option Finish
  | .head ticket result =>
    if ticket = f.ticket ∧ f.head = none then
      match result with
      | .ok head => f.exchange.finishWithHead? cache head
      | .error _ => some .broken
    else none
  | .body ticket body =>
    if ticket = f.ticket then f.head.map (f.exchange.finishWithBody · body) else none
  | .expired ticket => if ticket = f.ticket ∧ f.limit.isSome then some .timedOut else none
  | .granted | .lockTimedOut | .resumed => none

inductive Shows (f : Flight α) : Outcome α → Finish → Prop
  | result {result : α} {status : Status} {fromCache : Bool}
      (healthy : status.isServerError = false)
      (source : status = .notModified → f.exchange.key.isSome ∨
        ∃ head, f.head = some head ∧ head.status = status) :
      f.Shows (.answered result status fromCache) (.answered status true)
  | broken {failure : TransportFailure} : f.Shows (.failed (.transport failure)) .broken
  | expired {limit : Duration} (limited : f.limit = some limit) :
      f.Shows (.failed (.expired limit)) .timedOut
  | refused {status : Status} {error : ServerError} (unhealthy : status.isServerError = true) :
      f.Shows (.failed (.serverFailed error)) (.answered status false)
  | rejected {head : ResponseHead} {error : ServerError}
      (healthy : head.status.isServerError = false)
      (taken : f.head = some head) :
      f.Shows (.ended (.rejected error)) (.answered head.status false)
  | unreadable {status : Status} {url : Url} {cause : CommandError}
      (healthy : status.isServerError = false)
      (faulty : f.exchange.command.disposal = .manual ∨
        ∃ body fromCache, f.exchange.command.parse body fromCache = .error cause) :
      f.Shows (.ended (.unreadable url cause)) (.answered status false)
  | unconfirmed {url : Url} : f.Shows (.ended (.unconfirmed url)) (.answered .notModified false)

/-- What a step of a request comes to agrees with how the request ended, if it did. -/
def Agrees (f : Flight α) (finish? : Option Finish) : Progress (Flight α) (Outcome α) → Prop
  | .waiting _ => finish? = none
  | .done outcome => ∃ finish, finish? = some finish ∧ f.Shows outcome finish

end Flight

namespace Executor

variable {x : Executor}

theorem isServerError_eq_false_of_isSuccess {status : Status} (h : status.isSuccess = true) :
    status.isServerError = false := by
  obtain ⟨-, hbelow⟩ := (isSuccess_iff status).mp h
  rw [← Bool.not_eq_true, isServerError_iff]
  exact fun hserver => absurd hserver.1 (Nat.not_le_of_lt (Nat.lt_trans hbelow (by decide)))

theorem shows_confirm (x : Executor) (f : Flight α) {status : Status}
    (hstatus : status = .notModified) (now : Instant) :
    f.Shows (x.confirm f.exchange status now).2
      (.answered status (f.exchange.confirmsResult x.cache)) := by
  subst hstatus
  unfold confirm Exchange.confirmsResult
  cases hkey : f.exchange.key with
  | none => exact .unconfirmed
  | some key =>
    cases hcached : f.exchange.cached with
    | none => exact .unconfirmed
    | some entry =>
      dsimp only
      rw [x.cache.payload_refreshAge now key entry]
      cases hparse : f.exchange.command.parse ((x.cache.get? key).getD entry).payload true with
      | ok result => exact .result rfl fun _ => .inl (by rw [hkey]; rfl)
      | error cause => exact .unreadable rfl (.inr ⟨_, _, hparse⟩)

theorem agrees_receiveHead (x : Executor) (f : Flight α) (head : ResponseHead) (now : Instant) :
    f.Agrees (f.exchange.finishWithHead? x.cache head) (x.receiveHead f head now).2 := by
  obtain ⟨mailbox, hheed⟩ := x.heed_eq head.headers
  unfold receiveHead Exchange.finishWithHead?
  rw [hheed]
  dsimp only
  by_cases hconfirms : head.status = .notModified
  · rw [if_pos hconfirms, if_pos hconfirms]
    exact ⟨_, rfl, shows_confirm { x with mailbox } f hconfirms now⟩
  · rw [if_neg hconfirms, if_neg hconfirms]
    by_cases hmanual : (head.status.isSuccess && f.exchange.command.disposal == .manual) = true
    · rw [if_pos hmanual, if_pos hmanual]
      rw [Bool.and_eq_true, beq_iff_eq] at hmanual
      have hhealthy := isServerError_eq_false_of_isSuccess hmanual.1
      refine ⟨_, rfl, ?_⟩
      cases f.exchange.command.take head with
      | ok result => exact .result hhealthy fun hstatus => (hconfirms hstatus).elim
      | error cause => exact .unreadable hhealthy (.inl hmanual.2)
    · rw [if_neg hmanual, if_neg hmanual]
      rfl

theorem shows_receiveBody (x : Executor) (f : Flight α) {head : ResponseHead}
    (hhead : f.head = some head) (body : Except TransportFailure Bytes) (now : Instant) :
    f.Shows (x.receiveBody f.exchange head body now).2 (f.exchange.finishWithBody head body) := by
  unfold receiveBody Exchange.finishWithBody
  by_cases hsuccess : head.status.isSuccess = true
  · rw [if_pos hsuccess, if_pos hsuccess]
    have hhealthy := isServerError_eq_false_of_isSuccess hsuccess
    unfold receiveResult
    cases body with
    | error failure => exact .broken
    | ok bytes =>
      dsimp only
      cases hparse : f.exchange.command.parse bytes false with
      | ok result => exact .result hhealthy fun _ => .inr ⟨head, hhead, rfl⟩
      | error cause => exact .unreadable hhealthy (.inr ⟨_, _, hparse⟩)
  · rw [if_neg hsuccess, if_neg hsuccess]
    unfold refusal
    dsimp only
    by_cases hserver : head.status.isServerError = true
    · rw [if_pos hserver]
      exact .refused hserver
    · rw [if_neg hserver]
      exact .rejected (by simpa using hserver) hhead

theorem agrees_advanceFlight (x : Executor) (f : Flight α) (signal : Signal) (now : Instant) :
    f.Agrees (f.finish? x.cache signal) (x.advanceFlight f signal now).2 := by
  unfold advanceFlight Flight.finish?
  cases signal with
  | granted | lockTimedOut | resumed => rfl
  | head ticket result =>
    cases hhead : f.head with
    | some head =>
      simp only [reduceCtorEq, and_false, if_false]
      cases result <;> rfl
    | none =>
      simp only [and_true]
      by_cases hticket : ticket = f.ticket
      · rw [if_pos hticket]
        cases result with
        | ok head =>
          simp only [if_pos hticket]
          exact x.agrees_receiveHead f head now
        | error failure =>
          simp only [if_pos hticket]
          exact ⟨_, rfl, .broken⟩
      · rw [if_neg hticket]
        cases result <;> simp only [if_neg hticket] <;> rfl
  | body ticket body =>
    cases hhead : f.head with
    | none =>
      dsimp only
      split <;> rfl
    | some head =>
      by_cases hticket : ticket = f.ticket
      · simp only [if_pos hticket, Option.map_some]
        exact ⟨_, rfl, x.shows_receiveBody f hhead body now⟩
      · simp only [if_neg hticket]
        rfl
  | expired ticket =>
    cases hlimit : f.limit with
    | none =>
      have hnever : ¬(ticket = f.ticket ∧ (none : Option Duration).isSome = true) := by simp
      cases f.head <;> exact if_neg hnever
    | some limit =>
      dsimp only
      by_cases hticket : ticket = f.ticket
      · rw [if_pos ⟨hticket, rfl⟩]
        cases f.head <;> simp only [if_pos hticket] <;> exact ⟨_, rfl, .expired hlimit⟩
      · rw [if_neg fun h => hticket h.1]
        cases f.head <;> simp only [if_neg hticket] <;> rfl

end Executor

end ClusterClient
