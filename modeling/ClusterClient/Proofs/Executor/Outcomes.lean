import ClusterClient.Proofs.Executor.Solo

/-!
# What a response means

The meaning of a response depends on the exchange alone: on its command and on
what the cache held when the request was made.  Taking a response in tells the
background what is out of date and may change the cache; nothing else changes.
-/

namespace ClusterClient

def Outcome.isFailure {α : Type} : Outcome α → Bool
  | .failed _ => true
  | _ => false

def Outcome.isAnswered {α : Type} : Outcome α → Bool
  | .answered _ _ _ => true
  | _ => false

namespace Exchange

variable {α : Type}

/-- What a response comes to: a failure of the node if no head came, if the body of a success
cannot be read, or if the server itself failed; a result if it can be read off the answer, or off
the cached answer that is confirmed; a fault otherwise. -/
def outcome (e : Exchange α) (response : Response) : Outcome α :=
  match response.head with
  | .error failure => .failed (.transport failure)
  | .ok head =>
    if head.status = 304 then
      match e.key, e.cached with
      | some _, some entry =>
        match e.command.parse entry.payload true with
        | .ok result => .answered result head.status true
        | .error cause => .ended (.unreadable e.request.url cause)
      | _, _ => .ended (.unconfirmed e.request.url)
    else if 200 ≤ head.status ∧ head.status < 300 then
      match e.command.disposal with
      | .manual =>
        match e.command.take head with
        | .ok result => .answered result head.status false
        | .error cause => .ended (.unreadable e.request.url cause)
      | .automatic =>
        match response.body with
        | .error failure => .failed (.transport failure)
        | .ok bytes =>
          match e.command.parse bytes false with
          | .ok result => .answered result head.status false
          | .error cause => .ended (.unreadable e.request.url cause)
    else
      let error := ServerError.ofAnswer head.status (response.body.toOption.getD [])
      if 500 ≤ head.status ∧ head.status < 600 then .failed (.serverFailed error)
      else .ended (.rejected error)

/-- When a response is settled: with its head unless the body is waited for. -/
def settledAt (e : Exchange α) (response : Response) (headAt bodyAt : Moment) : Moment :=
  match response.head with
  | .error _ => headAt
  | .ok head =>
    if head.status = 304 then headAt
    else if (200 ≤ head.status ∧ head.status < 300) ∧ e.command.disposal = .manual then headAt
    else bodyAt

/-- The cache after a response: a confirmed entry is young again, and an answer with a version is
kept if it has a result. -/
def cacheAfter (e : Exchange α) (cache : Cache) (response : Response) (headAt bodyAt : Moment) :
    Cache :=
  match response.head with
  | .error _ => cache
  | .ok head =>
    if head.status = 304 then
      match e.key, e.cached with
      | some key, some _ => (cache.refreshAge headAt.now key).1
      | _, _ => cache
    else if (200 ≤ head.status ∧ head.status < 300) ∧ e.command.disposal = .automatic then
      match response.body with
      | .error _ => cache
      | .ok bytes =>
        match e.command.parse bytes false, e.key, head.headers.text? Headers.etag with
        | .ok _, some key, some etag => cache.put bodyAt.now key etag bytes
        | _, _, _ => cache
    else cache

theorem cacheAfter_of_isFailure {e : Exchange α} {response : Response}
    (hfailure : (e.outcome response).isFailure = true) (cache : Cache) (headAt bodyAt : Moment) :
    e.cacheAfter cache response headAt bodyAt = cache := by
  unfold outcome at hfailure
  unfold cacheAfter
  cases hhead : response.head with
  | error failure => rfl
  | ok head =>
    simp only [hhead] at hfailure ⊢
    by_cases hnotModified : head.status = 304
    · rw [if_pos hnotModified] at hfailure ⊢
      cases hkey : e.key with
      | none => rfl
      | some key =>
        cases hcached : e.cached with
        | none => rfl
        | some entry =>
          cases hparse : e.command.parse entry.payload true <;>
            simp [hkey, hcached, hparse, Outcome.isFailure] at hfailure
    · rw [if_neg hnotModified] at hfailure ⊢
      by_cases hkept : (200 ≤ head.status ∧ head.status < 300) ∧ e.command.disposal = .automatic
      · rw [if_pos hkept]
        cases hbody : response.body with
        | error failure => rfl
        | ok bytes =>
          rw [if_pos hkept.1] at hfailure
          cases hparse : e.command.parse bytes false <;>
            simp [hkept.2, hbody, hparse, Outcome.isFailure] at hfailure
      · rw [if_neg hkept]

end Exchange

namespace Executor

variable {α : Type}

theorem isSuccess_iff (status : Status) :
    status.isSuccess = true ↔ 200 ≤ status ∧ status < 300 := by
  simp [Status.isSuccess]

theorem isServerError_iff (status : Status) :
    status.isServerError = true ↔ 500 ≤ status ∧ status < 600 := by
  simp [Status.isServerError]

theorem confirm_eq (x : Executor) (e : Exchange α) (status : Status) (now : Instant)
    (hcached : ∀ key, e.key = some key → x.cache.get? key = e.cached) :
    x.confirm e status now =
      match e.key, e.cached with
      | some key, some entry =>
        ({ x with cache := (x.cache.refreshAge now key).1 },
          readResult e status true (e.command.parse entry.payload true))
      | _, _ => (x, .ended (.unconfirmed e.request.url)) := by
  unfold confirm
  cases hkey : e.key with
  | none => rfl
  | some key =>
    cases hentry : e.cached with
    | none => rfl
    | some entry =>
      have hheld : x.cache.get? key = some entry := (hcached key hkey).trans hentry
      simp [Cache.refreshAge, hheld]

theorem takeIn_eq (x : Executor) (f : Flight α) (response : Response) (headAt bodyAt : Moment)
    (hcached : ∀ key, f.exchange.key = some key → x.cache.get? key = f.exchange.cached) :
    ∃ mailbox, x.takeIn f response headAt bodyAt =
      ({ x with mailbox, cache := f.exchange.cacheAfter x.cache response headAt bodyAt },
        f.exchange.outcome response, f.exchange.settledAt response headAt bodyAt) := by
  unfold takeIn Exchange.cacheAfter Exchange.outcome Exchange.settledAt
  cases hhead : response.head with
  | error failure => exact ⟨x.mailbox, rfl⟩
  | ok head =>
    obtain ⟨mailbox, hheed⟩ := x.heed_eq head.headers
    refine ⟨mailbox, ?_⟩
    simp only [receiveHead, hheed]
    by_cases hnotModified : head.status = 304
    · have hconfirm := confirm_eq { x with mailbox } f.exchange head.status headAt.now hcached
      simp only [Status.notModified, hnotModified, if_true] at hconfirm ⊢
      rw [hconfirm]
      cases f.exchange.key with
      | none => rfl
      | some key =>
        cases f.exchange.cached with
        | none => rfl
        | some entry => cases f.exchange.command.parse entry.payload true <;> rfl
    · simp only [Status.notModified, hnotModified, if_false]
      by_cases hsuccess : 200 ≤ head.status ∧ head.status < 300
      · have hisSuccess : head.status.isSuccess = true := (isSuccess_iff _).mpr hsuccess
        cases hdisposal : f.exchange.command.disposal with
        | manual =>
          cases f.exchange.command.take head <;> simp [hisSuccess, hsuccess, readResult]
        | automatic =>
          simp only [hisSuccess, hsuccess, receiveBody, receiveResult]
          cases response.body with
          | error failure => simp
          | ok bytes =>
            cases hparse : f.exchange.command.parse bytes false with
            | error cause => simp [hparse]
            | ok result =>
              cases hkey : f.exchange.key <;> cases hetag : head.headers.text? Headers.etag <;>
                simp [keep, hparse, hkey, hetag]
      · have hisSuccess : head.status.isSuccess = false := by
          rw [← Bool.not_eq_true, isSuccess_iff]
          exact hsuccess
        simp only [hisSuccess, hsuccess, receiveBody, refusal]
        by_cases hserver : 500 ≤ head.status ∧ head.status < 600
        · have hisServerError : head.status.isServerError = true :=
            (isServerError_iff _).mpr hserver
          simp [hisServerError, hserver]
        · have hisServerError : head.status.isServerError = false := by
            rw [← Bool.not_eq_true, isServerError_iff]
            exact hserver
          simp [hisServerError, hserver]

end Executor

end ClusterClient
