import ClusterClient.Proofs.Executor.Outcomes

/-!
# Attempts

What becomes of an attempt of a call that is alone: the request of the command is
prepared, leaves unless no client can be made for the node, and the call goes on
with what the response comes to.
-/

namespace ClusterClient.Executor

variable {α : Type} {w : Surroundings} {command : Command α} {options : Options}

theorem prepare_eq_ok {x : Executor} {node : Node} {noCaching : Bool} {e : Exchange α}
    (h : x.prepare command node noCaching = .ok e) :
    e.command = command ∧ e.node = node ∧
      ∀ key, e.key = some key → x.cache.get? key = e.cached := by
  unfold prepare at h
  cases hrequest : command.request node with
  | error cause =>
    rw [hrequest] at h
    cases h
  | ok request =>
    rw [hrequest] at h
    cases h
    refine ⟨rfl, rfl, ?_⟩
    intro key hkey
    simp only at hkey ⊢
    rw [hkey]
    rfl

theorem isSome_open?_of_isSome {pool opened : Pool} {url other : Url}
    (hopened : pool.open? url = some opened) (hother : (pool.open? other).isSome = true) :
    (opened.open? other).isSome = true := by
  unfold Pool.open? at hopened hother ⊢
  split at hopened
  · cases hopened
    exact hother
  · split at hopened
    · cases hopened
      split
      · rfl
      · simp
    · cases hopened

theorem attempt_of_no_delay {x : Executor} {node : Node} {number : Nat} {m : Moment}
    {e : Exchange α} {cause : TimeError}
    (hexchange : x.prepare command node options.noCaching = .ok e)
    (hyoung : x.youngAnswer? e m.now = none)
    (hdelay : x.conventions.backoff.delayBefore number m.jitter = .error cause)
    (earlier : List NodeFailure) (rest : List Node) :
    x.attempt command options number earlier (node :: rest) m =
      (x, .done (.error (.overflow cause))) := by
  simp only [attempt, hexchange, hyoung, hdelay]

theorem ends_attempt_begin (x : Executor) (number : Nat) (earlier : List NodeFailure) (node : Node)
    (rest : List Node) (m : Moment) {e : Exchange α} {pause : Duration}
    (hexchange : x.prepare command node options.noCaching = .ok e)
    (hyoung : x.youngAnswer? e m.now = none)
    (hpause : x.conventions.backoff.delayBefore number m.jitter = .ok pause) (y : Executor)
    (r : Except ExecutorError (Executed α)) :
    Ends w command options (x.attempt command options number earlier (node :: rest) m) y r ↔
      Ends w command options
        (x.beginAttempt { attempt := number, rest, failures := earlier } e) y r := by
  unfold attempt
  simp only [hexchange, hyoung, hpause]
  split
  · rfl
  · rw [ends_waiting_iff (by rfl)]
    rfl

theorem ends_attempt_cons (x : Executor) (number : Nat) (earlier : List NodeFailure) (node : Node)
    (rest : List Node) (m : Moment) {e : Exchange α} {pause : Duration}
    (hexchange : x.prepare command node options.noCaching = .ok e)
    (hclient : (x.pool.open? e.request.url).isSome = true)
    (hyoung : x.youngAnswer? e m.now = none)
    (hpause : x.conventions.backoff.delayBefore number m.jitter = .ok pause) :
    let response := w.response x.sent.length (x.wire e)
    let headAt := w.headAt x.sent.length
    let bodyAt := w.bodyAt x.sent.length
    let dispatch : Dispatch :=
      { purpose := .command, node := e.node, wire := x.wire e, limit := none }
    ∃ pool mailbox phase, x.pool.open? e.request.url = some pool ∧ ∀ y r,
      Ends w command options (x.attempt command options number earlier (node :: rest) m) y r ↔
      Ends w command options
        (concludeAttempt { x with
            pool, mailbox
            cache := e.cacheAfter x.cache response headAt bodyAt
            sent := dispatch :: x.sent
            events := .before e.request.url number :: x.events }
          ⟨command, options, phase⟩ { attempt := number, rest, failures := earlier } e
          (e.outcome response) (e.settledAt response headAt bodyAt)) y r := by
  intro response headAt bodyAt dispatch
  obtain ⟨pool, hpool⟩ := Option.isSome_iff_exists.mp hclient
  let t : Trail := { attempt := number, rest, failures := earlier }
  let f : Flight α := { exchange := e, ticket := x.sent.length, limit := none }
  let z : Executor := { x with
    pool, sent := dispatch :: x.sent, events := .before e.request.url number :: x.events }
  have hbegin : x.beginAttempt t e = (z, .waiting (.flying t f)) := by
    have hopen : (x.emit (.before e.request.url number)).pool.open? e.request.url = some pool :=
      hpool
    simp only [beginAttempt, send]
    rw [show t.attempt = number from rfl, hopen]
    rfl
  have hsent : z.dispatch? f.ticket = some dispatch := by
    simp [dispatch?, z, f]
  obtain ⟨mailbox, htakeIn⟩ := z.takeIn_eq f response headAt bodyAt (prepare_eq_ok hexchange).2.2
  refine ⟨pool, mailbox, .flying t f, hpool, fun y r => ?_⟩
  rw [ends_attempt_begin x number earlier node rest m hexchange hyoung hpause, hbegin,
    ends_flying_iff hsent rfl]
  have hresponse : w.response f.ticket dispatch.wire = response := rfl
  rw [hresponse, htakeIn]

end ClusterClient.Executor
