import ClusterClient.Executor.Execute

/-!
# Calls alone on their executor

A call that no other call and no background work comes between.  What happens to
it is decided by the answers to its requests and by the moments at which they
come, so it ends in one way at most.
-/

namespace ClusterClient

structure Response where
  head : Except TransportFailure ResponseHead
  body : Except TransportFailure Bytes

/-- What surrounds a call that is alone: the answer to each request, by its number, and the moments
at which the parts of the answer come and at which a pause before the request is over. -/
structure Surroundings where
  response : Nat → Wire → Response
  headAt : Nat → Moment
  bodyAt : Nat → Moment
  resumedAt : Nat → Moment

namespace Executor

variable {α : Type}

def dispatch? (x : Executor) (ticket : Nat) : Option Dispatch := x.sent.reverse[ticket]?

def flightSignal? (w : Surroundings) (x : Executor) (f : Flight α) : Option (Signal × Moment) :=
  (x.dispatch? f.ticket).map fun d =>
    let response := w.response f.ticket d.wire
    match f.head with
    | none => (.head f.ticket response.head, w.headAt f.ticket)
    | some _ => (.body f.ticket response.body, w.bodyAt f.ticket)

/-- What a call waits for next.  Nobody hands the lock over to a call that is alone. -/
def signal? (w : Surroundings) (x : Executor) : Phase α → Option (Signal × Moment)
  | .ensuring ⟨_, .queued _ _⟩ => none
  | .ensuring ⟨_, .sweeping sweep⟩ => x.flightSignal? w sweep.flight
  | .pausing _ _ _ => some (.resumed, w.resumedAt x.sent.length)
  | .flying _ flight => x.flightSignal? w flight

/-- How a call that got this far ends: the executor after it and what its caller gets. -/
inductive Ends (w : Surroundings) (command : Command α) (options : Options) :
    Next α → Executor → Except ExecutorError (Executed α) → Prop where
  | done (y : Executor) (r : Except ExecutorError (Executed α)) :
    Ends w command options (y, .done r) y r
  | wait {x y : Executor} {phase : Phase α} {signal : Signal} {m : Moment}
    {r : Except ExecutorError (Executed α)} (hsignal : x.signal? w phase = some (signal, m))
    (hrest : Ends w command options (x.advanceExecution ⟨command, options, phase⟩ signal m) y r) :
    Ends w command options (x, .waiting phase) y r

variable {w : Surroundings} {command : Command α} {options : Options}

theorem ends_done_iff {x y : Executor} {r r' : Except ExecutorError (Executed α)} :
    Ends w command options (x, .done r') y r ↔ y = x ∧ r = r' := by
  constructor
  · intro h
    cases h
    exact ⟨rfl, rfl⟩
  · rintro ⟨rfl, rfl⟩
    exact .done y r

theorem ends_waiting_iff {x y : Executor} {phase : Phase α} {signal : Signal} {m : Moment}
    {r : Except ExecutorError (Executed α)} (hsignal : x.signal? w phase = some (signal, m)) :
    Ends w command options (x, .waiting phase) y r ↔
      Ends w command options (x.advanceExecution ⟨command, options, phase⟩ signal m) y r := by
  constructor
  · intro h
    cases h with
    | wait hsignal' hrest =>
      rw [hsignal] at hsignal'
      cases hsignal'
      exact hrest
  · exact Ends.wait hsignal

theorem Ends.unique {next : Next α} {y y' : Executor} {r r' : Except ExecutorError (Executed α)}
    (h : Ends w command options next y r) (h' : Ends w command options next y' r') :
    y' = y ∧ r' = r := by
  induction h with
  | done => exact ends_done_iff.mp h'
  | wait hsignal _ ih => exact ih ((ends_waiting_iff hsignal).mp h')

/-! ## Taking in a whole answer -/

def takeIn (x : Executor) (f : Flight α) (response : Response) (headAt bodyAt : Moment) :
    Executor × Outcome α × Moment :=
  match response.head with
  | .error failure => (x, .failed (.transport failure), headAt)
  | .ok head =>
    match x.receiveHead f head headAt.now with
    | (x, .done outcome) => (x, outcome, headAt)
    | (x, .waiting _) =>
      let (x, outcome) := x.receiveBody f.exchange head response.body bodyAt.now
      (x, outcome, bodyAt)

theorem heed_eq (x : Executor) (headers : Headers) :
    ∃ mailbox, x.heed headers = { x with mailbox } := by
  have hpost : ∀ (z : Executor) (message : Message), ∃ mailbox,
      z.post message = { z with mailbox } := by
    intro z message
    unfold post
    split
    · exact ⟨_, rfl⟩
    · exact ⟨z.mailbox, rfl⟩
  obtain ⟨first, hfirst⟩ : ∃ mailbox,
      (if headers.flag Headers.refreshTopology && x.updatesTopology then
        x.post (.updateTopology false) else x) = { x with mailbox } := by
    split
    · exact hpost x _
    · exact ⟨x.mailbox, rfl⟩
  unfold heed
  rw [hfirst]
  dsimp only
  split
  · obtain ⟨second, hsecond⟩ := hpost { x with mailbox := first } .updateConfiguration
    exact ⟨second, hsecond⟩
  · exact ⟨first, rfl⟩

theorem receiveHead_waiting {x y : Executor} {f f' : Flight α} {head : ResponseHead}
    {now : Instant} (h : x.receiveHead f head now = (y, .waiting f')) :
    y = x.heed head.headers ∧ f' = { f with head := some head } := by
  unfold receiveHead at h
  dsimp only at h
  split at h
  · cases h
  · split at h
    · cases h
    · cases h
      exact ⟨rfl, rfl⟩

theorem dispatch?_heed (x : Executor) (headers : Headers) (ticket : Nat) :
    (x.heed headers).dispatch? ticket = x.dispatch? ticket := by
  obtain ⟨mailbox, hheed⟩ := x.heed_eq headers
  rw [hheed]
  rfl

theorem flightSignal?_head {x : Executor} {f : Flight α} {d : Dispatch}
    (hsent : x.dispatch? f.ticket = some d) (hhead : f.head = none) :
    x.flightSignal? w f =
      some (.head f.ticket (w.response f.ticket d.wire).head, w.headAt f.ticket) := by
  rw [flightSignal?, hsent, hhead]
  rfl

theorem flightSignal?_body {x : Executor} {f : Flight α} {d : Dispatch} (head : ResponseHead)
    (hsent : x.dispatch? f.ticket = some d) :
    (x.heed head.headers).flightSignal? w { f with head := some head } =
      some (.body f.ticket (w.response f.ticket d.wire).body, w.bodyAt f.ticket) := by
  rw [flightSignal?, dispatch?_heed, hsent]
  rfl

theorem takeIn_cases (x : Executor) {f : Flight α} (response : Response) (headAt bodyAt : Moment)
    (hhead : f.head = none) :
    (∃ z outcome,
      x.advanceFlight f (.head f.ticket response.head) headAt.now = (z, .done outcome) ∧
      x.takeIn f response headAt bodyAt = (z, outcome, headAt)) ∨
    ∃ head z outcome,
      x.advanceFlight f (.head f.ticket response.head) headAt.now =
        (x.heed head.headers, .waiting { f with head := some head }) ∧
      (x.heed head.headers).advanceFlight { f with head := some head }
        (.body f.ticket response.body) bodyAt.now = (z, .done outcome) ∧
      x.takeIn f response headAt bodyAt = (z, outcome, bodyAt) := by
  unfold takeIn
  cases hresponse : response.head with
  | error failure => exact Or.inl ⟨x, _, by simp [advanceFlight, hhead], rfl⟩
  | ok head =>
    have hadvance : x.advanceFlight f (.head f.ticket (.ok head)) headAt.now =
        x.receiveHead f head headAt.now := by
      simp [advanceFlight, hhead]
    cases hreceived : x.receiveHead f head headAt.now with
    | mk z progress =>
      rw [hreceived] at hadvance
      cases progress with
      | done outcome => exact Or.inl ⟨z, outcome, hadvance, by simp [hreceived]⟩
      | waiting f' =>
        obtain ⟨rfl, rfl⟩ := receiveHead_waiting hreceived
        let received := (x.heed head.headers).receiveBody f.exchange head response.body bodyAt.now
        refine Or.inr ⟨head, received.1, received.2, hadvance, ?_, ?_⟩
        · simp [advanceFlight, received]
        · simp [hreceived, received]

theorem ends_flying_iff {x y : Executor} {t : Trail} {f : Flight α} {d : Dispatch}
    {r : Except ExecutorError (Executed α)} (hsent : x.dispatch? f.ticket = some d)
    (hhead : f.head = none) :
    Ends w command options (x, .waiting (.flying t f)) y r ↔
      let (z, outcome, m) :=
        x.takeIn f (w.response f.ticket d.wire) (w.headAt f.ticket) (w.bodyAt f.ticket)
      Ends w command options
        (z.concludeAttempt ⟨command, options, .flying t f⟩ t f.exchange outcome m) y r := by
  have hsignal : x.signal? w (.flying t f) = some (.head f.ticket (w.response f.ticket d.wire).head,
      w.headAt f.ticket) := flightSignal?_head hsent hhead
  rw [ends_waiting_iff hsignal]
  rcases x.takeIn_cases (w.response f.ticket d.wire) (w.headAt f.ticket) (w.bodyAt f.ticket) hhead
    with ⟨z, outcome, hdone, htakeIn⟩ | ⟨head, z, outcome, hwaiting, hdone, htakeIn⟩
  · simp only [htakeIn, advanceExecution, hdone]
  · simp only [htakeIn, advanceExecution, hwaiting]
    have hsignal' : (x.heed head.headers).signal? w (.flying t { f with head := some head }) =
        some (.body f.ticket (w.response f.ticket d.wire).body, w.bodyAt f.ticket) :=
      flightSignal?_body head hsent
    rw [ends_waiting_iff hsignal']
    simp only [advanceExecution, hdone]
    rfl

end Executor

end ClusterClient
