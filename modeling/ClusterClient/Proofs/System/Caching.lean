import ClusterClient.Proofs.System.Confirmations
import ClusterClient.Proofs.System.Upkeep

/-!
# Work without the cache

A call that writes, that says its answers are not to be cached, that takes them
from the head or that asks for fresh ones leaves the cache as it is, whatever comes
of it.  So do the requests that the executor sends on its own account.
-/

namespace ClusterClient

variable {α β : Type}

/-- Whether the cache has no part in a call: the command is no read, says that its answers are not
to be cached or takes them itself, or the caller wants no cached ones. -/
def Command.IsUncached (command : Command β) (options : Options) : Prop :=
  command.isRead = false ∨ command.canCache = false ∨ command.disposal = .manual ∨
    options.noCaching = true

theorem Command.IsUncached.keeps_eq_false {command : Command β} {options : Options}
    (h : command.IsUncached options) : (command.isCacheable && !options.noCaching) = false := by
  unfold isCacheable
  rcases h with h | h | h | h <;> simp [h]

/-- A request in which the cache has no part: it names no version, its answer does not change the
cache and is not looked up there, and an answer that confirms a version is a fault. -/
structure Flight.IsUncached (f : Flight β) (x : Executor) (purpose : Purpose) : Prop where
  unconditional : ∃ d, x.dispatch? f.ticket = some d ∧ d.purpose = purpose ∧
    d.wire.headers.conditions = []
  cache : ∀ signal now, (x.advanceFlight f signal now).1.cache = x.cache
  fresh : ∀ signal now result status fromCache,
    (x.advanceFlight f signal now).2 = .done (.answered result status fromCache) → fromCache = false
  unconfirmed : ∀ head now, f.head = none → head.status = .notModified →
    (x.advanceFlight f (.head f.ticket (.ok head)) now).2 =
      .done (.ended (.unconfirmed f.exchange.request.url))

namespace Executor

variable {x : Executor} {f : Flight β} {command : Command β} {options : Options}

theorem advanceFlight_unconfirmed {head : ResponseHead} (hwaits : f.head = none)
    (hkey : f.exchange.key = none) (hstatus : head.status = .notModified) (now : Instant) :
    ∃ mailbox, x.advanceFlight f (.head f.ticket (.ok head)) now =
      ({ x with mailbox }, .done (.ended (.unconfirmed f.exchange.request.url))) := by
  obtain ⟨mailbox, hheed⟩ := x.heed_eq head.headers
  refine ⟨mailbox, ?_⟩
  unfold advanceFlight
  simp only [hwaits, if_true]
  unfold receiveHead
  rw [hheed]
  dsimp only
  rw [if_pos hstatus]
  unfold confirm
  simp only [hkey]

theorem isUncached_of_fitsBare {purpose : Purpose} (h : f.FitsBare x purpose)
    (hpurpose : purpose ≠ .command) : f.IsUncached x purpose := by
  have hcache := fun signal now => cache_of_fitsBare h signal now
  obtain ⟨command, hbare, hfits⟩ := h
  have hkeep : (command.isCacheable && !true) = false := by rw [hbare.uncacheable]; rfl
  obtain ⟨d, hd, hcarries⟩ := hfits.record
  refine ⟨⟨d, hd, hcarries.purpose, (hcarries.bare hfits.isFor hbare hpurpose).conditions⟩, hcache,
    ?_, ?_⟩
  · intro signal now result status fromCache hanswered
    cases fromCache with
    | false => rfl
    | true =>
      obtain ⟨entry, hcached⟩ := cached_of_answered hanswered
      cases hkeep.symm.trans (keeps_of_cached hfits.isFor hcached)
  · intro head now hwaits hstatus
    obtain ⟨mailbox, hflight⟩ :=
      advanceFlight_unconfirmed (x := x) hwaits (hfits.isFor.key_eq_none hkeep) hstatus now
    rw [hflight]

end Executor

namespace System

variable {s : System α} {m : Moment} {action : Action α} {c : Caller} {command : Command α}
  {options : Options}

def execution? (s : System α) : Action α → Option (Caller × Command α × Options)
  | .begin number (.execute command options) =>
    if (s.call? (.outside number)).isSome then none else some (.outside number, command, options)
  | .signal caller _ =>
    match s.call? caller with
    | some (.executing c) => some (caller, c.command, c.options)
    | _ => none
  | _ => none

theorem execution?_begin {number : Nat} (h : s.call? (.outside number) = none) :
    s.execution? (.begin number (.execute command options)) =
      some (.outside number, command, options) :=
  if_neg (by simp [h])

theorem execution?_signal {e : Execution α} (h : s.call? c = some (.executing e))
    (signal : Signal) : s.execution? (.signal c signal) = some (c, e.command, e.options) := by
  unfold execution?
  dsimp only
  rw [h]

theorem execution?_cases (h : s.execution? action = some (c, command, options)) :
    (∃ number, action = .begin number (.execute command options) ∧ c = .outside number ∧
      s.call? (.outside number) = none) ∨
    (∃ e signal, action = .signal c signal ∧ s.call? c = some (.executing e) ∧
      e.command = command ∧ e.options = options) := by
  unfold execution? at h
  split at h
  · rename_i number command' options'
    split at h
    · cases h
    · rename_i hfree
      cases h
      exact .inl ⟨number, rfl, rfl, by simpa using hfree⟩
  · rename_i caller signal
    split at h
    · rename_i e hcall
      cases h
      exact .inr ⟨e, signal, rfl, hcall, rfl, rfl⟩
    · cases h
  · cases h

def phase? (s : System α) (c : Caller) : Option (Phase α) :=
  match s.call? c with
  | some (.executing e) => some e.phase
  | _ => none

theorem phase?_of_none (h : s.call? c = none) : s.phase? c = none := by
  unfold phase?
  rw [h]

theorem phase?_of_call? {e : Execution α} (h : s.call? c = some (.executing e)) :
    s.phase? c = some e.phase := by
  unfold phase?
  rw [h]

theorem call?_of_phase? {phase : Phase α} (h : s.phase? c = some phase) :
    ∃ e, s.call? c = some (.executing e) ∧ e.phase = phase := by
  unfold phase? at h
  split at h
  · rename_i e hcall
    exact ⟨e, hcall, Option.some.inj h⟩
  · cases h

theorem Fits.flight (h : s.Fits) {trail : Trail} {f : Flight α}
    (hphase : s.phase? c = some (.flying trail f)) :
    ∃ command noCaching, f.Fits s.executor .command command noCaching := by
  obtain ⟨e, hcall, hflying⟩ := call?_of_phase? hphase
  have hfits : e.phase.Fits s.executor e.command e.options.noCaching := h c _ hcall
  rw [hflying] at hfits
  exact ⟨e.command, e.options.noCaching, hfits⟩

/-- A step of a call on a command that has nothing to do with the cache. -/
structure SparesCache (s : System α) (m : Moment) (action : Action α) (c : Caller)
    (command : Command α) : Prop where
  cache : (s.step m action).1.executor.cache = s.executor.cache
  unconditional : ∀ d ∈ s.sends m action, d.purpose = .command →
    ∃ request, command.request d.node = .ok request ∧
      d.wire.headers.conditions = request.headers.conditions
  unconditionalOwn : ∀ d ∈ s.sends m action, d.purpose ≠ .command →
    d.wire.headers.conditions = []
  fresh : ∀ executed, (s.step m action).2 = some (c, .ok (.executed executed)) →
    executed.fromCache = false
  unconfirmed : ∀ trail f head, (s.call? c).bind Call.awaiting? = some (trail, f) →
    action = .signal c (.head f.ticket (.ok head)) → head.status = .notModified →
    (s.step m action).2 = some (c, .error (.fault (.unconfirmed f.exchange.request.url)))

def IsUncached (s : System α) (action : Action α) : Prop :=
  ∃ c command options, s.execution? action = some (c, command, options) ∧
    command.IsUncached options

theorem result?_of_executed {next : Executor.Next α} {result : Executed α}
    (h : (s.absorb c (Executor.executed command options next)).2 =
      some (c, .ok (.executed result))) : next.2.result? = some (.ok result) := by
  obtain ⟨y, progress⟩ := next
  match progress with
  | .waiting _ => cases h
  | .done (.error _) => cases h
  | .done (.ok _) =>
    cases h
    rfl

/-- What is known of a step of a call on a command, whether it starts or goes on. -/
theorem step_of_execution? (hfits : s.Fits)
    (h : s.execution? action = some (c, command, options)) (m : Moment) :
    ∃ next : Executor.Next α,
      s.executor.Follows (s.phase? c) command options.noCaching next ∧
      s.step m action = s.absorb c (Executor.executed command options next) := by
  rcases execution?_cases h with ⟨number, rfl, rfl, hfree⟩ | ⟨e, signal, rfl, hcall, rfl, rfl⟩
  · refine ⟨s.executor.execute command options m, ?_, if_neg (by simp [hfree])⟩
    exact phase?_of_none hfree ▸ s.executor.follows_execute command options m
  · refine ⟨s.executor.advanceExecution e signal m, ?_, step_signal hcall⟩
    exact phase?_of_call? hcall ▸ Executor.follows_advanceExecution (hfits c _ hcall) signal m

theorem upkeep?_of_uncached (hfits : s.Fits)
    (h : s.execution? action = some (c, command, options))
    (huncached : command.IsUncached options) : s.upkeep? action = none := by
  rcases execution?_cases h with ⟨number, rfl, -, -⟩ | ⟨e, signal, rfl, hcall, rfl, rfl⟩
  · rfl
  · rw [upkeep?_signal hcall]
    exact Executor.upkeep?_of_fits (hfits c _ hcall) huncached.keeps_eq_false signal

theorem cache_of_uncached (hfits : s.Fits) (h : s.IsUncached action) (m : Moment) :
    (s.step m action).1.executor.cache = s.executor.cache := by
  obtain ⟨c, command, options, hexecution, huncached⟩ := h
  rw [hfits.cache_step m action, upkeep?_of_uncached hfits hexecution huncached]
  rfl

theorem sparesCache_of_uncached (hfits : s.Fits)
    (h : s.execution? action = some (c, command, options))
    (huncached : command.IsUncached options) (m : Moment) : s.SparesCache m action c command := by
  have hkeep := huncached.keeps_eq_false
  obtain ⟨next, hfollows, hstep⟩ := step_of_execution? hfits h m
  obtain ⟨new, hnew, hmade⟩ := hfollows.sent
  have hsends := sends_absorb hstep hnew
  refine ⟨cache_of_uncached hfits ⟨c, command, options, h, huncached⟩ m, ?_, ?_, ?_, ?_⟩
  · intro d hd hpurpose
    rcases hmade d (hsends ▸ hd) with hbare | ⟨e, hfor, hcarries, -⟩
    · exact (hbare.purpose hpurpose).elim
    · refine ⟨e.request, hcarries.node ▸ hfor.request, ?_⟩
      rw [hcarries.conditions, Exchange.condition, hfor.cached_eq_none hkeep]
      exact List.append_nil _
  · intro d hd hpurpose
    rcases hmade d (hsends ▸ hd) with hbare | ⟨e, -, hcarries, -⟩
    · exact hbare.conditions
    · exact (hpurpose hcarries.purpose).elim
  · intro executed hended
    rw [hstep] at hended
    cases hfrom : executed.fromCache with
    | false => rfl
    | true => cases hkeep.symm.trans (hfollows.result executed (result?_of_executed hended) hfrom)
  · rintro trail f head hawaiting rfl hstatus
    obtain ⟨call, hcall, hawaits⟩ := Option.bind_eq_some_iff.mp hawaiting
    obtain ⟨hwaits, command', options', rfl⟩ := Call.eq_of_awaiting? hawaits
    cases (execution?_signal hcall _).symm.trans h
    have hflight : f.Fits s.executor .command command' options'.noCaching := hfits c _ hcall
    obtain ⟨mailbox, hended⟩ := Executor.advanceFlight_unconfirmed (x := s.executor) hwaits
      (hflight.isFor.key_eq_none hkeep) hstatus m.now
    rw [step_signal hcall]
    unfold Executor.advance Executor.advanceExecution
    dsimp only
    rw [hended]
    rfl

/-- What a system has to do with its cache while it works without it. -/
structure WorksWithoutCache (s : System α) : Prop where
  starts : ∀ m action opening, s.opening? action = some opening →
    (s.step m action).1.executor.cache = s.executor.cache
  step : ∀ m action c command options, s.execution? action = some (c, command, options) →
    command.IsUncached options → s.SparesCache m action c command
  run : ∀ later, (∀ event rest, event :: rest <:+ later → (s.after rest).IsUncached event.2) →
    (s.after later).executor.cache = s.executor.cache
  sweeps : ∀ c sweep, s.refresh? c = some (.sweeping sweep) →
    sweep.flight.IsUncached s.executor .topology ∧
      ∀ m signal, (s.step m (.signal c signal)).1.executor.cache = s.executor.cache
  probes : ∀ c test trial f, s.call? c = some (.testing test) → trial ∈ test.trials →
    trial.state = .underWay f →
    f.IsUncached s.executor .probe ∧
      ∀ m signal, (s.step m (.signal c signal)).1.executor.cache = s.executor.cache

theorem cache_of_run (hfits : s.Fits) (later : Run α)
    (h : ∀ event rest, event :: rest <:+ later → (s.after rest).IsUncached event.2) :
    (s.after later).executor.cache = s.executor.cache := by
  induction later with
  | nil => rfl
  | cons event rest ih =>
    have hrest := ih fun event' rest' hsuffix =>
        h event' rest' (hsuffix.trans (List.suffix_cons _ _))
    exact (cache_of_uncached (hfits.after rest) (h event rest List.suffix_rfl) event.1).trans hrest

theorem fitsBare_of_sweeping (hfits : s.Fits) {sweep : Sweep}
    (h : s.refresh? c = some (.sweeping sweep)) :
    sweep.flight.FitsBare s.executor .topology ∧ ∀ signal, s.upkeep? (.signal c signal) = none := by
  obtain ⟨call, hcall, hrefresh⟩ := Option.bind_eq_some_iff.mp h
  have hphase : ∀ {γ : Type} {phase : Phase γ} {command : Command γ} {noCaching : Bool},
      phase.Fits s.executor command noCaching → phase.refresh? = some (.sweeping sweep) →
      sweep.flight.FitsBare s.executor .topology ∧ ∀ signal, phase.upkeep? signal = none := by
    intro γ phase command noCaching hphase hrefresh
    cases phase with
    | ensuring update =>
      cases update with
      | mk isFirst refresh =>
        cases hrefresh
        exact ⟨hphase sweep rfl, fun _ => rfl⟩
    | pausing _ _ _ | flying _ _ => cases hrefresh
  simp only [upkeep?_signal hcall]
  have hcalled := hfits c call hcall
  cases call with
  | executing e => exact hphase hcalled hrefresh
  | configuring e => exact ⟨(hphase hcalled.2 hrefresh).1, fun _ => rfl⟩
  | updating u =>
    cases u with
    | mk isFirst refresh =>
      cases hrefresh
      exact ⟨hcalled sweep rfl, fun _ => rfl⟩
  | testing t => cases hrefresh

/-- Whatever the cache of an executor holds and whatever its servers say, uncached work leaves it as
it is, and so do the requests for topologies and the probes. -/
theorem works_without_cache (x : Executor) (run : Run α) :
    (({ executor := x } : System α).after run).WorksWithoutCache := by
  have hfits : (({ executor := x } : System α).after run).Fits :=
    (fits_of_idle fun _ => rfl).after run
  generalize ({ executor := x } : System α).after run = s at hfits ⊢
  have hcache : ∀ c signal m, s.upkeep? (.signal c signal) = none →
      (s.step m (.signal c signal)).1.executor.cache = s.executor.cache := by
    intro c signal m htold
    rw [hfits.cache_step, htold]
    rfl
  refine ⟨?_, fun m action c command options h huncached =>
    sparesCache_of_uncached hfits h huncached m, cache_of_run hfits, ?_, ?_⟩
  · intro m action opening hopening
    rw [hfits.cache_step, upkeep?_of_opens (opens_of_opening hopening)]
    rfl
  · intro c sweep hsweep
    obtain ⟨hbare, htold⟩ := fitsBare_of_sweeping hfits hsweep
    exact ⟨Executor.isUncached_of_fitsBare hbare (by decide),
      fun m signal => hcache c signal m (htold signal)⟩
  · intro c test trial f hcall htrial hstate
    refine ⟨Executor.isUncached_of_fitsBare (hfits c _ hcall trial htrial f hstate) (by decide),
      fun m signal => hcache c signal m ?_⟩
    rw [upkeep?_signal hcall]
    rfl

/-- The cache has an answer.  A call that does not want it asks again, and is told that it is right
still: that is a fault, and the cache has what it had. -/
theorem works_without_cache_declined :
    let host := fun name => ⟨"http", some ⟨"", "", .name name, some 8080⟩, "/", none, none⟩
    let x := Executor.new (.database "db") "app" [host "a"] { disableTopologyUpdates := true } none
    let read : Command Bytes :=
      { request := fun node => .ok (.get node.url), parse := fun body _ => .ok body,
        isRead := true }
    let moment : Nat → Moment := fun now => ⟨now, Duration.half⟩
    let run : Run Bytes :=
      [(moment 1, .begin 2 (.execute read { noCaching := true })),
        (moment 0, .signal (.outside 1) (.body 0 (.ok [0x31]))),
        (moment 0, .signal (.outside 1)
          (.head 0 (.ok { status := 200, headers := [(Headers.etag, [0x31])] }))),
        (moment 0, .begin 1 (.execute read {}))]
    let s := ({ executor := x } : System Bytes).after run
    let confirmed : Action Bytes := .signal (.outside 2) (.head 1 (.ok { status := 304 }))
    s.executor.cache.get? (.of "GET" (host "a").text none) = some ⟨"1", [0x31], 0⟩ ∧
      (s.step (moment 2) confirmed).1.executor.cache = s.executor.cache ∧
      (s.step (moment 2) confirmed).2 =
        some (.outside 2, .error (.fault (.unconfirmed (host "a")))) := by
  intro host x read moment run s confirmed
  have hview : ((s.call? (.outside 2)).bind Call.awaiting?).map (fun (_, f) =>
        (f.ticket, f.exchange.request.url)) = some (1, host "a") ∧
      (s.execution? confirmed).map
        (fun (c, _, options) => (c, options)) = some (.outside 2, { noCaching := true }) := by
    decide +kernel
  obtain ⟨⟨trail, f⟩, hawaiting, hsees⟩ := Option.map_eq_some_iff.mp hview.1
  obtain ⟨hticket, hurl⟩ := Prod.mk.inj hsees
  obtain ⟨⟨c, command, options⟩, hexecution, hcalled⟩ := Option.map_eq_some_iff.mp hview.2
  obtain ⟨rfl, rfl⟩ := Prod.mk.inj hcalled
  have hspares : s.SparesCache (moment 2) confirmed (.outside 2) command :=
    (works_without_cache x run).step _ _ _ _ _ hexecution (.inr (.inr (.inr rfl)))
  refine ⟨by decide +kernel, hspares.cache, ?_⟩
  rw [← hurl]
  exact hspares.unconfirmed trail f { status := 304 } hawaiting (by rw [hticket]) rfl

end System

end ClusterClient
