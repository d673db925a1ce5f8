import ClusterClient.Proofs.System.Freshness
import ClusterClient.Proofs.System.LastSweeps

/-!
# Nodes that are spared

A read that turns to a node may be content with what the cache has of it, if that is
young enough.  Then nobody is asked, and the answer is what a server gave or confirmed
only just now.  Otherwise the node is asked whether that is right still.
-/

namespace ClusterClient

variable {α : Type}

def Reply.executed? : Reply α → Option (Executed α)
  | .executed r => some r
  | .updated _ | .tested => none

theorem Reply.executed?_eq_some_iff {reply : Reply α} {r : Executed α} :
    reply.executed? = some r ↔ reply = .executed r := by
  cases reply <;> simp [executed?]

namespace System

variable {s : System α} {m : Moment} {action : Action α} {c : Caller} {t : Turn}
  {command : Command α} {options : Options} {node : Node} {request : Request}
  {entry : Cache.Entry}

/-! ## Turns that are spared -/

/-- A call turns to a node of which the cache has an answer that is young enough. -/
structure ServesCached (s : System α) (m : Moment) (action : Action α) (c : Caller) (t : Turn)
    (command : Command α) (options : Options) (node : Node) (request : Request)
    (entry : Cache.Entry) : Prop where
  turn : s.turn? m action = some (c, t)
  execution : s.execution? action = some (c, command, options)
  spares : t.Spares command options m.now node request entry

theorem step_of_turn? (hturn : s.turn? m action = some (c, t))
    (hexecution : s.execution? action = some (c, command, options)) :
    s.step m action =
      s.absorb c (Executor.executed command options (t.take command options m)) := by
  obtain ⟨next, hstep, hproceeds⟩ := step_proceeds hexecution m
  rw [hturn] at hproceeds
  obtain rfl : next = t.take command options m := hproceeds
  exact hstep

theorem ServesCached.step_eq (h : s.ServesCached m action c t command options node request entry) :
    (s.step m action).1.executor = t.executor ∧
      (s.step m action).2 = some (c, (t.spared command node request entry).map .executed) := by
  rw [step_of_turn? h.turn h.execution, h.spares.take_eq]
  unfold Turn.spared
  cases command.parse entry.payload true <;> cases c <;> exact ⟨rfl, rfl⟩

theorem done_of_ended {next : Executor.Next α} {r : Executed α}
    (h : (s.absorb c (Executor.executed command options next)).2 = some (c, .ok (.executed r))) :
    next.2 = .done (.ok r) := by
  obtain ⟨x, progress⟩ := next
  match progress with
  | .waiting _ => cases h
  | .done (.error _) => cases h
  | .done (.ok _) =>
    cases h
    rfl

/-- A result is an answer that the call was waiting for, or an entry of the cache. -/
theorem given_or_servesCached {r : Executed α}
    (h : (s.step m action).2 = some (c, .ok (.executed r))) :
    Executor.GivenBy (s.phase? c) r ∨ ∃ t command options node request entry,
      s.ServesCached m action c t command options node request entry ∧
        t.spared command node request entry = .ok r := by
  obtain ⟨command, options, hexecution⟩ := execution?_of_ended h
  obtain ⟨next, hstep, hproceeds⟩ := step_proceeds hexecution m
  rw [hstep] at h
  have hdone := done_of_ended h
  cases hturn : s.turn? m action with
  | none =>
    rw [hturn] at hproceeds
    exact .inl (Executor.StaysWith.answered hproceeds r hdone)
  | some turn =>
    obtain ⟨d, t⟩ := turn
    obtain ⟨command', options', hexecution'⟩ := execution?_of_turn? hturn
    obtain rfl : d = c := by
      cases hexecution.symm.trans hexecution'
      rfl
    rw [hturn] at hproceeds
    obtain rfl : next = t.take command options m := hproceeds
    obtain ⟨node, request, entry, hspares⟩ := Turn.spares_of_take hdone
    rw [hspares.take_eq] at hdone
    exact .inr ⟨t, command, options, node, request, entry, ⟨hturn, hexecution, hspares⟩,
      Progress.done.inj hdone⟩

theorem eq_of_spared {r : Executed α} (h : t.spared command node request entry = .ok r) :
    r = { result := r.result, status := none, node, fromCache := true, attempts := t.number - 1 } ∧
      command.parse entry.payload true = .ok r.result := by
  unfold Turn.spared at h
  split at h
  · rename_i result hparse
    cases h
    exact ⟨rfl, hparse⟩
  · cases h

theorem status_of_spared {r : Executed α} (h : t.spared command node request entry = .ok r) :
    r.status = none := by
  rw [(eq_of_spared h).1]

/-! ## Requests that name a version -/

theorem upkeep?_of_sends (hexecution : s.execution? action = some (c, command, options))
    {d : Dispatch} (hd : d ∈ s.sends m action) : s.upkeep? action = none := by
  cases htold : s.upkeep? action with
  | none => rfl
  | some operation =>
    rcases of_upkeep? htold with ⟨rfl, -⟩ | ⟨caller, e, signal, rfl, hcall, hupkeep⟩
    · cases hexecution
    · have hsent : (s.step m (.signal caller signal)).1.executor.sent =
          [] ++ s.executor.sent := by
        rw [step_signal hcall, sent_absorb]
        exact (Executor.settled_of_phase_upkeep? hupkeep).2
      rw [sends_eq hsent] at hd
      cases hd

/-- A request for a call on a command, and the version that it names. -/
structure AsksAbout (cache : Cache) (command : Command α) (d : Dispatch) (request : Request) :
    Prop where
  made : command.request d.node = .ok request
  key : d.wire.key = .of request.method request.url.text request.body
  conditions : d.wire.headers.conditions = request.headers.conditions ++
    ((cache.get? d.wire.key).map fun entry => Bytes.ofString entry.changeVector).toList

theorem asksAbout_of_sends {run : Run α} (hfits : s.Fits) (hcurrent : s.Current run)
    (hlives : ¬Disposed run) (hexecution : s.execution? action = some (c, command, options))
    (hcacheable : command.isCacheable = true) (hwanted : options.noCaching = false) {d : Dispatch}
    (hd : d ∈ s.sends m action) (hpurpose : d.purpose = .command) :
    ∃ request, AsksAbout s.executor.cache command d request := by
  obtain ⟨next, hfollows, hstep⟩ := step_of_execution? hfits hexecution m
  have hcache : next.1.cache = s.executor.cache := by
    have hstill := hfits.cache_step m action
    rw [upkeep?_of_sends hexecution hd, Cache.upkeep_none, hstep, (s.aside_absorb c _).cache,
      (Executor.executed_spec _ _ next).1] at hstill
    exact hstill
  obtain ⟨new, hnew, hmade⟩ := hfollows.sent
  have hsends := sends_absorb hstep hnew
  rcases hmade d (hsends ▸ hd) with hbare | ⟨e, hfor, hcarries, hsource⟩
  · exact (hbare.purpose hpurpose).elim
  · have hkey : e.key = some d.wire.key := by
      rw [hfor.key, hcacheable, hwanted, hcarries.key]
      rfl
    have hcached : e.cached = e.key.bind s.executor.cache.get? := by
      rw [hcache] at hsource
      rcases hsource with hheld | hprepared
      · obtain ⟨phase, hphase, he⟩ := Option.bind_eq_some_iff.mp hheld
        exact (hcurrent c phase e hphase he).resolve_right fun ⟨hdisposed, _⟩ => hlives hdisposed
      · exact hprepared
    refine ⟨e.request, hcarries.node ▸ hfor.request, hcarries.key, ?_⟩
    rw [hcarries.conditions, Exchange.condition, hcached, hkey]
    rfl

/-! ## All runs -/

/-- A node was sent a request along a run, and it failed. -/
structure AskedInVain (start : System α) (run : Run α) (ticket : Nat) (node : Node) : Prop where
  asked : ∃ d, (start.after run).executor.dispatch? ticket = some d ∧ d.purpose = .command ∧
    d.node = node
  failed : ∃ event ∈ start.completions run, ∃ exhausted, event.2 = .failed ticket node exhausted

/-- How calls make use of the cache in a step that comes after a run. -/
structure SparesNodes (start : System α) (run : Run α) (m : Moment) (action : Action α) : Prop where
  /-- The results for which nobody was asked are those that the cache has for a turn. -/
  spared_iff : ∀ c (r : Executed α),
    (((start.after run).step m action).2 = some (c, .ok (.executed r)) ∧ r.status = none) ↔
      ∃ t command options node request entry,
        (start.after run).ServesCached m action c t command options node request entry ∧
          t.spared command node request entry = .ok r
  /-- All others were given by the node that the call was at. -/
  given : ∀ c (r : Executed α),
    ((start.after run).step m action).2 = some (c, .ok (.executed r)) → r.status ≠ none →
      (∃ ticket d, (start.after run).executor.dispatch? ticket = some d ∧
        d.purpose = .command ∧ d.node = r.node) ∧
      ∃ nodes, (start.journey c run).Reaches r.attempts (r.node :: nodes)
  /-- Who turns to a node has asked all nodes of its plan before it, and they failed. -/
  reached : ∀ c t, (start.after run).turn? m action = some (c, t) →
    (start.journey c ((m, action) :: run)).Reaches t.number t.nodes ∧
    ∀ contact ∈ (start.journey c ((m, action) :: run)).failed,
      start.AskedInVain ((m, action) :: run) contact.1 contact.2
  /-- When a node failed, the call turns to those that it has left. -/
  turns : ∀ c command options ticket node exhausted,
    (start.after run).execution? action = some (c, command, options) →
    (start.after run).completion? m action = some (.failed ticket node exhausted) →
    ∃ t, (start.after run).turn? m action = some (c, t) ∧ t.nodes.isEmpty = exhausted
  /-- Then a young answer ends the call, and nothing else comes of it. -/
  spared : ∀ c t command options node request entry,
    (start.after run).ServesCached m action c t command options node request entry →
      ((start.after run).step m action).2 =
        some (c, (t.spared command node request entry).map .executed) ∧
      ((start.after run).step m action).1.executor = t.executor ∧
      (start.after run).sends m action = [] ∧
      t.executor.cache = (start.after run).executor.cache ∧
      t.executor.conventions = start.executor.conventions
  /-- It is what a server gave or confirmed when it says so. -/
  vouched : ∀ c t command options node request entry,
    (start.after run).ServesCached m action c t command options node request entry →
      start.Vouched run (.of request.method request.url.text request.body) entry
  /-- A node that is asked is told which version the cache has, if it has one.  A call that was
  under way when the executor was given up may name what the cache had before. -/
  asks : ∀ c command options d, (start.after run).execution? action = some (c, command, options) →
    command.isCacheable = true → options.noCaching = false → ¬Disposed run →
    d ∈ (start.after run).sends m action → d.purpose = .command →
    ∃ request, AsksAbout (start.after run).executor.cache command d request

theorem Fits.given_at (h : s.Fits) {r : Executed α} (hgiven : Executor.GivenBy (s.phase? c) r) :
    (∃ ticket d, s.executor.dispatch? ticket = some d ∧ d.purpose = .command ∧ d.node = r.node) ∧
      ∃ nodes, s.place? c = some (r.attempts, r.node :: nodes) := by
  obtain ⟨-, trail, f, hphase, hnode, hattempts⟩ := hgiven
  obtain ⟨command, noCaching, hfits⟩ := h.flight hphase
  obtain ⟨d, hd, hcarries⟩ := hfits.record
  refine ⟨⟨f.ticket, d, hd, hcarries.purpose, hcarries.node.trans hnode⟩, trail.rest, ?_⟩
  rw [place?, hphase, ← hnode, ← hattempts]
  rfl

theorem sparesNodes_of_idle {start : System α} (hidle : ∀ c, start.call? c = none)
    (hempty : ∀ key, start.executor.cache.get? key = none) {run : Run α}
    (hsequential : start.isSequential run = true) (m : Moment) (action : Action α) :
    start.SparesNodes run m action := by
  have hfits : start.Fits := fits_of_idle hidle
  have hthen : (start.after run).Fits := hfits.after run
  refine
    { spared_iff := fun c r => ⟨fun ⟨hended, hstatus⟩ => ?_, ?_⟩
      given := ?_
      reached := ?_
      turns := fun _ _ _ _ _ _ hexecution hended => turn?_of_failed hexecution hended
      spared := ?_
      vouched := ?_
      asks := ?_ }
  · exact (given_or_servesCached hended).resolve_left fun hgiven => hgiven.status hstatus
  · rintro ⟨t, command, options, node, request, entry, hserves, hspared⟩
    refine ⟨?_, status_of_spared hspared⟩
    rw [hserves.step_eq.2, hspared]
    rfl
  · intro c r hended hstatus
    rcases given_or_servesCached hended with hgiven | ⟨t, _, _, _, _, _, _, hspared⟩
    · obtain ⟨hasked, nodes, hplace⟩ := hthen.given_at hgiven
      exact ⟨hasked, nodes, reaches_after hidle run hplace⟩
    · exact (hstatus (status_of_spared hspared)).elim
  · intro c t hturn
    constructor
    · rw [journey, hturn]
      dsimp only
      rw [if_pos rfl]
      exact reaches_of_turn? (fun _ _ hplace => reaches_after hidle run hplace) hturn
    · intro contact hin
      obtain ⟨event, hevent, exhausted, hfailed⟩ := completions_of_failed _ hin
      exact ⟨hfits.asked_after _ hevent hfailed, event, hevent, exhausted, hfailed⟩
  · intro c t command options node request entry hserves
    obtain ⟨hexecutor, hended⟩ := hserves.step_eq
    have hprecedes := hthen.precedes_of_turn? hserves.turn
    refine ⟨hended, hexecutor, sends_eq (by rw [hexecutor]; exact hprecedes.sent),
      hprecedes.cache, ?_⟩
    rw [← hexecutor]
    exact conventions_after start ((m, action) :: run)
  · intro c t command options node request entry hserves
    have hprecedes := hthen.precedes_of_turn? hserves.turn
    exact vouched_after hidle hempty hsequential (hprecedes.cache ▸ hserves.spares.cached)
  · intro c command options d hexecution hcacheable hwanted hlives hd hpurpose
    exact asksAbout_of_sends hthen (current_after hidle hsequential) hlives hexecution hcacheable
      hwanted hd hpurpose

/-- When calls on commands do not overlap, a call is content with a cached answer exactly if that is
of the node whose turn it is and younger than the window, and such an answer is fresh. -/
theorem spares_nodes_new (scope : Scope) (applicationId : String) (seeds : List Url)
    (conventions : Conventions) (proxy : Option String) (run : Run α) (m : Moment)
    (action : Action α)
    (h : (new scope applicationId seeds conventions proxy).isSequential run = true) :
    (new scope applicationId seeds conventions proxy).SparesNodes run m action := by
  refine sparesNodes_of_idle (fun _ => rfl) (fun key => ?_) h m action
  obtain ⟨mailbox, hnew⟩ := executor_new (α := α) scope applicationId seeds conventions proxy
  rw [hnew]
  rfl

/-- The first node fails on the third call.  The second one failed on the second call, but the cache
has what it answered to the first: the third call is content with that. -/
theorem spares_nodes_new_behind_failure :
    let host := fun name => ⟨"http", some ⟨"", "", .name name, some 8080⟩, "/", none, none⟩
    let start : System Bytes := System.new (.database "db") "app" [host "a", host "b"]
      { disableTopologyUpdates := true, aggressiveCacheDuration := some (.ofMillis 5000) } none
    let read : Command Bytes :=
      { request := fun node => .ok (.get node.url), parse := fun body _ => .ok body,
        isRead := true }
    let moment : Nat → Moment := fun now => ⟨now, Duration.half⟩
    let head : UInt8 → ResponseHead := fun etag =>
      { status := 200, headers := [(Headers.etag, [etag])] }
    let run : Run Bytes :=
      [(moment 12, .begin 3 (.execute read {})),
        (moment 10, .signal (.outside 2) (.body 3 (.ok [0x32]))),
        (moment 9, .signal (.outside 2) (.head 3 (.ok (head 0x32)))),
        (moment 8, .signal (.outside 2) .resumed),
        (moment 7, .signal (.outside 2) (.head 2 (.error .connectionFailed))),
        (moment 6, .begin 2 (.execute read { noCaching := true })),
        (moment 4, .signal (.outside 1) (.body 1 (.ok [0x31]))),
        (moment 3, .signal (.outside 1) (.head 1 (.ok (head 0x31)))),
        (moment 2, .signal (.outside 1) .resumed),
        (moment 1, .signal (.outside 1) (.head 0 (.error .connectionFailed))),
        (moment 0, .begin 1 (.execute read {}))]
    let failing : Action Bytes := .signal (.outside 3) (.head 4 (.error .connectionFailed))
    let s := start.after run
    start.isSequential run = true ∧ ∃ t r,
      s.turn? (moment 13) failing = some (.outside 3, t) ∧ t.number = 2 ∧
      (s.step (moment 13) failing).2 = some (.outside 3, .ok (.executed r)) ∧
      r.result = [0x31] ∧ (s.step (moment 13) failing).1.executor = t.executor ∧
      s.sends (moment 13) failing = [] ∧
      start.Vouched run (.of "GET" (host "b").text none) ⟨"1", [0x31], 4⟩ := by
  intro host start read moment head run failing s
  have hsequential : start.isSequential run = true := by decide +kernel
  have hended : ((s.step (moment 13) failing).2.bind fun ended =>
      (ended.2.toOption.bind Reply.executed?).map fun r =>
        (ended.1, r.result, r.status, r.attempts)) = some (.outside 3, [0x31], none, 1) := by
    decide +kernel
  have hfound : ((s.execution? failing).bind fun execution =>
      (s.turn? (moment 13) failing).bind fun turn => turn.2.nodes.head?.bind fun node =>
        (execution.2.1.request node).toOption.map fun request =>
          let key := Cache.Key.of request.method request.url.text request.body
          (key, turn.2.executor.cache.get? key)) =
      some (.of "GET" (host "b").text none, some ⟨"1", [0x31], 4⟩) := by decide +kernel
  have hspares : start.SparesNodes run (moment 13) failing :=
    spares_nodes_new (.database "db") "app" [host "a", host "b"]
      { disableTopologyUpdates := true, aggressiveCacheDuration := some (.ofMillis 5000) } none
      run (moment 13) failing hsequential
  refine ⟨hsequential, ?_⟩
  have hs : s = start.after run := rfl
  clear_value s start run
  subst hs
  obtain ⟨⟨caller, ending⟩, hstep, hends⟩ := Option.bind_eq_some_iff.mp hended
  obtain ⟨r, hreply, hsees⟩ := Option.map_eq_some_iff.mp hends
  obtain ⟨reply, hending, hexecuted⟩ := Option.bind_eq_some_iff.mp hreply
  simp only [Prod.mk.injEq] at hsees
  obtain ⟨rfl, hresult, hstatus, hattempts⟩ := hsees
  obtain rfl := Reply.executed?_eq_some_iff.mp hexecuted
  obtain rfl : ending = .ok (.executed r) := by
    cases ending <;> cases hending
    rfl
  obtain ⟨t, command, options, node, request, entry, hserves, hspared⟩ :=
    (hspares.spared_iff (.outside 3) r).mp ⟨hstep, hstatus⟩
  obtain ⟨-, hexecutor, hsends, -, -⟩ := hspares.spared _ _ _ _ _ _ _ hserves
  have hnumber : t.number = 2 := by
    have hreached := (hspares.reached _ _ hserves.turn).1.number
    have hattempts' : r.attempts = t.number - 1 := by rw [(eq_of_spared hspared).1]
    omega
  have hvouched := hspares.vouched _ _ _ _ _ _ _ hserves
  simp only [hserves.execution, hserves.turn, hserves.spares.first, hserves.spares.made,
    hserves.spares.cached, Option.bind_some, Except.toOption, Option.map_some, Option.some.injEq,
    Prod.mk.injEq] at hfound
  rw [hfound.1, hfound.2] at hvouched
  exact ⟨t, r, hserves.turn, hnumber, hstep, hresult, hexecutor, hsends, hvouched⟩

end System

end ClusterClient
