import ClusterClient.Proofs.Executor.Upkeep
import ClusterClient.Proofs.System.Histories

/-!
# Confirmed answers

An answer that confirms what the cache has confirms the version that the request
named.  Between the request and its answer other calls may have replaced the
entry, and it is looked up by its key alone.
-/

namespace ClusterClient

variable {α : Type}

/-- The request whose answer a call on a command waits for, as long as not even its head came. -/
def Call.awaiting? : Call α → Option (Trail × Flight α)
  | .executing ⟨_, _, .flying trail f⟩ => if f.head.isNone then some (trail, f) else none
  | .executing ⟨_, _, .ensuring _⟩ | .executing ⟨_, _, .pausing _ _ _⟩ | .configuring _
  | .updating _ | .testing _ => none

theorem Call.eq_of_awaiting? {call : Call α} {trail : Trail} {f : Flight α}
    (h : call.awaiting? = some (trail, f)) :
    f.head = none ∧ ∃ command options, call = .executing ⟨command, options, .flying trail f⟩ := by
  unfold awaiting? at h
  split at h
  · rename_i command options trail' f'
    split at h
    · rename_i hwaits
      cases h
      exact ⟨Option.isNone_iff_eq_none.mp hwaits, command, options, rfl⟩
    · cases h
  all_goals cases h

namespace System

variable {s : System α} {caller : Caller} {items more : List Stored}

def given (s : System α) : Action α → List Stored
  | .signal caller signal => ((s.call? caller).map (·.given signal)).getD []
  | .begin _ _ | .attend | .tick _ | .abandon _ | .dispose => []

theorem given_of_opens {action : Action α} (h : action.opens = true) : s.given action = [] := by
  cases action with
  | begin _ _ | attend | tick _ => rfl
  | signal _ _ | abandon _ | dispose => cases h

/-- What the cache was given along a run, the last first. -/
def stored (s : System α) : Run α → List Stored
  | [] => []
  | (_, action) :: before => (s.after before).given action ++ s.stored before

/-- What the cache has, and what requests are conditioned on, was given to the cache. -/
structure Sound (s : System α) (items : List Stored) : Prop where
  cache : s.executor.cache.From items
  calls : ∀ c call, s.call? c = some call → call.Rightful items s.executor

namespace Sound

theorem absorb (h : s.Sound items) {step : Executor.Step α} (hcache : step.1.cache.From more)
    (hleaves : Executor.LeavesCall more step) (hsent : s.executor.sent <:+ step.1.sent)
    (hmore : ∀ item ∈ items, item ∈ more) : (s.absorb caller step).1.Sound more := by
  have habsorbed := s.aside_absorb caller step
  refine ⟨habsorbed.cache ▸ hcache, fun c call hcall => ?_⟩
  rw [call?_absorb] at hcall
  split at hcall
  · exact (hleaves call hcall).mono (fun _ hitem => hitem) habsorbed.suffix
  · exact (h.calls c call hcall).mono hmore (hsent.trans habsorbed.suffix)

theorem abandon (h : s.Sound items) : (s.abandon caller).Sound items := by
  unfold System.abandon
  split
  · rw [abandon_eq]
    refine ⟨h.cache, fun c call hcall => ?_⟩
    rw [call?, lookup_others] at hcall
    split at hcall
    · cases hcall
    · exact (h.calls c call hcall).mono (fun _ hitem => hitem) List.suffix_rfl
  · exact h

theorem dispose (h : s.Sound items) :
    ({ s with executor := s.executor.dispose } : System α).Sound items := by
  refine ⟨?_, fun c call hcall => (h.calls c call hcall).mono (fun _ hitem => hitem) ?_⟩
  · unfold Executor.dispose
    split
    · exact h.cache
    · intro key entry hentry
      cases hentry
  · unfold Executor.dispose
    split <;> exact List.suffix_rfl

theorem step (h : s.Sound items) (m : Moment) (action : Action α) :
    (s.step m action).1.Sound (s.given action ++ items) := by
  have hhappens := s.happens_step m action
  generalize s.step m action = next at hhappens ⊢
  cases hhappens with
  | @begins _ caller mailbox order hopens =>
    have hcache : ({ s.executor with mailbox } : Executor).cache.From items := h.cache
    have hsent : s.executor.sent <:+ _ :=
      ({ s.executor with mailbox } : Executor).suffix_begin m order
    rw [given_of_opens hopens]
    exact h.absorb ((Executor.cache_begin _ m order).symm ▸ hcache)
      (Executor.leaves_begin m order hcache) hsent fun _ hitem => hitem
  | opensNothing hopens =>
    rw [given_of_opens hopens]
    exact h
  | @goesOn caller signal call hcall =>
    show System.Sound _ (((s.call? caller).map (·.given signal)).getD [] ++ items)
    rw [hcall]
    exact h.absorb (h.cache.keeps (s.executor.keeps_advance m signal call))
      (Executor.leaves_advance m signal call h.cache (h.calls caller call hcall))
      (s.executor.suffix_advance m signal call)
      fun item hitem => List.mem_append_right _ hitem
  | @findsNothing caller signal hidle =>
    show System.Sound _ (((s.call? caller).map (·.given signal)).getD [] ++ items)
    rw [hidle]
    exact h
  | abandons caller => exact h.abandon
  | disposes _ => exact h.abandon.dispose
  | disposedAlready _ => exact h

end Sound

theorem sound_after (scope : Scope) (applicationId : String) (seeds : List Url)
    (conventions : Conventions) (proxy : Option String) (run : Run α) :
    ((new scope applicationId seeds conventions proxy).after run).Sound
      ((new scope applicationId seeds conventions proxy).stored run) := by
  induction run with
  | nil =>
    refine ⟨fun key entry hentry => ?_, fun c call hcall => by cases hcall⟩
    rw [after, cache_new] at hentry
    cases hentry
  | cons event before ih => exact ih.step event.1 event.2

def confirmedEnding (trail : Trail) (f : Flight α) (status : Status) (payload : Bytes) : Ending α :=
  match f.exchange.command.parse payload true with
  | .ok result =>
    .ok (.executed { result, status := some status, node := f.exchange.node, fromCache := true
                     attempts := trail.attempt })
  | .error cause => .error (.fault (.unreadable f.exchange.request.url cause))

theorem step_confirmed {c : Caller} {command : Command α} {options : Options} {trail : Trail}
    {f : Flight α} {key : Cache.Key} {entry : Cache.Entry} {head : ResponseHead}
    (hcall : s.call? c = some (.executing ⟨command, options, .flying trail f⟩))
    (hwaits : f.head = none) (hkey : f.exchange.key = some key)
    (hcached : f.exchange.cached = some entry) (hstatus : head.status = .notModified) (m : Moment) :
    (s.step m (.signal c (.head f.ticket (.ok head)))).1.executor.cache =
        (s.executor.cache.refreshAge m.now key).1 ∧
      (s.step m (.signal c (.head f.ticket (.ok head)))).2 = some (c,
        confirmedEnding trail f head.status ((s.executor.cache.get? key).getD entry).payload) := by
  obtain ⟨mailbox, hflight⟩ :=
    Executor.advanceFlight_confirmed (x := s.executor) hwaits hkey hcached hstatus m.now
  generalize ((s.executor.cache.get? key).getD entry).payload = payload at hflight ⊢
  let x : Executor :=
    { s.executor with mailbox, cache := (s.executor.cache.refreshAge m.now key).1 }
  let outcome : Outcome α :=
    Executor.readResult f.exchange head.status true (f.exchange.command.parse payload true)
  let concluded : Executor.Next α :=
    x.concludeAttempt ⟨command, options, .flying trail f⟩ trail f.exchange outcome m
  have hstep : s.step m (.signal c (.head f.ticket (.ok head))) =
      s.absorb c (Executor.executed command options concluded) := by
    unfold System.step
    dsimp only
    rw [hcall]
    dsimp only
    unfold Executor.advance Executor.advanceExecution
    dsimp only
    rw [hflight]
  rw [hstep]
  constructor
  · have hconcluded : x.Aside concluded.1 :=
      x.aside_concludeAttempt ⟨command, options, .flying trail f⟩ trail f.exchange outcome m
    obtain ⟨hexecutor, -⟩ := Executor.executed_spec command options concluded
    rw [(s.aside_absorb c _).cache, hexecutor, hconcluded.cache]
  · show _ = some (c, confirmedEnding trail f head.status payload)
    unfold confirmedEnding
    cases hparse : f.exchange.command.parse payload true with
    | ok result =>
      have houtcome : outcome = .answered result head.status true := by
        simp only [outcome, hparse]
        rfl
      simp only [concluded, houtcome]
      rfl
    | error cause =>
      have houtcome : outcome = .ended (.unreadable f.exchange.request.url cause) := by
        simp only [outcome, hparse]
        rfl
      simp only [concluded, houtcome]
      rfl

/-- What the confirmation of a version may come to: the caller gets an answer that the cache was
given with this version for this key, and no entry but one with this version counts as new again. -/
structure ConfirmsOnly (s : System α) (items : List Stored) (c : Caller) (trail : Trail)
    (f : Flight α) (head : ResponseHead) (m : Moment) (key : Cache.Key) (version : String) :
    Prop where
  answer : ∃ payload, ⟨key, version, payload⟩ ∈ items ∧
    (s.step m (.signal c (.head f.ticket (.ok head)))).2 =
      some (c, confirmedEnding trail f head.status payload)
  renewed : ∀ k old, s.executor.cache.get? k = some old →
    (s.step m (.signal c (.head f.ticket (.ok head)))).1.executor.cache.get? k ≠ some old →
    k = key ∧ old.changeVector = version

/-- The request of a call names the version that the cache had for its key.  If the answer confirms
that, and what the cache has under the key now is from an earlier moment, only this version is taken
for confirmed exactly if no other one came to the cache meanwhile. -/
theorem confirms_only_iff (scope : Scope) (applicationId : String) (seeds : List Url)
    (conventions : Conventions) (proxy : Option String) (run : Run α) (c : Caller) (trail : Trail)
    (f : Flight α) (head : ResponseHead) (m : Moment) (key : Cache.Key) (entry : Cache.Entry)
    (hawaiting : (((new scope applicationId seeds conventions proxy).after run).call? c).bind
      Call.awaiting? = some (trail, f))
    (hkey : f.exchange.key = some key) (hcached : f.exchange.cached = some entry)
    (hstatus : head.status = .notModified)
    (hearlier : ∀ current, ((new scope applicationId seeds conventions proxy : System α).after
      run).executor.cache.get? key = some current → current.storedAt ≠ m.now) :
    let start : System α := new scope applicationId seeds conventions proxy
    let s := start.after run
    (∃ d, s.executor.dispatch? f.ticket = some d ∧
      (Headers.ifNoneMatch, Bytes.ofString entry.changeVector) ∈ d.wire.headers) ∧
    (s.ConfirmsOnly (start.stored run) c trail f head m key entry.changeVector ↔
      ∀ current, s.executor.cache.get? key = some current →
        current.changeVector = entry.changeVector) := by
  intro start s
  obtain ⟨call, hcall, hawaits⟩ := Option.bind_eq_some_iff.mp hawaiting
  obtain ⟨hwaits, command, options, rfl⟩ := Call.eq_of_awaiting? hawaits
  have hsound : s.Sound (start.stored run) :=
    sound_after scope applicationId seeds conventions proxy run
  have hrightful : (Phase.flying trail f).Rightful (start.stored run) s.executor :=
    hsound.calls c _ hcall
  have horigin : entry.under key ∈ start.stored run := by
    refine hrightful.origin _ ?_
    rw [Phase.stored?, Exchange.stored?, hkey, hcached]
  obtain ⟨hcache, hended⟩ := step_confirmed (s := s) hcall hwaits hkey hcached hstatus m
  refine ⟨hrightful.carried trail f entry rfl hcached, fun hconfirms current hcurrent => ?_,
    fun hsame => ⟨⟨_, ?_, hended⟩, fun k old hold hchanged => ?_⟩⟩
  -- What the cache has under the key counts as new again, whichever version it is of.
  · refine (hconfirms.renewed key current hcurrent ?_).2
    rw [hcache, Cache.get?_refreshAge_eq, if_pos rfl, hcurrent]
    intro hunchanged
    exact hearlier current hcurrent
      (congrArg Cache.Entry.storedAt (Option.some.inj hunchanged)).symm
  · cases hcurrent : s.executor.cache.get? key with
    | none => exact horigin
    | some current => exact hsame current hcurrent ▸ hsound.cache key current hcurrent
  · rw [hcache, Cache.get?_refreshAge_eq] at hchanged
    split at hchanged
    · rename_i hk
      exact ⟨hk, hsame old (hk ▸ hold)⟩
    · exact (hchanged hold).elim

/-- Two calls ask for what the cache has in version 1.  If the first of them is told that this is
right still, it gets just that.  If the second one has put version 2 in its place before, the first
call gets that, and it counts as new again. -/
theorem confirms_only_iff_replaced :
    let host := fun name => ⟨"http", some ⟨"", "", .name name, some 8080⟩, "/", none, none⟩
    let start : System Bytes :=
      System.new (.database "db") "app" [host "a"] { disableTopologyUpdates := true } none
    let execute : Nat → Action Bytes := fun number => .begin number (.execute
      { request := fun node => .ok (.get node.url), parse := fun body _ => .ok body,
        isRead := true } {})
    let key : Cache.Key := .of "GET" (host "a").text none
    let moment : Nat → Moment := fun now => ⟨now, Duration.half⟩
    let answers : Nat → Nat → Nat → UInt8 → Run Bytes := fun now number ticket version =>
      [(moment now, .signal (.outside number) (.body ticket (.ok [version]))),
        (moment now, .signal (.outside number)
          (.head ticket (.ok { status := 200, headers := [(Headers.etag, [version])] })))]
    let asked : Run Bytes :=
      [(moment 1, execute 3), (moment 1, execute 2)] ++ answers 0 1 0 0x31 ++
        [(moment 0, execute 1)]
    let Confirms := fun run : Run Bytes => ∃ trail f,
      ((start.after run).call? (.outside 2)).bind Call.awaiting? = some (trail, f) ∧
      (start.after run).ConfirmsOnly (start.stored run) (.outside 2) trail f { status := 304 }
        (moment 3) key "1"
    Confirms asked ∧ ¬Confirms (answers 2 3 2 0x32 ++ asked) := by
  intro host start execute key moment answers asked Confirms
  have hview : ∀ run, run = asked ∨ run = answers 2 3 2 0x32 ++ asked →
      (((start.after run).call? (.outside 2)).bind Call.awaiting?).map (fun (_, f) =>
        (f.exchange.key, f.exchange.cached)) = some (some key, some ⟨"1", [0x31], 0⟩) := by
    rintro run (rfl | rfl)
    · decide +kernel
    · decide +kernel
  have hcurrent : ((start.after asked).executor.cache.get? key = some ⟨"1", [0x31], 0⟩) ∧
      (start.after (answers 2 3 2 0x32 ++ asked)).executor.cache.get? key =
        some ⟨"2", [0x32], 2⟩ := by decide +kernel
  have hearlier : ∀ run, run = asked ∨ run = answers 2 3 2 0x32 ++ asked → ∀ current,
      (start.after run).executor.cache.get? key = some current → current.storedAt ≠ 3 := by
    rintro run (rfl | rfl) current hcached
    · cases hcurrent.1.symm.trans hcached
      decide
    · cases hcurrent.2.symm.trans hcached
      decide
  have hiff : ∀ run, run = asked ∨ run = answers 2 3 2 0x32 ++ asked →
      (Confirms run ↔ ∀ current, (start.after run).executor.cache.get? key = some current →
        current.changeVector = "1") := by
    intro run hrun
    obtain ⟨⟨trail, f⟩, hawaiting, hsees⟩ := Option.map_eq_some_iff.mp (hview run hrun)
    obtain ⟨hkey, hcached⟩ := Prod.mk.inj hsees
    have hconfirms := (confirms_only_iff (.database "db") "app" [host "a"]
      { disableTopologyUpdates := true } none run (.outside 2) trail f { status := 304 } (moment 3)
      key ⟨"1", [0x31], 0⟩ hawaiting hkey hcached rfl (hearlier run hrun)).2
    refine ⟨?_, fun hsame => ⟨trail, f, hawaiting, hconfirms.mpr hsame⟩⟩
    rintro ⟨trail', f', hawaiting', hconfirmed⟩
    cases hawaiting.symm.trans hawaiting'
    exact hconfirms.mp hconfirmed
  refine ⟨(hiff _ (.inl rfl)).mpr fun current hcached => ?_, fun hconfirms => ?_⟩
  · cases hcurrent.1.symm.trans hcached
    rfl
  · exact absurd ((hiff _ (.inr rfl)).mp hconfirms _ hcurrent.2) (by decide)

end System

end ClusterClient
