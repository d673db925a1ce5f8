import ClusterClient.Proofs.Cache.Operations
import Mathlib.Data.List.Pairwise

/-!
# What the cache remembers

As long as time goes on between the operations on it, a cache has room for the
keys that were put in or confirmed last, and for no others.  The entries stand in
the order in which that happened, so the oldest one is always the last.
-/

namespace ClusterClient.Cache

/-! ## Lists without duplicates -/

section Lists

variable {κ : Type} [DecidableEq κ]

theorem eraseDups_filter (p : κ → Bool) (keys : List κ) :
    (keys.filter p).eraseDups = keys.eraseDups.filter p := by
  match keys with
  | [] => rfl
  | key :: rest =>
    have hshorter : (rest.filter fun k => !k == key).length < (key :: rest).length :=
      Nat.lt_succ_of_le (List.length_filter_le _ _)
    rw [List.eraseDups_cons]
    by_cases hp : p key = true
    · rw [List.filter_cons_of_pos hp, List.filter_cons_of_pos hp, List.eraseDups_cons,
        List.filter_comm, eraseDups_filter p (rest.filter fun k => !k == key)]
    · rw [List.filter_cons_of_neg hp, List.filter_cons_of_neg hp,
        ← eraseDups_filter p (rest.filter fun k => !k == key), List.filter_filter]
      refine congrArg List.eraseDups (List.filter_congr fun k _ => ?_)
      by_cases hk : k = key
      · simp [hk, hp]
      · simp [hk]
termination_by keys.length
decreasing_by all_goals exact hshorter

theorem eraseDups_cons_eq (key : κ) (keys : List κ) :
    (key :: keys).eraseDups = key :: keys.eraseDups.filter (· ≠ key) := by
  rw [List.eraseDups_cons, eraseDups_filter]
  refine congrArg (key :: ·) (List.filter_congr fun k _ => ?_)
  rw [Bool.eq_iff_iff]
  simp

theorem nodup_eraseDups (keys : List κ) : keys.eraseDups.Nodup := by
  induction keys with
  | nil => exact List.nodup_nil
  | cons key rest ih =>
    rw [eraseDups_cons_eq, List.nodup_cons]
    exact ⟨by simp, ih.filter _⟩

/-- A key among the first few leaves its place among them to others when it is taken out. -/
theorem filter_take_succ {keys : List κ} {key : κ} {n : Nat} (hnodup : keys.Nodup)
    (hmem : key ∈ keys.take (n + 1)) :
    (keys.take (n + 1)).filter (· ≠ key) = (keys.filter (· ≠ key)).take n := by
  induction keys generalizing n with
  | nil => cases hmem
  | cons k rest ih =>
    obtain ⟨hk, hrest⟩ := List.nodup_cons.mp hnodup
    rw [List.take_succ_cons] at hmem ⊢
    by_cases hsame : k = key
    · subst hsame
      have hother : ∀ l : List κ, (∀ i ∈ l, i ∈ rest) → l.filter (· ≠ k) = l := fun l hl =>
        List.filter_eq_self.mpr fun i hi => by
          simpa using fun heq : i = k => hk (heq ▸ hl i hi)
      rw [List.filter_cons_of_neg (by simp), List.filter_cons_of_neg (by simp),
        hother rest fun _ hi => hi, hother _ fun _ hi => List.mem_of_mem_take hi]
    · have hlater : key ∈ rest.take n := by
        rcases List.mem_cons.mp hmem with heq | hlater
        · exact (hsame heq.symm).elim
        · exact hlater
      rw [List.filter_cons_of_pos (by simpa using hsame),
        List.filter_cons_of_pos (by simpa using hsame)]
      cases n with
      | zero => cases hlater
      | succ n => rw [List.take_succ_cons, ih hrest hlater]

theorem take_filter_of_not_mem {keys : List κ} {key : κ} {n : Nat} (h : key ∉ keys.take n) :
    (keys.filter (· ≠ key)).take n = keys.take n := by
  induction keys generalizing n with
  | nil => rfl
  | cons k rest ih =>
    cases n with
    | zero => rfl
    | succ n =>
      rw [List.take_succ_cons, List.mem_cons, not_or] at h
      rw [List.filter_cons_of_pos (by simpa using fun heq : k = key => h.1 heq.symm),
        List.take_succ_cons, List.take_succ_cons, ih h.2]

end Lists

variable {c : Cache} {now : Instant} {key : Key}

/-! ## Looking up and giving up entries -/

theorem keys_others (key : Key) (entries : List (Key × Entry)) :
    (others key entries).map (·.1) = (entries.map (·.1)).filter (· ≠ key) := by
  rw [others, List.filter_map]
  rfl

theorem get?_eq_some_iff (h : (c.entries.map (·.1)).Nodup) {entry : Entry} :
    c.get? key = some entry ↔ (key, entry) ∈ c.entries := by
  unfold get?
  generalize c.entries = entries at h ⊢
  induction entries with
  | nil => simp
  | cons pair rest ih =>
    obtain ⟨k, first⟩ := pair
    obtain ⟨hk, hrest⟩ := List.nodup_cons.mp h
    rw [Association.lookup_cons, List.mem_cons]
    by_cases hsame : key = k
    · subst hsame
      have habsent : (key, entry) ∉ rest := fun hin => hk (List.mem_map.mpr ⟨_, hin, rfl⟩)
      simp [habsent, eq_comm]
    · simp [hsame, ih hrest]

theorem get?_eq_none_iff : c.get? key = none ↔ key ∉ c.entries.map (·.1) := by
  unfold get?
  induction c.entries with
  | nil => simp
  | cons pair rest ih =>
    rw [Association.lookup_cons, List.map_cons, List.mem_cons, not_or, ← ih]
    by_cases hsame : key = pair.1
    · simp [hsame]
    · simp [hsame]

def Descending (entries : List (Key × Entry)) : Prop :=
  entries.Pairwise fun younger older => older.2.storedAt < younger.2.storedAt

theorem oldest?_eq_getLast? {entries : List (Key × Entry)} (h : Descending entries) :
    oldest? entries = entries.getLast? := by
  induction entries with
  | nil => rfl
  | cons first rest ih =>
    obtain ⟨hfirst, hrest⟩ := List.pairwise_cons.mp h
    unfold oldest?
    rw [ih hrest]
    cases hlast : rest.getLast? with
    | none =>
      rw [List.getLast?_eq_none_iff] at hlast
      rw [hlast]
      rfl
    | some last =>
      dsimp only
      rw [if_pos (hfirst last (List.mem_of_getLast? hlast)), List.getLast?_cons, hlast]
      rfl

theorem evictOldest_eq_dropLast {entries : List (Key × Entry)} (h : Descending entries)
    (hnodup : (entries.map (·.1)).Nodup) : evictOldest entries = entries.dropLast := by
  unfold evictOldest
  rw [oldest?_eq_getLast? h]
  cases hlast : entries.getLast? with
  | none =>
    rw [List.getLast?_eq_none_iff] at hlast
    rw [hlast]
    rfl
  | some last =>
    obtain ⟨init, rfl⟩ := List.getLast?_eq_some_iff.mp hlast
    rw [List.map_append, List.map_singleton, List.nodup_append] at hnodup
    have hinit : ∀ pair ∈ init, decide (pair.1 ≠ last.1) = true := fun pair hpair => by
      simpa using hnodup.2.2 pair.1 (List.mem_map.mpr ⟨pair, hpair, rfl⟩) last.1 (by simp)
    dsimp only
    rw [others, List.filter_append, List.filter_eq_self.mpr hinit, List.dropLast_concat]
    simp

/-! ## One operation -/

/-- The cache has what was put in last under the keys that were touched last, dated by that. -/
structure Follows (c : Cache) (touches : List (Key × Instant))
    (puts : List (Key × String × Bytes)) : Prop where
  keys : c.entries.map (·.1) = (touches.map (·.1)).eraseDups.take c.capacity
  dated : ∀ key entry, (key, entry) ∈ c.entries → touches.lookup key = some entry.storedAt
  said : ∀ key entry, (key, entry) ∈ c.entries →
    puts.lookup key = some (entry.changeVector, entry.payload)
  descending : Descending c.entries

namespace Follows

variable {touches : List (Key × Instant)} {puts : List (Key × String × Bytes)}

theorem nodup (h : c.Follows touches puts) : (c.entries.map (·.1)).Nodup :=
  h.keys ▸ (nodup_eraseDups _).sublist (List.take_sublist _ _)

/-- An entry comes to the front, in place of what was there under its key. -/
theorem toFront (h : c.Follows touches puts) (fresh : Entry) {kept : List (Key × Entry)}
    {more : List (Key × String × Bytes)} (hkept : kept.Sublist c.entries)
    (hkeys : (key :: (kept.map (·.1)).filter (· ≠ key)) =
      (key :: (touches.map (·.1)).eraseDups.filter (· ≠ key)).take c.capacity)
    (hputs : more.lookup key = some (fresh.changeVector, fresh.payload))
    (hothers : ∀ k, k ≠ key → more.lookup k = puts.lookup k)
    (hlate : ∀ touch ∈ touches, touch.2 < fresh.storedAt) :
    ({ c with entries := (key, fresh) :: others key kept } : Cache).Follows
      ((key, fresh.storedAt) :: touches) more := by
  have hold : ∀ {k entry}, (k, entry) ∈ others key kept → k ≠ key ∧ (k, entry) ∈ c.entries := by
    intro k entry hin
    obtain ⟨hin, hk⟩ := List.mem_filter.mp hin
    exact ⟨by simpa using hk, hkept.subset hin⟩
  refine ⟨?_, fun k entry hin => ?_, fun k entry hin => ?_, List.pairwise_cons.mpr ⟨?_, ?_⟩⟩
  · rw [List.map_cons, keys_others, List.map_cons, eraseDups_cons_eq]
    exact hkeys
  · rcases List.mem_cons.mp hin with heq | hin
    · cases heq
      rw [Association.lookup_cons, if_pos rfl]
    · rw [Association.lookup_cons, if_neg (hold hin).1, h.dated k entry (hold hin).2]
  · rcases List.mem_cons.mp hin with heq | hin
    · cases heq
      exact hputs
    · rw [hothers k (hold hin).1, h.said k entry (hold hin).2]
  · rintro ⟨k, entry⟩ hin
    exact hlate (k, entry.storedAt) (Association.mem_of_lookup (h.dated k entry (hold hin).2))
  · exact h.descending.sublist (List.filter_sublist.trans hkept)

theorem keys_of_mem (h : c.Follows touches puts) (hmem : key ∈ c.entries.map (·.1)) :
    (key :: (c.entries.map (·.1)).filter (· ≠ key)) =
      (key :: (touches.map (·.1)).eraseDups.filter (· ≠ key)).take c.capacity := by
  rw [h.keys] at hmem ⊢
  cases hcapacity : c.capacity with
  | zero =>
    rw [hcapacity] at hmem
    cases hmem
  | succ n =>
    rw [hcapacity] at hmem
    rw [List.take_succ_cons, filter_take_succ (nodup_eraseDups _) hmem]

/-- For a key that is not there the oldest one is given up, unless there is room. -/
theorem keys_of_not_mem (h : c.Follows touches puts) (hmem : key ∉ c.entries.map (·.1))
    (hcapacity : c.capacity ≠ 0) :
    let kept := if c.capacity ≤ c.size then evictOldest c.entries else c.entries
    (key :: (kept.map (·.1)).filter (· ≠ key)) =
      (key :: (touches.map (·.1)).eraseDups.filter (· ≠ key)).take c.capacity := by
  intro kept
  obtain ⟨n, hn⟩ := Nat.exists_eq_succ_of_ne_zero hcapacity
  have hsize : c.size = (c.entries.map (·.1)).length := (List.length_map _).symm
  -- A full cache gives up its last key, and another one has no more than `n` of them.
  have hkept : kept.map (·.1) = (touches.map (·.1)).eraseDups.take n := by
    by_cases hfull : c.capacity ≤ c.size
    · have hevicted : kept = c.entries.dropLast := by
        rw [← evictOldest_eq_dropLast h.descending h.nodup]
        exact if_pos hfull
      rw [hsize, h.keys, hn, List.length_take] at hfull
      rw [hevicted, List.map_dropLast, h.keys, hn, List.dropLast_eq_take, List.length_take,
        List.take_take]
      exact congrArg (List.take · _) (by omega)
    · have hall : kept = c.entries := if_neg hfull
      rw [hsize, h.keys, hn, List.length_take] at hfull
      rw [hall, h.keys, hn, List.take_of_length_le (by omega), List.take_of_length_le (by omega)]
  have habsent : key ∉ (touches.map (·.1)).eraseDups.take n := by
    rw [h.keys, hn] at hmem
    exact fun hin => hmem ((List.take_sublist_take_left (Nat.le_succ n)).subset hin)
  have hsame : ((touches.map (·.1)).eraseDups.take n).filter (· ≠ key) =
      (touches.map (·.1)).eraseDups.take n :=
    List.filter_eq_self.mpr fun k hk => by simpa using fun heq : k = key => habsent (heq ▸ hk)
  rw [hkept, hn, List.take_succ_cons, hsame, take_filter_of_not_mem habsent]

theorem put (h : c.Follows touches puts) (hlate : ∀ touch ∈ touches, touch.2 < now) (key : Key)
    (changeVector : String) (payload : Bytes) :
    (c.put now key changeVector payload).Follows ((key, now) :: touches)
      ((key, changeVector, payload) :: puts) := by
  by_cases hcapacity : c.capacity = 0
  · have hempty : c.entries = [] := by
      simpa [hcapacity] using h.keys
    have hput : c.put now key changeVector payload = c := if_pos hcapacity
    rw [hput]
    refine ⟨by simp [hempty, hcapacity], ?_, ?_, h.descending⟩
    all_goals
      intro k entry hin
      rw [hempty] at hin
      cases hin
  have hfront : ∀ kept : List (Key × Entry), kept.Sublist c.entries →
      (key :: (kept.map (·.1)).filter (· ≠ key)) =
        (key :: (touches.map (·.1)).eraseDups.filter (· ≠ key)).take c.capacity →
      ({ c with entries := (key, ⟨changeVector, payload, now⟩) :: others key kept } : Cache).Follows
        ((key, now) :: touches) ((key, changeVector, payload) :: puts) := by
    intro kept hkept hkeys
    refine h.toFront ⟨changeVector, payload, now⟩ hkept hkeys ?_ ?_ hlate
    · rw [Association.lookup_cons, if_pos rfl]
    · intro k hk
      rw [Association.lookup_cons, if_neg hk]
  unfold Cache.put
  rw [if_neg hcapacity]
  cases hentry : c.get? key with
  | some old =>
    refine hfront c.entries (List.Sublist.refl _) (h.keys_of_mem ?_)
    exact List.mem_map.mpr ⟨_, (get?_eq_some_iff h.nodup).mp hentry, rfl⟩
  | none =>
    have hkeys := h.keys_of_not_mem (get?_eq_none_iff.mp hentry) hcapacity
    simp only [Option.isNone_none, Bool.true_and, decide_eq_true_eq]
    refine hfront _ ?_ hkeys
    split
    · rw [evictOldest_eq_dropLast h.descending h.nodup]
      exact List.dropLast_sublist _
    · exact List.Sublist.refl _

theorem refreshAge (h : c.Follows touches puts) (hlate : ∀ touch ∈ touches, touch.2 < now)
    (key : Key) :
    (c.refreshAge now key).1.Follows
      (if key ∈ (touches.map (·.1)).eraseDups.take c.capacity then (key, now) :: touches
        else touches) puts := by
  rw [← h.keys]
  cases hentry : c.get? key with
  | none =>
    rw [refreshAge_of_none hentry, if_neg (get?_eq_none_iff.mp hentry)]
    exact h
  | some entry =>
    have hin := (get?_eq_some_iff h.nodup).mp hentry
    have hmem : key ∈ c.entries.map (·.1) := List.mem_map.mpr ⟨_, hin, rfl⟩
    rw [refreshAge_of_some hentry, if_pos hmem]
    exact h.toFront { entry with storedAt := now } (List.Sublist.refl _) (h.keys_of_mem hmem)
      (h.said key entry hin) (fun _ _ => rfl) hlate

theorem clear (c : Cache) (puts : List (Key × String × Bytes)) : c.clear.Follows [] puts :=
  ⟨by simp [Cache.clear], fun _ _ hin => (List.not_mem_nil hin).elim,
    fun _ _ hin => (List.not_mem_nil hin).elim, List.Pairwise.nil⟩

end Follows

/-! ## Logs of operations -/

def Log.Increasing (log : Log) : Prop := log.Pairwise fun later earlier => earlier.1 < later.1

theorem mem_touches {capacity : Nat} {log : Log} {touch : Key × Instant}
    (h : touch ∈ log.touches capacity) : ∃ event ∈ log, event.1 = touch.2 := by
  induction log with
  | nil => cases h
  | cons event before ih =>
    obtain ⟨now, operation⟩ := event
    have hbefore : touch ∈ Log.touches capacity before →
        ∃ event ∈ (now, operation) :: before, event.1 = touch.2 := by
      intro hin
      obtain ⟨event, hevent, hsame⟩ := ih hin
      exact ⟨event, List.mem_cons_of_mem _ hevent, hsame⟩
    have hcons : ∀ k, touch ∈ (k, now) :: Log.touches capacity before →
        ∃ event ∈ (now, operation) :: before, event.1 = touch.2 := by
      intro k hin
      rcases List.mem_cons.mp hin with rfl | hin
      · exact ⟨_, List.mem_cons_self, rfl⟩
      · exact hbefore hin
    cases operation with
    | put k _ _ => exact hcons k h
    | get _ => exact hbefore h
    | refreshAge k =>
      unfold Log.touches at h
      dsimp only at h
      split at h
      · exact hcons k h
      · exact hbefore h
    | clear => cases h

theorem follows_after (capacity : Nat) (log : Log) (h : log.Increasing) :
    (({ capacity } : Cache).after log).Follows (log.touches capacity) log.puts := by
  induction log with
  | nil => exact Follows.clear { capacity } []
  | cons event before ih =>
    obtain ⟨now, operation⟩ := event
    obtain ⟨hnow, hbefore⟩ := List.pairwise_cons.mp h
    have hfollows := ih hbefore
    -- Time goes on, so an entry that comes to the front is younger than all that are there.
    have hlate : ∀ touch ∈ Log.touches capacity before, touch.2 < now := by
      intro touch htouch
      obtain ⟨event, hevent, hsame⟩ := mem_touches htouch
      exact hsame ▸ hnow event hevent
    cases operation with
    | put key changeVector payload => exact hfollows.put hlate key changeVector payload
    | get _ => exact hfollows
    | refreshAge key =>
      have hconfirmed := hfollows.refreshAge hlate key
      rw [capacity_after] at hconfirmed
      exact hconfirmed
    | clear => exact Follows.clear _ _

theorem Follows.get?_eq_some_iff {touches : List (Key × Instant)}
    {puts : List (Key × String × Bytes)} (h : c.Follows touches puts) (key : Key) (entry : Entry) :
    c.get? key = some entry ↔
      key ∈ (touches.map (·.1)).eraseDups.take c.capacity ∧
        puts.lookup key = some (entry.changeVector, entry.payload) ∧
        touches.lookup key = some entry.storedAt := by
  rw [Cache.get?_eq_some_iff h.nodup]
  constructor
  · intro hin
    exact ⟨h.keys ▸ List.mem_map.mpr ⟨_, hin, rfl⟩, h.said key entry hin, h.dated key entry hin⟩
  · rintro ⟨hmem, hsaid, hdated⟩
    obtain ⟨⟨k, there⟩, hin, rfl⟩ := List.mem_map.mp (h.keys ▸ hmem)
    obtain ⟨changeVector, payload, storedAt⟩ := there
    cases hsaid.symm.trans (h.said _ _ hin)
    cases hdated.symm.trans (h.dated _ _ hin)
    exact hin

theorem get?_put_of_isSome {other : Key} (h : (c.get? key).isSome = true) (hother : other ≠ key)
    (now : Instant) (changeVector : String) (payload : Bytes) :
    (c.put now key changeVector payload).get? other = c.get? other := by
  obtain ⟨entry, hentry⟩ := Option.isSome_iff_exists.mp h
  unfold put
  rw [hentry]
  split
  · rfl
  · dsimp only [Option.isNone_some, Bool.false_and]
    rw [get?, Association.lookup_cons, if_neg hother, others, Association.lookup_filter,
      if_neg hother]
    rfl

theorem key_eq_iff {method url method' url' : String} {body body' : Option Bytes} :
    Key.of method url body = Key.of method' url' body' ↔
      method = method' ∧ url = url' ∧ body.getD [] = body'.getD [] := by
  simp [Key.of]

/-- To confirm a key, what there is under it comes back and stays, dated by that moment; it is the
youngest entry then, and the others are as they were, in their order. -/
structure Confirms (c : Cache) (now : Instant) (key : Key) (entry : Entry) : Prop where
  answer : (c.operate now (.refreshAge key)).2 = some { entry with storedAt := now }
  found : ∀ other, (c.operate now (.refreshAge key)).1.get? other =
    if other = key then some { entry with storedAt := now } else c.get? other
  first : (c.operate now (.refreshAge key)).1.entries.map (·.1) =
    key :: (c.entries.map (·.1)).filter (· ≠ key)

theorem confirms_of_some {entry : Entry} (h : c.get? key = some entry) (now : Instant) :
    c.Confirms now key entry := by
  have hrefreshed : c.operate now (.refreshAge key) = _ := refreshAge_of_some h now
  refine ⟨by rw [hrefreshed], fun other => ?_, ?_⟩
  · have hfound := c.get?_refreshAge_eq now key other
    rw [h] at hfound
    exact hfound
  · rw [hrefreshed, List.map_cons, keys_others]

/-- A new cache after operations on it is what their log says: it has the keys that were touched
last, the last one first, each with what was put in last and the age since it was last touched. -/
structure Remembers (start : Cache) (log : Log) : Prop where
  keys : (start.after log).entries.map (·.1) =
    (log.recentKeys start.capacity).take start.capacity
  found : ∀ key entry, (start.after log).get? key = some entry ↔
    key ∈ (log.recentKeys start.capacity).take start.capacity ∧
      log.puts.lookup key = some (entry.changeVector, entry.payload) ∧
      (log.touches start.capacity).lookup key = some entry.storedAt
  aged : ∀ now key entry touched, (start.after log).get? key = some entry →
    (log.touches start.capacity).lookup key = some touched → entry.age now = now - touched
  fits : (start.after log).size ≤ start.capacity
  replaces : ∀ now key changeVector payload other, ((start.after log).get? key).isSome = true →
    other ≠ key →
      ((start.after log).put now key changeVector payload).get? other = (start.after log).get? other
  confirmed : ∀ now key entry, (start.after log).get? key = some entry →
    (start.after log).Confirms now key entry
  missed : ∀ now key, (start.after log).get? key = none →
    (start.after log).operate now (.refreshAge key) = (start.after log, none)
  read : ∀ now key,
    (start.after log).operate now (.get key) = (start.after log, (start.after log).get? key)
  useless : start.capacity = 0 → (start.after log).isEmpty = true

/-- A cache refines the list of the keys that were put in or confirmed last, and two requests have
the same key if their methods, urls and bodies are the same. -/
theorem remembers_recent (capacity : Nat) (log : Log) (h : log.Increasing) :
    ({ capacity } : Cache).Remembers log ∧
      ∀ method url method' url' (body body' : Option Bytes),
        Key.of method url body = Key.of method' url' body' ↔
          method = method' ∧ url = url' ∧ body.getD [] = body'.getD [] := by
  have hfollows := follows_after capacity log h
  have hcapacity := ({ capacity } : Cache).capacity_after log
  have hkeys := hfollows.keys
  rw [hcapacity] at hkeys
  have hfound := hfollows.get?_eq_some_iff
  rw [hcapacity] at hfound
  have hsize : (({ capacity } : Cache).after log).size =
      ((({ capacity } : Cache).after log).entries.map (·.1)).length := (List.length_map _).symm
  refine ⟨{
    keys := hkeys
    found := hfound
    aged := fun now key entry touched hentry htouched => ?_
    fits := ?_
    replaces := fun now key changeVector payload other hin hother =>
      get?_put_of_isSome hin hother now changeVector payload
    confirmed := fun now key entry hentry => confirms_of_some hentry now
    missed := fun now key hnone => refreshAge_of_none hnone now
    read := fun _ _ => rfl
    useless := fun hnone => ?_ }, fun _ _ _ _ _ _ => key_eq_iff⟩
  · have hdated := ((hfound key entry).mp hentry).2.2
    rw [htouched] at hdated
    cases hdated
    rfl
  · rw [hsize, hkeys]
    exact List.length_take_le _ _
  · have hnone : capacity = 0 := hnone
    rw [hnone, List.take_zero, List.map_eq_nil_iff] at hkeys
    exact List.isEmpty_iff.mpr (hnone ▸ hkeys)

/-- There is room for two keys.  The older one is confirmed, so the third key takes the place of the
younger one, which is no longer there to be confirmed and comes back in place of the older one. -/
theorem remembers_recent_reinserted :
    let key := fun name => Key.of "GET" name none
    let confirmed : Log :=
      [(3, .put (key "c") "1" [1]), (2, .refreshAge (key "a")), (1, .put (key "b") "1" [1]),
        (0, .put (key "a") "1" [1])]
    let log : Log :=
      (6, .refreshAge (key "c")) :: (5, .put (key "b") "2" [2]) :: (4, .refreshAge (key "b")) ::
        confirmed
    log.Increasing ∧ ({ capacity := 2 } : Cache).Remembers log ∧
      log.recentKeys 2 = [key "c", key "b", key "a"] ∧
      (({ capacity := 2 } : Cache).after confirmed).entries =
        [(key "c", ⟨"1", [1], 3⟩), (key "a", ⟨"1", [1], 2⟩)] ∧
      (({ capacity := 2 } : Cache).after log).entries =
        [(key "c", ⟨"1", [1], 6⟩), (key "b", ⟨"2", [2], 5⟩)] := by
  intro key confirmed log
  have hincreasing : log.Increasing := by
    unfold Log.Increasing
    decide
  exact ⟨hincreasing, (remembers_recent 2 log hincreasing).1, by decide +kernel,
    by decide +kernel, by decide +kernel⟩

end ClusterClient.Cache
