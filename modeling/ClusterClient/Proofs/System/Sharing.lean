import ClusterClient.Proofs.System.Locks

/-!
# Sharing a sweep

Callers that want the topology at the same time share one sweep: the first of
them sweeps, the others wait for the lock, and everyone gets what that sweep came
to.
-/

namespace ClusterClient

variable {α : Type} {command : Command Topology} {k k' : Knowledge} {wishes : Wishes}
  {caller sweeper : Caller} {after : Option Refresh} {now : Instant} {r : Report}
  {reports : List Report} {seen : Nat}

namespace Report

/-- Nobody insists on a sweep of its own, gives up waiting for the lock, or breaks off a sweep. -/
structure Calm (r : Report) : Prop where
  unforced : ∀ order, r.entered = some order → order.force = false
  patient : r.returned ≠ some (.ok false)
  kept : r.dropped.any Refresh.isSweeping = false

/-- Nobody makes a wish once a sweep has ended. -/
def Together : List Report → Prop
  | [] => True
  | r :: before => (r.entered.isSome → outcomes before = []) ∧ Together before

instance (r : Report) : Decidable r.Calm :=
  decidable_of_iff (r.entered.all (!·.force) = true ∧
    r.returned.all (·.toOption != some false) = true ∧
    r.dropped.any Refresh.isSweeping = false) <| by
    constructor
    · rintro ⟨hforce, hreturned, hkept⟩
      refine ⟨fun order horder => ?_, fun hfalse => ?_, hkept⟩
      · simpa [horder] using hforce
      · simp [hfalse, Except.toOption] at hreturned
    · rintro ⟨hforce, hreturned, hkept⟩
      refine ⟨?_, ?_, hkept⟩
      · cases hentered : r.entered with
        | none => rfl
        | some order => simp [hforce order hentered]
      · cases hresult : r.returned with
        | none => rfl
        | some result =>
          rw [hresult] at hreturned
          match result with
          | .error e => rfl
          | .ok true => rfl
          | .ok false => exact (hreturned rfl).elim

instance : (reports : List Report) → Decidable (Together reports)
  | [] => inferInstanceAs (Decidable True)
  | r :: before =>
    have := instDecidableTogether before
    inferInstanceAs (Decidable ((r.entered.isSome → outcomes before = []) ∧ Together before))

structure Still (r : Report) : Prop where
  entered : r.entered = none
  began : r.began = none
  asked : r.asked = []
  ended : r.ended = none

/-- One caller began a sweep, at once when it made its wish, and nobody else had a part in it. -/
structure OneSweeps (sweeper : Caller) (reports : List Report) : Prop where
  once : reports.countP (·.began.isSome) = 1
  atOnce : ∀ r ∈ reports, r.began.isSome → r.entered.isSome
  alone : ∀ r ∈ reports, r.began.isSome ∨ r.asked ≠ [] ∨ r.ended.isSome → r.caller = sweeper

namespace OneSweeps

theorem first (hreports : ∀ r ∈ reports, r.Still) (hcaller : r.caller = sweeper)
    (hbegan : r.began.isSome) (hentered : r.entered.isSome) :
    OneSweeps sweeper (r :: reports) := by
  refine ⟨?_, ?_, ?_⟩
  · have hnone : reports.countP (·.began.isSome) = 0 :=
      List.countP_eq_zero.mpr fun r' hr' => by simp [(hreports r' hr').began]
    rw [List.countP_cons, hnone, if_pos hbegan]
  · intro r' hr' hbegan'
    rcases List.mem_cons.mp hr' with rfl | hr'
    · exact hentered
    · simp [(hreports r' hr').began] at hbegan'
  · intro r' hr' hacts
    rcases List.mem_cons.mp hr' with rfl | hr'
    · exact hcaller
    · obtain ⟨-, hbegan', hasked, hended⟩ := hreports r' hr'
      simp [hbegan', hasked, hended] at hacts

theorem cons (h : OneSweeps sweeper reports) (hbegan : r.began = none)
    (hacts : r.asked ≠ [] ∨ r.ended.isSome → r.caller = sweeper) :
    OneSweeps sweeper (r :: reports) := by
  refine ⟨?_, ?_, ?_⟩
  · rw [List.countP_cons, h.once, if_neg (by simp [hbegan])]
  · intro r' hr' hbegan'
    rcases List.mem_cons.mp hr' with rfl | hr'
    · simp [hbegan] at hbegan'
    · exact h.atOnce r' hr' hbegan'
  · intro r' hr' hacts'
    rcases List.mem_cons.mp hr' with rfl | hr'
    · exact hacts (hacts'.resolve_left (by simp [hbegan]))
    · exact h.alone r' hr' hacts'

end OneSweeps

theorem isInside_of_still (h : ∀ r ∈ reports, r.Still) (c : Caller) :
    isInside c reports = false := by
  induction reports with
  | nil => rfl
  | cons r before ih =>
    have hbefore := ih fun r' hr' => h r' (List.mem_cons_of_mem r hr')
    have hentered := (h r List.mem_cons_self).entered
    simp [isInside, hbefore, hentered]

theorem results_of_still (h : ∀ r ∈ reports, r.Still) : results reports = [] := by
  induction reports with
  | nil => rfl
  | cons r before ih =>
    have hbefore : ∀ r' ∈ before, r'.Still := fun r' hr' => h r' (List.mem_cons_of_mem r hr')
    have hentered := (h r List.mem_cons_self).entered
    simp [results, isInside_of_still hbefore, hentered, ih hbefore]

theorem outcomes_of_still (h : ∀ r ∈ reports, r.Still) : outcomes reports = [] := by
  unfold outcomes
  rw [List.filterMap_eq_nil_iff]
  exact fun r hr => (h r hr).ended

theorem isInside_cons_of_ne {c : Caller} (h : r.caller ≠ c) :
    isInside c (r :: reports) = isInside c reports := by
  rw [isInside, if_neg h]

end Report

open Report

/-! ## Waiting for the lock -/

/-- Nobody who waits insists on a sweep, and a free lock means that a sweep ended meanwhile. -/
def Patient (k : Knowledge) (wishes : Wishes) : Prop :=
  ∀ c order observed, wishes c = some (.queued order observed) →
    order.force = false ∧ observed ≤ k.sweeps ∧ (k.lockHeld = false → observed < k.sweeps)

/-- Everyone stays patient if one caller does, and no lock gets free before a sweep ends. -/
theorem Patient.update (h : Patient k wishes)
    (hcaller : ∀ order observed, after = some (.queued order observed) →
      order.force = false ∧ observed ≤ k'.sweeps ∧ (k'.lockHeld = false → observed < k'.sweeps))
    (hsweeps : k.sweeps ≤ k'.sweeps)
    (hfreed : k'.lockHeld = false → k.lockHeld = false ∨ k.sweeps < k'.sweeps) :
    Patient k' (Function.update wishes caller after) := by
  refine (Function.forall_update_iff wishes fun _ wish => ∀ order observed,
    wish = some (.queued order observed) → order.force = false ∧ observed ≤ k'.sweeps ∧
      (k'.lockHeld = false → observed < k'.sweeps)).mpr ⟨hcaller, ?_⟩
  intro c _ order observed hqueued
  obtain ⟨hforce, hseen, hless⟩ := h c order observed hqueued
  refine ⟨hforce, Nat.le_trans hseen hsweeps, fun hfree => ?_⟩
  rcases hfreed hfree with hbefore | hended
  · exact Nat.lt_of_lt_of_le (hless hbefore) hsweeps
  · exact Nat.lt_of_le_of_lt hseen hended

theorem Patient.step (h : Patient k wishes) (hcalm : r.Calm)
    (htakes : Takes command k now caller (wishes caller) k' after r) :
    Patient k' (Function.update wishes caller after) := by
  generalize hbefore : wishes caller = before at htakes
  cases htakes with
  | @joins wish held onlyIf =>
    refine h.update (fun order observed hqueued => ?_) (Nat.le_refl _) .inl
    cases hqueued
    exact ⟨hcalm.unforced wish rfl, Nat.le_refl _, fun hfree => by rw [held] at hfree; cases hfree⟩
  | waits =>
    exact h.update (fun order observed hqueued => h caller order observed (hbefore.trans hqueued))
      (Nat.le_refl _) .inl
  | begins _ _ _ _ =>
    exact h.update (fun _ _ hqueued => by cases hqueued) (Nat.le_refl _) fun hfree => by cases hfree
  | timesOut | spares _ _ | stays _ | goesOn _ _ _ =>
    exact h.update (fun _ _ hqueued => by cases hqueued) (Nat.le_refl _) .inl
  -- The lock gets free, and whoever waits has missed the sweep that ended.
  | beginsInVain _ _ | fails _ _ | fetches =>
    exact h.update (fun _ _ hqueued => by cases hqueued) (Nat.le_succ _)
      fun _ => .inr (Nat.lt_succ_self _)
  | @drops refresh =>
    cases refresh with
    | queued order observed =>
      exact h.update (fun _ _ hqueued => by cases hqueued) (Nat.le_refl _) .inl
    | sweeping sweep => exact absurd hcalm.kept (by simp [Refresh.isSweeping])

theorem Patient.entered_of_due {order : SweepOrder} {entered : Option SweepOrder}
    (h : Patient k wishes) (hdue : Due k order (wishes caller) entered) : entered = some order := by
  rcases hdue.place with ⟨-, hentered⟩ | ⟨observed, hqueued, -, hseen⟩
  · exact hentered
  · obtain ⟨hforce, -, hless⟩ := h caller order observed hqueued
    have := hless hdue.free
    have := hseen hforce
    omega

/-! ## How far a group has come -/

structure Before (k : Knowledge) (wishes : Wishes) (reports : List Report) (seen : Nat) : Prop where
  held : Held k wishes none
  sweeps : k.sweeps = seen
  still : ∀ r ∈ reports, r.Still

/-- One of the group sweeps, and the others wait. -/
structure During (k : Knowledge) (wishes : Wishes) (reports : List Report) (seen : Nat)
    (sweeper : Caller) : Prop where
  held : Held k wishes (some sweeper)
  sweeps : k.sweeps = seen
  one : OneSweeps sweeper reports
  outcomes : outcomes reports = []
  results : results reports = []
  inside : isInside sweeper reports = true
  waiting : ∀ c, isInside c reports = true → c ≠ sweeper →
    ∃ order, wishes c = some (.queued order seen) ∧
      (order.onlyIfUninitialized = true → k.initialized = false)

/-- The sweep has ended, and the others get what it came to. -/
structure Afterwards (k : Knowledge) (wishes : Wishes) (reports : List Report) (seen : Nat)
    (sweeper : Caller) (outcome : Except (List NodeFailure) Topology) : Prop where
  held : Held k wishes none
  sweeps : k.sweeps = seen + 1
  one : OneSweeps sweeper reports
  outcomes : outcomes reports = [outcome]
  results : ∀ result ∈ results reports, result = sweepResult outcome
  last : k.lastOutcome = sweepResult outcome
  waiting : ∀ c, isInside c reports = true →
    ∃ order, wishes c = some (.queued order seen) ∧
      (order.onlyIfUninitialized = true → k.initialized = true → sweepResult outcome = .ok true)

inductive Shares (k : Knowledge) (wishes : Wishes) (reports : List Report) (seen : Nat) : Prop where
  | before (h : Before k wishes reports seen)
  | during (sweeper : Caller) (h : During k wishes reports seen sweeper)
  | afterwards (sweeper : Caller) (outcome : Except (List NodeFailure) Topology)
    (h : Afterwards k wishes reports seen sweeper outcome)

theorem Held.not_sweeping {sweep : Sweep} (h : Held k wishes none)
    (hsweeping : wishes caller = some (.sweeping sweep)) : False := by
  have hheld := (h.sweeping caller).mp (by rw [hsweeping]; rfl)
  cases hheld

/-- Who gets a result for a wish made within the reports was waiting for it. -/
theorem Afterwards.spared {outcome : Except (List NodeFailure) Topology} {order : SweepOrder}
    {observed : Nat} (h : Afterwards k wishes reports seen sweeper outcome)
    (hpatient : Patient k wishes) (hinside : isInside caller reports = true)
    (hqueued : wishes caller = some (.queued order observed)) :
    k.spared? order observed = some (sweepResult outcome) := by
  obtain ⟨order', hqueued', honly⟩ := h.waiting caller hinside
  obtain ⟨rfl, rfl⟩ : order = order' ∧ observed = seen := by
    rw [hqueued] at hqueued'
    cases hqueued'
    exact ⟨rfl, rfl⟩
  obtain ⟨hforce, -, -⟩ := hpatient caller order observed hqueued
  have hmissed : (k.sweeps != observed) = true := by
    rw [h.sweeps]
    simp
  unfold Knowledge.spared?
  by_cases hneedless : (order.onlyIfUninitialized && k.initialized) = true
  · rw [Bool.and_eq_true] at hneedless
    rw [if_pos (by simp [hneedless]), honly hneedless.1 hneedless.2]
  · rw [if_neg hneedless, if_pos (by simp [hforce, hmissed]), h.last]

theorem Before.begins (h : Before k wishes reports seen) (hr : r.caller = caller)
    (hheld : Held k' (Function.update wishes caller after) (some caller))
    (hsweeps : k'.sweeps = k.sweeps) (hentered : r.entered.isSome) (hbegan : r.began.isSome)
    (hended : r.ended = none) (hreturned : r.returned = none) (hdropped : r.dropped = none) :
    During k' (Function.update wishes caller after) (r :: reports) seen caller := by
  refine ⟨hheld, hsweeps.trans h.sweeps, .first h.still hr hbegan hentered, ?_, ?_, ?_,
    fun c hinside hc => ?_⟩
  · rw [outcomes_cons, outcomes_of_still h.still, hended]
    rfl
  · simp [results, results_of_still h.still, hreturned]
  · simp [isInside, hr, hentered, hreturned, hdropped]
  · rw [isInside_cons_of_ne (hr ▸ Ne.symm hc), isInside_of_still h.still] at hinside
    cases hinside

theorem Before.beginsInVain {missed : List NodeFailure} (h : Before k wishes reports seen)
    (hr : r.caller = caller) (hheld : Held k' (Function.update wishes caller after) none)
    (hsweeps : k'.sweeps = k.sweeps + 1) (hentered : r.entered.isSome) (hbegan : r.began.isSome)
    (hended : r.ended = some (.error missed))
    (hreturned : r.returned = some (sweepResult (.error missed)))
    (hlast : k'.lastOutcome = sweepResult (.error missed)) :
    Afterwards k' (Function.update wishes caller after) (r :: reports) seen caller
      (.error missed) := by
  refine ⟨hheld, hsweeps.trans (congrArg (· + 1) h.sweeps), .first h.still hr hbegan hentered, ?_,
    ?_, hlast, fun c hinside => ?_⟩
  · rw [outcomes_cons, outcomes_of_still h.still, hended]
    rfl
  · intro result hresult
    simpa [results, results_of_still h.still, hentered, hreturned] using hresult
  · by_cases hc : r.caller = c
    · simp [isInside, hc, hreturned] at hinside
    · rw [isInside_cons_of_ne hc, isInside_of_still h.still] at hinside
      cases hinside

theorem Before.step (h : Before k wishes reports seen) (hpatient : Patient k wishes)
    (hcalm : r.Calm) (htakes : Takes command k now caller (wishes caller) k' after r) :
    Shares k' (Function.update wishes caller after) (r :: reports) seen := by
  have hheld := h.held.step htakes
  have hsweeps := h.sweeps
  have hdue : ∀ {order : SweepOrder} {entered : Option SweepOrder},
      Due k order (wishes caller) entered → entered = some order := hpatient.entered_of_due
  have hidle : ∀ {sweep : Sweep}, wishes caller ≠ some (.sweeping sweep) :=
    fun hsweeping => h.held.not_sweeping hsweeping
  -- As long as nobody sweeps, the group is as if it had not begun.
  have hstill : k'.sweeps = k.sweeps → r.holder none = none → r.Still →
      Shares k' (Function.update wishes caller after) (r :: reports) seen := by
    intro hsame hholder hr
    refine .before ⟨hholder ▸ hheld, hsame.trans hsweeps, fun r' hr' => ?_⟩
    rcases List.mem_cons.mp hr' with rfl | hr'
    · exact hr
    · exact h.still r' hr'
  generalize wishes caller = before at htakes hdue hidle
  cases htakes with
  | joins held onlyIf =>
    have hfree := h.held.lock
    rw [held] at hfree
    cases hfree
  | waits => exact hstill rfl rfl ⟨rfl, rfl, rfl, rfl⟩
  | timesOut => exact (hcalm.patient rfl).elim
  | spares free spared => exact hstill rfl rfl ⟨rfl, rfl, rfl, rfl⟩
  | begins due nodes passed asks =>
    have hentered := hdue due
    subst hentered
    exact .during caller (h.begins rfl hheld rfl rfl rfl rfl rfl rfl)
  | @beginsInVain _ _ order missed due passed =>
    have hentered := hdue due
    subst hentered
    exact .afterwards caller (.error missed)
      (h.beginsInVain rfl hheld rfl rfl rfl rfl rfl rfl)
  | stays _ | goesOn _ _ _ | fails _ _ | fetches => exact (hidle rfl).elim
  | @drops refresh =>
    cases refresh with
    | queued order observed => exact hstill rfl rfl ⟨rfl, rfl, rfl, rfl⟩
    | sweeping sweep => exact (hidle rfl).elim

theorem During.cons (h : During k wishes reports seen sweeper) (hr : r.caller = caller)
    (hheld : Held k (Function.update wishes caller after) (some sweeper))
    (hbegan : r.began = none) (hended : r.ended = none) (hreturned : r.returned = none)
    (hasked : r.asked ≠ [] → r.caller = sweeper) (hinside : isInside sweeper (r :: reports) = true)
    (hcaller : isInside caller (r :: reports) = true → caller ≠ sweeper →
      ∃ order, after = some (.queued order seen) ∧
        (order.onlyIfUninitialized = true → k.initialized = false)) :
    Shares k (Function.update wishes caller after) (r :: reports) seen := by
  refine .during sweeper
    ⟨hheld, h.sweeps, h.one.cons hbegan ?_, ?_, ?_, hinside, fun c hc hcs => ?_⟩
  · simpa [hended] using hasked
  · rw [outcomes_cons, hended, h.outcomes]
    rfl
  · simp [Report.results, h.results, hreturned]
  · by_cases hsame : c = caller
    · subst hsame
      rw [Function.update_self]
      exact hcaller hc hcs
    · rw [Function.update_of_ne hsame]
      rw [isInside_cons_of_ne (hr ▸ Ne.symm hsame)] at hc
      exact h.waiting c hc hcs

theorem During.ended {outcome : Except (List NodeFailure) Topology}
    (h : During k wishes reports seen sweeper) (hr : r.caller = sweeper)
    (hheld : Held k' (Function.update wishes sweeper after) none)
    (hsweeps : k'.sweeps = k.sweeps + 1) (hbegan : r.began = none)
    (hended : r.ended = some outcome) (hreturned : r.returned = some (sweepResult outcome))
    (hlast : k'.lastOutcome = sweepResult outcome)
    (hinitialized : k'.initialized = true → k.initialized = false →
      sweepResult outcome = .ok true) :
    Shares k' (Function.update wishes sweeper after) (r :: reports) seen := by
  refine .afterwards sweeper outcome
    ⟨hheld, by rw [hsweeps, h.sweeps], h.one.cons hbegan fun _ => hr, ?_, ?_, hlast,
      fun c hinside => ?_⟩
  · rw [outcomes_cons, hended, h.outcomes]
    rfl
  · intro result hresult
    simpa [Report.results, hr, h.inside, h.results, hreturned] using hresult
  · by_cases hc : c = sweeper
    · simp [isInside, hr, hc, hreturned] at hinside
    · rw [isInside_cons_of_ne (hr ▸ Ne.symm hc)] at hinside
      rw [Function.update_of_ne hc]
      obtain ⟨order, hqueued, honly⟩ := h.waiting c hinside hc
      exact ⟨order, hqueued, fun hif hafter => hinitialized hafter (honly hif)⟩

theorem During.step (h : During k wishes reports seen sweeper) (hcalm : r.Calm)
    (htakes : Takes command k now caller (wishes caller) k' after r) :
    Shares k' (Function.update wishes caller after) (r :: reports) seen := by
  have hheld := h.held.step htakes
  have hlocked : k.lockHeld = true := h.held.lock
  -- The lock is taken, so no other sweep can begin.
  have hdue : ∀ {order : SweepOrder} {entered : Option SweepOrder},
      ¬Due k order (wishes caller) entered := by
    intro order entered due
    rw [due.free] at hlocked
    cases hlocked
  have hsweeper : ∀ {sweep : Sweep}, wishes caller = some (.sweeping sweep) → caller = sweeper := by
    intro sweep hsweeping
    have hholder := (h.held.sweeping caller).mp (by rw [hsweeping]; rfl)
    exact (Option.some.inj hholder).symm
  have hother : (wishes caller).any Refresh.isSweeping = false → caller ≠ sweeper := by
    rintro hidle rfl
    rw [(h.held.sweeping caller).mpr rfl] at hidle
    cases hidle
  have hwaits := h.waiting caller
  generalize wishes caller = before at htakes hdue hsweeper hother hwaits
  cases htakes with
  | @joins order held onlyIf =>
    refine h.cons rfl hheld rfl rfl rfl (fun hasked => (hasked rfl).elim) ?_ fun _ _ => ?_
    · rw [isInside_cons_of_ne (hother rfl), h.inside]
    · exact ⟨order, by rw [h.sweeps], onlyIf⟩
  | @waits order observed =>
    refine h.cons rfl hheld rfl rfl rfl (fun hasked => (hasked rfl).elim) ?_ fun hinside => ?_
    · rw [isInside_cons_of_ne (hother rfl), h.inside]
    · exact hwaits (by simpa [isInside] using hinside)
  | timesOut => exact (hcalm.patient rfl).elim
  | spares free spared =>
    rw [free] at hlocked
    cases hlocked
  | begins due _ _ _ | beginsInVain due _ => exact (hdue due).elim
  | stays _ | goesOn _ _ _ =>
    obtain rfl := hsweeper rfl
    exact h.cons rfl hheld rfl rfl rfl (fun _ => rfl) (by simpa [isInside] using h.inside)
      fun _ hcs => (hcs rfl).elim
  | @fails sweep reason missed failures passed all =>
    obtain rfl := hsweeper rfl
    refine h.ended rfl hheld rfl rfl rfl rfl rfl fun hafter hbefore => ?_
    cases hbefore.symm.trans hafter
  | @fetches sweep topology =>
    obtain rfl := hsweeper rfl
    exact h.ended rfl hheld rfl rfl rfl rfl rfl fun _ _ => rfl
  | @drops refresh =>
    cases refresh with
    | queued order observed =>
      refine h.cons rfl hheld rfl rfl rfl (fun hasked => (hasked rfl).elim) ?_ fun hinside => ?_
      · rw [isInside_cons_of_ne (hother rfl), h.inside]
      · simp [isInside] at hinside
    | sweeping sweep => exact absurd hcalm.kept (by simp [Refresh.isSweeping])

theorem Afterwards.cons {outcome : Except (List NodeFailure) Topology}
    (h : Afterwards k wishes reports seen sweeper outcome) (hr : r.caller = caller)
    (hheld : Held k (Function.update wishes caller after) none) (hentered : r.entered = none)
    (hbegan : r.began = none) (hasked : r.asked = []) (hended : r.ended = none)
    (hreturned : isInside caller reports = true → ∀ result, r.returned = some result →
      result = sweepResult outcome)
    (hcaller : isInside caller (r :: reports) = true → ∃ order, after = some (.queued order seen) ∧
      (order.onlyIfUninitialized = true → k.initialized = true → sweepResult outcome = .ok true)) :
    Shares k (Function.update wishes caller after) (r :: reports) seen := by
  refine .afterwards sweeper outcome
    ⟨hheld, h.sweeps, h.one.cons hbegan ?_, ?_, ?_, h.last, fun c hinside => ?_⟩
  · simp [hasked, hended]
  · rw [outcomes_cons, hended, h.outcomes]
    rfl
  · intro result hresult
    rw [Report.results, hentered, hr] at hresult
    split at hresult
    · rename_i hinside
      rcases List.mem_append.mp hresult with hnew | hold
      · exact hreturned hinside result (Option.mem_toList.mp hnew)
      · exact h.results result hold
    · exact h.results result hresult
  · by_cases hc : c = caller
    · subst hc
      rw [Function.update_self]
      exact hcaller hinside
    · rw [isInside_cons_of_ne (hr ▸ Ne.symm hc)] at hinside
      rw [Function.update_of_ne hc]
      exact h.waiting c hinside

theorem Afterwards.step {outcome : Except (List NodeFailure) Topology}
    (h : Afterwards k wishes reports seen sweeper outcome) (hpatient : Patient k wishes)
    (hcalm : r.Calm) (hentered : r.entered = none)
    (htakes : Takes command k now caller (wishes caller) k' after r) :
    Shares k' (Function.update wishes caller after) (r :: reports) seen := by
  have hheld := h.held.step htakes
  have hdue : ∀ {order : SweepOrder} {entered : Option SweepOrder},
      Due k order (wishes caller) entered → entered = some order := hpatient.entered_of_due
  have hidle : ∀ {sweep : Sweep}, wishes caller ≠ some (.sweeping sweep) :=
    fun hsweeping => h.held.not_sweeping hsweeping
  have hwaits := h.waiting caller
  have hspared : ∀ {order : SweepOrder} {observed : Nat}, isInside caller reports = true →
      wishes caller = some (.queued order observed) →
      k.spared? order observed = some (sweepResult outcome) := h.spared hpatient
  generalize wishes caller = before at htakes hdue hidle hwaits hspared
  cases htakes with
  | joins held onlyIf => cases hentered
  | waits =>
    refine h.cons rfl hheld rfl rfl rfl rfl (fun _ _ hnone => by cases hnone) fun hinside => ?_
    exact hwaits (by simpa [isInside] using hinside)
  | timesOut => exact (hcalm.patient rfl).elim
  | @spares order observed result free spared =>
    refine h.cons rfl hheld rfl rfl rfl rfl (fun hinside result' hreturned => ?_) fun hinside => ?_
    · cases hreturned
      exact Option.some.inj (spared.symm.trans (hspared hinside rfl))
    · simp [isInside] at hinside
  | begins due _ _ _ | beginsInVain due _ => cases hentered.symm.trans (hdue due)
  | stays _ | goesOn _ _ _ | fails _ _ | fetches => exact (hidle rfl).elim
  | @drops refresh =>
    cases refresh with
    | queued order observed =>
      refine h.cons rfl hheld rfl rfl rfl rfl (fun _ _ hnone => by cases hnone) fun hinside => ?_
      simp [isInside] at hinside
    | sweeping sweep => exact (hidle rfl).elim

theorem Shares.step (h : Shares k wishes reports seen) (hpatient : Patient k wishes)
    (hcalm : r.Calm) (htogether : r.entered.isSome → outcomes reports = [])
    (htakes : Takes command k now caller (wishes caller) k' after r) :
    Shares k' (Function.update wishes caller after) (r :: reports) seen := by
  cases h with
  | before h => exact h.step hpatient hcalm htakes
  | during sweeper h => exact h.step hcalm htakes
  | afterwards sweeper outcome h =>
    refine h.step hpatient hcalm ?_ htakes
    by_contra hentered
    have hover := htogether (Option.isSome_iff_ne_none.mpr hentered)
    rw [h.outcomes] at hover
    cases hover

end ClusterClient
