import ClusterClient.Proofs.System.Histories

/-!
# Who has the lock

At most one caller sweeps, and the lock is taken exactly as long as one does.
Whoever waits for it has seen every sweep that had ended when the wish was made.
-/

namespace ClusterClient

variable {α : Type} {command : Command Topology} {k k' : Knowledge} {wishes : Wishes}
  {caller : Caller} {after : Option Refresh} {now : Instant} {r : Report} {reports : List Report}

theorem Takes.caller_eq {before : Option Refresh}
    (h : Takes command k now caller before k' after r) : r.caller = caller := by
  cases h <;> rfl

theorem Takes.made_with {before : Option Refresh}
    (h : Takes command k now caller before k' after r) :
    k'.scope = k.scope ∧ k'.applicationId = k.applicationId ∧ k'.conventions = k.conventions ∧
      k'.seeds = k.seeds := by
  cases h with
  | @drops refresh => cases refresh <;> exact ⟨rfl, rfl, rfl, rfl⟩
  | joins _ _ | waits | timesOut | spares _ _ | begins _ _ _ _ | beginsInVain _ _ | stays _
  | goesOn _ _ _ | fails _ _ | fetches => exact ⟨rfl, rfl, rfl, rfl⟩

theorem Takes.topologyCommand_eq {before : Option Refresh}
    (h : Takes command k now caller before k' after r) :
    k'.topologyCommand = k.topologyCommand := by
  obtain ⟨hscope, hid, hconventions, -⟩ := h.made_with
  unfold Knowledge.topologyCommand
  rw [hscope, hid, hconventions]

theorem Takes.due_of_began {before : Option Refresh} {order : SweepOrder}
    (h : Takes command k now caller before k' after r) (hbegan : r.began = some order) :
    Due k order before r.entered := by
  cases h with
  | begins due _ _ _ | beginsInVain due _ =>
    cases hbegan
    exact due
  | joins _ _ | waits | timesOut | spares _ _ | stays _ | goesOn _ _ _ | fails _ _ | fetches
  | drops => cases hbegan

theorem Takes.sweeps_of_asked {before : Option Refresh}
    (h : Takes command k now caller before k' after r) (hasked : r.asked ≠ []) :
    r.began.isSome ∨ before.any Refresh.isSweeping = true := by
  cases h with
  | begins _ _ _ _ => exact Or.inl rfl
  | goesOn _ _ _ => exact Or.inr rfl
  | joins _ _ | waits | timesOut | spares _ _ | beginsInVain _ _ | stays _ | fails _ _ | fetches
  | drops => exact (hasked rfl).elim

/-- The lock is taken exactly if somebody sweeps, and nobody else does. -/
structure Held (k : Knowledge) (wishes : Wishes) (holder : Option Caller) : Prop where
  lock : k.lockHeld = holder.isSome
  sweeping : ∀ c, (wishes c).any Refresh.isSweeping = true ↔ holder = some c

namespace Held

theorem update {holder holder' : Option Caller} (h : Held k wishes holder)
    (hlock : k'.lockHeld = holder'.isSome)
    (hself : after.any Refresh.isSweeping = true ↔ holder' = some caller)
    (hothers : ∀ c, c ≠ caller → (holder = some c ↔ holder' = some c)) :
    Held k' (Function.update wishes caller after) holder' := by
  refine ⟨hlock, (Function.forall_update_iff wishes fun c wish =>
    wish.any Refresh.isSweeping = true ↔ holder' = some c).mpr ⟨hself, fun c hc => ?_⟩⟩
  rw [h.sweeping, hothers c hc]

theorem idle_of_free {holder : Option Caller} (h : Held k wishes holder)
    (hfree : k.lockHeld = false) (c : Caller) : (wishes c).any Refresh.isSweeping = false := by
  have hnobody : holder = none := by simpa [hfree] using h.lock
  rw [Bool.eq_false_iff, ne_eq, h.sweeping, hnobody]
  exact fun hc => Option.some_ne_none c hc.symm

theorem eq_none_of_idle {holder : Option Caller} (h : Held k wishes holder)
    (hidle : ∀ c, (wishes c).any Refresh.isSweeping = false) : holder = none := by
  cases holder with
  | none => rfl
  | some c =>
    have hsweeping := (h.sweeping c).mpr rfl
    rw [hidle c] at hsweeping
    cases hsweeping

theorem eq_of_sweeping {holder : Option Caller} {c d : Caller} (h : Held k wishes holder)
    (hc : (wishes c).any Refresh.isSweeping = true)
    (hd : (wishes d).any Refresh.isSweeping = true) : c = d := by
  have hholder := (h.sweeping c).mp hc
  rw [(h.sweeping d).mp hd] at hholder
  exact (Option.some.inj hholder).symm

theorem pass {holder : Option Caller} (h : Held k wishes holder)
    (hlock : k'.lockHeld = k.lockHeld) (hbefore : (wishes caller).any Refresh.isSweeping = false)
    (hafter : after.any Refresh.isSweeping = false) :
    Held k' (Function.update wishes caller after) holder := by
  refine h.update (hlock.trans h.lock) ?_ fun _ _ => Iff.rfl
  rw [← h.sweeping, hbefore, hafter]

theorem step {holder : Option Caller} (h : Held k wishes holder)
    (htakes : Takes command k now caller (wishes caller) k' after r) :
    Held k' (Function.update wishes caller after) (r.holder holder) := by
  have hlock := h.lock
  generalize hbefore : wishes caller = before at htakes
  have hholds : before.any Refresh.isSweeping = true ↔ holder = some caller :=
    hbefore ▸ h.sweeping caller
  cases htakes with
  | joins held onlyIf => exact h.pass rfl (by rw [hbefore]; rfl) rfl
  | waits => exact h.pass rfl (by rw [hbefore]; rfl) rfl
  | timesOut => exact h.pass rfl (by rw [hbefore]; rfl) rfl
  | spares free spared => exact h.pass rfl (by rw [hbefore]; rfl) rfl
  | begins due nodes passed asks =>
    have hnobody : holder = none := by simpa [due.free] using hlock
    subst hnobody
    exact h.update rfl (by simp [Report.holder, Refresh.isSweeping])
      fun c hc => by simp [Report.holder, Ne.symm hc]
  | beginsInVain due passed =>
    have hnobody : holder = none := by simpa [due.free] using hlock
    subst hnobody
    exact h.update rfl (by simp [Report.holder]) fun c hc => by simp [Report.holder]
  | stays same =>
    have hself : holder = some caller := hholds.mp rfl
    exact h.update hlock (by simp [Report.holder, hself, Refresh.isSweeping])
      fun c hc => by simp [Report.holder]
  | goesOn nodes passed asks =>
    have hself : holder = some caller := hholds.mp rfl
    exact h.update hlock (by simp [Report.holder, hself, Refresh.isSweeping])
      fun c hc => by simp [Report.holder]
  | fails passed all =>
    have hself : holder = some caller := hholds.mp rfl
    exact h.update rfl (by simp [Report.holder])
      fun c hc => by simp [Report.holder, hself, Ne.symm hc]
  | fetches =>
    have hself : holder = some caller := hholds.mp rfl
    exact h.update rfl (by simp [Report.holder])
      fun c hc => by simp [Report.holder, hself, Ne.symm hc]
  | @drops refresh =>
    cases refresh with
    | queued order observed => exact h.pass rfl (by rw [hbefore]; rfl) rfl
    | sweeping sweep =>
      have hself : holder = some caller := hholds.mp rfl
      exact h.update rfl (by simp [Report.holder, Refresh.isSweeping])
        fun c hc => by simp [Report.holder, Refresh.isSweeping, hself, Ne.symm hc]

end Held

/-- Whoever waits for the lock still has its last wish, and saw the sweeps that had ended before. -/
def Watched (k : Knowledge) (wishes : Wishes) (reports : List Report) : Prop :=
  ∀ c order observed, wishes c = some (.queued order observed) →
    Report.lastWish? c reports = some order ∧ observed + Report.endedSince c reports = k.sweeps

theorem Watched.step (h : Watched k wishes reports)
    (htakes : Takes command k now caller (wishes caller) k' after r) :
    Watched k' (Function.update wishes caller after) (r :: reports) := by
  have hsweeps : k'.sweeps = k.sweeps + (if r.ended.isSome then 1 else 0) := by
    generalize wishes caller = before at htakes
    cases htakes with
    | @drops refresh => cases refresh <;> rfl
    | joins _ _ | waits | timesOut | spares _ _ | begins _ _ _ _ | beginsInVain _ _ | stays _
    | goesOn _ _ _ | fails _ _ | fetches => rfl
  have hcaller := htakes.caller_eq
  intro c order observed hqueued
  by_cases hc : c = caller
  · subst hc
    rw [Function.update_self] at hqueued
    generalize hbefore : wishes c = before at htakes
    cases htakes with
    | joins held onlyIf =>
      cases hqueued
      simp [Report.lastWish?, Report.endedSince]
    | waits =>
      cases hqueued
      simpa [Report.lastWish?, Report.endedSince] using h c order observed hbefore
    | timesOut | spares _ _ | begins _ _ _ _ | beginsInVain _ _ | stays _ | goesOn _ _ _
    | fails _ _ | fetches | drops => cases hqueued
  · rw [Function.update_of_ne hc] at hqueued
    obtain ⟨hwish, hseen⟩ := h c order observed hqueued
    have hother : ¬r.caller = c := by rw [hcaller]; exact Ne.symm hc
    refine ⟨by rw [Report.lastWish?, if_neg hother, hwish], ?_⟩
    rw [Report.endedSince, if_neg fun hand => hother hand.1, hsweeps, ← hseen, Nat.add_assoc]

/-- A sweep is begun for the last wish of its caller, and unless that insists on it only if no sweep
ended since the wish was made. -/
theorem Watched.of_began {order : SweepOrder} (h : Watched k wishes reports)
    (htakes : Takes command k now caller (wishes caller) k' after r)
    (hbegan : r.began = some order) :
    Report.lastWish? caller (r :: reports) = some order ∧
      (order.force = false → r.entered.isSome ∨ Report.endedSince caller reports = 0) := by
  rw [Report.lastWish?, if_pos htakes.caller_eq]
  rcases (htakes.due_of_began hbegan).place with
    ⟨-, hentered⟩ | ⟨observed, hqueued, hentered, hseen⟩
  · rw [hentered]
    exact ⟨rfl, fun _ => .inl rfl⟩
  · obtain ⟨hwish, hcount⟩ := h caller order observed hqueued
    rw [hentered, hwish]
    refine ⟨rfl, fun hforce => .inr ?_⟩
    have := hseen hforce
    omega

namespace System

variable {s : System α}

/-- Nobody wants a sweep, and the lock is free. -/
structure Quiet (s : System α) : Prop where
  lock : s.executor.lockHeld = false
  wishes : ∀ c, s.refresh? c = none

theorem quiet_new (scope : Scope) (applicationId : String) (seeds : List Url)
    (conventions : Conventions) (proxy : Option String) :
    (new scope applicationId seeds conventions proxy : System α).Quiet :=
  ⟨congrArg Knowledge.lockHeld (knowledge_new scope applicationId seeds conventions proxy),
    refresh?_new scope applicationId seeds conventions proxy⟩

theorem Quiet.held (h : s.Quiet) : Held s.executor.knowledge s.refresh? none :=
  ⟨h.lock, fun c => by simp [h.wishes c]⟩

theorem Quiet.held_after (h : s.Quiet) (run : Run α) :
    Held (s.after run).executor.knowledge (s.after run).refresh?
      (Report.holder? (s.reports run)) :=
  along_run (P := fun k wishes reports => Held k wishes (Report.holder? reports)) h.held
    (fun ih htakes => ih.step htakes) run

theorem Quiet.watched_after (h : s.Quiet) (run : Run α) :
    Watched (s.after run).executor.knowledge (s.after run).refresh? (s.reports run) := by
  refine along_run ?_ (fun ih htakes => ih.step htakes) run
  intro c order observed hqueued
  rw [h.wishes c] at hqueued
  cases hqueued

end System

end ClusterClient
