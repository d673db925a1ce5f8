import ClusterClient.Proofs.System.Steps

/-!
# Histories

What a run comes to, what it reports of wishes for a sweep, and what can be read
off such reports: who sweeps, who is inside with a wish, how many sweeps ended
meanwhile.  Runs and reports are listed with the last one first, as the requests
of an executor are.
-/

namespace ClusterClient

variable {α : Type}

/-- What happened to a system, and when. -/
abbrev Run (α : Type) := List (Moment × Action α)

abbrev Wishes := Caller → Option Refresh

namespace Report

/-! ## Reading reports -/

/-- Who sweeps after a report, if this caller did before. -/
def holder (r : Report) (before : Option Caller) : Option Caller :=
  if r.ended.isSome || r.dropped.any Refresh.isSweeping then none
  else if r.began.isSome then some r.caller
  else before

def holder? : List Report → Option Caller
  | [] => none
  | r :: before => r.holder (holder? before)

/-- Whether a caller made a wish and has neither got a result nor given it up. -/
def isInside (caller : Caller) : List Report → Bool
  | [] => false
  | r :: before =>
    if r.caller = caller then
      (r.entered.isSome || isInside caller before) && r.returned.isNone && r.dropped.isNone
    else isInside caller before

def results : List Report → List (Except ExecutorError Bool)
  | [] => []
  | r :: before =>
    if r.entered.isSome || isInside r.caller before then r.returned.toList ++ results before
    else results before

def outcomes (reports : List Report) : List (Except (List NodeFailure) Topology) :=
  reports.filterMap (·.ended)

theorem outcomes_cons (r : Report) (reports : List Report) :
    outcomes (r :: reports) = r.ended.toList ++ outcomes reports := by
  unfold outcomes
  cases hended : r.ended with
  | none => exact List.filterMap_cons_none hended
  | some outcome => exact List.filterMap_cons_some hended

def lastWish? (caller : Caller) : List Report → Option SweepOrder
  | [] => none
  | r :: before =>
    if r.caller = caller then r.entered <|> lastWish? caller before else lastWish? caller before

/-- How many sweeps ended since a caller last made a wish. -/
def endedSince (caller : Caller) : List Report → Nat
  | [] => 0
  | r :: before =>
    if r.caller = caller ∧ r.entered.isSome then 0
    else endedSince caller before + (if r.ended.isSome then 1 else 0)

end Report

namespace System

variable {s : System α}

def new (scope : Scope) (applicationId : String) (seeds : List Url) (conventions : Conventions)
    (proxy : Option String) : System α :=
  { executor := Executor.new scope applicationId seeds conventions proxy }

theorem executor_new (scope : Scope) (applicationId : String) (seeds : List Url)
    (conventions : Conventions) (proxy : Option String) :
    ∃ mailbox, (new scope applicationId seeds conventions proxy : System α).executor =
      { scope, applicationId, conventions, seeds, mailbox
        selector := { topology := Executor.initialTopology scope seeds conventions }
        cache := { capacity := conventions.maxCacheEntries }
        pool := { proxy }
        initialized := conventions.disableTopologyUpdates } := by
  unfold new Executor.new
  dsimp only
  split
  · exact ⟨[.firstUpdate], rfl⟩
  · exact ⟨[], rfl⟩

theorem knowledge_new (scope : Scope) (applicationId : String) (seeds : List Url)
    (conventions : Conventions) (proxy : Option String) :
    (new scope applicationId seeds conventions proxy : System α).executor.knowledge =
      { scope, applicationId, conventions, seeds
        topology := Executor.initialTopology scope seeds conventions
        initialized := conventions.disableTopologyUpdates
        lockHeld := false, sweeps := 0, lastSweep := none } := by
  obtain ⟨mailbox, hnew⟩ := executor_new (α := α) scope applicationId seeds conventions proxy
  rw [hnew]
  rfl

theorem asked_new (scope : Scope) (applicationId : String) (seeds : List Url)
    (conventions : Conventions) (proxy : Option String) :
    (new scope applicationId seeds conventions proxy : System α).executor.asked = [] := by
  obtain ⟨mailbox, hnew⟩ := executor_new (α := α) scope applicationId seeds conventions proxy
  rw [hnew]
  rfl

theorem cache_new (scope : Scope) (applicationId : String) (seeds : List Url)
    (conventions : Conventions) (proxy : Option String) :
    (new scope applicationId seeds conventions proxy : System α).executor.cache =
      { capacity := conventions.maxCacheEntries } := by
  obtain ⟨mailbox, hnew⟩ := executor_new (α := α) scope applicationId seeds conventions proxy
  rw [hnew]

theorem refresh?_new (scope : Scope) (applicationId : String) (seeds : List Url)
    (conventions : Conventions) (proxy : Option String) (c : Caller) :
    (new scope applicationId seeds conventions proxy : System α).refresh? c = none := rfl

def after (s : System α) : Run α → System α
  | [] => s
  | (m, action) :: before => ((s.after before).step m action).1

def reports (s : System α) : Run α → List Report
  | [] => []
  | (m, action) :: before => ((s.after before).report? m action).toList ++ s.reports before

theorem after_append (s : System α) (later before : Run α) :
    s.after (later ++ before) = (s.after before).after later := by
  induction later with
  | nil => rfl
  | cons event later ih => rw [List.cons_append, after, ih, after]

theorem reports_append (s : System α) (later before : Run α) :
    s.reports (later ++ before) = (s.after before).reports later ++ s.reports before := by
  induction later with
  | nil => rfl
  | cons event later ih =>
    rw [List.cons_append, reports, ih, after_append, reports, List.append_assoc]

/-- What is kept whenever a caller goes on with its wish holds along a run. -/
theorem along_run {P : Knowledge → Wishes → List Report → Prop}
    (hstart : P s.executor.knowledge s.refresh? [])
    (hmoves : ∀ {k k' : Knowledge} {wishes : Wishes} {caller : Caller} {after : Option Refresh}
      {now : Instant} {r : Report} {reports : List Report}, P k wishes reports →
      Takes k.topologyCommand k now caller (wishes caller) k' after r →
      P k' (Function.update wishes caller after) (r :: reports)) (run : Run α) :
    P (s.after run).executor.knowledge (s.after run).refresh? (s.reports run) := by
  induction run with
  | nil => exact hstart
  | cons event before ih =>
    obtain ⟨m, action⟩ := event
    rw [after, reports]
    cases hreport : (s.after before).report? m action with
    | none =>
      have hrests := step_rests hreport
      rw [hrests.knowledge, funext hrests.refreshes]
      exact ih
    | some r =>
      have hmoved := step_moves hreport
      -- Only the wish changes whose caller the report names.
      have hwishes : ((s.after before).step m action).1.refresh? =
          Function.update (s.after before).refresh? r.caller
            (((s.after before).step m action).1.refresh? r.caller) := by
        funext c
        by_cases hc : c = r.caller
        · rw [hc, Function.update_self]
        · rw [Function.update_of_ne hc, hmoved.others c hc]
      rw [hwishes]
      exact hmoves ih hmoved.takes

theorem asked_after (s : System α) (run : Run α) :
    (s.after run).executor.asked =
      (s.reports run).flatMap (·.asked.reverse) ++ s.executor.asked := by
  induction run with
  | nil => rfl
  | cons event before ih =>
    obtain ⟨m, action⟩ := event
    rw [after, reports]
    cases hreport : (s.after before).report? m action with
    | none => exact (step_rests hreport).asked.trans ih
    | some r =>
      rw [(step_moves hreport).asked, ih, Option.toList_some, List.singleton_append,
        List.flatMap_cons, List.append_assoc]

end System

end ClusterClient
