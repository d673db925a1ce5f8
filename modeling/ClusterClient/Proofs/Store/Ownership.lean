import ClusterClient.Proofs.System.Disposal
import ClusterClient.Proofs.System.LastSweeps
import ClusterClient.Store.System

/-!
# Executors of a store

A store never loses sight of an executor that it made: until it is closed, it has each
under the scope that it was made for, and so hands out one for each scope and can give
up all of them at once.
-/

namespace ClusterClient

variable {α : Type}

/-- The scope that a request for an executor means, if it means one.  A database that is not named
is the store's own. -/
def StoreRequest.scope? (own : Option String) : StoreRequest → Option Scope
  | .executor named => (named <|> own).map .database
  | .clusterExecutor => some .cluster
  | .database | .close => none

def StoreRequest.wantsExecutor : StoreRequest → Bool
  | .executor _ | .clusterExecutor => true
  | .database | .close => false

def StoreAction.closes : StoreAction α → Bool
  | .ask .close _ | .drop => true
  | .ask (.executor _) _ | .ask .clusterExecutor _ | .ask .database _ | .act _ _ => false

/-- What happens to a store, the last event first. -/
abbrev StoreRun (α : Type) := List (Moment × StoreAction α)

namespace StoreSystem

variable {s : StoreSystem α} {m : Moment} {action : StoreAction α}

def new (seeds : List Url) (database : Option String) (conventions : Conventions)
    (proxy : Option String) : StoreSystem α :=
  { store := { seeds, database, conventions, proxy } }

def after (s : StoreSystem α) : StoreRun α → StoreSystem α
  | [] => s
  | (m, action) :: before => ((s.after before).step m action).1

/-- What the store was asked and what it replied, the last reply first. -/
def replies (s : StoreSystem α) : StoreRun α → List (StoreRequest × Except StoreError StoreReply)
  | [] => []
  | (m, .ask request applicationId) :: before =>
    (request, ((s.after before).reply m applicationId request).2) :: s.replies before
  | (_, .drop) :: before | (_, .act _ _) :: before => s.replies before

def scopes (s : StoreSystem α) : List Scope := s.executors.map (·.executor.scope)

/-- No executor is lost, and the store's own database stays. -/
structure Grows (s s' : StoreSystem α) : Prop where
  database : s'.store.database = s.store.database
  scopes : s.scopes <+: s'.scopes

theorem Grows.refl (s : StoreSystem α) : s.Grows s := ⟨rfl, List.prefix_rfl⟩

theorem Grows.trans {s₁ s₂ s₃ : StoreSystem α} (h : s₁.Grows s₂) (h' : s₂.Grows s₃) :
    s₁.Grows s₃ :=
  ⟨h'.database.trans h.database, h.scopes.trans h'.scopes⟩

theorem Grows.getElem? {s' : StoreSystem α} (h : s.Grows s') {number : Nat} {scope : Scope}
    (hhas : s.scopes[number]? = some scope) : s'.scopes[number]? = some scope := by
  obtain ⟨hlt, -⟩ := List.getElem?_eq_some_iff.mp hhas
  obtain ⟨new, hnew⟩ := h.scopes
  rw [← hnew, List.getElem?_append_left hlt, hhas]

/-! ## Steps of executors -/

theorem getElem?_act (s : StoreSystem α) (m : Moment) (number n : Nat) (action : Action α) :
    (s.act m number action).executors[n]? =
      if number = n then s.executors[n]?.map fun t => (t.step m action).1 else s.executors[n]? := by
  unfold act
  rw [List.getElem?_modify]
  split <;> simp

theorem scopes_act (s : StoreSystem α) (m : Moment) (number : Nat) (action : Action α) :
    (s.act m number action).scopes = s.scopes := by
  refine List.ext_getElem? fun n => ?_
  unfold scopes
  rw [List.getElem?_map, List.getElem?_map, getElem?_act]
  split
  · cases s.executors[n]? with
    | none => rfl
    | some t => exact congrArg some (System.scope_after t [(m, action)])
  · rfl

theorem disposed_act {number n : Nat} {action : Action α} {t : System α}
    (h : (s.act m number action).executors[n]? = some t)
    (hdisposed : ∀ t', s.executors[n]? = some t' → t'.executor.disposed = true) :
    t.executor.disposed = true := by
  rw [getElem?_act] at h
  split at h
  · obtain ⟨t', ht', rfl⟩ := Option.map_eq_some_iff.mp h
    exact System.disposed_step (hdisposed t' ht') m action
  · exact hdisposed t h

/-! ## Closing -/

theorem disposeAll (numbers : List Nat) (s : StoreSystem α) (m : Moment) :
    let s' := numbers.foldl (fun s number => s.act m number .dispose) s
    s'.store = s.store ∧ s'.scopes = s.scopes ∧
      ∀ n t, s'.executors[n]? = some t →
        (n ∈ numbers ∨ ∀ t', s.executors[n]? = some t' → t'.executor.disposed = true) →
          t.executor.disposed = true := by
  induction numbers generalizing s with
  | nil => exact ⟨rfl, rfl, fun n t ht h => (h.resolve_left (by simp)) t ht⟩
  | cons number numbers ih =>
    obtain ⟨hstore, hscopes, hdisposed⟩ := ih (s.act m number .dispose)
    refine ⟨hstore, hscopes.trans (s.scopes_act m number .dispose), fun n t ht h => ?_⟩
    refine hdisposed n t ht (or_iff_not_imp_left.mpr fun hnot t' ht' => ?_)
    rcases h with hn | hold
    · obtain rfl := (List.mem_cons.mp hn).resolve_right hnot
      rw [getElem?_act, if_pos rfl] at ht'
      obtain ⟨t₀, -, rfl⟩ := Option.map_eq_some_iff.mp ht'
      exact t₀.disposed_dispose m
    · exact disposed_act ht' hold

/-- What a store knows about the executors that it made. -/
structure Owned (s : StoreSystem α) : Prop where
  counted : s.scopes.length = s.store.made
  distinct : s.scopes.Nodup
  /-- Before it is closed the store has each executor under its scope. -/
  held : s.store.closed = false → ∀ scope number,
    s.store.executors.lookup scope = some number ↔ s.scopes[number]? = some scope
  released : s.store.closed = true → s.store.executors = []
  disposed : s.store.closed = true → ∀ t ∈ s.executors, t.executor.disposed = true

theorem owned_new (seeds : List Url) (database : Option String) (conventions : Conventions)
    (proxy : Option String) : (new seeds database conventions proxy : StoreSystem α).Owned where
  counted := rfl
  distinct := List.nodup_nil
  held _ scope number := by simp [new, scopes]
  released hclosed := (Bool.false_ne_true hclosed).elim
  disposed hclosed := (Bool.false_ne_true hclosed).elim

namespace Owned

theorem act (h : s.Owned) (m : Moment) (number : Nat) (action : Action α) :
    (s.act m number action).Owned where
  counted := by
    rw [scopes_act]
    exact h.counted
  distinct := by
    rw [scopes_act]
    exact h.distinct
  held hopen := by
    rw [scopes_act]
    exact h.held hopen
  released := h.released
  disposed hclosed t ht := by
    obtain ⟨n, hn⟩ := List.getElem?_of_mem ht
    exact disposed_act hn fun t' ht' => h.disposed hclosed t' (List.mem_of_getElem? ht')

theorem close_eq (h : s.Owned) (hclosed : s.store.closed = true) (m : Moment) :
    s.close m = s := by
  obtain ⟨⟨seeds, database, conventions, proxy, closed, executors, made⟩, systems⟩ := s
  obtain rfl : closed = true := hclosed
  obtain rfl : executors = [] := h.released rfl
  rfl

theorem close (h : s.Owned) (m : Moment) :
    (s.close m).Owned ∧ s.Grows (s.close m) ∧ (s.close m).store.closed = true := by
  obtain ⟨hstore, hscopes, hdisposed⟩ :=
    disposeAll s.store.close.2 { s with store := s.store.close.1 } m
  cases hclosed : s.store.closed with
  | true =>
    rw [h.close_eq hclosed]
    exact ⟨h, .refl s, hclosed⟩
  | false =>
    have hstore' : (s.close m).store = { s.store with closed := true, executors := [] } := hstore
    have hscopes' : (s.close m).scopes = s.scopes := hscopes
    refine ⟨⟨?_, ?_, ?_, ?_, ?_⟩, ⟨by rw [hstore'], hscopes' ▸ List.prefix_rfl⟩,
      by rw [hstore']⟩
    · rw [hscopes', hstore']
      exact h.counted
    · rw [hscopes']
      exact h.distinct
    · intro hopen
      rw [hstore'] at hopen
      cases hopen
    · intro _
      rw [hstore']
    · intro _ t ht
      obtain ⟨n, hn⟩ := List.getElem?_of_mem ht
      refine hdisposed n t hn (.inl ?_)
      have hscope : s.scopes[n]? = some t.executor.scope := by
        rw [← hscopes', scopes, List.getElem?_map, hn]
        rfl
      have hlookup := (h.held hclosed t.executor.scope n).mpr hscope
      exact List.mem_map.mpr ⟨_, Association.mem_of_lookup hlookup, rfl⟩

end Owned

/-! ## Handing out -/

def withNew (s : StoreSystem α) (applicationId : String) (scope : Scope) : StoreSystem α where
  store := { s.store with
    executors := (scope, s.store.made) :: s.store.executors, made := s.store.made + 1 }
  executors := s.executors ++ [{ executor := s.store.newExecutor scope applicationId }]

theorem scopes_withNew (s : StoreSystem α) (applicationId : String) (scope : Scope) :
    (s.withNew applicationId scope).scopes = s.scopes ++ [scope] := by
  have hscope : (s.store.newExecutor scope applicationId).scope = scope := by
    unfold Store.newExecutor Executor.new
    dsimp only
    split <;> rfl
  simp [scopes, withNew, hscope]

namespace Owned

theorem share_cases (h : s.Owned) (hopen : s.store.closed = false) (applicationId : String)
    (scope : Scope) :
    (∃ number, s.scopes[number]? = some scope ∧
      s.share applicationId scope (.ok (s.store.provide scope)) = (s, .ok (.executor number))) ∨
    scope ∉ s.scopes ∧ s.share applicationId scope (.ok (s.store.provide scope)) =
      (s.withNew applicationId scope, .ok (.executor s.store.made)) := by
  have hlength : s.executors.length = s.store.made := by
    rw [← h.counted, scopes, List.length_map]
  unfold Store.provide
  cases hlookup : s.store.executors.lookup scope with
  | some number =>
    have hscope := (h.held hopen scope number).mp hlookup
    refine .inl ⟨number, hscope, ?_⟩
    rw [scopes, List.getElem?_map] at hscope
    obtain ⟨t, ht, -⟩ := Option.map_eq_some_iff.mp hscope
    simp only [share, ht]
  | none =>
    refine .inr ⟨fun hmem => ?_, ?_⟩
    · obtain ⟨number, hscope⟩ := List.getElem?_of_mem hmem
      cases hlookup.symm.trans ((h.held hopen scope number).mpr hscope)
    · have hnone : s.executors[s.store.made]? = none := by simp [hlength]
      simp only [share, hnone, withNew]

theorem withNew (h : s.Owned) (hopen : s.store.closed = false) (applicationId : String)
    {scope : Scope} (hnew : scope ∉ s.scopes) : (s.withNew applicationId scope).Owned where
  counted := by
    rw [scopes_withNew, List.length_append, h.counted]
    rfl
  distinct := by
    rw [scopes_withNew]
    exact List.nodup_append.mpr ⟨h.distinct, List.nodup_singleton scope, by
      rintro a ha b hb rfl
      exact hnew (List.mem_singleton.mp hb ▸ ha)⟩
  held _ scope' number := by
    have hlookup : (s.withNew applicationId scope).store.executors.lookup scope' =
        if scope' = scope then some s.scopes.length else s.store.executors.lookup scope' := by
      rw [h.counted]
      exact Association.lookup_cons scope scope' s.store.made s.store.executors
    have hscopes : (s.scopes ++ [scope])[number]? = some scope' ↔
        s.scopes[number]? = some scope' ∨ number = s.scopes.length ∧ scope' = scope := by
      grind
    rw [scopes_withNew, hlookup, hscopes, ← h.held hopen]
    split
    · rename_i hscope
      subst hscope
      have hnone : s.store.executors.lookup scope' ≠ some number := fun hold =>
        hnew (List.mem_of_getElem? ((h.held hopen scope' number).mp hold))
      simp [hnone, eq_comm]
    · rename_i hscope
      simp [hscope]
  released hclosed := (Bool.false_ne_true (hopen.symm.trans hclosed)).elim
  disposed hclosed := (Bool.false_ne_true (hopen.symm.trans hclosed)).elim

theorem share (h : s.Owned) (hopen : s.store.closed = false) (applicationId : String)
    (scope : Scope) :
    let shared := s.share applicationId scope (.ok (s.store.provide scope))
    shared.1.Owned ∧ s.Grows shared.1 ∧ shared.1.store.closed = false ∧
      ∃ number, shared.2 = .ok (.executor number) ∧ shared.1.scopes[number]? = some scope := by
  rcases h.share_cases hopen applicationId scope with ⟨number, hscope, hshared⟩ | ⟨hnew, hshared⟩
  · rw [hshared]
    exact ⟨h, .refl s, hopen, number, rfl, hscope⟩
  · rw [hshared]
    refine ⟨h.withNew hopen applicationId hnew, ⟨rfl, ?_⟩, hopen, s.store.made, rfl, ?_⟩
    · rw [scopes_withNew]
      exact List.prefix_append _ _
    · rw [scopes_withNew, ← h.counted]
      exact List.getElem?_concat_length

end Owned

theorem reply_of_scope? (hopen : s.store.closed = false) (m : Moment) (applicationId : String)
    {request : StoreRequest} {scope : Scope}
    (hscope : request.scope? s.store.database = some scope) :
    s.reply m applicationId request =
      s.share applicationId scope (.ok (s.store.provide scope)) := by
  unfold StoreRequest.scope? at hscope
  cases request with
  | executor database =>
    obtain ⟨name, hname, rfl⟩ := Option.map_eq_some_iff.mp hscope
    simp [reply, Store.executor, hopen, hname]
  | clusterExecutor =>
    cases hscope
    simp [reply, Store.clusterExecutor, hopen]
  | database | close => cases hscope

theorem reply_of_nameless (hopen : s.store.closed = false) (m : Moment) (applicationId : String)
    {request : StoreRequest} (hwants : request.wantsExecutor = true)
    (hscope : request.scope? s.store.database = none) :
    s.reply m applicationId request = (s, .error .noDatabaseName) := by
  unfold StoreRequest.scope? at hscope
  cases request with
  | executor database =>
    have hname := Option.map_eq_none_iff.mp hscope
    simp [reply, Store.executor, hopen, hname, share]
  | clusterExecutor => cases hscope
  | database | close => cases hwants

theorem reply_of_closed (hclosed : s.store.closed = true) (m : Moment) (applicationId : String)
    {request : StoreRequest} (hwants : request.wantsExecutor = true) :
    s.reply m applicationId request = (s, .error .closed) := by
  cases request with
  | executor database => simp [reply, Store.executor, hclosed, share]
  | clusterExecutor => simp [reply, Store.clusterExecutor, hclosed, share]
  | database | close => cases hwants

namespace Owned

theorem reply (h : s.Owned) (m : Moment) (applicationId : String) (request : StoreRequest) :
    let replied := s.reply m applicationId request
    replied.1.Owned ∧ s.Grows replied.1 ∧
      replied.1.store.closed = (decide (request = .close) || s.store.closed) ∧
      ∀ number, replied.2 = .ok (.executor number) →
        ∃ scope, request.scope? s.store.database = some scope ∧
          replied.1.scopes[number]? = some scope := by
  cases hwants : request.wantsExecutor with
  | false =>
    cases request with
    | executor _ | clusterExecutor => cases hwants
    | database => exact ⟨h, .refl s, rfl, fun number hreply => by cases hreply⟩
    | close =>
      obtain ⟨howned, hgrows, hclosed⟩ := h.close m
      exact ⟨howned, hgrows, hclosed, fun number hreply => by cases hreply⟩
  | true =>
    have hopens : decide (request = .close) = false :=
      decide_eq_false fun hclose => by rw [hclose] at hwants; cases hwants
    rw [hopens, Bool.false_or]
    cases hclosed : s.store.closed with
    | true =>
      rw [reply_of_closed hclosed m applicationId hwants]
      exact ⟨h, .refl s, hclosed, fun number hreply => by cases hreply⟩
    | false =>
      cases hscope : request.scope? s.store.database with
      | none =>
        rw [reply_of_nameless hclosed m applicationId hwants hscope]
        exact ⟨h, .refl s, hclosed, fun number hreply => by cases hreply⟩
      | some scope =>
        obtain ⟨howned, hgrows, hopen, number, hnumber, hhas⟩ := h.share hclosed applicationId scope
        rw [reply_of_scope? hclosed m applicationId hscope]
        refine ⟨howned, hgrows, hopen, fun number' hreply => ⟨scope, rfl, ?_⟩⟩
        cases hnumber.symm.trans hreply
        exact hhas

theorem step (h : s.Owned) (m : Moment) (action : StoreAction α) :
    (s.step m action).1.Owned ∧ s.Grows (s.step m action).1 ∧
      (s.step m action).1.store.closed = (action.closes || s.store.closed) := by
  cases action with
  | act number action =>
    exact ⟨h.act m number action, ⟨rfl, s.scopes_act m number action ▸ List.prefix_rfl⟩, rfl⟩
  | drop => exact h.close m
  | ask request applicationId =>
    obtain ⟨howned, hgrows, hclosed, -⟩ := h.reply m applicationId request
    refine ⟨howned, hgrows, hclosed.trans ?_⟩
    cases request <;> rfl

theorem after (h : s.Owned) (run : StoreRun α) :
    (s.after run).Owned ∧ s.Grows (s.after run) ∧
      (s.after run).store.closed = (run.any (·.2.closes) || s.store.closed) := by
  induction run with
  | nil => exact ⟨h, .refl s, rfl⟩
  | cons event before ih =>
    obtain ⟨m, action⟩ := event
    obtain ⟨howned, hgrows, hclosed⟩ := ih
    obtain ⟨howned', hgrows', hclosed'⟩ := howned.step m action
    refine ⟨howned', hgrows.trans hgrows', hclosed'.trans ?_⟩
    rw [hclosed, List.any_cons, Bool.or_assoc]

/-- What was handed out for a request was made for the scope that the request means. -/
theorem handed (h : s.Owned) {run : StoreRun α} {request : StoreRequest} {number : Nat}
    (hreply : (request, .ok (.executor number)) ∈ s.replies run) :
    ∃ scope, request.scope? s.store.database = some scope ∧
      (s.after run).scopes[number]? = some scope := by
  induction run with
  | nil => cases hreply
  | cons event before ih =>
    obtain ⟨m, action⟩ := event
    obtain ⟨howned, hgrows, -⟩ := h.after before
    have hstays : (request, .ok (.executor number)) ∈ s.replies before →
        ∃ scope, request.scope? s.store.database = some scope ∧
          ((s.after before).step m action).1.scopes[number]? = some scope := by
      intro hold
      obtain ⟨scope, hscope, hhas⟩ := ih hold
      exact ⟨scope, hscope, (howned.step m action).2.1.getElem? hhas⟩
    cases action with
    | act _ _ | drop => exact hstays hreply
    | ask request' applicationId =>
      rcases List.mem_cons.mp hreply with hnow | hold
      · obtain ⟨rfl, hnow⟩ := Prod.mk.inj hnow
        obtain ⟨-, -, -, hscopes⟩ := howned.reply m applicationId request
        obtain ⟨scope, hscope, hhas⟩ := hscopes number hnow.symm
        exact ⟨scope, hgrows.database ▸ hscope, hhas⟩
      · exact hstays hold

end Owned

/-! ## Ownership -/

/-- All requests with one meaning got one executor, which was made for that, and others got
others. -/
structure HandsOut (start : StoreSystem α) (run : StoreRun α) : Prop where
  handed : ∀ request number, (request, .ok (.executor number)) ∈ start.replies run →
    ∃ t, (start.after run).executors[number]? = some t ∧
      request.scope? start.store.database = some t.executor.scope
  same : ∀ request number request' number',
    (request, .ok (.executor number)) ∈ start.replies run →
      (request', .ok (.executor number')) ∈ start.replies run →
        (number = number' ↔
          request.scope? start.store.database = request'.scope? start.store.database)
  database : ∀ m applicationId, (start.after run).reply m applicationId .database =
    (start.after run, .ok (.database start.store.database))

structure IsOpen (s : StoreSystem α) : Prop where
  serves : ∀ m applicationId request scope, request.scope? s.store.database = some scope →
    ∃ number, (s.reply m applicationId request).2 = .ok (.executor number)
  /-- Nothing is made for a request that means no scope. -/
  refuses : ∀ m applicationId request, request.wantsExecutor = true →
    request.scope? s.store.database = none →
      s.reply m applicationId request = (s, .error .noDatabaseName)

structure IsClosed (s : StoreSystem α) : Prop where
  /-- All executors that were made are given up. -/
  disposed : ∀ t ∈ s.executors, t.executor.disposed = true
  refuses : ∀ m applicationId request, request.wantsExecutor = true →
    s.reply m applicationId request = (s, .error .closed)
  /-- To close the store again changes nothing. -/
  rests : ∀ m action, action.closes = true → (s.step m action).1 = s
  /-- Nothing that happens makes another executor. -/
  complete : ∀ m action, (s.step m action).1.scopes = s.scopes

theorem Owned.handsOut (h : s.Owned) (run : StoreRun α) : s.HandsOut run := by
  obtain ⟨howned, hgrows, -⟩ := h.after run
  constructor
  case handed =>
    intro request number hreply
    obtain ⟨scope, hscope, hhas⟩ := h.handed hreply
    rw [scopes, List.getElem?_map] at hhas
    obtain ⟨t, ht, rfl⟩ := Option.map_eq_some_iff.mp hhas
    exact ⟨t, ht, hscope⟩
  case same =>
    intro request number request' number' hreply hreply'
    obtain ⟨scope, hscope, hhas⟩ := h.handed hreply
    obtain ⟨scope', hscope', hhas'⟩ := h.handed hreply'
    obtain ⟨hlt, hget⟩ := List.getElem?_eq_some_iff.mp hhas
    obtain ⟨hlt', hget'⟩ := List.getElem?_eq_some_iff.mp hhas'
    rw [hscope, hscope', Option.some_inj, ← hget, ← hget', howned.distinct.getElem_inj_iff]
  case database =>
    intro m applicationId
    rw [← hgrows.database]
    rfl

theorem Owned.isOpen (h : s.Owned) (hopen : s.store.closed = false) : s.IsOpen where
  serves m applicationId request scope hscope := by
    rw [reply_of_scope? hopen m applicationId hscope]
    obtain ⟨-, -, -, number, hnumber, -⟩ := h.share hopen applicationId scope
    exact ⟨number, hnumber⟩
  refuses m applicationId _ hwants hscope := reply_of_nameless hopen m applicationId hwants hscope

theorem Owned.isClosed (h : s.Owned) (hclosed : s.store.closed = true) : s.IsClosed where
  disposed := h.disposed hclosed
  refuses m applicationId _ hwants := reply_of_closed hclosed m applicationId hwants
  rests m action hcloses := by
    cases action with
    | act _ _ => cases hcloses
    | drop => exact h.close_eq hclosed m
    | ask request applicationId =>
      cases request with
      | executor _ | clusterExecutor | database => cases hcloses
      | close => exact h.close_eq hclosed m
  complete m action := by
    cases action with
    | act number action => exact s.scopes_act m number action
    | drop => exact congrArg scopes (h.close_eq hclosed m)
    | ask request applicationId =>
      cases request with
      | executor named =>
        have hreply : s.reply m applicationId (.executor named) = (s, .error .closed) :=
          reply_of_closed hclosed m applicationId rfl
        exact congrArg (scopes ·.1) hreply
      | clusterExecutor =>
        have hreply : s.reply m applicationId .clusterExecutor = (s, .error .closed) :=
          reply_of_closed hclosed m applicationId rfl
        exact congrArg (scopes ·.1) hreply
      | database => rfl
      | close => exact congrArg scopes (h.close_eq hclosed m)

/-- A store hands out one executor for each scope until it is closed; then it gives up all that it
ever made, and makes no more. -/
theorem owns_executors (seeds : List Url) (database : Option String) (conventions : Conventions)
    (proxy : Option String) (run : StoreRun α) :
    let start : StoreSystem α := new seeds database conventions proxy
    start.HandsOut run ∧
      if run.any (·.2.closes) then (start.after run).IsClosed else (start.after run).IsOpen := by
  intro start
  have hnew : start.Owned := owned_new seeds database conventions proxy
  obtain ⟨howned, -, hclosed⟩ := hnew.after run
  refine ⟨hnew.handsOut run, ?_⟩
  rw [show start.store.closed = false from rfl, Bool.or_false] at hclosed
  split
  · rename_i hcloses
    exact howned.isClosed (hclosed.trans hcloses)
  · rename_i hnever
    exact howned.isOpen (hclosed.trans (Bool.not_eq_true _ ▸ hnever))

/-- The store's own database and its name mean one executor; the cluster has another. -/
example :
    let start : StoreSystem Bytes := new [] (some "Northwind") {} none
    let ask : StoreRequest → Moment × StoreAction Bytes :=
      fun request => (⟨0, Duration.half⟩, .ask request "app")
    let run : StoreRun Bytes := [ask (.executor none), ask .close, ask .clusterExecutor,
      ask (.executor (some "Northwind")), ask (.executor none)]
    (start.replies run).map (·.2) = [.error .closed, .ok .closed, .ok (.executor 1),
      .ok (.executor 0), .ok (.executor 0)] := by
  decide +kernel

end StoreSystem

end ClusterClient
