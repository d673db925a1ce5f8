import ClusterClient.Proofs.Executor.Verdicts
import ClusterClient.Proofs.System.Deeds

/-!
# Health of nodes

Along a run the contacts with nodes are all there is to their marks: a node of
the topology is marked as failed if the last contact that says anything of its
health, since it came into the topology, says that it fails.
-/

namespace ClusterClient

variable {α : Type}

/-- What is last said of a node, if anything is; else what was known before. -/
def Verdicts.last? (said : Verdicts) (key : Node.Key) (known : Option Verdict) : Option Verdict :=
  said.foldl (fun known (k, verdict) => if k = key then some verdict else known) known

/-! ## Marks -/

namespace Selector

variable {s : Selector} {key : Node.Key} {known : Option Verdict}

/-- The mark of a node is what is known of it, as long as it is there. -/
def Shows (s : Selector) (key : Node.Key) (known : Option Verdict) : Prop :=
  key ∈ s.failed ↔ key ∈ s.topology.keys ∧ known = some .failing

theorem Shows.markFailed (h : s.Shows key known) (node : Node) :
    (s.markFailed node).Shows key (if node.key = key then some .failing else known) := by
  unfold Shows at h ⊢
  rw [mem_failed_markFailed, topology_markFailed, h]
  by_cases hkey : node.key = key
  · rw [if_pos hkey, hkey]
    constructor
    · rintro (⟨hmember, -⟩ | ⟨-, hmember⟩) <;> exact ⟨hmember, rfl⟩
    · exact fun hmarked => .inr ⟨rfl, hmarked.1⟩
  · rw [if_neg hkey]
    exact ⟨fun hmarked => hmarked.resolve_right fun hsame => hkey hsame.1.symm, .inl⟩

theorem Shows.restore (h : s.Shows key known) (node : Node) :
    (s.restore node).Shows key (if node.key = key then some .healthy else known) := by
  unfold Shows at h ⊢
  rw [mem_failed_restore, topology_restore, h]
  by_cases hkey : node.key = key
  · rw [if_pos hkey]
    exact ⟨fun hmarked => (hmarked.2 hkey.symm).elim, fun hmarked => by cases hmarked.2⟩
  · rw [if_neg hkey]
    exact ⟨And.left, fun hmarked => ⟨hmarked, fun hsame => hkey hsame.symm⟩⟩

theorem Shows.applyProbes (h : s.Shows key known) (results : List Probe) :
    (results.foldl applyProbe s).Shows key ((Selector.verdicts results).last? key known) := by
  induction results generalizing s known with
  | nil => exact h
  | cons probe results ih =>
    obtain ⟨node, elapsed⟩ := probe
    cases elapsed with
    | some _ => exact ih (h.restore node)
    | none => exact ih (h.markFailed node)

theorem Shows.applySpeedTest (h : s.Shows key known) (etag : Int) (results : List Probe)
    (updateFastest : Bool) :
    (s.applySpeedTest etag results updateFastest).1.Shows key
      ((Selector.verdicts results).last? key known) := by
  have hmarked := h.applyProbes results
  unfold Selector.applySpeedTest
  dsimp only
  split
  · split <;> exact hmarked
  · exact hmarked

theorem Shows.update (h : s.Shows key known) (incoming : Topology) :
    (s.update incoming).1.Shows key (if key ∈ s.topology.keys then known else none) := by
  unfold Shows at h ⊢
  unfold Selector.update
  split
  · have hkept : key ∈ s.failed.filter (fun k => incoming.nodes.any (·.key == k)) ↔
        key ∈ s.failed ∧ key ∈ incoming.keys := by
      simp [Topology.keys]
    dsimp only
    rw [hkept, h]
    split
    · rename_i hmember
      exact ⟨fun hmarked => ⟨hmarked.2, hmarked.1.2⟩,
        fun hmarked => ⟨⟨hmember, hmarked.2⟩, hmarked.1⟩⟩
    · rename_i hmember
      exact ⟨fun hmarked => (hmember hmarked.1.1).elim, fun hmarked => by cases hmarked.2⟩
  · dsimp only
    rw [h]
    exact and_congr_right fun hmember => by rw [if_pos hmember]

theorem Shows.of_member (h : s.Shows key known) {t : Topology} (hsame : s.topology = t) :
    s.Shows key (if key ∈ t.keys then known else none) := by
  subst hsame
  unfold Shows at h ⊢
  rw [h]
  exact and_congr_right fun hmember => by rw [if_pos hmember]

end Selector

/-- Every deed leaves the marks as it says. -/
theorem Standing.shows_after {s : Standing} {key : Node.Key} {known : Option Verdict}
    (h : s.selector.Shows key known) (d : Deed) :
    (s.after d).selector.Shows key
      (if key ∈ s.selector.topology.keys then d.verdicts.last? key known else none) := by
  cases d with
  | nothing => exact h.of_member rfl
  | learned topology => exact h.update topology
  | served node => exact (h.restore node).of_member rfl
  | failed node exhausted =>
      exact (h.markFailed node).of_member (s.selector.topology_markFailed node)
  | tested etag results updateFastest =>
    exact (h.applySpeedTest etag results updateFastest).of_member
      (s.selector.topology_applySpeedTest etag results updateFastest)

/-- What a contact says of the health of its node, if only what was sent counts. -/
def Contact.verdictIfSent? (c : Contact) : Option Verdict :=
  if c.finish = .unsent then none else c.verdict?

namespace System

variable {s : System α} {m : Moment} {action : Action α} {caller : Caller}
  {found : Caller → List Finding}

/-! ## Contacts of a system -/

def foundAfter (s : System α) (action : Action α) (found : Caller → List Finding) (c : Caller) :
    List Finding :=
  match s.opening? action with
  | some (caller, x, order) => if c = caller then x.foundAtFirst order else found c
  | none =>
    match action with
    | .signal caller signal =>
      if c = caller then
        ((s.call? caller).map (·.found s.executor.cache signal (found caller))).getD []
      else found c
    | .begin _ _ | .attend | .tick _ | .abandon _ | .dispose => found c

def contacts (s : System α) (action : Action α) (found : Caller → List Finding) : List Contact :=
  match s.opening? action with
  | some (_, x, order) => Finding.conclude (x.foundAtFirst order)
  | none =>
    match action with
    | .signal caller signal =>
      ((s.call? caller).map (·.contacts s.executor.cache signal (found caller))).getD []
    | .begin _ _ | .attend | .tick _ | .abandon _ | .dispose => []

def findings (s : System α) : Run α → Caller → List Finding
  | [] => fun _ => []
  | (_, action) :: before => (s.after before).foundAfter action (s.findings before)

/-- What was last said of a node since it came into the topology, if anything was. -/
def lastVerdict? (judge : Contact → Option Verdict) (s : System α) (key : Node.Key) :
    Run α → Option Verdict
  | [] => none
  | (_, action) :: before =>
    if key ∈ (s.after before).executor.topology.keys then
      (Contact.verdicts judge ((s.after before).contacts action (s.findings before))).last? key
        (s.lastVerdict? judge key before)
    else none

/-- Every call is where it is known to be. -/
def Agrees (s : System α) (found : Caller → List Finding) : Prop :=
  ∀ c call, s.call? c = some call → call.Agrees (found c)

theorem foundAfter_of_ne {c : Caller} (h : s.actor? action ≠ some c) :
    s.foundAfter action found c = found c := by
  unfold actor? at h
  unfold foundAfter
  cases hopening : s.opening? action with
  | some opening =>
    rw [hopening] at h
    exact if_neg fun hc => h (congrArg some hc.symm)
  | none =>
    rw [hopening] at h
    cases action with
    | signal caller signal => exact if_neg fun hc => h (congrArg some hc.symm)
    | begin _ _ | attend | tick _ | abandon _ | dispose => rfl

theorem Agrees.step (h : s.Agrees found) (m : Moment) (action : Action α) :
    (s.step m action).1.Agrees (s.foundAfter action found) := by
  intro c call hcall
  rcases call?_step hcall with ⟨hother, hsame⟩ | ⟨x, order, hopening, -, hwaiting⟩ |
    ⟨old, signal, rfl, hold, -, hwaiting⟩
  · rw [foundAfter_of_ne hother]
    exact h c call hsame
  · have hfound : s.foundAfter action found c = x.foundAtFirst order := by
      simp [foundAfter, hopening]
    rw [hfound]
    exact x.agrees_begin m order call hwaiting
  · have hfound : s.foundAfter (.signal c signal) found c =
        old.found s.executor.cache signal (found c) := by
      simp [foundAfter, opening?, hold]
    rw [hfound]
    exact s.executor.agrees_advance m signal (h c old hold) call hwaiting

theorem verdicts_deed (h : s.Agrees found) (m : Moment) (action : Action α) :
    (s.deed m action).verdicts = Contact.verdicts Contact.verdict? (s.contacts action found) := by
  unfold deed contacts
  cases s.opening? action with
  | some opening =>
    obtain ⟨caller, x, order⟩ := opening
    exact x.verdicts_orderDeed m.now order
  | none =>
    cases action with
    | begin _ _ | attend | tick _ | abandon _ | dispose => rfl
    | signal caller signal =>
      dsimp only
      cases hcall : s.call? caller with
      | none => rfl
      | some call => exact s.executor.verdicts_callDeed signal m.now (h caller call hcall)

theorem agrees_after (h : s.Agrees fun _ => []) (run : Run α) :
    (s.after run).Agrees (s.findings run) := by
  induction run with
  | nil => exact h
  | cons event before ih => exact ih.step event.1 event.2

theorem shows_after {key : Node.Key} (h : s.Agrees fun _ => [])
    (hunmarked : s.executor.selector.failed = []) (run : Run α) :
    (s.after run).executor.selector.Shows key (s.lastVerdict? Contact.verdict? key run) := by
  induction run with
  | nil =>
    unfold after Selector.Shows
    rw [hunmarked]
    exact ⟨fun hmarked => (by cases hmarked), fun hmarked => (by cases hmarked.2)⟩
  | cons event before ih =>
    obtain ⟨m, action⟩ := event
    have hstanding := congrArg Standing.selector ((s.after before).standing_step m action)
    have hshown := Standing.shows_after (s := (s.after before).executor.standing) ih
      ((s.after before).deed m action)
    rw [verdicts_deed (agrees_after h before), ← hstanding] at hshown
    exact hshown

/-- The history of contacts decides which nodes are marked: no node that is not in the topology, and
of the others those that fail according to the last contact that says anything of them. -/
theorem marked_new_iff (scope : Scope) (applicationId : String) (seeds : List Url)
    (conventions : Conventions) (proxy : Option String) (run : Run α) (key : Node.Key) :
    let start : System α := new scope applicationId seeds conventions proxy
    let x := (start.after run).executor
    key ∈ x.selector.failed ↔
      key ∈ x.topology.keys ∧ start.lastVerdict? Contact.verdict? key run = some .failing := by
  intro start x
  obtain ⟨mailbox, hnew⟩ := executor_new (α := α) scope applicationId seeds conventions proxy
  have hidle : start.Agrees fun _ => [] := fun c call hcall => by cases hcall
  have hunmarked : start.executor.selector.failed = [] := by rw [hnew]
  exact shows_after hidle hunmarked run

/-- A node that failed an attempt answers a probe with a refusal, and is well once the speed test is
over, which marks the other node. -/
example :
    let host := fun name => ⟨"http", some ⟨"", "", .name name, some 8080⟩, "/", none, none⟩
    let start : System Bytes :=
      System.new (.database "db") "app" [host "a", host "b"] { disableTopologyUpdates := true } none
    let order : Order Bytes := .execute
      { request := fun node => .ok (.get node.url), parse := fun body _ => .ok body,
        isRead := true } {}
    let m : Moment := ⟨0, Duration.half⟩
    let answered : Run Bytes := [(m, .signal (.outside 2) (.body 1 (.ok []))),
      (m, .signal (.outside 2) (.head 1 (.ok { status := 401 }))), (m, .begin 2 .speedTest),
      (m, .signal (.outside 1) (.head 0 (.error .broken))), (m, .begin 1 order)]
    let finished : Run Bytes := (m, .signal (.outside 2) (.head 2 (.error .timedOut))) :: answered
    let verdicts := fun run => ["a", "b"].map fun name =>
      start.lastVerdict? Contact.verdict? (host name, "db") run
    verdicts answered = [some .failing, none] ∧
      verdicts finished = [some .healthy, some .failing] := by
  decide +kernel

/-- A node whose url is no base for the path of a probe is marked by a speed test, though no contact
with it says anything if no request was sent. -/
theorem marked_new_unsent :
    let url : Url := ⟨"mailto", none, "a", none, none⟩
    let start : System Bytes :=
      System.new (.database "db") "app" [url] { disableTopologyUpdates := true } none
    let run : Run Bytes := [(⟨0, Duration.half⟩, .begin 1 .speedTest)]
    let x := (start.after run).executor
    let key : Node.Key := (url, "db")
    ¬(key ∈ x.selector.failed ↔
      key ∈ x.topology.keys ∧
        start.lastVerdict? Contact.verdictIfSent? key run = some .failing) := by
  decide +kernel

end System

end ClusterClient
