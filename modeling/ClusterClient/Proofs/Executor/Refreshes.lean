import ClusterClient.Proofs.Executor.Sweeps
import ClusterClient.Proofs.Executor.Wishes
import ClusterClient.Proofs.Selector.Plans
import ClusterClient.Proofs.Topology.Firsts

/-!
# Refreshing the topology

A refresh asks the healthy nodes of the topology, then its failed ones, then the
nodes the executor was made with.  The first topology in an answer ends it, and
whatever else comes of a node only makes it go on.  Others may be at work on the
executor meanwhile, as long as nobody else refreshes.
-/

namespace ClusterClient

/-! ## The nodes that are asked -/

namespace Executor

end Executor

/-! ## What comes of a node -/

def Response.topology? (response : Response) (command : Command Topology) : Option Topology :=
  match response.head with
  | .error _ => none
  | .ok head =>
    if 200 ≤ head.status ∧ head.status < 300 then
      response.body.toOption.bind fun body => (command.parse body false).toOption
    else none

namespace Executor

end Executor

/-! ## A refresh among others -/

/-- What surrounds a caller that refreshes: what each node answers, what others make of the executor
before each step of the caller, and when that step is taken. Steps are counted from zero, the one
that begins the refresh left out. -/
structure Company where
  answer : Node → Response
  others : Nat → Executor → Executor
  now : Nat → Instant
  /-- Nobody else has part in a sweep; what is not done for one leaves this alone. -/
  knowledge_others : ∀ n x, (others n x).knowledge = x.knowledge

/-- A step of the caller itself: the executor as others left it, and as the step leaves it. -/
structure OwnStep where
  before : Executor
  after : Executor

namespace OwnStep

def sent (t : OwnStep) : List Dispatch :=
  (t.after.sent.take (t.after.sent.length - t.before.sent.length)).reverse

/-- A step changes the topology to the one that was fetched, if at all, and takes marks from nodes
that are not in it, but no other marks. -/
def Spares (t : OwnStep) (fetched : Option Topology) : Prop :=
  (t.after.topology = t.before.topology ∨ fetched = some t.after.topology) ∧
    ∀ key, key ∈ t.after.selector.failed ↔ key ∈ t.before.selector.failed ∧
      (key ∈ t.after.topology.keys ∨ t.after.topology = t.before.topology)

theorem spares_of_selector_eq {t : OwnStep} (h : t.after.selector = t.before.selector)
    (fetched : Option Topology) : t.Spares fetched := by
  have htopology : t.after.topology = t.before.topology := congrArg Selector.topology h
  exact ⟨.inl htopology, fun key => by rw [h]; simp [htopology]⟩

def allSent (steps : List OwnStep) : List Dispatch := steps.flatMap sent

end OwnStep

namespace Company

def signal? (c : Company) (u : Update) : Option Signal :=
  match u.refresh with
  | .queued _ _ => none
  | .sweeping sweep =>
    let response := c.answer sweep.flight.exchange.node
    match sweep.flight.head with
    | none => some (.head sweep.flight.ticket response.head)
    | some _ => some (.body sweep.flight.ticket response.body)

/-- How a refresh goes on that got this far, with so many steps behind it: the steps that the caller
takes, the executor after the last one, and what the caller gets. -/
inductive Goes (c : Company) : Nat → Executor × Progress Update (Except ExecutorError Bool) →
    List OwnStep → Executor → Except ExecutorError Bool → Prop where
  | done (n : Nat) (y : Executor) (r : Except ExecutorError Bool) : Goes c n (y, .done r) [] y r
  | step {n : Nat} {x y : Executor} {u : Update} {signal : Signal} {steps : List OwnStep}
      {r : Except ExecutorError Bool} (hsignal : c.signal? u = some signal)
      (hrest : Goes c (n + 1) ((c.others n x).advanceUpdate u signal (c.now n)) steps y r) :
    Goes c n (x, .waiting u)
      (⟨c.others n x, ((c.others n x).advanceUpdate u signal (c.now n)).1⟩ :: steps) y r

/-- A refresh goes on in one way at most. -/
theorem Goes.unique {c : Company} {n : Nat}
    {next : Executor × Progress Update (Except ExecutorError Bool)} {steps steps' : List OwnStep}
    {y y' : Executor} {r r' : Except ExecutorError Bool} (h : c.Goes n next steps y r)
    (h' : c.Goes n next steps' y' r') : steps' = steps ∧ y' = y ∧ r' = r := by
  induction h generalizing steps' with
  | done =>
    cases h'
    exact ⟨rfl, rfl, rfl⟩
  | step hsignal _ ih =>
    cases h' with
    | step hsignal' hrest' =>
      cases hsignal.symm.trans hsignal'
      obtain ⟨rfl, rfl, rfl⟩ := ih hrest'
      exact ⟨rfl, rfl, rfl⟩

end Company

/-! ## How a sweep goes -/

/-- How a sweep goes through nodes: those that were sent a request, and what it comes to. -/
inductive Walked (c : Company) (command : Command Topology) :
    List Node → List Node → Except (List NodeFailure) Topology → Prop where
  | exhausted : Walked c command [] [] (.error [])
  | missed {node : Node} {rest asked : List Node} {failure : NodeFailure}
      {outcome : Except (List NodeFailure) Topology} (h : Missed command node failure)
      (hrest : Walked c command rest asked outcome) :
    Walked c command (node :: rest) asked (outcome.mapError (failure :: ·))
  | refused {node : Node} {rest asked : List Node} {outcome : Except (List NodeFailure) Topology}
      (h : (c.answer node).topology? command = none) (reason : FailureReason)
      (hrest : Walked c command rest asked outcome) :
    Walked c command (node :: rest) (node :: asked) (outcome.mapError (⟨node.url, reason⟩ :: ·))
  | answered {node : Node} {topology : Topology} (rest : List Node)
      (h : (c.answer node).topology? command = some topology) :
    Walked c command (node :: rest) [node] (.ok topology)

/-- A sweep that goes on like this from the midst of a step, after these failures and with these
nodes asked before. What is left of that step is the first of the steps. -/
structure GoesThrough (c : Company) (command : Command Topology) (failures : List NodeFailure)
    (nodes asked : List Node) (sweeps : Nat) (steps : List OwnStep) (y : Executor)
    (r : Except ExecutorError Bool) : Prop where
  walk : ∃ outcome, Walked c command nodes (asked ++ (OwnStep.allSent steps).map (·.node)) outcome ∧
    r = sweepResult (outcome.mapError (failures ++ ·)) ∧ ∀ t ∈ steps, t.Spares outcome.toOption
  purpose : ∀ d ∈ OwnStep.allSent steps, d.purpose = .topology
  sweeps : y.sweeps = sweeps + 1
  lock : y.lockHeld = false

namespace GoesThrough

variable {c : Company} {command : Command Topology} {failures : List NodeFailure}
  {nodes asked : List Node} {sweeps : Nat} {steps : List OwnStep} {x x' y z : Executor}
  {r : Except ExecutorError Bool}

theorem cons (sent : List Dispatch) (hsent : OwnStep.sent ⟨x, z⟩ = sent)
    (hpurpose : ∀ d ∈ sent, d.purpose = .topology) (hselector : z.selector = x.selector)
    (h : GoesThrough c command failures nodes (asked ++ sent.map (·.node)) sweeps steps y r) :
    GoesThrough c command failures nodes asked sweeps (⟨x, z⟩ :: steps) y r := by
  have hall : OwnStep.allSent (⟨x, z⟩ :: steps) = sent ++ OwnStep.allSent steps := by
    rw [OwnStep.allSent, List.flatMap_cons, hsent]
    rfl
  obtain ⟨outcome, hwalked, hresult, hspares⟩ := h.walk
  refine ⟨⟨outcome, ?_, hresult, ?_⟩, ?_, h.sweeps, h.lock⟩
  · rw [hall, List.map_append, ← List.append_assoc]
    exact hwalked
  · exact List.forall_mem_cons.mpr ⟨OwnStep.spares_of_selector_eq hselector _, hspares⟩
  · rw [hall]
    exact List.forall_mem_append.mpr ⟨hpurpose, h.purpose⟩

end GoesThrough

namespace Executor

def sweepNext (step : Executor × Progress Sweep (Except ExecutorError Bool)) :
    Executor × Progress Update (Except ExecutorError Bool) :=
  updateOf false (step.1, step.2.mapState .sweeping)

/-- Whether a sweep can be carried through from here, by a step that got this far. -/
def GoesOn (c : Company) (n : Nat) (command : Command Topology) (failures : List NodeFailure)
    (nodes asked : List Node) (x : Executor)
    (next : Executor × Progress Sweep (Except ExecutorError Bool)) : Prop :=
  ∃ steps y r, c.Goes n (sweepNext next) steps y r ∧
    GoesThrough c command failures nodes asked x.sweeps (⟨x, next.1⟩ :: steps) y r

variable {c : Company} {command : Command Topology} {failures : List NodeFailure}
  {rest : List Node} {node : Node} {flight : Flight Topology} {x : Executor} {n : Nat}

theorem GoesOn.cons {failure : NodeFailure} {asked : List Node}
    {next : Executor × Progress Sweep (Except ExecutorError Bool)}
    (hwalked : ∀ {others : List Node} {outcome : Except (List NodeFailure) Topology},
      Walked c command rest others outcome →
        Walked c command (node :: rest) (asked ++ others) (outcome.mapError (failure :: ·)))
    (h : x.GoesOn c n command (failures ++ [failure]) rest [] next) :
    x.GoesOn c n command failures (node :: rest) asked next := by
  obtain ⟨steps, y, r, hgoes, ⟨outcome, hrest, hresult, hspares⟩, hpurpose, hsweeps, hlock⟩ := h
  refine ⟨steps, y, r, hgoes, ⟨_, hwalked hrest, ?_, ?_⟩, hpurpose, hsweeps, hlock⟩
  · rw [hresult]
    cases outcome <;> simp [Except.mapError]
  · cases outcome <;> exact hspares

end Executor

/-! ## The contract -/

/-- A sweep went through these nodes without success. The failures are theirs, one for each and in
order. Some were sent a request, in order too, and had no topology in their answers; there was no
way to ask the others. -/
structure InVain (c : Company) (command : Command Topology) (nodes asked : List Node)
    (failures : List NodeFailure) : Prop where
  order : asked.Sublist nodes
  urls : failures.map (·.url) = nodes.map (·.url)
  refused : ∀ node ∈ asked, (c.answer node).topology? command = none
  missed : ∀ node ∈ nodes, node ∉ asked → ∃ failure ∈ failures, Missed command node failure

/-- What a sweep over these nodes comes to: all are in vain, or one of them has the topology and
those before it are in vain. -/
def Settles (c : Company) (command : Command Topology) (nodes asked : List Node) :
    Except (List NodeFailure) Topology → Prop
  | .error failures => InVain c command nodes asked failures
  | .ok topology => ∃ tried node untried before failures, nodes = tried ++ node :: untried ∧
      asked = before ++ [node] ∧ InVain c command tried before failures ∧
      (c.answer node).topology? command = some topology

section Settles

variable {c : Company} {command : Command Topology} {node : Node} {nodes asked : List Node}
  {failure : NodeFailure} {failures : List NodeFailure}
  {outcome : Except (List NodeFailure) Topology}

theorem InVain.cons_missed (hmissed : Missed command node failure)
    (h : InVain c command nodes asked failures) :
    InVain c command (node :: nodes) asked (failure :: failures) where
  order := h.order.cons node
  urls := by
    have hurl : failure.url = node.url := by
      rcases hmissed with rfl | ⟨cause, -, rfl⟩ <;> rfl
    rw [List.map_cons, List.map_cons, h.urls, hurl]
  refused := h.refused
  missed other hother hnot := by
    rcases List.mem_cons.mp hother with rfl | hother
    · exact ⟨failure, List.mem_cons_self, hmissed⟩
    · obtain ⟨f, hf, hmissed⟩ := h.missed other hother hnot
      exact ⟨f, List.mem_cons_of_mem failure hf, hmissed⟩

theorem InVain.cons_refused (hrefused : (c.answer node).topology? command = none)
    (reason : FailureReason) (h : InVain c command nodes asked failures) :
    InVain c command (node :: nodes) (node :: asked) (⟨node.url, reason⟩ :: failures) where
  order := h.order.cons_cons node
  urls := by rw [List.map_cons, List.map_cons, h.urls]
  refused := List.forall_mem_cons.mpr ⟨hrefused, h.refused⟩
  missed other hother hnot := by
    obtain ⟨hne, hnot⟩ := not_or.mp (mt List.mem_cons.mpr hnot)
    obtain ⟨f, hf, hmissed⟩ := h.missed other ((List.mem_cons.mp hother).resolve_left hne) hnot
    exact ⟨f, List.mem_cons_of_mem _ hf, hmissed⟩

/-- What comes of the other nodes is not changed by one that is in vain before them. -/
theorem Settles.cons (front : List Node)
    (hvain : ∀ {nodes asked : List Node} {failures : List NodeFailure},
      InVain c command nodes asked failures →
        InVain c command (node :: nodes) (front ++ asked) (failure :: failures))
    (h : Settles c command nodes asked outcome) :
    Settles c command (node :: nodes) (front ++ asked) (outcome.mapError (failure :: ·)) := by
  cases outcome with
  | error failures => exact hvain h
  | ok topology =>
    obtain ⟨tried, other, untried, before, failures, rfl, rfl, htried, htopology⟩ := h
    exact ⟨node :: tried, other, untried, front ++ before, failure :: failures, rfl,
      (List.append_assoc front before [other]).symm, hvain htried, htopology⟩

theorem Walked.settles (h : Walked c command nodes asked outcome) :
    Settles c command nodes asked outcome := by
  induction h with
  | exhausted => exact ⟨.slnil, rfl, by simp, by simp⟩
  | missed hmissed _ ih => exact Settles.cons [] (.cons_missed hmissed) ih
  | @refused node _ _ _ hrefused reason _ ih =>
    exact Settles.cons [node] (.cons_refused hrefused reason) ih
  | @answered node topology rest htopology =>
    exact ⟨[], node, rest, [], [], rfl, rfl, ⟨.slnil, rfl, by simp, by simp⟩, htopology⟩

end Settles

namespace Executor

end Executor

end ClusterClient
