import ClusterClient.Executor.Call
/-!
# Executors at work

An executor with all calls that are under way on it, and the steps that such a system takes. Every
step belongs to one call; between the steps of a call those of others may come in any order.
-/

namespace ClusterClient

inductive Caller where
  /-- The background works off messages, one at a time. -/
  | background
  | outside (number : Nat)
  deriving DecidableEq, Repr

/-- An executor and the calls under way on it, in the order they started. -/
structure System (α : Type) where
  executor : Executor
  calls : List (Caller × Call α) := []

inductive Action (α : Type) where
  | begin (number : Nat) (order : Order α)
  /-- The background turns to its first message. -/
  | attend
  /-- The background turns to what a timer asks for. -/
  | tick (message : Message)
  | signal (caller : Caller) (signal : Signal)
  | abandon (caller : Caller)
  | dispose

abbrev Ended (α : Type) := Option (Caller × Ending α)

namespace System

variable {α : Type}

def call? (s : System α) (caller : Caller) : Option (Call α) := s.calls.lookup caller

def others (caller : Caller) (calls : List (Caller × Call α)) : List (Caller × Call α) :=
  calls.filter (·.1 != caller)

/-- Puts the call of a caller in its place, or at the end if the caller had none. -/
def putCall (caller : Caller) (call : Call α) : List (Caller × Call α) → List (Caller × Call α)
  | [] => [(caller, call)]
  | (c, old) :: rest =>
    if c = caller then (c, call) :: rest else (c, old) :: putCall caller call rest

def isAttending (s : System α) : Bool := (s.call? .background).isSome

/-- What is left of an executor after a call of this caller ended. A time out of range is the end of
the background. -/
def afterEnding (caller : Caller) (ending : Ending α) (x : Executor) : Executor :=
  match caller, ending with
  | .background, .error (.overflow _) => x.deafen
  | _, _ => x

def absorb (s : System α) (caller : Caller) : Executor.Step α → System α × Ended α
  | (x, .waiting call) => ({ executor := x, calls := putCall caller call s.calls }, none)
  | (x, .done ending) =>
    ({ executor := afterEnding caller ending x, calls := others caller s.calls },
      some (caller, ending))

def abandon (s : System α) (caller : Caller) : System α :=
  match s.call? caller with
  | some call => { executor := s.executor.abandon call, calls := others caller s.calls }
  | none => s

def expire (s : System α) (caller : Caller) : System α × Ended α :=
  match s.call? caller with
  | some (.executing c) =>
    match c.options.deadline with
    | some limit => (s.abandon caller, some (caller, .error (.timeout limit)))
    | none => (s, none)
  | _ => (s, none)

/-- The next state of a system, and the call that ended on the way. What cannot happen changes
nothing. -/
def step (s : System α) (m : Moment) : Action α → System α × Ended α
  | .begin number order =>
    if (s.call? (.outside number)).isSome then (s, none)
    else s.absorb (.outside number) (s.executor.begin m order)
  | .attend =>
    match s.isAttending, s.executor.mailbox with
    | false, message :: mailbox =>
      s.absorb .background ({ s.executor with mailbox }.begin m message.order)
    | _, _ => (s, none)
  | .tick message =>
    if s.isAttending || !s.executor.listening then (s, none)
    else s.absorb .background (s.executor.begin m message.order)
  | .signal caller signal =>
    match s.call? caller with
    | some call => s.absorb caller (s.executor.advance m signal call)
    | none => (s, none)
  | .abandon caller => (s.abandon caller, none)
  | .dispose =>
    let s := if s.executor.disposed then s else s.abandon .background
    ({ s with executor := s.executor.dispose }, none)

end System

end ClusterClient
