import ClusterClient.Executor.System
import ClusterClient.Store.Basic
/-!
# Stores at work

A store with the executors that it made, each with the calls under way on it, and the steps that
such a system takes. Handles ask the store for one thing after another; between that, things happen
to its executors.
-/

namespace ClusterClient

inductive StoreRequest where
  | executor (database : Option String)
  | clusterExecutor
  | database
  | close
  deriving DecidableEq, Repr

inductive StoreReply where
  /-- The executor with this number. -/
  | executor (number : Nat)
  | database (name : Option String)
  | closed
  deriving DecidableEq, Repr

/-- A store and its executors, in the order they were made. -/
structure StoreSystem (α : Type) where
  store : Store
  executors : List (System α) := []

inductive StoreAction (α : Type) where
  /-- If an executor is made for the request, servers recognise it by this id. -/
  | ask (request : StoreRequest) (applicationId : String)
  /-- The last handle of the store is gone. -/
  | drop
  | act (number : Nat) (action : Action α)

namespace StoreSystem

variable {α : Type}

def act (s : StoreSystem α) (m : Moment) (number : Nat) (action : Action α) : StoreSystem α :=
  { s with executors := s.executors.modify number fun t => (t.step m action).1 }

/-- Hands out the executor that the store has for a scope, a new one if that was just made. -/
def share (s : StoreSystem α) (applicationId : String) (scope : Scope) :
    Except StoreError (Store × Nat) → StoreSystem α × Except StoreError StoreReply
  | .error e => (s, .error e)
  | .ok (store, number) =>
    match s.executors[number]? with
    | some _ => ({ s with store }, .ok (.executor number))
    | none =>
      let made : System α := { executor := s.store.newExecutor scope applicationId }
      ({ store, executors := s.executors ++ [made] }, .ok (.executor number))

def close (s : StoreSystem α) (m : Moment) : StoreSystem α :=
  let (store, numbers) := s.store.close
  numbers.foldl (fun s number => s.act m number .dispose) { s with store }

def reply (s : StoreSystem α) (m : Moment) (applicationId : String) :
    StoreRequest → StoreSystem α × Except StoreError StoreReply
  | .executor database =>
    let scope := Scope.database ((database <|> s.store.database).getD "")
    s.share applicationId scope (s.store.executor database)
  | .clusterExecutor => s.share applicationId .cluster s.store.clusterExecutor
  | .database => (s, .ok (.database s.store.database))
  | .close => (s.close m, .ok .closed)

/-- The next state, and what the store replied if it was asked. -/
def step (s : StoreSystem α) (m : Moment) :
    StoreAction α → StoreSystem α × Option (Except StoreError StoreReply)
  | .ask request applicationId =>
    let (s, reply) := s.reply m applicationId request
    (s, some reply)
  | .drop => (s.close m, none)
  | .act number action => (s.act m number action, none)

end StoreSystem

end ClusterClient
