import ClusterClient.Conventions
import ClusterClient.Executor.Basic
import ClusterClient.Store.Urls
/-!
# Stores

A store hands out one executor for each database and one for the cluster, all on the same urls and
with the same settings. Once it is closed it hands out none, and those it handed out are given up.
-/

namespace ClusterClient

/-- What is found where the client certificate should be. -/
inductive CertificateFile where
  | missing
  | directory
  /-- Something that is no certificate, or a certificate without its key. -/
  | incomplete
  | valid
  deriving DecidableEq, Repr

def CertificateFile.load : CertificateFile → Except CertificateError Unit
  | .missing => .error .unopenable
  | .directory => .error .unreadable
  | .incomplete => .error .malformed
  | .valid => .ok ()

structure StoreSettings where
  urls : List String
  /-- The database that is meant when none is named. -/
  database : Option String := none
  conventions : Conventions := {}
  certificate : Option CertificateFile := none
  proxy : Option String := none

/-- A store. Its executors are numbered in the order they are made. -/
structure Store where
  seeds : List Url
  database : Option String
  conventions : Conventions
  proxy : Option String
  closed : Bool := false
  executors : List (Scope × Nat) := []
  made : Nat := 0

namespace Store

def build (settings : StoreSettings) : Except StoreError Store := do
  let seeds ← validateUrls settings.urls settings.certificate.isSome
  match settings.certificate with
  | some file => file.load.mapError .certificate
  | none => pure ()
  pure
    { seeds, database := settings.database, conventions := settings.conventions,
      proxy := settings.proxy }

/-- The number of the executor for a scope, which is made if there is none. -/
def provide (s : Store) (scope : Scope) : Store × Nat :=
  match s.executors.lookup scope with
  | some number => (s, number)
  | none => ({ s with executors := (scope, s.made) :: s.executors, made := s.made + 1 }, s.made)

/-- Asks for the executor of a database, of the store's own if none is named. -/
def executor (s : Store) (database : Option String) : Except StoreError (Store × Nat) :=
  if s.closed then .error .closed
  else
    match database <|> s.database with
    | some name => .ok (s.provide (.database name))
    | none => .error .noDatabaseName

def clusterExecutor (s : Store) : Except StoreError (Store × Nat) :=
  if s.closed then .error .closed else .ok (s.provide .cluster)

/-- Closes the store. The numbers are those of the executors to give up. -/
def close (s : Store) : Store × List Nat :=
  ({ s with closed := true, executors := [] }, s.executors.map (·.2))

def newExecutor (s : Store) (scope : Scope) (applicationId : String) : Executor :=
  .new scope applicationId s.seeds s.conventions s.proxy

end Store

end ClusterClient
