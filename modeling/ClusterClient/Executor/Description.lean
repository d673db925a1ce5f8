import ClusterClient.Executor.Basic
import ClusterClient.Text.Quoted
/-!
# Descriptions of executors

One line about an executor for people who look into a running program.
-/

namespace ClusterClient.Executor

/-- Named fields in braces after a title. -/
def describeFields (title : String) (fields : List (String × String)) : String :=
  title ++ " \x7b " ++
    ", ".intercalate (fields.map fun (name, value) => name ++ ": " ++ value) ++ " \x7d"

def describeScope : Scope → String
  | .database name => "Database(" ++ Text.quoted name ++ ")"
  | .cluster => "Cluster"

def describe (x : Executor) : String :=
  let inner := describeFields "RequestExecutor"
    [("source", describeScope x.scope), ("topology_etag", toString x.topology.etag),
      ("disposed", toString x.disposed)]
  match x.scope with
  | .database _ => inner
  | .cluster => describeFields "ClusterRequestExecutor" [("executor", inner)]

end ClusterClient.Executor
