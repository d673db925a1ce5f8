import ClusterClient.Command.Basic
import ClusterClient.Url.Form
/-!
# Commands on documents

Reading documents, one or a page of them, and storing one.
-/

namespace ClusterClient.Command

def documentsPath (database : String) : String := "databases/" ++ database ++ "/docs"

structure DocumentQuery where
  database : String
  id : Option String := none
  pageSize : Option Int := none
  start : Option Int := none
  nodeTag : Option String := none
  aggressiveCacheDuration : Option Duration := none
  deriving DecidableEq, Repr

/-- The parameters that were set, in a fixed order. -/
def DocumentQuery.parameters (q : DocumentQuery) : List (String × String) :=
  (q.id.map (("id", ·))).toList
    ++ (q.pageSize.map fun n => ("pageSize", toString n)).toList
    ++ (q.start.map fun n => ("start", toString n)).toList

def getDocuments (q : DocumentQuery) : Command Json where
  request node := do
    let url ← endpoint node (documentsPath q.database)
    pure (.get (url.addParameters q.parameters).dropEmptyQuery)
  parse body _ := readJson Json.Tree.document? body
  isRead := true
  aggressiveCacheDuration := q.aggressiveCacheDuration
  nodeTag := q.nodeTag

def putDocument (database id : String) (document : Json) : Command Json where
  request node := do
    let url ← endpoint node (documentsPath database)
    pure ({ method := "PUT", url := url.addParameters [("id", id)] : Request }.withJson document)
  parse body _ := readJson Json.Tree.document? body
  isRead := false

end ClusterClient.Command
