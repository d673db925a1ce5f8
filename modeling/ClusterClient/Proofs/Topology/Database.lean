import ClusterClient.Proofs.Selector.Plans
import ClusterClient.Proofs.Topology.Firsts
import ClusterClient.Topology.Database

/-!
# Nodes of a database, each once

A server may leave out the database of a node, and it may list a node more than
once, with its database and without.  The topology that is made of such a list
has each node once, as it was listed first, and so every plan turns to it once.
-/

namespace ClusterClient

theorem Topology.ofNodes_nodes (t : Topology) : ofNodes t.etag t.nodes = t := by
  have hnodes : firstOfEach Node.key t.nodes = t.nodes := firstOfEach_eq_self t.distinct
  unfold ofNodes
  congr 1

theorem Selector.count_plan {s : Selector} {node : Node} (hnode : node ∈ s.topology.nodes)
    (isRead : Bool) (balance : ReadBalance) (session : Option Int) :
    ((s.plan isRead balance session).2.nodes.map Node.key).count node.key = 1 := by
  have hkeys := (s.perm_plan isRead balance session).map Node.key
  rw [hkeys.count_eq]
  exact List.count_eq_one_of_mem s.topology.distinct (List.mem_map_of_mem hnode)

namespace DatabaseTopology

variable {database : String} {node : Node}

theorem fill_of_unnamed (h : node.database = "") : fill database node = { node with database } := by
  simp [fill, h]

theorem fill_of_named (h : node.database ≠ "") : fill database node = node := by
  simp [fill, h]

theorem key_fill_of_unnamed {named : Node} (hnamed : named.database = database)
    (h : node.database = "") (hurl : named.url = node.url) :
    (fill database node).key = (fill database named).key := by
  have hfilled : fill database named = named := by
    subst hnamed
    by_cases hempty : named.database = ""
    · rw [fill_of_unnamed hempty]
    · exact fill_of_named hempty
  rw [fill_of_unnamed h, hfilled, Node.key, Node.key, hnamed, hurl]

/-- What the topology made of a list of nodes has to do with the list, once the databases are filled
in. -/
structure ListsOnce (t : DatabaseTopology) (database : String) (made : Topology) : Prop where
  etag : made.etag = t.etag
  firsts : KeepsFirsts Node.key (t.nodes.map (fill database)) made.nodes
  sublist : made.nodes.Sublist (t.nodes.map (fill database))
  nodup : (made.nodes.map Node.key).Nodup
  listed : ∀ node ∈ t.nodes, ∃! n, n ∈ made.nodes ∧ n.key = (fill database node).key
  planned : ∀ node ∈ t.nodes, ∀ s : Selector, s.topology = made → ∀ isRead balance session,
    ((s.plan isRead balance session).2.nodes.map Node.key).count (fill database node).key = 1

theorem exists_listed (t : DatabaseTopology) (database : String) (hnode : node ∈ t.nodes) :
    ∃ n ∈ (t.toTopology database).nodes, n.key = (fill database node).key :=
  exists_mem_firstOfEach (List.mem_map_of_mem hnode)

theorem listsOnce_toTopology (t : DatabaseTopology) (database : String) :
    t.ListsOnce database (t.toTopology database) where
  etag := rfl
  firsts := keepsFirsts_firstOfEach _ _
  sublist := sublist_firstOfEach _ _
  nodup := nodup_firstOfEach _ _
  listed node hnode := by
    obtain ⟨n, hn, hkey⟩ := t.exists_listed database hnode
    refine ⟨n, ⟨hn, hkey⟩, fun other ⟨hother, hsame⟩ => ?_⟩
    exact Topology.eq_of_key_eq hother hn (hsame.trans hkey.symm)
  planned node hnode s htopology isRead balance session := by
    obtain ⟨n, hn, hkey⟩ := t.exists_listed database hnode
    rw [← hkey]
    exact Selector.count_plan (htopology ▸ hn) isRead balance session

/-- The topology that is made of the nodes listed for a database.  Exactly the nodes that name no
database get this one; of the nodes that are then the same the first one stays, in order, so that
every listed node is there once and every plan turns to it once; and the version stays.  A node that
is listed with the database and without it is one node.  No topology changes when it is made of its
own nodes again. -/
theorem toTopology_lists_once (t : DatabaseTopology) (database : String) :
    (∀ node : Node, (node.database = "" → fill database node = { node with database }) ∧
      (node.database ≠ "" → fill database node = node)) ∧
    t.ListsOnce database (t.toTopology database) ∧
    (∀ named ∈ t.nodes, ∀ unnamed ∈ t.nodes, named.database = database → unnamed.database = "" →
      named.url = unnamed.url →
      ∃! n, n ∈ (t.toTopology database).nodes ∧ n.key = (named.url, database) ∧
        n.key = (fill database named).key ∧ n.key = (fill database unnamed).key) ∧
    ∀ made : Topology, .ofNodes made.etag made.nodes = made := by
  have hlists := t.listsOnce_toTopology database
  refine ⟨fun node => ⟨fill_of_unnamed, fill_of_named⟩, hlists, ?_, Topology.ofNodes_nodes⟩
  intro named hnamed unnamed hunnamed hdatabase hempty hurl
  have hsame := key_fill_of_unnamed hdatabase hempty hurl
  have hkey : (fill database unnamed).key = (named.url, database) := by
    rw [fill_of_unnamed hempty, Node.key, hurl]
  obtain ⟨n, ⟨hn, hlisted⟩, hunique⟩ := hlists.listed unnamed hunnamed
  refine ⟨n, ⟨hn, hlisted.trans hkey, hlisted.trans hsame, hlisted⟩, ?_⟩
  rintro other ⟨hother, -, -, hother'⟩
  exact hunique other ⟨hother, hother'⟩

/-- A node that is listed again with its database keeps the tag and role it was listed with
first. -/
example :
    let url := fun name => (⟨"http", some ⟨"", "", .name name, some 8080⟩, "/", none, none⟩ : Url)
    (toTopology ⟨12, [⟨url "a", "", "A", .member⟩, ⟨url "b", "db", "B", .rehab⟩,
      ⟨url "a", "db", "C", .none⟩]⟩ "db").nodes =
      [⟨url "a", "db", "A", .member⟩, ⟨url "b", "db", "B", .rehab⟩] := by
  decide

end DatabaseTopology

end ClusterClient
