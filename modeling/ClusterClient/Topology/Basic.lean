import ClusterClient.Topology.Node
/-!
# Topologies

A topology is the ordered list of the nodes that serve a database or a cluster, under a version
number. No node occurs twice. Only a greater version replaces a topology.
-/

namespace ClusterClient

/-- The first of each group of elements that have one key, in order. -/
def firstOfEach {α κ : Type} [BEq κ] (key : α → κ) : List α → List α
  | [] => []
  | a :: rest => a :: (firstOfEach key rest).filter fun b => !(key b == key a)

theorem nodup_firstOfEach {α κ : Type} [BEq κ] [LawfulBEq κ] (key : α → κ) (l : List α) :
    ((firstOfEach key l).map key).Nodup := by
  induction l with
  | nil => exact List.Pairwise.nil
  | cons a rest ih =>
    rw [firstOfEach, List.map_cons]
    refine List.Pairwise.cons ?_ (ih.sublist (List.filter_sublist.map key))
    intro k hk
    obtain ⟨b, hb, rfl⟩ := List.mem_map.mp hk
    have hne : ¬key b = key a := by simpa using (List.mem_filter.mp hb).2
    exact fun heq => hne heq.symm

structure Topology where
  etag : Int
  nodes : List Node
  distinct : (nodes.map Node.key).Nodup
  deriving DecidableEq, Repr

namespace Topology

def unknownEtag : Int := -1

def empty : Topology := ⟨unknownEtag, [], List.Pairwise.nil⟩

/-- The topology of these nodes, without nodes that came earlier in the list. -/
def ofNodes (etag : Int) (nodes : List Node) : Topology :=
  ⟨etag, firstOfEach Node.key nodes, nodup_firstOfEach Node.key nodes⟩

def size (t : Topology) : Nat := t.nodes.length

def isEmpty (t : Topology) : Bool := t.nodes.isEmpty

def position? (t : Topology) (node : Node) : Option Nat :=
  t.nodes.findIdx? (·.isSame node)

def contains (t : Topology) (node : Node) : Bool := t.nodes.any (·.isSame node)

def isSupersededBy (t incoming : Topology) : Bool := t.etag < incoming.etag

def isSame (a b : Topology) : Bool :=
  a.etag == b.etag && a.nodes.map Node.key == b.nodes.map Node.key

end Topology

end ClusterClient
