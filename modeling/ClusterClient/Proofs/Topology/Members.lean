import ClusterClient.Topology.Basic
import Mathlib.Data.List.Nodup

/-!
# Members of a topology

Nodes are told apart by their keys, and no key occurs twice in a topology.  A
place and a key therefore determine each other.
-/

namespace ClusterClient

theorem firstOfEach_map {α β κ ι : Type} [BEq κ] [LawfulBEq κ] [BEq ι] [LawfulBEq ι] {f : α → β}
    {key : β → κ} {key' : α → ι} (hkey : ∀ a b, key (f a) = key (f b) ↔ key' a = key' b)
    (l : List α) : firstOfEach key (l.map f) = (firstOfEach key' l).map f := by
  induction l with
  | nil => rfl
  | cons a rest ih =>
    rw [List.map_cons, firstOfEach, firstOfEach, ih, List.map_cons, List.filter_map]
    congr 2
    refine List.filter_congr fun b _ => ?_
    rw [Bool.eq_iff_iff]
    simp [hkey]

namespace Topology

def keys (t : Topology) : List Node.Key := t.nodes.map Node.key

theorem nodup_nodes (t : Topology) : t.nodes.Nodup :=
  List.Pairwise.of_map Node.key (fun _ _ hne heq => hne (congrArg Node.key heq)) t.distinct

theorem key_mem_keys {t : Topology} {node : Node} (hnode : node ∈ t.nodes) :
    node.key ∈ t.keys :=
  List.mem_map_of_mem hnode

theorem contains_iff (t : Topology) (node : Node) :
    t.contains node = true ↔ node.key ∈ t.keys := by
  simp [contains, keys, Node.isSame]

theorem eq_of_key_eq {t : Topology} {a b : Node} (ha : a ∈ t.nodes) (hb : b ∈ t.nodes)
    (hkey : a.key = b.key) : a = b :=
  List.inj_on_of_nodup_map t.distinct ha hb hkey

theorem position?_eq_none_iff (t : Topology) (node : Node) :
    t.position? node = none ↔ node.key ∉ t.keys := by
  simp [position?, keys, Node.isSame, List.findIdx?_eq_none_iff]

theorem position?_eq_some_iff (t : Topology) (node : Node) (i : Nat) :
    t.position? node = some i ↔ ∃ n, t.nodes[i]? = some n ∧ n.key = node.key := by
  constructor
  · intro hposition
    obtain ⟨hi, hsame, -⟩ := List.findIdx?_eq_some_iff_getElem.mp hposition
    exact ⟨t.nodes[i], List.getElem?_eq_getElem hi, by simpa [Node.isSame] using hsame⟩
  · rintro ⟨n, hn, hkey⟩
    obtain ⟨hi, rfl⟩ := List.getElem?_eq_some_iff.mp hn
    apply List.findIdx?_eq_some_iff_getElem.mpr
    refine ⟨hi, by simpa [Node.isSame] using hkey, fun j hj => ?_⟩
    have hne : t.nodes[j].key ≠ t.nodes[i].key := by
      intro heq
      have hji : t.nodes[j] = t.nodes[i] :=
        eq_of_key_eq (List.getElem_mem _) (List.getElem_mem _) heq
      exact absurd ((List.getElem_inj t.nodup_nodes).mp hji) (by omega)
    simpa [Node.isSame, ← hkey] using hne

theorem key_position? (t : Topology) (node : Node) :
    ((t.position? node).bind (t.nodes[·]?)).map Node.key =
      if node.key ∈ t.keys then some node.key else none := by
  cases hplace : t.position? node with
  | none =>
    rw [if_neg ((t.position?_eq_none_iff node).mp hplace)]
    rfl
  | some i =>
    obtain ⟨n, hn, hkey⟩ := (t.position?_eq_some_iff node i).mp hplace
    have hmember : node.key ∈ t.keys := hkey ▸ key_mem_keys (List.mem_of_getElem? hn)
    rw [Option.bind_some, hn, Option.map_some, hkey, if_pos hmember]

end Topology

end ClusterClient
