import ClusterClient.Executor.Execute
import ClusterClient.Proofs.Association
import ClusterClient.Proofs.Text.Order
import ClusterClient.Proofs.Topology.Firsts
import ClusterClient.Topology.Cluster
import Mathlib.Data.List.Nodup
import Mathlib.Data.List.Sort

/-!
# Nodes of a cluster in order

The report of a cluster has four tables, which may overlap and contradict each
other and come in any order.  The topology that is made of it is determined by
what the tables say: each tag counts once, with the first group that has it, the
leader comes first and the others follow by tag, and of nodes with one url the
first one stays.
-/

namespace ClusterClient

namespace Membership

/-! ## The tags -/

theorem mem_insertTag (tag t : String) (tags : List String) :
    t ∈ insertTag tag tags ↔ t = tag ∨ t ∈ tags := by
  fun_induction insertTag tag tags with
  | case1 => exact List.mem_cons
  | case2 => exact List.mem_cons
  | case3 => simp
  | case4 first rest hlt hne ih => rw [List.mem_cons, ih, List.mem_cons, or_left_comm]

theorem sorted_insertTag (tag : String) {tags : List String} (h : tags.Pairwise (· < ·)) :
    (insertTag tag tags).Pairwise (· < ·) := by
  fun_induction insertTag tag tags with
  | case1 => exact List.pairwise_singleton _ _
  | case2 first rest hlt =>
    refine h.cons fun t ht => ?_
    rcases List.mem_cons.mp ht with rfl | ht
    · exact hlt
    · exact lt_trans hlt (List.rel_of_pairwise_cons h ht)
  | case3 => exact h
  | case4 first rest hnlt hne ih =>
    refine (ih h.of_cons).cons fun t ht => ?_
    rcases (mem_insertTag tag t rest).mp ht with rfl | ht
    · exact lt_of_le_of_ne (not_lt.mp hnlt) (Ne.symm hne)
    · exact List.rel_of_pairwise_cons h ht

def Has (m : Membership) (tag : String) : Prop :=
  ∃ url, (tag, url) ∈ m.all ∨ (tag, url) ∈ m.members ∨ (tag, url) ∈ m.promotables ∨
    (tag, url) ∈ m.watchers

theorem mem_tags_iff (m : Membership) (tag : String) : tag ∈ m.tags ↔ m.Has tag := by
  have hfold : ∀ listed tags : List String,
      tag ∈ listed.foldl (fun tags tag => insertTag tag tags) tags ↔ tag ∈ listed ∨ tag ∈ tags := by
    intro listed
    induction listed with
    | nil => simp
    | cons first rest ih =>
      intro tags
      rw [List.foldl_cons, ih, mem_insertTag, List.mem_cons, or_left_comm, or_assoc]
  rw [tags, hfold]
  simp [Has, exists_or]

theorem sorted_tags (m : Membership) : m.tags.Pairwise (· < ·) := by
  have hfold : ∀ listed tags : List String, tags.Pairwise (· < ·) →
      (listed.foldl (fun tags tag => insertTag tag tags) tags).Pairwise (· < ·) := by
    intro listed
    induction listed with
    | nil => exact fun _ h => h
    | cons first rest ih => exact fun tags h => ih _ (sorted_insertTag first h)
  exact hfold _ [] .nil

/-! ## What the tables say -/

/-- No table has a tag twice. -/
structure IsTabular (m : Membership) : Prop where
  all : (m.all.map (·.1)).Nodup
  members : (m.members.map (·.1)).Nodup
  promotables : (m.promotables.map (·.1)).Nodup
  watchers : (m.watchers.map (·.1)).Nodup

theorem nodup_putEntry (key : String) (value : Url) {entries : List (String × Url)}
    (h : (entries.map (·.1)).Nodup) :
    ((Json.Reader.putEntry key value entries).map (·.1)).Nodup := by
  have hkeys : ∀ (k : String) (entries : List (String × Url)),
      k ∈ (Json.Reader.putEntry key value entries).map (·.1) → k = key ∨ k ∈ entries.map (·.1) := by
    intro k entries
    fun_induction Json.Reader.putEntry key value entries with
    | case1 => simp
    | case2 => simp
    | case3 first _ rest _ ih =>
      rw [List.map_cons, List.mem_cons, List.map_cons, List.mem_cons]
      exact fun hk => hk.elim (fun h => .inr (.inl h)) fun h => (ih h).imp_right .inr
  fun_induction Json.Reader.putEntry key value entries with
  | case1 => exact List.nodup_singleton _
  | case2 => exact h
  | case3 first _ rest hne ih =>
    rw [List.map_cons, List.nodup_cons] at h ⊢
    exact ⟨fun hmem => (hkeys first rest hmem).elim hne h.1, ih h.2⟩

theorem nodup_of_entries {tree : Json.Tree} {entries : List (String × Url)}
    (h : Json.Reader.entries .url tree = some entries) : (entries.map (·.1)).Nodup := by
  have hfold : ∀ read entries : List (String × Url), (entries.map (·.1)).Nodup →
      ((read.foldl (fun done (key, value) => Json.Reader.putEntry key value done) entries).map
        (·.1)).Nodup := by
    intro read
    induction read with
    | nil => exact fun _ h => h
    | cons first rest ih => exact fun entries h => ih _ (nodup_putEntry first.1 first.2 h)
  unfold Json.Reader.entries at h
  split at h
  · obtain ⟨read, -, hread⟩ := Option.bind_eq_some_iff.mp h
    cases hread
    exact hfold read [] .nil
  · cases h

/-- What a server sends is read as tables. -/
theorem isTabular_of_read {tree : Json.Tree} {m : Membership}
    (h : Json.Reader.membership tree = some m) : m.IsTabular := by
  have hgroup : ∀ {r : Json.Record} {name : String} {group : List (String × Url)},
      r.defaulted name (.entries .url) [] = some group → (group.map (·.1)).Nodup := by
    intro r name group hgroup
    unfold Json.Record.defaulted at hgroup
    split at hgroup
    · exact nodup_of_entries hgroup
    · cases hgroup
      exact .nil
  unfold Json.Reader.membership at h
  obtain ⟨r, -, h⟩ := Option.bind_eq_some_iff.mp h
  obtain ⟨id, -, h⟩ := Option.bind_eq_some_iff.mp h
  obtain ⟨all, hall, h⟩ := Option.bind_eq_some_iff.mp h
  obtain ⟨members, hmembers, h⟩ := Option.bind_eq_some_iff.mp h
  obtain ⟨promotables, hpromotables, h⟩ := Option.bind_eq_some_iff.mp h
  obtain ⟨watchers, hwatchers, h⟩ := Option.bind_eq_some_iff.mp h
  obtain ⟨lastNodeId, -, h⟩ := Option.bind_eq_some_iff.mp h
  obtain ⟨etag, -, h⟩ := Option.bind_eq_some_iff.mp h
  cases h
  exact ⟨hgroup hall, hgroup hmembers, hgroup hpromotables, hgroup hwatchers⟩

structure Reorders (m m' : Membership) : Prop where
  all : m.all.Perm m'.all
  members : m.members.Perm m'.members
  promotables : m.promotables.Perm m'.promotables
  watchers : m.watchers.Perm m'.watchers
  etag : m.etag = m'.etag

/-- The url and role of a tag by the first group that has it, when the groups are asked in this
order. -/
inductive Gives (m : Membership) (tag : String) : Url → Role → Prop where
  | member {url : Url} (member : (tag, url) ∈ m.members) : Gives m tag url .member
  | promotable {url : Url} (promotable : (tag, url) ∈ m.promotables)
    (noMember : tag ∉ m.members.map (·.1)) : Gives m tag url .promotable
  | watcher {url : Url} (watcher : (tag, url) ∈ m.watchers)
    (noMember : tag ∉ m.members.map (·.1)) (noPromotable : tag ∉ m.promotables.map (·.1)) :
    Gives m tag url .none
  | other {url : Url} (listed : (tag, url) ∈ m.all)
    (noMember : tag ∉ m.members.map (·.1)) (noPromotable : tag ∉ m.promotables.map (·.1))
    (noWatcher : tag ∉ m.watchers.map (·.1)) : Gives m tag url .none

variable {m m' : Membership} {tag : String} {url : Url} {role : Role}

open Association

theorem gives_of_find? (h : m.find? tag = some (url, role)) : m.Gives tag url role := by
  unfold find? at h
  cases hmember : m.members.lookup tag with
  | some _ =>
    rw [hmember] at h
    cases h
    exact .member (mem_of_lookup hmember)
  | none =>
  have hnoMember := lookup_eq_none_iff.mp hmember
  cases hpromotable : m.promotables.lookup tag with
  | some _ =>
    rw [hmember, hpromotable] at h
    cases h
    exact .promotable (mem_of_lookup hpromotable) hnoMember
  | none =>
  have hnoPromotable := lookup_eq_none_iff.mp hpromotable
  cases hwatcher : m.watchers.lookup tag with
  | some _ =>
    rw [hmember, hpromotable, hwatcher] at h
    cases h
    exact .watcher (mem_of_lookup hwatcher) hnoMember hnoPromotable
  | none =>
    cases hall : m.all.lookup tag with
    | some _ =>
      rw [hmember, hpromotable, hwatcher, hall] at h
      cases h
      exact .other (mem_of_lookup hall) hnoMember hnoPromotable (lookup_eq_none_iff.mp hwatcher)
    | none =>
      rw [hmember, hpromotable, hwatcher, hall] at h
      cases h

theorem isSome_find?_of_has (h : m.Has tag) : (m.find? tag).isSome = true := by
  have hlookup : ∀ {group : List (String × Url)} {url : Url}, (tag, url) ∈ group →
      (group.lookup tag).isSome = true := by
    intro group url hmem
    rw [Option.isSome_iff_ne_none, ne_eq, lookup_eq_none_iff, not_not]
    exact List.mem_map_of_mem hmem
  unfold find?
  obtain ⟨url, hall | hmember | hpromotable | hwatcher⟩ := h
  · simp [hlookup hall]
  · simp [hlookup hmember]
  · simp [hlookup hpromotable]
  · simp [hlookup hwatcher]

theorem Reorders.tags_eq (h : m.Reorders m') : m'.tags = m.tags := by
  refine List.Pairwise.eq_of_mem_iff m'.sorted_tags m.sorted_tags fun tag => ?_
  rw [mem_tags_iff, mem_tags_iff, Has, Has]
  simp only [h.all.mem_iff, h.members.mem_iff, h.promotables.mem_iff, h.watchers.mem_iff]

theorem Reorders.find?_eq (h : m.Reorders m') (htables : m.IsTabular) (tag : String) :
    m'.find? tag = m.find? tag := by
  unfold find?
  rw [lookup_perm htables.all h.all, lookup_perm htables.members h.members,
    lookup_perm htables.promotables h.promotables, lookup_perm htables.watchers h.watchers]

end Membership

namespace ClusterTopology

/-! ## The ranking -/

/-- All nodes of a report in order: one for each tag, with the url and role that the tables give
it; the leader first, then the others as the octets of their tags are ordered. -/
structure Ranks (t : ClusterTopology) (ranked : List Node) : Prop where
  tags : ∀ tag, tag ∈ ranked.map Node.tag ↔ t.membership.Has tag
  gives : ∀ node ∈ ranked, t.membership.Gives node.tag node.url node.role ∧ node.database = ""
  order : ranked.Pairwise fun a b => b.tag ≠ t.leader ∧
    (a.tag = t.leader ∨ Bytes.ofString a.tag < Bytes.ofString b.tag)

theorem mem_moveToFront {leader tag : String} {tags : List String} :
    tag ∈ moveToFront leader tags ↔ tag ∈ tags := by
  unfold moveToFront
  split
  · rename_i hleader
    rw [List.contains_iff_mem] at hleader
    rw [List.mem_cons]
    by_cases heq : tag = leader
    · simp [heq, hleader]
    · simp [heq, List.mem_erase_of_ne heq]
  · rfl

theorem order_moveToFront {tags : List String} (leader : String) (h : tags.Pairwise (· < ·)) :
    (moveToFront leader tags).Pairwise fun a b =>
      b ≠ leader ∧ (a = leader ∨ Bytes.ofString a < Bytes.ofString b) := by
  have hsorted : ∀ {rest : List String}, rest.Sublist tags → leader ∉ rest →
      rest.Pairwise fun a b => b ≠ leader ∧ (a = leader ∨ Bytes.ofString a < Bytes.ofString b) := by
    intro rest hrest hleader
    refine (h.sublist hrest).imp_of_mem fun {a b} _ hb hlt => ?_
    exact ⟨fun heq => hleader (heq ▸ hb), .inr ((Bytes.ofString_lt_iff a b).mpr hlt)⟩
  unfold moveToFront
  split
  · have hnodup : tags.Nodup := h.nodup
    have hleader : leader ∉ tags.erase leader := hnodup.not_mem_erase
    exact (hsorted List.erase_sublist hleader).cons fun b hb =>
      ⟨fun heq => hleader (heq ▸ hb), .inl rfl⟩
  · rename_i hleader
    exact hsorted (List.Sublist.refl tags) (by simpa using hleader)

def ranked (t : ClusterTopology) : List Node :=
  (moveToFront t.leader t.membership.tags).filterMap t.node?

theorem eq_of_node? {t : ClusterTopology} {tag : String} {node : Node}
    (h : t.node? tag = some node) :
    node.tag = tag ∧ t.membership.Gives tag node.url node.role ∧ node.database = "" := by
  obtain ⟨⟨url, role⟩, hfind, rfl⟩ := Option.map_eq_some_iff.mp h
  exact ⟨rfl, Membership.gives_of_find? hfind, rfl⟩

theorem ranks_ranked (t : ClusterTopology) : t.Ranks t.ranked where
  tags tag := by
    have hlisted : tag ∈ moveToFront t.leader t.membership.tags ↔ t.membership.Has tag :=
      mem_moveToFront.trans (t.membership.mem_tags_iff tag)
    rw [← hlisted, List.mem_map]
    constructor
    · rintro ⟨node, hnode, rfl⟩
      obtain ⟨tag, htag, hsome⟩ := List.mem_filterMap.mp hnode
      exact (eq_of_node? hsome).1 ▸ htag
    · intro htag
      obtain ⟨given, hgiven⟩ := Option.isSome_iff_exists.mp
        (Membership.isSome_find?_of_has (hlisted.mp htag))
      have hnode : t.node? tag = some ⟨given.1, "", tag, given.2⟩ := by rw [node?, hgiven]; rfl
      exact ⟨_, List.mem_filterMap.mpr ⟨tag, htag, hnode⟩, rfl⟩
  gives node hnode := by
    obtain ⟨tag, -, hsome⟩ := List.mem_filterMap.mp hnode
    obtain ⟨rfl, hgives⟩ := eq_of_node? hsome
    exact hgives
  order := by
    refine List.Pairwise.filterMap t.node? ?_ (order_moveToFront t.leader t.membership.sorted_tags)
    intro a b horder node hnode other hother
    rw [(eq_of_node? hnode).1, (eq_of_node? hother).1]
    exact horder

theorem nodes_toTopology (t : ClusterTopology) :
    t.toTopology.nodes = firstOfEach Node.url t.ranked := by
  refine firstOfEach_congr fun a ha b hb => ?_
  rw [Node.key, Node.key, (t.ranks_ranked.gives a ha).2, (t.ranks_ranked.gives b hb).2]
  simp

theorem Ranks.head?_of_has {t : ClusterTopology} {ranked : List Node} (h : t.Ranks ranked)
    (hleader : t.membership.Has t.leader) :
    ∃ leader, ranked.head? = some leader ∧ leader.tag = t.leader := by
  obtain ⟨leader, hmem, htag⟩ := List.mem_map.mp ((h.tags t.leader).mpr hleader)
  cases ranked with
  | nil => cases hmem
  | cons first rest =>
    rcases List.mem_cons.mp hmem with rfl | hrest
    · exact ⟨leader, rfl, htag⟩
    · exact absurd htag (List.rel_of_pairwise_cons h.order hrest).1

theorem toTopology_reorder {t : ClusterTopology} {m : Membership} (h : t.membership.Reorders m)
    (htables : t.membership.IsTabular) :
    ({ t with membership := m } : ClusterTopology).toTopology = t.toTopology := by
  have hnode : ({ t with membership := m } : ClusterTopology).node? = t.node? := by
    funext tag
    simp only [node?, h.find?_eq htables]
  have hversion : ({ t with membership := m } : ClusterTopology).version = t.version := by
    simp only [version, h.etag]
  unfold toTopology
  rw [hnode, hversion, h.tags_eq]

theorem head?_route_of_write {α : Type} {x : Executor} {command : Command α} {first : Node}
    (hfirst : x.topology.nodes.head? = some first) (htag : command.nodeTag = none)
    (hwrite : command.isRead = false) (session : Option Int) :
    ∃ rest, (x.route command session).2 = .ok (first :: rest) := by
  obtain ⟨rest, hnodes⟩ := List.head?_eq_some_iff.mp hfirst
  have hplan : (x.selector.plan false x.readBalance session).2.nodes = first :: rest := hnodes
  refine ⟨rest, ?_⟩
  simp only [Executor.route, htag, hwrite, hplan]
  rfl

/-- The topology that is made of the report of a cluster.  It does not depend on the order of the
tables; its nodes are the ranking without nodes whose url came earlier, so no url is lost or occurs
twice; a leader that some group has is the first, and every write that is tied to no node begins
there; and its version is that of the report, or that of the membership if the report has none. -/
theorem toTopology_ranked (t : ClusterTopology) (htables : t.membership.IsTabular) :
    (∀ m : Membership, t.membership.Reorders m →
      ({ t with membership := m } : ClusterTopology).toTopology = t.toTopology) ∧
    (∃ ranked, t.Ranks ranked ∧ t.toTopology.nodes = firstOfEach Node.url ranked ∧
      (t.toTopology.nodes.map Node.url).Nodup ∧
      ∀ node ∈ ranked, ∃ kept ∈ t.toTopology.nodes, kept.url = node.url) ∧
    (t.membership.Has t.leader → ∃ leader, leader.tag = t.leader ∧
      t.toTopology.nodes.head? = some leader ∧
      ∀ (α : Type) (x : Executor) (command : Command α) (session : Option Int),
        x.topology = t.toTopology → command.nodeTag = none → command.isRead = false →
        ∃ rest, (x.route command session).2 = .ok (leader :: rest)) ∧
    t.toTopology.etag = if t.etag ≠ 0 then t.etag else t.membership.etag := by
  have hnodes := t.nodes_toTopology
  refine ⟨fun m hreorders => toTopology_reorder hreorders htables,
    ⟨t.ranked, t.ranks_ranked, hnodes, ?_, ?_⟩, fun hleader => ?_, rfl⟩
  · rw [hnodes]
    exact nodup_firstOfEach Node.url t.ranked
  · intro node hnode
    rw [hnodes]
    exact exists_mem_firstOfEach hnode
  · obtain ⟨leader, hhead, htag⟩ := t.ranks_ranked.head?_of_has hleader
    have hfirst : t.toTopology.nodes.head? = some leader := by
      rw [hnodes, head?_firstOfEach, hhead]
    refine ⟨leader, htag, hfirst, fun α x command session htopology hany hwrite => ?_⟩
    exact head?_route_of_write (by rw [htopology, hfirst]) hany hwrite session

/-- The leader is a watcher here and shares its url with a member; another tag has one url as a
member and another one in the table of all. -/
theorem toTopology_ranked_shared_url :
    let url := fun name => (⟨"http", some ⟨"", "", .name name, some 8080⟩, "/", none, none⟩ : Url)
    let t : ClusterTopology :=
      { membership :=
          { all := [("C", url "c"), ("A", url "old")], members := [("B", url "c"), ("A", url "a")]
            watchers := [("C", url "c")], etag := 7 }
        leader := "C" }
    t.membership.IsTabular ∧ t.membership.Has t.leader ∧
      t.toTopology.nodes = [⟨url "c", "", "C", .none⟩, ⟨url "a", "", "A", .member⟩] ∧
      t.toTopology.etag = 7 ∧
      (∀ m : Membership, t.membership.Reorders m →
        ({ t with membership := m } : ClusterTopology).toTopology = t.toTopology) ∧
      ∃ leader, leader.tag = "C" ∧ t.toTopology.nodes.head? = some leader := by
  intro url t
  have htables : t.membership.IsTabular := ⟨by decide, by decide, by decide, by decide⟩
  have hleader : t.membership.Has t.leader := ⟨url "c", by decide⟩
  obtain ⟨hreorder, -, hfirst, hetag⟩ := toTopology_ranked t htables
  obtain ⟨leader, htag, hhead, -⟩ := hfirst hleader
  exact ⟨htables, hleader, by decide, hetag, hreorder, leader, htag, hhead⟩

end ClusterTopology

end ClusterClient
