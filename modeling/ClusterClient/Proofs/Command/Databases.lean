import ClusterClient.Cache
import ClusterClient.Command.Documents
import ClusterClient.Command.Service
import ClusterClient.Proofs.Topology.Endpoints
import ClusterClient.Proofs.Url.Trails

/-!
# Databases in the urls of requests

The commands that name a database put its name into the path of the url as it is. It stays one
segment that stands for the name exactly if the name has no character that a path gives a meaning
to, none that is dropped, and no escape of its own. Other names lead elsewhere.
-/

namespace ClusterClient

/-- Whether URLs differ in their queries and fragments at most. -/
structure Url.SamePlace (url other : Url) : Prop where
  scheme : url.scheme = other.scheme
  authority : url.authority = other.authority
  path : url.path = other.path

theorem Url.SamePlace.refl (url : Url) : url.SamePlace url := ⟨rfl, rfl, rfl⟩

theorem Url.SamePlace.symm {url other : Url} (h : url.SamePlace other) : other.SamePlace url :=
  ⟨h.scheme.symm, h.authority.symm, h.path.symm⟩

theorem Url.SamePlace.trans {url other third : Url} (h : url.SamePlace other)
    (h' : other.SamePlace third) : url.SamePlace third :=
  ⟨h.scheme.trans h'.scheme, h.authority.trans h'.authority, h.path.trans h'.path⟩

theorem Url.samePlace_addParameters (url : Url) (pairs : List (String × String)) :
    (url.addParameters pairs).SamePlace url := ⟨rfl, rfl, rfl⟩

theorem Url.samePlace_dropEmptyQuery {url other : Url} (h : url.SamePlace other) :
    url.dropEmptyQuery.SamePlace other := by
  rw [dropEmptyQuery]
  split
  · exact ⟨h.scheme, h.authority, h.path⟩
  · exact h

namespace Command

/-! ## Requests that name a database -/

/-- The requests that are made for a database, with the path that follows its name. -/
inductive Names (database : String) : (Node → Except CommandError Request) → List String → Prop
  | getDocuments (q : DocumentQuery) (h : q.database = database) :
    Names database (Command.getDocuments q).request ["docs"]
  | putDocument (id : String) (document : Json) :
    Names database (Command.putDocument database id document).request ["docs"]
  | configuration :
      Names database (Command.configuration database).request ["configuration", "client"]

def reference (database : String) (after : List String) : List Char :=
  "databases/".toList ++ (database.toList ++ '/' :: Node.plainPath after)

theorem ofList_reference (database : String) (after : List String) :
    String.ofList (reference database after)
      = "databases/" ++ database ++ String.ofList ('/' :: Node.plainPath after) := by
  unfold reference
  rw [String.ofList_append, String.ofList_append, String.ofList_toList, String.ofList_toList,
    String.append_assoc]

theorem reference_docs (database : String) :
    String.ofList (reference database ["docs"]) = documentsPath database := by
  have hdocs : '/' :: Node.plainPath ["docs"] = "/docs".toList := by decide
  rw [ofList_reference, hdocs, String.ofList_toList]
  rfl

theorem reference_configuration (database : String) :
    String.ofList (reference database ["configuration", "client"])
      = "databases/" ++ database ++ "/configuration/client" := by
  have hclient : '/' :: Node.plainPath ["configuration", "client"] =
      "/configuration/client".toList := by
    decide
  rw [ofList_reference, hclient, String.ofList_toList]

theorem Names.request_eq {database : String} {request : Node → Except CommandError Request}
    {after : List String} (h : Names database request after) {node : Node} {made : Url}
    (hmade : node.endpoint (String.ofList (reference database after)) = .ok made) :
    ∃ r, request node = .ok r ∧ r.url.SamePlace made := by
  have hendpoint : ∀ path, String.ofList (reference database after) = path →
      endpoint node path = .ok made := by
    rintro path rfl
    rw [endpoint, hmade]
    rfl
  cases h with
  | getDocuments q hq =>
    have hdocs := hendpoint _ (reference_docs database)
    rw [← hq] at hdocs
    refine ⟨.get (made.addParameters q.parameters).dropEmptyQuery, ?_,
      Url.samePlace_dropEmptyQuery (Url.samePlace_addParameters made q.parameters)⟩
    simp only [Command.getDocuments, hdocs]
    rfl
  | putDocument id document =>
    refine ⟨({ method := "PUT", url := made.addParameters [("id", id)] : Request }).withJson
      document,
      ?_, Url.samePlace_addParameters made [("id", id)]⟩
    simp only [Command.putDocument, hendpoint _ (reference_docs database)]
    rfl
  | configuration =>
    refine ⟨.get made, ?_, Url.SamePlace.refl made⟩
    simp only [Command.configuration, hendpoint _ (reference_configuration database)]
    rfl

/-! ## Where they lead -/

variable {node : Node} {base : Url} {directory : List (List Char)} {database : String}
  {after : List String}

theorem reference_cons (database : String) (after : List String) :
    reference database after
      = "databases".toList ++ '/' :: (database.toList ++ '/' :: Node.plainPath after) := by
  have hfront : "databases/".toList = "databases".toList ++ ['/'] := by decide
  unfold reference
  rw [hfront, List.append_assoc, List.singleton_append]

theorem reference_head (database : String) (after : List String) :
    ∃ rest, reference database after = 'd' :: rest := by
  have hfront : "databases".toList = 'd' :: "atabases".toList := by decide
  exact ⟨_, by rw [reference_cons, hfront, List.cons_append]⟩

def followed (database : String) (after : List String) : List (List Char) :=
  Url.Path.parts (Url.splitPath (Url.kept (reference database after))).1

theorem endpoint_reference (h : node.HasDirectory base directory) (database : String)
    (hne : after ≠ []) (hplain : ∀ s ∈ after, Node.IsPlainSegment s) :
    ∃ query fragment, node.endpoint (String.ofList (reference database after))
      = .ok ⟨node.url.scheme, node.url.authority,
          String.ofList (Url.Path.walk directory (followed database after)), query, fragment⟩ := by
  obtain ⟨tail, hhead⟩ := reference_head database after
  have hdrop : (reference database after).dropWhile (· == '/') = reference database after := by
    rw [hhead, List.dropWhile_cons_of_neg (by decide)]
  have hedges : Url.trimmed (String.ofList (reference database after)) =
      reference database after := by
    refine Url.trimmed_ofList (fun c hc => ?_) (fun c hc => ?_)
    · rw [hhead] at hc
      cases hc
      decide
    · obtain ⟨d, ds, hds, -⟩ := Node.plainPath_cons hne hplain
      have hlast : (reference database after).getLast? = (Node.plainPath after).getLast? := by
        rw [reference_cons, hds]
        simp [List.getLast?_append, List.getLast?_cons]
      rw [hlast] at hc
      exact (Node.plainPath_visible hplain c (List.mem_of_getLast? hc)).1
  have hscheme : Url.splitScheme? (reference database after) = none := by
    rw [reference_cons]
    exact Url.splitScheme?_of_slash (List.all_eq_true.mp (by decide))
  have hfirst : (Url.kept (reference database after)).head? = some 'd' := by
    rw [hhead, Url.kept, List.filter_cons_of_pos (by decide)]
    rfl
  have hendpoint := Node.endpoint_eq h hdrop hedges hscheme hfirst (by decide)
  rw [Url.withTail_eq] at hendpoint
  exact ⟨_, _, hendpoint⟩

/-! ## Names that stay one segment -/

/-- Whether a name stands for itself in a path: no character of it ends or divides a path or is
dropped, and no escape is in it. -/
def StandsForItself (database : String) : Prop :=
  (∀ c ∈ database.toList, c ∉ ['/', '\\', '?', '#', '\t', '\n', '\r'])
    ∧ Url.Percent.hasEscape database.toList = false

-- Over the characters of the name, and not over all there are.
instance (database : String) : Decidable (StandsForItself database) :=
  @instDecidableAnd _ _ (List.decidableBAll _ _) inferInstance

/-- Whether a URL is below a node, at one segment for the database and what follows it. -/
structure KeepsDatabase (node : Node) (database : String) (after : List String) (url : Url) :
    Prop where
  scheme : url.scheme = node.url.scheme
  authority : url.authority = node.url.authority
  path : ∃ segment : String, '/' ∉ segment.toList
    ∧ Url.Percent.decode (Bytes.ofString segment) = Bytes.ofString database
    ∧ url.path = node.url.directoryPath ++ "/".intercalate ("databases" :: segment :: after)

def expected (segment : List Char) (after : List String) : List (List Char) :=
  "databases".toList :: segment :: after.map String.toList

theorem isPlainSegment_databases : Node.IsPlainSegment "databases" := by decide

theorem parts_reference (database : String) (hne : after ≠ [])
    (hplain : ∀ s ∈ after, Node.IsPlainSegment s) :
    Url.Path.parts (reference database after)
      = "databases".toList :: (Url.Path.parts database.toList ++ after.map String.toList) := by
  have hafter : Url.Path.parts (Node.plainPath after) = after.map String.toList :=
    Url.Path.parts_intercalate (by simpa using hne) (Node.isSegment_of_plain hplain)
  have hfront : Url.splitWhere Url.Path.separates "databases".toList = ["databases".toList] := by
    decide
  have hwrite : Url.Path.write "databases".toList = "databases".toList :=
    Url.Path.write_of_stands isPlainSegment_databases.isSegment.stands
  have hslash : Url.Path.separates '/' = true := rfl
  rw [← hafter, reference_cons]
  simp only [Url.Path.parts, Url.splitWhere_append_cons hslash, List.map_append, hfront,
    List.map_cons, hwrite, List.singleton_append]

theorem total_plain (hne : after ≠ []) (hplain : ∀ s ∈ after, Node.IsPlainSegment s) :
    Url.Path.total (after.map String.toList) =
      (Bytes.ofChars (Node.plainPath after)).length + 1 := by
  have hsplit : Url.splitWhere Url.Path.separates (Node.plainPath after) =
      after.map String.toList :=
    Url.Path.splitWhere_segments (by simpa using hne) (Node.isSegment_of_plain hplain)
  have hweight : ∀ w ∈ after.map String.toList,
      Url.Path.weight w + 1 = (Bytes.ofChars w).length + 1 := by
    intro w hw
    obtain ⟨s, hs, rfl⟩ := List.mem_map.mp hw
    rw [Url.Path.weight, Url.Percent.decode_eq_self]
    intro b hb
    obtain ⟨c, hc, hb⟩ := List.mem_flatMap.mp hb
    have hplainc := (hplain s hs).2 c hc
    rw [Bytes.utf8EncodeChar_ascii (Node.isPlain_ascii hplainc), List.mem_singleton] at hb
    exact hb ▸ Url.Percent.octet_ne_percent (Node.isPlain_ascii hplainc)
      (Node.isPlain_stands hplainc).2.2.2.2.2.2.2.2
  rw [Url.Path.total, List.map_congr_left hweight, ← hsplit, Url.Path.sum_splitWhere]

theorem length_reference (database : String) (after : List String) :
    (Bytes.ofChars (reference database after)).length
      = 10 + (Bytes.ofString database).length + 1
          + (Bytes.ofChars (Node.plainPath after)).length := by
  have hfront : (Bytes.ofChars "databases".toList).length = 9 := by decide
  rw [reference_cons, Bytes.ofChars_append, Bytes.ofChars_cons_ascii (by decide),
    Bytes.ofChars_append, Bytes.ofChars_cons_ascii (by decide), Bytes.ofChars_toList database]
  simp only [List.length_append, List.length_cons, hfront]
  omega

/-- The path part of a reference is a part of the reference, and all of it only if nothing in the
reference ends the path or is dropped. -/
theorem pathPart_sublist (input : List Char) :
    (Url.splitPath (Url.kept input)).1.Sublist input
      ∧ ((Url.splitPath (Url.kept input)).1 = input →
          ∀ c ∈ input, c ≠ '?' ∧ c ≠ '#' ∧ Url.Path.isBreak c = false) := by
  rw [Url.splitPath, List.span_eq_takeWhile_dropWhile]
  refine ⟨(List.takeWhile_sublist _).trans List.filter_sublist, fun heq c hc => ?_⟩
  rw [← heq] at hc
  have hends := List.all_eq_true.mp List.all_takeWhile c hc
  have hkept := (List.mem_filter.mp ((List.takeWhile_sublist _).subset hc)).2
  simp only [Bool.and_eq_true, bne_iff_ne] at hends
  exact ⟨hends.1, hends.2, by simpa using hkept⟩

theorem total_expected (hne : after ≠ []) (hplain : ∀ s ∈ after, Node.IsPlainSegment s)
    {segment : List Char}
    (hdecode : Url.Percent.decode (Bytes.ofChars segment) = Bytes.ofString database) :
    Url.Path.total (expected segment after)
      = (Bytes.ofChars (reference database after)).length + 1 := by
  have hlength := length_reference database after
  have hfront : Url.Path.weight "databases".toList = 9 := by decide
  have hsegment : Url.Path.weight segment = (Bytes.ofString database).length :=
    congrArg List.length hdecode
  rw [expected, Url.Path.total_cons, Url.Path.total_cons, total_plain hne hplain, hfront, hsegment]
  omega

/-- On a path that keeps the database no octet is lost, so nothing of the reference is left out. -/
theorem followed_of_trail (hne : after ≠ []) (hplain : ∀ s ∈ after, Node.IsPlainSegment s)
    {segment : List Char}
    (hdecode : Url.Percent.decode (Bytes.ofChars segment) = Bytes.ofString database)
    (htrail : Url.Path.trail directory (followed database after)
      = directory ++ expected segment after) :
    followed database after = expected segment after ∧
      (Url.splitPath (Url.kept (reference database after))).1 = reference database after := by
  have hsublist := (pathPart_sublist (reference database after)).1
  have hexpected := total_expected hne hplain hdecode
  have hfollowed : Url.Path.total (followed database after)
      ≤ (Bytes.ofChars (Url.splitPath (Url.kept (reference database after))).1).length + 1 :=
    Url.Path.total_parts_le _
  have hpart := Bytes.length_ofChars_le hsublist
  have hnonempty : followed database after ≠ [] :=
    Url.Path.parts_ne_nil (Url.splitPath (Url.kept (reference database after))).1
  obtain hlost | hall := Url.Path.total_trail directory hnonempty
  · rw [htrail, Url.Path.total_append] at hlost
    omega
  · rw [htrail] at hall
    have heq : followed database after = expected segment after :=
      (List.append_cancel_left hall).symm
    refine ⟨heq, Bytes.eq_of_sublist hsublist ?_⟩
    rw [heq] at hfollowed
    omega

theorem parts_of_followed (hne : after ≠ []) (hplain : ∀ s ∈ after, Node.IsPlainSegment s)
    {segment : List Char} (heq : followed database after = expected segment after)
    (hinput : (Url.splitPath (Url.kept (reference database after))).1 =
      reference database after) : Url.Path.parts database.toList = [segment] := by
  rw [followed, hinput, parts_reference database hne hplain, expected] at heq
  have hrest := (List.cons.inj heq).2
  exact List.append_cancel_right (hrest.trans (List.singleton_append).symm)

theorem written_of_parts {segment : List Char}
    (h : Url.Path.parts database.toList = [segment]) :
    (∀ c ∈ database.toList, Url.Path.separates c = false) ∧
      segment = Url.Path.write database.toList := by
  obtain ⟨part, hpart, hwrite⟩ := List.map_eq_singleton_iff.mp h
  have hnone := Url.of_splitWhere_eq_singleton hpart
  rw [Url.splitWhere_of_none hnone] at hpart
  cases hpart
  exact ⟨hnone, hwrite.symm⟩

theorem hasEscape_of_decode_encode
    (h : Url.Percent.decode (Bytes.ofChars (Url.Percent.encode Url.Percent.path database.toList))
      = Bytes.ofString database) : Url.Percent.hasEscape database.toList = false := by
  have hescape := Url.Percent.length_decode_encode Url.Percent.keepsEscapes_path database.toList
  rw [h, Bytes.ofChars_toList] at hescape
  cases hhas : Url.Percent.hasEscape database.toList with
  | false => rfl
  | true =>
    simp only [hhas, if_true] at hescape
    omega

/-- Nothing is lost or added on a path that keeps the database, so the name stands for itself. -/
theorem standsForItself_of_trail (hne : after ≠ [])
    (hplain : ∀ s ∈ after, Node.IsPlainSegment s) {segment : List Char}
    (hdecode : Url.Percent.decode (Bytes.ofChars segment) = Bytes.ofString database)
    (htrail : Url.Path.trail directory (followed database after)
      = directory ++ expected segment after) :
    StandsForItself database := by
  obtain ⟨heq, hinput⟩ := followed_of_trail hne hplain hdecode htrail
  obtain ⟨hnone, rfl⟩ := written_of_parts (parts_of_followed hne hplain heq hinput)
  have hclear : ∀ c ∈ database.toList, c ≠ '?' ∧ c ≠ '#' ∧ Url.Path.isBreak c = false := by
    refine fun c hc => (pathPart_sublist (reference database after)).2 hinput c ?_
    rw [reference_cons]
    simp [hc]
  have hkept : Url.kept database.toList = database.toList := by
    rw [Url.kept, List.filter_eq_self]
    exact fun c hc => by simp [(hclear c hc).2.2]
  rw [Url.Path.write, hkept] at hdecode
  refine ⟨fun c hc hmem => ?_, hasEscape_of_decode_encode hdecode⟩
  -- That the name is one segment leaves out the slashes, that nothing is dropped all the rest.
  obtain ⟨hquestion, hhash, hbreak⟩ := hclear c hc
  have hseparates := hnone c hc
  simp only [Url.Path.separates, Url.Path.isBreak, Bool.or_eq_false_iff,
    beq_eq_false_iff_ne] at hseparates hbreak
  simp_all

/-! ## Names that do -/

theorem StandsForItself.kept (h : StandsForItself database) :
    Url.kept database.toList = database.toList := by
  rw [Url.kept, List.filter_eq_self]
  intro c hc
  have hmem := h.1 c hc
  simp only [List.mem_cons, List.not_mem_nil, or_false, not_or] at hmem
  simp [Url.Path.isBreak, hmem]

theorem StandsForItself.decode (h : StandsForItself database) :
    Url.Percent.decode (Bytes.ofChars (Url.Path.write database.toList)) =
      Bytes.ofString database := by
  rw [Url.Path.write, h.kept, Url.Percent.decode_encode (by decide) h.2, Bytes.ofChars_toList]

theorem StandsForItself.parts (h : StandsForItself database) :
    Url.Path.parts database.toList = [Url.Path.write database.toList] := by
  rw [Url.Path.parts, Url.splitWhere_of_none, List.map_singleton]
  intro c hc
  have hmem := h.1 c hc
  simp only [List.mem_cons, List.not_mem_nil, or_false, not_or] at hmem
  simp [Url.Path.separates, hmem]

theorem StandsForItself.pathPart (h : StandsForItself database)
    (hplain : ∀ s ∈ after, Node.IsPlainSegment s) :
    (Url.splitPath (Url.kept (reference database after))).1 = reference database after := by
  have hclear : ∀ c ∈ reference database after,
      (!Url.Path.isBreak c) = true ∧ (c != '?' && c != '#') = true := by
    have hfront : ∀ c ∈ "databases".toList,
        (!Url.Path.isBreak c) = true ∧ (c != '?' && c != '#') = true := by
      simp only [← Bool.and_eq_true]
      exact List.all_eq_true.mp (by decide)
    intro c hc
    rw [reference_cons] at hc
    simp only [List.mem_append, List.mem_cons] at hc
    obtain hc | rfl | hc | rfl | hc := hc
    · exact hfront c hc
    · decide
    · have hmem := h.1 c hc
      simp only [List.mem_cons, List.not_mem_nil, or_false, not_or] at hmem
      simp [Url.Path.isBreak, hmem]
    · decide
    · obtain ⟨hvisible, hquestion, hhash, -⟩ := Node.plainPath_visible hplain c hc
      have hkept :=
        Url.kept_of_visible (fun d hd => by rw [List.mem_singleton.mp hd]; exact hvisible)
      rw [Url.kept, List.filter_eq_self] at hkept
      exact ⟨hkept c List.mem_cons_self, by simp [hquestion, hhash]⟩
  have hkept : Url.kept (reference database after) = reference database after := by
    rw [Url.kept, List.filter_eq_self]
    exact fun c hc => (hclear c hc).1
  rw [hkept, Url.splitPath, Url.span_of_all fun c hc => (hclear c hc).2]

theorem StandsForItself.walk (h : StandsForItself database) (hdot : database ≠ ".")
    (hdots : database ≠ "..") (hafter : after ≠ []) (hplain : ∀ s ∈ after, Node.IsPlainSegment s)
    (directory : List (List Char)) :
    Url.Path.walk directory (followed database after)
      = Url.Path.directory directory
          ++ List.intercalate ['/'] (expected (Url.Path.write database.toList) after) := by
  have hfollowed : followed database after = expected (Url.Path.write database.toList) after := by
    rw [followed, h.pathPart hplain, parts_reference database hafter hplain, h.parts, expected,
      List.singleton_append]
  have hdatabase : ∀ name : String, Bytes.ofString database = Bytes.ofString name →
      database = name :=
    fun name => Bytes.ofString_injective
  rw [hfollowed]
  refine Url.Path.walk_of_segments (List.cons_ne_nil _ _) (fun w hw => ?_) directory
  obtain rfl | hw := List.mem_cons.mp hw
  · exact ⟨isPlainSegment_databases.isSegment.double, isPlainSegment_databases.isSegment.single⟩
  obtain rfl | hw := List.mem_cons.mp hw
  · constructor
    · cases hdouble : Url.Path.isDoubleDot (Url.Path.write database.toList) with
      | false => rfl
      | true =>
        have heq := (h.decode).symm.trans (Url.Path.decode_doubleDot hdouble)
        exact absurd (hdatabase ".." (heq.trans (Bytes.ofString_ofList ['.', '.']).symm)) hdots
    · cases hsingle : Url.Path.isSingleDot (Url.Path.write database.toList) with
      | false => rfl
      | true =>
        have heq := (h.decode).symm.trans (Url.Path.decode_singleDot hsingle)
        exact absurd (hdatabase "." (heq.trans (Bytes.ofString_ofList ['.']).symm)) hdot
  · have hsegment := Node.isSegment_of_plain hplain w hw
    exact ⟨hsegment.double, hsegment.single⟩

/-! ## Requests and their databases -/

theorem Names.plain {request : Node → Except CommandError Request}
    (h : Names database request after) :
    after ≠ [] ∧ ∀ s ∈ after, Node.IsPlainSegment s := by
  cases h <;> decide

theorem Names.exists_request {request : Node → Except CommandError Request}
    (h : Names database request after) (hnode : node.HasDirectory base directory) :
    ∃ r, request node = .ok r ∧ r.url.scheme = node.url.scheme
      ∧ r.url.authority = node.url.authority
      ∧ r.url.path = String.ofList (Url.Path.walk directory (followed database after)) := by
  obtain ⟨query, fragment, hmade⟩ := endpoint_reference hnode database h.plain.1 h.plain.2
  obtain ⟨r, hr, hplace⟩ := h.request_eq hmade
  exact ⟨r, hr, hplace.scheme, hplace.authority, hplace.path⟩

theorem isNormal_walk_followed (hnode : node.HasDirectory base directory) (database : String)
    (after : List String) : Url.Path.IsNormal (Url.Path.walk directory (followed database after)) :=
  Url.Path.isNormal_walk hnode.areSegments fun _ => Url.Path.isSegment_of_mem_parts

theorem path_toList (directoryPath segment : String) (after : List String) :
    (directoryPath ++ "/".intercalate ("databases" :: segment :: after)).toList
      = directoryPath.toList ++ List.intercalate ['/'] (expected segment.toList after) := by
  rw [String.toList_append, String.toList_intercalate]
  rfl

theorem not_mem_expected {segment : List Char} (hsegment : '/' ∉ segment)
    (hplain : ∀ s ∈ after, Node.IsPlainSegment s) : ∀ w ∈ expected segment after, '/' ∉ w := by
  intro w hw
  obtain rfl | hw := List.mem_cons.mp hw
  · decide
  obtain rfl | hw := List.mem_cons.mp hw
  · exact hsegment
  · exact (Node.isSegment_of_plain hplain w hw).slash

theorem KeepsDatabase.standsForItself {url : Url} (h : KeepsDatabase node database after url)
    (hnode : node.HasDirectory base directory) (hcloses : node.url.ClosesPath) (hne : after ≠ [])
    (hplain : ∀ s ∈ after, Node.IsPlainSegment s)
    (hpath : url.path = String.ofList (Url.Path.walk directory (followed database after))) :
    StandsForItself database := by
  obtain ⟨segment, hsegment, hdecode, heq⟩ := h.path
  have hslash : ∀ w ∈ followed database after, '/' ∉ w := by
    intro w hw
    obtain ⟨part, hpart, rfl⟩ := List.mem_map.mp hw
    exact (Url.Path.not_mem_write (Url.Path.not_mem_of_mem_splitWhere hpart)).1
  have hwalk : Url.Path.walk directory (followed database after)
      = Url.Path.directory directory ++ List.intercalate ['/'] (expected segment.toList after) := by
    rw [hpath] at heq
    have hchars := congrArg String.toList heq
    rwa [String.toList_ofList, path_toList, hnode.kept hcloses] at hchars
  have hdirectory : ∀ w ∈ directory ++ expected segment.toList after, '/' ∉ w := by
    intro w hw
    obtain hw | hw := List.mem_append.mp hw
    · exact (hnode.areSegments w hw).slash
    · exact not_mem_expected hsegment hplain w hw
  have hne' : expected segment.toList after ≠ [] := List.cons_ne_nil _ _
  rw [Url.Path.walk_eq, Url.Path.directory_append_intercalate hne'] at hwalk
  have htrail := Url.Path.eq_of_intercalate_eq (Url.Path.trail_ne_nil _ _)
    (List.append_ne_nil_of_right_ne_nil _ hne')
    (Url.Path.not_mem_trail (fun w hw => (hnode.areSegments w hw).slash) hslash) hdirectory
    (List.cons.inj hwalk).2
  rw [← Bytes.ofChars_toList] at hdecode
  exact standsForItself_of_trail hne hplain hdecode htrail

theorem StandsForItself.keepsDatabase (h : StandsForItself database) (hdot : database ≠ ".")
    (hdots : database ≠ "..") {url : Url} (hnode : node.HasDirectory base directory)
    (hcloses : node.url.ClosesPath) (hne : after ≠ []) (hplain : ∀ s ∈ after, Node.IsPlainSegment s)
    (hscheme : url.scheme = node.url.scheme) (hauthority : url.authority = node.url.authority)
    (hpath : url.path = String.ofList (Url.Path.walk directory (followed database after))) :
    KeepsDatabase node database after url := by
  have hslash : '/' ∉ database.toList := fun hmem => h.1 _ hmem List.mem_cons_self
  have hbackslash : '\\' ∉ database.toList := fun hmem => h.1 _ hmem (by simp)
  refine ⟨hscheme, hauthority, String.ofList (Url.Path.write database.toList), ?_, ?_, ?_⟩
  · rw [String.toList_ofList]
    exact (Url.Path.not_mem_write ⟨hslash, hbackslash⟩).1
  · rw [Bytes.ofString_ofList]
    exact h.decode
  · rw [hpath, h.walk hdot hdots hne hplain, ← String.toList_inj, path_toList, String.toList_ofList,
      String.toList_ofList, hnode.kept hcloses]

theorem KeepsDatabase.database_eq {other : String} {after' : List String} {url url' : Url}
    (h : KeepsDatabase node database after url) (h' : KeepsDatabase node other after' url')
    (hplain : ∀ s ∈ after, Node.IsPlainSegment s) (hplain' : ∀ s ∈ after', Node.IsPlainSegment s)
    (hpath : url.path = url'.path) : database = other := by
  obtain ⟨segment, hsegment, hdecode, heq⟩ := h.path
  obtain ⟨segment', hsegment', hdecode', heq'⟩ := h'.path
  rw [heq, heq'] at hpath
  have hchars := congrArg String.toList hpath
  rw [path_toList, path_toList] at hchars
  have hexpected := Url.Path.eq_of_intercalate_eq (List.cons_ne_nil _ _) (List.cons_ne_nil _ _)
    (not_mem_expected hsegment hplain) (not_mem_expected hsegment' hplain')
    (List.append_cancel_left hchars)
  have hsame : segment = segment' :=
    String.toList_inj.mp (List.cons.inj (List.cons.inj hexpected).2).1
  rw [hsame, hdecode'] at hdecode
  exact Bytes.ofString_injective hdecode.symm

/-- A request for a database is always built, and its name stays one segment of the path exactly if
it stands for itself. Requests for two databases whose names do share neither a url nor an entry of
the cache. -/
theorem keeps_database_iff {text : String} {node : Node} (hparse : Url.parse text = .ok node.url)
    (hscheme : node.url.scheme = "http" ∨ node.url.scheme = "https")
    (hquery : node.url.query = none) (hfragment : node.url.fragment = none)
    {database : String} (hdot : database ≠ ".") (hdots : database ≠ "..")
    {request : Node → Except CommandError Request} {after : List String}
    (h : Names database request after) :
    ∃ r, request node = .ok r ∧ (KeepsDatabase node database after r.url ↔ StandsForItself database)
      ∧ ∀ (other : String) (request' : Node → Except CommandError Request) (after' : List String)
          (r' : Request), Names other request' after' → request' node = .ok r' →
        StandsForItself database → StandsForItself other → other ≠ "." → other ≠ ".." →
        other ≠ database →
          r'.url.text ≠ r.url.text
            ∧ Cache.Key.of r'.method r'.url.text r'.body ≠
              Cache.Key.of r.method r.url.text r.body := by
  have hkind : Url.SchemeKind.of node.url.scheme = .web := by
    obtain h | h := hscheme <;> rw [h] <;> decide
  have hnormal := Url.isNormal_of_parse hparse hkind
  obtain ⟨base, directory, hnode⟩ := Node.exists_directory hnormal
  obtain ⟨authority, hauthority, -⟩ := hnormal.authority
  have hcloses : node.url.ClosesPath := .inr ⟨hquery, hfragment⟩
  obtain ⟨r, hr, hrscheme, hrauthority, hrpath⟩ := h.exists_request hnode
  have hiff : KeepsDatabase node database after r.url ↔ StandsForItself database :=
    ⟨fun hkeeps => hkeeps.standsForItself hnode hcloses h.plain.1 h.plain.2 hrpath,
      fun hself => hself.keepsDatabase hdot hdots hnode hcloses h.plain.1 h.plain.2 hrscheme
        hrauthority hrpath⟩
  refine ⟨r, hr, hiff, fun other request' after' r' h' hr' hself hself' hdot' hdots' hne => ?_⟩
  obtain ⟨made, hmade, hmscheme, hmauthority, hmpath⟩ := h'.exists_request hnode
  rw [hmade] at hr'
  cases hr'
  have hkeeps' := hself'.keepsDatabase hdot' hdots' hnode hcloses h'.plain.1 h'.plain.2 hmscheme
    hmauthority hmpath
  have htext : r'.url.text ≠ r.url.text := by
    intro heq
    refine hne (hkeeps'.database_eq (hiff.mpr hself) h'.plain.2 h.plain.2 ?_)
    refine Url.path_eq_of_text_eq (hmauthority.trans hauthority) (hrauthority.trans hauthority)
      (hmscheme.trans hrscheme.symm) ?_ ?_ heq
    · rw [hmpath, String.toList_ofList]
      exact isNormal_walk_followed hnode other after'
    · rw [hrpath, String.toList_ofList]
      exact isNormal_walk_followed hnode database after
  exact ⟨htext, fun hkey => htext (congrArg Cache.Key.url hkey)⟩

/-- A name that goes up leads to another database. -/
theorem keeps_database_iff_up :
    let node : Node :=
      { url := ⟨"http", some ⟨"", "", .name "a", some 8080⟩, "/", none, none⟩,
        database := "x/../y" }
    Url.parse "http://a:8080/" = .ok node.url
      ∧ ∃ r, (Command.configuration "x/../y").request node = .ok r
        ∧ ¬KeepsDatabase node "x/../y" ["configuration", "client"] r.url
        ∧ (Command.configuration "y").request node = .ok r := by
  intro node
  have hparse : Url.parse "http://a:8080/" = .ok node.url := by decide +kernel
  obtain ⟨r, hr, hiff, -⟩ := keeps_database_iff hparse (.inl rfl) rfl rfl (by decide) (by decide)
    (.configuration : Names "x/../y" _ _)
  have hnot : ¬StandsForItself "x/../y" := by decide
  have hsame : (Command.configuration "y").request node
      = (Command.configuration "x/../y").request node := by decide +kernel
  exact ⟨hparse, r, hr, fun hkeeps => hnot (hiff.mp hkeeps), hsame.trans hr⟩

end Command

end ClusterClient
