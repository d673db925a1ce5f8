import ClusterClient.Topology.Node
import ClusterClient.Proofs.Url.Join

/-!
# Endpoints of nodes

What is joined to a node's url goes below a directory. When the url's path ends in a slash, or when
nothing comes after the path, that directory is the path itself. A query or a fragment after a path
without a slash at its end takes the slash that was meant for the path, and then the last segment of
the path is lost.
-/

namespace ClusterClient

/-- The path of a URL as that of a directory. -/
def Url.directoryPath (url : Url) : String :=
  if url.path.endsWith "/" then url.path else url.path ++ "/"

/-- Whether a slash at the end of the text of a URL, where one is missing, closes its path. -/
def Url.ClosesPath (url : Url) : Prop :=
  url.path.endsWith "/" = true ∨ url.query = none ∧ url.fragment = none

instance (url : Url) : Decidable url.ClosesPath :=
  inferInstanceAs (Decidable (_ ∨ _ ∧ _))

theorem Url.endsWith_slash_iff (path : String) :
    path.endsWith "/" = true ↔ ∃ cs, path.toList = cs ++ ['/'] := by
  rw [String.endsWith_eq_endsWith_toSlice, String.Slice.endsWith_string_iff]
  simp only [String.copy_toSlice]
  exact ⟨fun ⟨cs, hcs⟩ => ⟨cs, hcs.symm⟩, fun ⟨cs, hcs⟩ => ⟨cs, hcs.symm⟩⟩

namespace Node

/-- A node's base, and the directory that what is joined to it goes below. -/
structure HasDirectory (node : Node) (base : Url) (segments : List (List Char)) : Prop where
  eq : node.baseUrl = .ok base
  normal : base.IsNormal
  scheme : base.scheme = node.url.scheme
  authority : base.authority = node.url.authority
  path : ∃ last, '/' ∉ last ∧ base.path.toList = Url.Path.directory segments ++ last
  areSegments : ∀ s ∈ segments, Url.Path.IsSegment s
  /-- The path of the node is kept as long as a slash can close it. -/
  kept : node.url.ClosesPath → node.url.directoryPath.toList = Url.Path.directory segments
  /-- Otherwise what stands after its last slash is lost. -/
  lost : ¬node.url.ClosesPath →
    ∃ last, node.url.directoryPath.toList = Url.Path.directory segments ++ last ∧ last ≠ []

theorem exists_directory {node : Node} (h : node.url.IsNormal) :
    ∃ base segments, node.HasDirectory base segments := by
  obtain ⟨segments, last, hsegments, hlast, hpath⟩ := h.path
  by_cases hslash : node.url.path.endsWith "/" = true
  · have hdirectory : node.url.directoryPath = node.url.path := if_pos hslash
    -- Only an empty last segment follows a slash at the end.
    have hempty : last = [] := by
      obtain ⟨cs, hcs⟩ := (Url.endsWith_slash_iff _).mp hslash
      rw [hpath] at hcs
      induction last using List.reverseRecOn with
      | nil => rfl
      | append_singleton last c =>
        rw [← List.append_assoc] at hcs
        have hc := (List.append_inj' hcs rfl).2
        cases hc
        exact absurd (List.mem_append_right _ List.mem_cons_self) hlast.slash
    refine ⟨node.url, segments, if_pos hslash, h, rfl, rfl, ⟨last, hlast.slash, hpath⟩, hsegments,
      fun _ => ?_, fun hnot => absurd (.inl hslash) hnot⟩
    rw [hdirectory, hpath, hempty, List.append_nil]
  · have hbase : node.baseUrl = .ok node.url.closed := by
      rw [baseUrl, if_neg hslash, Url.parse_text_slash h]
    have hdirectory : node.url.directoryPath.toList = Url.Path.directory (segments ++ [last]) := by
      rw [Url.directoryPath, if_neg hslash, String.toList_append, hpath, Url.Path.directory_concat]
      rfl
    by_cases hends : node.url.query = none ∧ node.url.fragment = none
    · refine ⟨node.url.closed, segments ++ [last], hbase, Url.isNormal_closed h,
        node.url.closed_scheme, node.url.closed_authority, ⟨[], by simp, ?_⟩, ?_,
        fun _ => hdirectory, fun hnot => absurd (.inr hends) hnot⟩
      · rw [Url.closed_path, hends.1, hends.2, List.append_nil, ← hdirectory, Url.directoryPath,
          if_neg hslash]
        rfl
      · intro s hs
        obtain hs | hs := List.mem_append.mp hs
        · exact hsegments s hs
        · exact List.mem_singleton.mp hs ▸ hlast
    · refine ⟨node.url.closed, segments, hbase, Url.isNormal_closed h, node.url.closed_scheme,
        node.url.closed_authority, ⟨last, hlast.slash, ?_⟩, hsegments,
        fun hcloses => absurd hcloses (by simp [Url.ClosesPath, hslash, hends]),
        fun _ => ⟨last ++ ['/'], ?_, by simp⟩⟩
      · have hnot : (node.url.query.isNone && node.url.fragment.isNone) = false := by
          cases hquery : node.url.query <;> cases hfragment : node.url.fragment <;> simp_all
        rw [Url.closed_path, hnot, ← hpath]
        rfl
      · rw [hdirectory, Url.Path.directory_concat, List.append_assoc]

theorem endpoint_eq {node : Node} {base : Url} {segments : List (List Char)}
    (h : node.HasDirectory base segments) {path reference : List Char}
    (hpath : path.dropWhile (· == '/') = reference)
    (hedges : Url.trimmed (String.ofList reference) = reference)
    (hscheme : Url.splitScheme? reference = none) {c : Char}
    (hfirst : (Url.kept reference).head? = some c) (hc : Url.startsPath c = true) :
    node.endpoint (String.ofList path)
      = .ok (Url.withTail .web (Url.splitPath (Url.kept reference)).2 node.url.scheme
          node.url.authority
          (Url.Path.walk segments (Url.Path.parts (Url.splitPath (Url.kept reference)).1))) := by
  obtain ⟨last, hlast, hbase⟩ := h.path
  have hjoin := Url.join_path h.normal hbase (fun s hs => (h.areSegments s hs).slash) hlast hedges
    hscheme hfirst hc
  rw [h.scheme, h.authority] at hjoin
  rw [endpoint, h.eq, String.toList_ofList, hpath, ← hjoin]
  rfl

/-! ## Plain paths -/

def isPlain (c : Char) : Bool := c.isAlphanum || c == '-' || c == '_'

/-- A segment that is not empty and means nothing but itself. -/
def IsPlainSegment (segment : String) : Prop :=
  segment ≠ "" ∧ ∀ c ∈ segment.toList, isPlain c = true

-- Over the characters of the segment, and not over all there are.
instance (segment : String) : Decidable (IsPlainSegment segment) :=
  @instDecidableAnd _ _ inferInstance (List.decidableBAll _ _)

theorem isPlain_ascii {c : Char} (h : isPlain c = true) : c.toNat < 0x80 := by
  have hle : ∀ d : Char, d.toNat < 0x80 → c ≤ d → c.toNat < 0x80 :=
    fun d hd hc => Nat.lt_of_le_of_lt (show c.toNat ≤ d.toNat from hc) hd
  have hupper : c.isUpper = true → c.toNat < 0x80 :=
    fun h => hle 'Z' (by decide) (of_decide_eq_true h).2
  have hlower : c.isLower = true → c.toNat < 0x80 :=
    fun h => hle 'z' (by decide) (of_decide_eq_true ((Bool.and_eq_true _ _).mp h).2)
  have hdigit : c.isDigit = true → c.toNat < 0x80 :=
    fun h => hle '9' (by decide) (of_decide_eq_true ((Bool.and_eq_true _ _).mp h).2)
  simp only [isPlain, Char.isAlphanum, Bool.or_eq_true, beq_iff_eq] at h
  obtain ((h | h) | rfl) | rfl := h
  · exact ((Bool.or_eq_true _ _).mp h).elim hupper hlower
  · exact hdigit h
  · decide
  · decide

theorem isPlain_stands {c : Char} (h : isPlain c = true) :
    Url.Percent.path c = false ∧ 0x20 < c.toNat
      ∧ c ≠ '/' ∧ c ≠ '\\' ∧ c ≠ '?' ∧ c ≠ '#' ∧ c ≠ ':' ∧ c ≠ '.' ∧ c ≠ '%' :=
  forall_ascii
    (P := fun c => isPlain c = true → Url.Percent.path c = false ∧ 0x20 < c.toNat
      ∧ c ≠ '/' ∧ c ≠ '\\' ∧ c ≠ '?' ∧ c ≠ '#' ∧ c ≠ ':' ∧ c ≠ '.' ∧ c ≠ '%')
    (by decide) c (isPlain_ascii h) h

theorem IsPlainSegment.exists_cons {segment : String} (h : IsPlainSegment segment) :
    ∃ c cs, segment.toList = c :: cs :=
  List.exists_cons_of_ne_nil fun heq => h.1 (String.toList_eq_nil_iff.mp heq)

theorem IsPlainSegment.isSegment {segment : String} (h : IsPlainSegment segment) :
    Url.Path.IsSegment segment.toList := by
  obtain ⟨c, cs, hcs⟩ := h.exists_cons
  have hc := isPlain_stands (h.2 c (by rw [hcs]; exact List.mem_cons_self))
  have hdots := Url.Path.not_dots cs hc.2.2.2.2.2.2.2.1 hc.2.2.2.2.2.2.2.2
  rw [← hcs] at hdots
  refine ⟨fun c hc => ⟨isPlain_ascii (h.2 c hc), (isPlain_stands (h.2 c hc)).1⟩, fun hmem => ?_,
    fun hmem => ?_, hdots.1, hdots.2⟩
  · exact (isPlain_stands (h.2 _ hmem)).2.2.1 rfl
  · exact (isPlain_stands (h.2 _ hmem)).2.2.2.1 rfl

theorem isSegment_of_plain {segments : List String} (h : ∀ s ∈ segments, IsPlainSegment s) :
    ∀ w ∈ segments.map String.toList, Url.Path.IsSegment w := by
  intro w hw
  obtain ⟨s, hs, rfl⟩ := List.mem_map.mp hw
  exact (h s hs).isSegment

def plainPath (segments : List String) : List Char :=
  List.intercalate ['/'] (segments.map String.toList)

theorem mem_plainPath {segments : List String} (h : ∀ s ∈ segments, IsPlainSegment s) {c : Char}
    (hc : c ∈ plainPath segments) : c = '/' ∨ isPlain c = true := by
  obtain rfl | ⟨part, hpart, hc⟩ := Url.mem_intercalate hc
  · exact .inl rfl
  · obtain ⟨s, hs, rfl⟩ := List.mem_map.mp hpart
    exact .inr ((h s hs).2 c hc)

theorem plainPath_visible {segments : List String} (h : ∀ s ∈ segments, IsPlainSegment s) :
    ∀ c ∈ plainPath segments, 0x20 < c.toNat ∧ c ≠ '?' ∧ c ≠ '#' ∧ c ≠ ':' := by
  intro c hc
  obtain rfl | hc := mem_plainPath h hc
  · decide
  · obtain ⟨-, hvisible, -, -, hquestion, hhash, hcolon, -⟩ := isPlain_stands hc
    exact ⟨hvisible, hquestion, hhash, hcolon⟩

theorem plainPath_cons {segments : List String} (hne : segments ≠ [])
    (h : ∀ s ∈ segments, IsPlainSegment s) :
    ∃ c cs, plainPath segments = c :: cs ∧ isPlain c = true := by
  match segments with
  | [] => exact absurd rfl hne
  | s :: rest =>
    have hs := h s List.mem_cons_self
    obtain ⟨c, cs, hcs⟩ := hs.exists_cons
    have hc := hs.2 c (by rw [hcs]; exact List.mem_cons_self)
    cases rest with
    | nil => exact ⟨c, cs, by simp [plainPath, List.intercalate, hcs], hc⟩
    | cons next rest =>
      exact ⟨c, _, by rw [plainPath, List.map_cons, List.map_cons, List.intercalate_cons_cons, hcs,
        List.append_assoc, List.cons_append], hc⟩

theorem endpoint_plainPath {node : Node} {base : Url} {directory : List (List Char)}
    (h : node.HasDirectory base directory) (slashes : Nat) {segments : List String}
    (hne : segments ≠ []) (hplain : ∀ s ∈ segments, IsPlainSegment s) :
    node.endpoint (String.ofList (List.replicate slashes '/' ++ plainPath segments))
      = .ok ⟨node.url.scheme, node.url.authority,
          String.ofList (Url.Path.directory directory ++ plainPath segments), none, none⟩ := by
  obtain ⟨c, cs, hcons, hc⟩ := plainPath_cons hne hplain
  obtain ⟨-, -, hslash, hbackslash, hquestion, hhash, -⟩ := isPlain_stands hc
  have hvisible := plainPath_visible hplain
  have hkept : Url.kept (plainPath segments) = plainPath segments :=
    Url.kept_of_visible fun d hd => (hvisible d hd).1
  have hsplit : Url.splitPath (plainPath segments) = (plainPath segments, []) :=
    Url.span_of_all fun d hd => by simp [(hvisible d hd).2.1, (hvisible d hd).2.2.1]
  have hdrop : (List.replicate slashes '/' ++ plainPath segments).dropWhile (· == '/')
      = plainPath segments := by
    rw [List.dropWhile_append_of_pos (by simp), hcons,
      List.dropWhile_cons_of_neg (by simpa using hslash)]
  have hedges : Url.trimmed (String.ofList (plainPath segments)) = plainPath segments :=
    Url.trimmed_ofList (fun d hd => (hvisible d (List.mem_of_head? hd)).1)
      fun d hd => (hvisible d (List.mem_of_getLast? hd)).1
  have hscheme : Url.splitScheme? (plainPath segments) = none :=
    Url.splitScheme?_of_no_colon fun hmem => (hvisible _ hmem).2.2.2 rfl
  have hendpoint := endpoint_eq h hdrop hedges hscheme (c := c) (by rw [hkept, hcons]; rfl)
    (by simp [Url.startsPath, hslash, hbackslash, hquestion, hhash])
  have hsegments := isSegment_of_plain hplain
  have hne' : segments.map String.toList ≠ [] := by simpa using hne
  have hparts : Url.Path.parts (plainPath segments) = segments.map String.toList :=
    Url.Path.parts_intercalate hne' hsegments
  rw [hkept, hsplit, hparts, Url.Path.walk_of_segments hne'
    fun w hw => ⟨(hsegments w hw).double, (hsegments w hw).single⟩, Url.withTail_eq] at hendpoint
  exact hendpoint

theorem isBare_endpoint {node : Node} {path : List Char} {c : Char} (hfirst : path.head? = some c)
    (hc : isPlain c = true) (hlast : ∀ d ∈ path.getLast?, 0x20 < d.toNat)
    (hscheme : Url.splitScheme? path = none) (h : Url.HasNoMarks path) {made : Url}
    (hmade : node.endpoint (String.ofList path) = .ok made) : made.IsBare := by
  obtain ⟨-, hvisible, hslash, hbackslash, hquestion, hhash, -⟩ := isPlain_stands hc
  have hdrop : path.dropWhile (· == '/') = path := by
    obtain ⟨rest, rfl⟩ := List.head?_eq_some_iff.mp hfirst
    exact List.dropWhile_cons_of_neg (by simpa using hslash)
  have hedges : Url.trimmed (String.ofList path) = path := by
    refine Url.trimmed_ofList (fun d hd => ?_) hlast
    cases hfirst.symm.trans hd
    exact hvisible
  have hbreak : Url.Path.isBreak c = false := by
    have hne : ∀ d : Char, d.toNat ≤ 0x20 → c ≠ d := by
      rintro d hd rfl
      omega
    simp [Url.Path.isBreak, hne '\t' (by decide), hne '\n' (by decide), hne '\r' (by decide)]
  rw [endpoint, String.toList_ofList, hdrop] at hmade
  cases hbase : node.baseUrl with
  | error e =>
    rw [hbase] at hmade
    cases hmade
  | ok base =>
    rw [hbase] at hmade
    exact Url.isBare_join hedges hscheme hfirst
      (by simp [Url.startsPath, hslash, hbackslash, hquestion, hhash]) hbreak h hmade

/-- An endpoint below a node keeps all that says where to connect, and has no query or fragment.
Whether it keeps the node's path depends on the node's url: the path must end in a slash, or the
url must end with it. -/
theorem endpoint_keeps_path_iff {text : String} {node : Node}
    (hparse : Url.parse text = .ok node.url)
    (hscheme : node.url.scheme = "http" ∨ node.url.scheme = "https") (slashes : Nat)
    {segments : List String} (hne : segments ≠ []) (hplain : ∀ s ∈ segments, IsPlainSegment s) :
    ∃ made,
      node.endpoint (String.ofList (List.replicate slashes '/') ++ "/".intercalate segments)
          = .ok made
        ∧ made.scheme = node.url.scheme ∧ made.authority = node.url.authority
        ∧ made.query = none ∧ made.fragment = none
        ∧ (made.path = node.url.directoryPath ++ "/".intercalate segments ↔
          node.url.ClosesPath) := by
  have hkind : Url.SchemeKind.of node.url.scheme = .web := by
    obtain h | h := hscheme <;> rw [h] <;> decide
  obtain ⟨base, directory, h⟩ := exists_directory (Url.isNormal_of_parse hparse hkind)
  have hpath : "/".intercalate segments = String.ofList (plainPath segments) := by
    rw [← String.ofList_toList (s := "/".intercalate segments), String.toList_intercalate]
    rfl
  have hmade := endpoint_plainPath h slashes hne hplain
  rw [String.ofList_append] at hmade
  refine ⟨⟨node.url.scheme, node.url.authority, _, none, none⟩,
    by rw [hpath]; exact hmade, rfl, rfl,
    rfl, rfl, ?_⟩
  have hmeaning : String.ofList (Url.Path.directory directory ++ plainPath segments)
      = node.url.directoryPath ++ "/".intercalate segments
        ↔ Url.Path.directory directory = node.url.directoryPath.toList := by
    rw [hpath, ← String.ofList_toList (s := node.url.directoryPath), ← String.ofList_append,
      String.ofList_inj, List.append_cancel_right_eq, String.ofList_toList]
  rw [hmeaning]
  constructor
  · intro heq
    apply Classical.byContradiction
    intro hnot
    obtain ⟨last, hlast, hne⟩ := h.lost hnot
    rw [hlast, List.self_eq_append_right] at heq
    exact hne heq
  · exact fun hcloses => (h.kept hcloses).symm

/-- The slash that is added after a query closes no path: the last segment of the node's path is
replaced. -/
theorem endpoint_keeps_path_iff_query :
    let node : Node :=
      { url := ⟨"http", some ⟨"", "", .name "a", some 8080⟩, "/x", some "q", none⟩,
        database := "db" }
    Url.parse "http://a:8080/x?q" = .ok node.url
      ∧ (∀ s ∈ ["cluster", "topology"], IsPlainSegment s)
      ∧ ∃ made,
        node.endpoint (String.ofList ['/'] ++ "/".intercalate ["cluster", "topology"]) = .ok made
        ∧ made.path ≠ node.url.directoryPath ++ "/".intercalate ["cluster", "topology"] := by
  intro node
  have hparse : Url.parse "http://a:8080/x?q" = .ok node.url := by decide +kernel
  have hplain : ∀ s ∈ ["cluster", "topology"], IsPlainSegment s := by decide
  obtain ⟨made, hmade, -, -, -, -, hpath⟩ :=
    endpoint_keeps_path_iff hparse (.inl rfl) 1 (List.cons_ne_nil _ _) hplain
  have hnot : ¬node.url.ClosesPath := by decide +kernel
  exact ⟨hparse, hplain, made, hmade, fun heq => hnot (hpath.mp heq)⟩

end Node

end ClusterClient
