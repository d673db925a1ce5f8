import ClusterClient.Proofs.Association
import ClusterClient.Proofs.Command.Databases
import ClusterClient.Proofs.Url.Form

/-!
# Parameters in the urls of requests

What a command asks for stands in the query of its request.  The query has nothing else in it: the
query and the fragment of a node's url are not kept, and what was asked for comes back from the
query in order, whatever texts and numbers it is.
-/

namespace ClusterClient

namespace Command

variable {node : Node} {url : Url}

theorem isBare_endpoint {path : String} {c : Char} (hfirst : path.toList.head? = some c)
    (hc : Node.isPlain c = true) (hlast : ∀ d ∈ path.toList.getLast?, 0x20 < d.toNat)
    (hscheme : Url.splitScheme? path.toList = none) (h : Url.HasNoMarks path.toList)
    (hmade : endpoint node path = .ok url) : url.IsBare := by
  rw [endpoint] at hmade
  cases hendpoint : node.endpoint path with
  | error e =>
    rw [hendpoint] at hmade
    cases hmade
  | ok made =>
    rw [hendpoint] at hmade
    cases hmade
    rw [← String.ofList_toList (s := path)] at hendpoint
    exact Node.isBare_endpoint hfirst hc hlast hscheme h hendpoint

theorem isBare_documents {database : String} (h : Url.HasNoMarks database.toList)
    (hmade : endpoint node (documentsPath database) = .ok url) : url.IsBare := by
  have hpath : (documentsPath database).toList
      = "databases".toList ++ '/' :: (database.toList ++ "/docs".toList) := by
    simp [documentsPath]
  refine isBare_endpoint (c := 'd') ?_ (by decide) ?_ ?_ ?_ hmade <;> rw [hpath]
  · rfl
  · intro d hd
    rw [← List.cons_append, ← List.append_assoc, List.getLast?_append] at hd
    cases hd
    decide
  · exact Url.splitScheme?_of_slash (List.all_eq_true.mp (by decide))
  · have hfront : Url.HasNoMarks ("databases".toList ++ ['/']) := by decide
    have hback : Url.HasNoMarks "/docs".toList := by decide
    rw [← List.singleton_append, ← List.append_assoc]
    exact hfront.append (h.append hback)

theorem isBare_admin (hmade : endpoint node "admin/databases" = .ok url) : url.IsBare := by
  refine isBare_endpoint (c := 'a') (by decide) (by decide) ?_ (by decide) (by decide) hmade
  rintro d ⟨⟩
  decide

theorem isBare_topology (hmade : endpoint node "topology" = .ok url) : url.IsBare := by
  refine isBare_endpoint (c := 't') (by decide) (by decide) ?_ (by decide) (by decide) hmade
  rintro d ⟨⟩
  decide

/-! ## What requests ask for -/

variable {request : Request}

theorem exists_endpoint {path : String} {make : Url → Request}
    (h : (do
      let url ← endpoint node path
      pure (make url)) = .ok request) :
    ∃ url, endpoint node path = .ok url ∧ make url = request := by
  cases hendpoint : endpoint node path with
  | error e =>
    rw [hendpoint] at h
    cases h
  | ok url =>
    rw [hendpoint] at h
    exact ⟨url, rfl, Except.ok.inj h⟩

theorem parameters_getDocuments {q : DocumentQuery} (hmarks : Url.HasNoMarks q.database.toList)
    (h : (getDocuments q).request node = .ok request) :
    request.url.parameters? = if q.parameters = [] then none else some q.parameters := by
  obtain ⟨url, hurl, rfl⟩ := exists_endpoint h
  exact Url.parameters?_dropEmptyQuery q.parameters (isBare_documents hmarks hurl).1

theorem parameters_putDocument {database id : String} {document : Json}
    (hmarks : Url.HasNoMarks database.toList)
    (h : (putDocument database id document).request node = .ok request) :
    request.url.parameters? = some [("id", id)] := by
  obtain ⟨url, hurl, rfl⟩ := exists_endpoint h
  exact Url.parameters?_addParameters [("id", id)] (isBare_documents hmarks hurl).1

theorem parameters_createDatabase {name raftRequestId : String} {replicationFactor : Nat}
    (h : (createDatabase name replicationFactor raftRequestId).request node = .ok request) :
    request.url.parameters?
      = some [("name", name), ("replicationFactor", toString replicationFactor)] := by
  obtain ⟨url, hurl, rfl⟩ := exists_endpoint h
  exact Url.parameters?_addParameters _ (isBare_admin hurl).1

theorem parameters_databaseTopology {database : String} {applicationId : Option String}
    (h : (databaseTopology database applicationId).request node = .ok request) :
    request.url.parameters?
      = some (("name", database) :: (applicationId.map (("applicationIdentifier", ·))).toList) := by
  obtain ⟨url, hurl, rfl⟩ := exists_endpoint h
  exact Url.parameters?_addParameters _ (isBare_topology hurl).1

/-! ## Reads that differ -/

theorem natDecimal_injective : Function.Injective Nat.repr := by
  intro m n h
  rw [Nat.repr_eq_ofList_toDigits, Nat.repr_eq_ofList_toDigits] at h
  rw [← Nat.ofDigitChars_ten_toDigits (n := m), String.ofList_injective h,
    Nat.ofDigitChars_ten_toDigits]

theorem natDecimal_ne_minus_append (n : Nat) (text : String) : n.repr ≠ "-" ++ text := by
  intro h
  rw [Nat.repr_eq_ofList_toDigits, ← String.toList_inj, String.toList_ofList, String.toList_append]
    at h
  have hminus : '-' ∈ Nat.toDigits 10 n := by
    rw [h]
    exact List.mem_cons_self
  exact absurd (Nat.isDigit_of_mem_toDigits (by decide) (by decide) hminus) (by decide)

theorem decimal_injective : Function.Injective (toString : Int → String) := by
  intro m n (h : m.repr = n.repr)
  rw [Int.repr_eq_if, Int.repr_eq_if] at h
  by_cases hm : 0 ≤ m
  · rw [if_pos hm] at h
    by_cases hn : 0 ≤ n
    · rw [if_pos hn] at h
      have hsame := natDecimal_injective h
      omega
    · rw [if_neg hn] at h
      exact (natDecimal_ne_minus_append _ _ h).elim
  · rw [if_neg hm] at h
    by_cases hn : 0 ≤ n
    · rw [if_pos hn] at h
      exact (natDecimal_ne_minus_append _ _ h.symm).elim
    · rw [if_neg hn, String.append_right_inj] at h
      have hsame := natDecimal_injective h
      omega

theorem DocumentQuery.lookup_parameters (q : DocumentQuery) :
    q.parameters.lookup "id" = q.id
      ∧ q.parameters.lookup "pageSize" = q.pageSize.map toString
      ∧ q.parameters.lookup "start" = q.start.map toString := by
  rw [parameters]
  cases q.id <;> cases q.pageSize <;> cases q.start <;> simp [Association.lookup_cons]

theorem DocumentQuery.parameters_eq_nil_iff (q : DocumentQuery) :
    q.parameters = [] ↔ q.id = none ∧ q.pageSize = none ∧ q.start = none := by
  rw [parameters]
  cases q.id <;> cases q.pageSize <;> cases q.start <;> simp

theorem DocumentQuery.eq_of_parameters_eq {q q' : DocumentQuery}
    (h : q'.parameters = q.parameters) :
    q'.id = q.id ∧ q'.pageSize = q.pageSize ∧ q'.start = q.start := by
  obtain ⟨hid, hpageSize, hstart⟩ := q.lookup_parameters
  obtain ⟨hid', hpageSize', hstart'⟩ := q'.lookup_parameters
  rw [h] at hid' hpageSize' hstart'
  exact ⟨hid'.symm.trans hid,
    Option.map_injective decimal_injective (hpageSize'.symm.trans hpageSize),
    Option.map_injective decimal_injective (hstart'.symm.trans hstart)⟩

theorem query_eq_of_text_eq {other : Url} (hplace : url.SamePlace other) (h : url.fragment = none)
    (h' : other.fragment = none) (htext : url.text = other.text) : url.query = other.query := by
  have hfront : url.textToPath = other.textToPath := by
    simp only [Url.textToPath, Url.authorityText, hplace.scheme, hplace.authority, hplace.path]
  simp only [Url.text, h, h', hfront, String.append_empty, String.append_right_inj] at htext
  cases hquery : url.query with
  | none =>
    cases hquery' : other.query with
    | none => rfl
    | some query' =>
      rw [hquery, hquery'] at htext
      simp at htext
  | some query =>
    cases hquery' : other.query with
    | none =>
      rw [hquery, hquery'] at htext
      simp at htext
    | some query' =>
      rw [hquery, hquery'] at htext
      simpa using htext

theorem parameters_eq_of_text_eq {q q' : DocumentQuery} {request' : Request}
    (hmarks : Url.HasNoMarks q.database.toList) (hdatabase : q'.database = q.database)
    (h : (getDocuments q).request node = .ok request)
    (h' : (getDocuments q').request node = .ok request')
    (htext : request'.url.text = request.url.text) : q'.parameters = q.parameters := by
  have hparameters := parameters_getDocuments hmarks h
  have hparameters' := parameters_getDocuments (hdatabase ▸ hmarks) h'
  obtain ⟨url, hurl, rfl⟩ := exists_endpoint h
  obtain ⟨url', hurl', rfl⟩ := exists_endpoint h'
  rw [hdatabase, hurl] at hurl'
  cases hurl'
  have hbare := isBare_documents hmarks hurl
  have hplace := fun q : DocumentQuery =>
    Url.samePlace_dropEmptyQuery (Url.samePlace_addParameters url q.parameters)
  have hfragment := fun q : DocumentQuery =>
    (Url.fragment_dropEmptyQuery (url.addParameters q.parameters)).trans hbare.2
  have hquery := query_eq_of_text_eq ((hplace q').trans (hplace q).symm) (hfragment q')
    (hfragment q) htext
  have hsame : (if q'.parameters = [] then none else some q'.parameters)
      = if q.parameters = [] then none else some q.parameters := by
    rw [← hparameters', ← hparameters]
    exact congrArg (Option.map _) hquery
  by_cases hnil : q.parameters = [] <;> by_cases hnil' : q'.parameters = [] <;>
    simp_all

/-- What a command asks for comes back from the query of its request, in order and with nothing else
in it, at every node. -/
theorem parameters_survive_encoding :
    (∀ (node : Node) (q : DocumentQuery) (r : Request), Url.HasNoMarks q.database.toList →
      (getDocuments q).request node = .ok r →
        r.url.parameters? =
          if q.id = none ∧ q.pageSize = none ∧ q.start = none then none
          else some ((q.id.map fun id => ("id", id)).toList
            ++ (q.pageSize.map fun n => ("pageSize", toString n)).toList
            ++ (q.start.map fun n => ("start", toString n)).toList)) ∧
    (∀ (node : Node) (database id : String) (document : Json) (r : Request),
      Url.HasNoMarks database.toList → (putDocument database id document).request node = .ok r →
        r.url.parameters? = some [("id", id)]) ∧
    (∀ (node : Node) (name raftRequestId : String) (replicationFactor : Nat) (r : Request),
      (createDatabase name replicationFactor raftRequestId).request node = .ok r →
        r.url.parameters?
          = some [("name", name), ("replicationFactor", toString replicationFactor)]) ∧
    (∀ (node : Node) (database : String) (applicationId : Option String) (r : Request),
      (databaseTopology database applicationId).request node = .ok r →
        r.url.parameters? = some (("name", database)
          :: (applicationId.map fun id => ("applicationIdentifier", id)).toList)) ∧
    (∀ (node : Node) (q q' : DocumentQuery) (r r' : Request), Url.HasNoMarks q.database.toList →
      q'.database = q.database → (getDocuments q).request node = .ok r →
      (getDocuments q').request node = .ok r' →
      (q'.id ≠ q.id ∨ q'.pageSize ≠ q.pageSize ∨ q'.start ≠ q.start) →
        r'.url.text ≠ r.url.text
          ∧ Cache.Key.of r'.method r'.url.text r'.body
            ≠ Cache.Key.of r.method r.url.text r.body) := by
  refine ⟨fun node q r hmarks h => ?_,
    fun node database id document r hmarks h => parameters_putDocument hmarks h,
    fun node name raftRequestId replicationFactor r h => parameters_createDatabase h,
    fun node database applicationId r h => parameters_databaseTopology h,
    fun node q q' r r' hmarks hdatabase h h' hdiffer => ?_⟩
  · exact (parameters_getDocuments hmarks h).trans
      (ite_congr (propext q.parameters_eq_nil_iff) (fun _ => rfl) fun _ => rfl)
  · have htext : r'.url.text ≠ r.url.text := by
      intro htext
      obtain ⟨hid, hpageSize, hstart⟩ :=
        DocumentQuery.eq_of_parameters_eq (parameters_eq_of_text_eq hmarks hdatabase h h' htext)
      rcases hdiffer with hne | hne | hne
      · exact hne hid
      · exact hne hpageSize
      · exact hne hstart
    exact ⟨htext, fun hkey => htext (congrArg Cache.Key.url hkey)⟩

/-- At a node whose own url has a query and a fragment, an id that reads like the query of another
read is told apart from it. -/
theorem parameters_survive_encoding_marked_node :
    let node : Node :=
      { url := ⟨"http", some ⟨"", "", .name "a", some 8080⟩, "/x/", some "q=1", some "f"⟩,
        database := "db" }
    let q : DocumentQuery := { database := "d/b", id := some "1&pageSize=25" }
    let q' : DocumentQuery := { database := "d/b", id := some "1", pageSize := some 25 }
    ∃ r r', Url.HasNoMarks q.database.toList
      ∧ (getDocuments q).request node = .ok r ∧ (getDocuments q').request node = .ok r'
      ∧ r.url.text = "http://a:8080/x/databases/d/b/docs?id=1%26pageSize%3D25"
      ∧ r'.url.text = "http://a:8080/x/databases/d/b/docs?id=1&pageSize=25"
      ∧ r.url.parameters? = some [("id", "1&pageSize=25")]
      ∧ r'.url.parameters? = some [("id", "1"), ("pageSize", "25")]
      ∧ r'.url.text ≠ r.url.text := by
  intro node q q'
  have hmarks : Url.HasNoMarks q.database.toList := by decide
  have hrequest : (getDocuments q).request node = .ok (.get ⟨"http",
      some ⟨"", "", .name "a", some 8080⟩, "/x/databases/d/b/docs",
      some "id=1%26pageSize%3D25", none⟩) := by
    decide +kernel
  have hrequest' : (getDocuments q').request node = .ok (.get ⟨"http",
      some ⟨"", "", .name "a", some 8080⟩, "/x/databases/d/b/docs",
      some "id=1&pageSize=25", none⟩) := by
    decide +kernel
  obtain ⟨hread, -, -, -, hdiffer⟩ := parameters_survive_encoding
  refine ⟨_, _, hmarks, hrequest, hrequest', by decide +kernel, by decide +kernel,
    (hread node q _ hmarks hrequest).trans (by decide +kernel),
    (hread node q' _ hmarks hrequest').trans (by decide +kernel), ?_⟩
  exact (hdiffer node q q' _ _ hmarks rfl hrequest hrequest' (.inl (by decide))).1

end Command

end ClusterClient
