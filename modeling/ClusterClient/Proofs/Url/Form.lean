import ClusterClient.Url.Form
import ClusterClient.Proofs.Text.Lenient
import ClusterClient.Proofs.Url.Percent
import ClusterClient.Proofs.Url.Splits

/-!
# Parameters and the queries that carry them

Parameters come back from the query they are written into, whatever their names and values are. What
separates parameters is escaped in them, and a part of a query that carries a parameter is never
empty.
-/

namespace ClusterClient.Url

namespace Form

/-! ## Names and values -/

theorem not_mem_encodeByte : ∀ b : UInt8, '&' ∉ encodeByte b ∧ '=' ∉ encodeByte b :=
  forall_octets (by decide +kernel)

theorem not_mem_encode (text : String) : '&' ∉ encode text ∧ '=' ∉ encode text := by
  constructor <;> intro h <;> obtain ⟨b, -, hb⟩ := List.mem_flatMap.mp h
  · exact (not_mem_encodeByte b).1 hb
  · exact (not_mem_encodeByte b).2 hb

/-- The octets of an encoded text, with plus signs read as spaces. -/
def octets (cs : List Char) : Bytes :=
  (Bytes.ofChars cs).map fun b => if b == 0x2b then 0x20 else b

theorem decode_eq (cs : List Char) : decode cs = Percent.decode (octets cs) := by
  rw [decode, Bytes.ofString_ofList, octets]

theorem octets_append (cs ds : List Char) : octets (cs ++ ds) = octets cs ++ octets ds := by
  rw [octets, Bytes.ofChars_append, List.map_append, octets, octets]

theorem octets_escape : ∀ b, octets (Percent.escape b) = Bytes.ofChars (Percent.escape b) :=
  forall_octets (by decide +kernel)

theorem octets_of_isPlain :
    ∀ b, isPlain b = true → octets [Char.ofNat b.toNat] = [b] ∧ b ≠ 0x25 :=
  forall_octets (by decide +kernel)

theorem decode_encodeByte (b : UInt8) (cs : List Char) :
    decode (encodeByte b ++ cs) = b :: decode cs := by
  rw [decode_eq, decode_eq, octets_append, encodeByte]
  split
  case isTrue hplain =>
    obtain ⟨hoctet, hpercent⟩ := octets_of_isPlain b hplain
    rw [hoctet, List.singleton_append, Percent.decode_cons hpercent]
  case isFalse =>
    split
    case isTrue hspace =>
      have hoctet : octets ['+'] = [0x20] := by decide +kernel
      rw [hoctet, List.singleton_append, Percent.decode_cons (by decide), eq_of_beq hspace]
    case isFalse => rw [octets_escape, Percent.decode_escape]

theorem decode_encode (text : String) : decode (encode text) = Bytes.ofString text := by
  rw [encode]
  induction Bytes.ofString text with
  | nil =>
    rw [List.flatMap_nil, decode_eq]
    rfl
  | cons b bs ih => rw [List.flatMap_cons, decode_encodeByte, ih]

/-! ## Pairs -/

theorem encodePairs_eq (pairs : List (String × String)) :
    encodePairs pairs = List.intercalate ['&'] (pairs.map encodePair) := by
  induction pairs with
  | nil => rfl
  | cons pair pairs ih =>
    cases pairs with
    | nil => simp [encodePairs, List.intercalate]
    | cons next pairs =>
      rw [encodePairs, ih, List.map_cons, List.map_cons, List.map_cons, List.intercalate_cons_cons,
        List.append_assoc, List.singleton_append]
      simp

theorem encodePair_ne_nil (pair : String × String) : encodePair pair ≠ [] := by
  simp [encodePair]

theorem not_mem_encodePair (pair : String × String) : '&' ∉ encodePair pair := by
  rw [encodePair, List.mem_append, List.mem_cons]
  rintro (h | h | h)
  · exact (not_mem_encode pair.1).1 h
  · exact absurd h (by decide)
  · exact (not_mem_encode pair.2).1 h

theorem span_encodePair (pair : String × String) :
    (encodePair pair).span (· != '=') = (encode pair.1, '=' :: encode pair.2) := by
  refine span_append (fun c hc => ?_) (by simp)
  rw [bne_iff_ne]
  rintro rfl
  exact (not_mem_encode pair.1).2 hc

theorem decodePairs_encodePairs (pairs : List (String × String)) :
    decodePairs (encodePairs pairs) = pairs := by
  cases pairs with
  | nil => rfl
  | cons pair pairs =>
    have hparts : splitWhere (· == '&') (encodePairs (pair :: pairs))
        = (pair :: pairs).map encodePair := by
      rw [encodePairs_eq]
      refine splitWhere_intercalate (by decide) (by simp) fun part hpart c hc => ?_
      obtain ⟨p, -, rfl⟩ := List.mem_map.mp hpart
      rw [beq_eq_false_iff_ne]
      rintro rfl
      exact not_mem_encodePair p hc
    have hkept : ((pair :: pairs).map encodePair).filter (!·.isEmpty)
        = (pair :: pairs).map encodePair := by
      refine List.filter_eq_self.mpr fun part hpart => ?_
      obtain ⟨p, -, rfl⟩ := List.mem_map.mp hpart
      simpa using encodePair_ne_nil p
    rw [decodePairs, hparts, hkept, List.map_map]
    refine List.map_id'' (fun p => ?_) _
    simp only [Function.comp_apply, span_encodePair, List.drop_one, List.tail_cons, decode_encode,
      Bytes.lenientString_ofString]

theorem encodePairs_ne_nil {pairs : List (String × String)} (h : pairs ≠ []) :
    encodePairs pairs ≠ [] := by
  intro hnil
  have hpairs := decodePairs_encodePairs pairs
  rw [hnil] at hpairs
  exact h hpairs.symm

end Form

/-! ## Queries -/

/-- The parameters that the query of a URL carries, if it has a query. -/
def parameters? (url : Url) : Option (List (String × String)) :=
  url.query.map fun query => Form.decodePairs query.toList

variable {url : Url} (pairs : List (String × String))

theorem query_addParameters (h : url.query = none) :
    (url.addParameters pairs).query = some (String.ofList (Form.encodePairs pairs)) := by
  simp only [addParameters, h]

@[simp] theorem fragment_dropEmptyQuery (url : Url) :
    url.dropEmptyQuery.fragment = url.fragment := by
  rw [dropEmptyQuery]
  split <;> rfl

theorem parameters?_addParameters (h : url.query = none) :
    (url.addParameters pairs).parameters? = some pairs := by
  rw [parameters?, query_addParameters pairs h, Option.map_some, String.toList_ofList,
    Form.decodePairs_encodePairs]

theorem parameters?_dropEmptyQuery (h : url.query = none) :
    (url.addParameters pairs).dropEmptyQuery.parameters?
      = if pairs = [] then none else some pairs := by
  split
  case isTrue hnil =>
    subst hnil
    simp [dropEmptyQuery, query_addParameters [] h, Form.encodePairs, parameters?]
  case isFalse hne =>
    have hquery : (url.addParameters pairs).query ≠ some "" := by
      rw [query_addParameters pairs h, ne_eq, Option.some.injEq]
      intro hempty
      exact Form.encodePairs_ne_nil hne (String.ofList_eq_empty_iff.mp hempty)
    rw [dropEmptyQuery, if_neg (by simpa using hquery), parameters?_addParameters pairs h]

end ClusterClient.Url
