import ClusterClient.Proofs.Url.Normal

/-!
# Relative references

What a reference that is a mere path leads to: it replaces what stands after the last slash of the
base's path, and the base's query and fragment go. A slash at the end of the text of a URL closes
whichever of its parts comes last.
-/

namespace ClusterClient.Url

/-! ## References that are paths -/

/-- Whether a character begins a reference that is a path below the directory of the base. -/
def startsPath (c : Char) : Bool := !(['#', '?', '/', '\\'].contains c)

theorem of_startsPath {c : Char} (h : startsPath c = true) :
    c ≠ '#' ∧ c ≠ '?' ∧ c ≠ '/' ∧ c ≠ '\\' := by
  simpa [startsPath] using h

/-- A reference without a scheme that begins with a segment is followed along its segments, from the
directory of the base. -/
theorem join_path {base : Url} (h : base.IsNormal) {segments : List (List Char)} {last : List Char}
    (hpath : base.path.toList = Path.directory segments ++ last)
    (hsegments : ∀ s ∈ segments, '/' ∉ s) (hlast : '/' ∉ last) {reference : List Char}
    (hedges : trimmed (String.ofList reference) = reference)
    (hscheme : splitScheme? reference = none) {c : Char} (hfirst : (kept reference).head? = some c)
    (hc : startsPath c = true) :
    base.join (String.ofList reference)
      = .ok (withTail .web (splitPath (kept reference)).2 base.scheme base.authority
          (Path.walk segments (Path.parts (splitPath (kept reference)).1))) := by
  obtain ⟨authority, hauthority, -⟩ := h.authority
  obtain ⟨rest, hkept⟩ : ∃ rest, kept reference = c :: rest := by
    cases hk : kept reference with
    | nil => rw [hk] at hfirst; cases hfirst
    | cons d rest => rw [hk] at hfirst; cases hfirst; exact ⟨rest, rfl⟩
  obtain ⟨hhash, hquestion, hslash, hbackslash⟩ := of_startsPath hc
  have hrooted : base.isRootless = false := by simp [isRootless, hauthority]
  have htail : tailReference? .web base (c :: rest) = none := by
    simp [tailReference?, hhash, hquestion]
  have hpop : Path.pop .web base.path.toList = Path.directory segments := by
    rw [hpath, Path.pop_directory_append segments hlast]
  have hrelative : parseRelative .web base (c :: rest)
      = .ok (withRelativePath .web base (Path.directory segments) (c :: rest)) := by
    have hnot : (c == '/' || c == '\\') = false := by simp [hslash, hbackslash]
    simp [parseRelative, htail, hnot, hpop, Path.directory_ne_nil]
  rw [join, parseReference, hedges, hscheme]
  simp only [hkept, hrooted, h.kind, List.head?_cons, beq_iff_eq, Option.some.injEq, hhash,
    if_false, Bool.false_eq_true, reduceCtorEq, hrelative]
  simp only [withRelativePath, Path.build_web hsegments]

theorem splitScheme?_of_no_colon {input : List Char} (h : ':' ∉ input) :
    splitScheme? input = none := by
  rw [splitScheme?]
  simp only [List.span_eq_takeWhile_dropWhile]
  split
  case h_2 => rfl
  case h_1 hrest =>
    have hmem := (List.dropWhile_suffix _).subset (hrest ▸ List.mem_cons_self)
    exact absurd hmem h

theorem splitScheme?_of_slash {front rest : List Char} (h : ∀ c ∈ front, c.isAlphanum = true) :
    splitScheme? (front ++ '/' :: rest) = none := by
  have hspan : (front ++ '/' :: rest).span
      (fun c => (c.isAlphanum || c == '+' || c == '-' || c == '.') || Path.isBreak c)
        = (front, '/' :: rest) :=
    span_append (fun c hc => by simp [h c hc]) (by simp [Path.isBreak])
  simp only [splitScheme?, hspan]
  split
  case h_1 heq => cases heq
  case h_2 => rfl

/-! ## What is not kept of the base -/

def IsBare (url : Url) : Prop := url.query = none ∧ url.fragment = none

/-- Whether a text has nothing that begins a query or a fragment. -/
def HasNoMarks (cs : List Char) : Prop := ∀ c ∈ cs, c ≠ '?' ∧ c ≠ '#'

instance (cs : List Char) : Decidable (HasNoMarks cs) := List.decidableBAll _ _

theorem HasNoMarks.append {cs ds : List Char} (h : HasNoMarks cs) (h' : HasNoMarks ds) :
    HasNoMarks (cs ++ ds) :=
  fun c hc => (List.mem_append.mp hc).elim (h c) (h' c)

theorem HasNoMarks.kept {cs : List Char} (h : HasNoMarks cs) : HasNoMarks (kept cs) :=
  fun c hc => h c (List.mem_filter.mp hc).1

theorem HasNoMarks.splitPath {cs : List Char} (h : HasNoMarks cs) : splitPath cs = (cs, []) :=
  span_of_all fun c hc => by simp [(h c hc).1, (h c hc).2]

variable {base made : Url} {c : Char} {rest : List Char}

theorem isBare_withTail (kind : SchemeKind) (scheme : String) (authority : Option Authority)
    (path : List Char) : (withTail kind [] scheme authority path).IsBare :=
  ⟨rfl, rfl⟩

theorem isBare_withRelativePath {input : List Char} (h : HasNoMarks input) (kind : SchemeKind)
    (base : Url) (start : List Char) : (withRelativePath kind base start input).IsBare := by
  rw [withRelativePath, h.splitPath]
  exact isBare_withTail ..

theorem isBare_hostlessFile {input : List Char} (h : HasNoMarks input) (start : List Char) :
    (hostlessFile start input).IsBare := by
  rw [hostlessFile, h.splitPath]
  exact isBare_withTail ..

theorem kept_cons (hbreak : Path.isBreak c = false) (rest : List Char) :
    kept (c :: rest) = c :: kept rest := by
  rw [kept, List.filter_cons_of_pos (by simp [hbreak])]
  rfl

theorem tailReference?_of_startsPath (hc : startsPath c = true) (kind : SchemeKind) (base : Url)
    (rest : List Char) : tailReference? kind base (c :: rest) = none := by
  obtain ⟨hhash, hquestion, -⟩ := of_startsPath hc
  simp [tailReference?, hhash, hquestion]

theorem isBare_parseFile (hc : startsPath c = true) (hbreak : Path.isBreak c = false)
    (h : HasNoMarks (c :: rest)) (hmade : parseFile (some base) (c :: rest) = .ok made) :
    made.IsBare := by
  obtain ⟨-, -, hslash, hbackslash⟩ := of_startsPath hc
  have hnext : next? (c :: rest) = some (c, rest) := by simp [next?, hbreak]
  simp only [parseFile, hnext, hslash, hbackslash, Option.filter_some, beq_iff_eq, Bool.or_eq_true,
    or_self, if_false, Option.map_none, Except.ok.injEq, parseFile.noSlash, kept_cons hbreak,
    tailReference?_of_startsPath hc] at hmade
  subst hmade
  split
  · exact isBare_hostlessFile h _
  · exact isBare_withRelativePath h ..

theorem isBare_parseRelative (hc : startsPath c = true) (h : HasNoMarks (c :: rest))
    {kind : SchemeKind} (hmade : parseRelative kind base (c :: rest) = .ok made) :
    made.IsBare := by
  obtain ⟨-, -, hslash, hbackslash⟩ := of_startsPath hc
  have hnot : (c == '/' || c == '\\') = false := by simp [hslash, hbackslash]
  simp [parseRelative, tailReference?_of_startsPath hc, hnot] at hmade
  subst hmade
  exact isBare_withRelativePath h ..

theorem isBare_join {reference : List Char}
    (hedges : trimmed (String.ofList reference) = reference)
    (hscheme : splitScheme? reference = none) (hfirst : reference.head? = some c)
    (hc : startsPath c = true) (hbreak : Path.isBreak c = false) (h : HasNoMarks reference)
    (hmade : base.join (String.ofList reference) = .ok made) : made.IsBare := by
  obtain ⟨rest, rfl⟩ := List.head?_eq_some_iff.mp hfirst
  have hhash : c ≠ '#' := (h c List.mem_cons_self).2
  rw [join, parseReference, hedges, hscheme] at hmade
  simp only [kept_cons hbreak, List.head?_cons, beq_iff_eq, Option.some.injEq, hhash, if_false]
    at hmade
  split at hmade
  · cases hmade
  · split at hmade
    · exact isBare_parseFile hc hbreak h hmade
    · refine isBare_parseRelative hc ?_ hmade
      rw [← kept_cons hbreak]
      exact h.kept

/-! ## A slash at the end -/

/-- The URL with a slash added to whichever part comes last in its text. -/
def closed (url : Url) : Url :=
  match url.fragment, url.query with
  | some fragment, _ => { url with fragment := some (fragment ++ "/") }
  | none, some query => { url with query := some (query ++ "/") }
  | none, none => { url with path := url.path ++ "/" }

@[simp] theorem closed_scheme (url : Url) : url.closed.scheme = url.scheme := by
  rw [closed]
  split <;> rfl

@[simp] theorem closed_authority (url : Url) : url.closed.authority = url.authority := by
  rw [closed]
  split <;> rfl

theorem closed_path (url : Url) :
    url.closed.path
      = if url.query.isNone && url.fragment.isNone then url.path ++ "/" else url.path := by
  rw [closed]
  split <;> simp_all

theorem text_closed {url : Url} {authority : Authority} (h : url.authority = some authority) :
    url.closed.text = url.text ++ "/" := by
  rw [closed]
  split
  case h_1 fragment hfragment =>
    simp [text, textToPath, authorityText, hfragment, String.append_assoc]
  case h_2 query hfragment hquery =>
    simp [text, textToPath, authorityText, hfragment, hquery, String.append_assoc]
  case h_3 hfragment hquery =>
    simp [text, textToPath, authorityText, hfragment, hquery, h, String.append_assoc]

theorem stands_slash {set : Percent.EscapeSet} (hslash : set '/' = false) {text : String}
    (h : Percent.Stands set text.toList) : Percent.Stands set (text ++ "/").toList := by
  rw [String.toList_append]
  refine h.append fun c hc => ?_
  rw [List.mem_singleton.mp hc]
  exact ⟨by decide, hslash⟩

theorem isNormal_closed {url : Url} (h : url.IsNormal) : url.closed.IsNormal := by
  refine ⟨by rw [closed_scheme]; exact h.kind, ?_, ?_, ?_⟩
  · obtain ⟨authority, hauthority, hnormal⟩ := h.authority
    exact ⟨authority, by rw [closed_authority, hauthority], by rw [closed_scheme]; exact hnormal⟩
  · rw [closed_path]
    split
    case isFalse => exact h.path
    case isTrue =>
      obtain ⟨segments, last, hsegments, hlast, hpath⟩ := h.path
      refine ⟨segments ++ [last], [], ?_, Path.isSegment_nil, ?_⟩
      · intro s hs
        obtain hs | hs := List.mem_append.mp hs
        · exact hsegments s hs
        · exact List.mem_singleton.mp hs ▸ hlast
      · rw [String.toList_append, hpath, Path.directory_concat, List.append_nil]
        rfl
  · rw [closed]
    split
    case h_1 fragment hfragment =>
      refine ⟨h.tail.query, fun f hf => ?_⟩
      cases hf
      exact stands_slash (by decide) (h.tail.fragment fragment hfragment)
    case h_2 query hfragment hquery =>
      refine ⟨fun q hq => ?_, h.tail.fragment⟩
      cases hq
      exact stands_slash (by decide) (h.tail.query query hquery)
    case h_3 => exact h.tail

theorem parse_text_slash {url : Url} (h : url.IsNormal) :
    parse (url.text ++ "/") = .ok url.closed := by
  obtain ⟨authority, hauthority, -⟩ := h.authority
  rw [← text_closed hauthority]
  exact parse_text (isNormal_closed h)

end ClusterClient.Url
