import ClusterClient.Proofs.Url.Host
import ClusterClient.Proofs.Url.Path

/-!
# URLs in their normal form

Whatever URL is read under a scheme of the web is in its normal form: each of its parts is written
as it is kept. The text of such a URL is read as the URL again, so a text determines its URL.
-/

namespace ClusterClient.Url

/-! ## Authorities -/

/-- Whether a character ends an authority under the schemes of the web. -/
def endsAuthority (c : Char) : Bool := c == '/' || c == '?' || c == '#' || c == '\\'

def readPort (scheme : String) (portText : List Char) :
    Except ParseError (Option Nat × List Char) :=
  if portText.isEmpty then .ok (none, []) else parsePort scheme (portText.drop 1)

def readParts (scheme : String) (username password hostText portText rest : List Char) :
    Except ParseError Url :=
  if hostText.isEmpty then .error .emptyHost
  else
    match Host.parseDomain hostText, readPort scheme portText with
    | .ok host, .ok (port, left) =>
      let (path, rest) := splitPath (left ++ rest)
      .ok (withTail .web rest scheme
        (some ⟨String.ofList (Percent.encode Percent.userinfo username),
          String.ofList (Percent.encode Percent.userinfo password), host, port⟩)
        (Path.buildRooted .web path).text)
    | .error e, _ => .error e
    | _, .error e => .error e

theorem ne_name_empty {host : Host} (h : host.IsNormal) : (host == .name "") = false := by
  rw [beq_eq_false_iff_ne]
  rintro rfl
  exact h.ne_nil rfl

theorem parseAuthority_web {scheme : String}
    {input authority rest userinfo hostAndPort username password hostText portText : List Char}
    (hends : input.span (!endsAuthority ·) = (authority, rest))
    (huser : (splitUserinfo authority).getD ([], authority) = (userinfo, hostAndPort))
    (hpassword : userinfo.span (· != ':') = (username, password))
    (hhost : splitHost false hostAndPort = (hostText, portText)) :
    parseAuthority scheme .web input
      = readParts scheme username (password.drop 1) hostText portText rest := by
  have hspecial : SchemeKind.isSpecial .web = true := rfl
  simp only [endsAuthority] at hends
  unfold parseAuthority
  simp only [hspecial, Bool.and_true, hends, huser, hpassword, hhost]
  by_cases hempty : hostText = []
  · have hresult : readParts scheme username (password.drop 1) hostText portText rest
        = .error .emptyHost := by simp [readParts, hempty]
    rw [hresult]
    simp only [hempty, List.isEmpty_nil, beq_self_eq_true, Bool.and_self, if_true, throw, throwThe,
      MonadExceptOf.throw, Bind.bind, Except.bind, ite_self]
  · have hne : hostAndPort.isEmpty = false := by
      cases hostAndPort with
      | nil => cases hhost; exact absurd rfl hempty
      | cons => rfl
    rw [readParts, readPort]
    simp only [hne, List.isEmpty_eq_false_iff.mpr hempty, Bool.and_false, Bool.false_and,
      Bool.false_eq_true, if_false, if_true, beq_self_eq_true, Bind.bind, Except.bind, Pure.pure,
      Except.pure]
    cases hparse : Host.parseDomain hostText with
    | error e => simp
    | ok host =>
      have hname := ne_name_empty (Host.isNormal_of_parseDomain hparse)
      simp only [hname, Bool.false_and, Bool.false_eq_true, if_false]
      split
      · simp
      · cases parsePort scheme (portText.drop 1) <;> simp

/-! ### Ports -/

theorem foldl_toDigits (n : Nat) :
    (Nat.toDigits 10 n).foldl (fun n c => n * 10 + (c.toNat - 48)) 0 = n := by
  have hcomm : (fun (n : Nat) (c : Char) => n * 10 + (c.toNat - 48))
      = fun n c => 10 * n + (c.toNat - '0'.toNat) := by
    funext n c
    rw [Nat.mul_comm]
    rfl
  rw [hcomm, ← Nat.ofDigitChars_eq_foldl, Nat.ofDigitChars_ten_toDigits]

theorem parsePort_toDigits {scheme : String} {port : Nat} (hle : port ≤ 65535)
    (hdefault : defaultPort? scheme ≠ some port) :
    parsePort scheme (Nat.toDigits 10 port) = .ok (some port, []) := by
  have hspan : (Nat.toDigits 10 port).span Char.isDigit = (Nat.toDigits 10 port, []) :=
    span_of_all fun c hc => Nat.isDigit_of_mem_toDigits (by decide) (by decide) hc
  simp only [parsePort, hspan, List.head?_nil, foldl_toDigits]
  rw [if_neg (by omega), if_neg]
  simp [Nat.toDigits_ne_nil, hdefault]

/-- A port is kept if it is one and not the default. -/
def IsPort (scheme : String) (port : Option Nat) : Prop :=
  ∀ p, port = some p → p ≤ 65535 ∧ defaultPort? scheme ≠ some p

theorem isPort_of_parsePort {scheme : String} {cs left : List Char} {port : Option Nat}
    (h : parsePort scheme cs = .ok (port, left)) : IsPort scheme port := by
  rintro p rfl
  simp only [parsePort] at h
  split at h
  case h_3 => cases h
  all_goals
    split at h
    case isTrue => cases h
    case isFalse hle =>
      simp only [Except.ok.injEq, Prod.mk.injEq] at h
      obtain ⟨hport, -⟩ := h
      split at hport
      case isTrue => cases hport
      case isFalse hdefault =>
        cases hport
        simp only [Bool.or_eq_true, beq_iff_eq, not_or] at hdefault
        exact ⟨by omega, hdefault.2⟩

theorem isPort_of_readPort {scheme : String} {cs left : List Char} {port : Option Nat}
    (h : readPort scheme cs = .ok (port, left)) : IsPort scheme port := by
  rw [readPort] at h
  split at h
  · cases h
    intro p hp
    cases hp
  · exact isPort_of_parsePort h

/-! ### Their texts -/

/-- An authority whose parts are all kept as they are written. -/
structure Authority.IsNormal (scheme : String) (authority : Authority) : Prop where
  username : Percent.Stands Percent.userinfo authority.username.toList
  password : Percent.Stands Percent.userinfo authority.password.toList
  host : authority.host.IsNormal
  port : IsPort scheme authority.port

def Authority.userChars (authority : Authority) : List Char :=
  if authority.username.isEmpty && authority.password.isEmpty then []
  else
    authority.username.toList
      ++ (if authority.password.isEmpty then [] else ':' :: authority.password.toList) ++ ['@']

def Authority.portChars (authority : Authority) : List Char :=
  match authority.port with
  | some port => ':' :: Nat.toDigits 10 port
  | none => []

theorem Authority.text_toList (authority : Authority) :
    authority.text.toList
      = authority.userChars ++ (authority.host.text.toList ++ authority.portChars) := by
  rw [text, userChars, portChars]
  cases authority.port <;> split <;> (try split) <;> simp_all

theorem Authority.portChars_ends (authority : Authority) : Host.Ends authority.portChars := by
  rw [portChars]
  split
  · exact .inr ⟨_, rfl⟩
  · exact .inl rfl

theorem splitUserinfo_append {before after : List Char} (h : '@' ∉ after) :
    splitUserinfo (before ++ '@' :: after) = some (before, after) := by
  have hspan : (before ++ '@' :: after).reverse.span (· != '@')
      = (after.reverse, '@' :: before.reverse) := by
    rw [List.reverse_append, List.reverse_cons, List.append_assoc, List.singleton_append]
    refine span_append (fun c hc => ?_) (by simp)
    rw [bne_iff_ne]
    rintro rfl
    exact h (List.mem_reverse.mp hc)
  rw [splitUserinfo, hspan]
  simp

theorem splitUserinfo_of_not_mem {cs : List Char} (h : '@' ∉ cs) : splitUserinfo cs = none := by
  have hspan : cs.reverse.span (· != '@') = (cs.reverse, []) := by
    refine span_of_all fun c hc => ?_
    rw [bne_iff_ne]
    rintro rfl
    exact h (List.mem_reverse.mp hc)
  rw [splitUserinfo, hspan]

theorem userinfo_plain {cs : List Char} (h : Percent.Stands Percent.userinfo cs) :
    ∀ c ∈ cs, Host.isPlain c = true ∧ c ≠ ':' := by
  intro c hc
  obtain ⟨hascii, hset⟩ := h c hc
  exact forall_ascii (P := fun c => Percent.userinfo c = false → Host.isPlain c = true ∧ c ≠ ':')
    (by decide) c hascii hset

theorem Authority.portChars_plain (authority : Authority) :
    ∀ c ∈ authority.portChars, Host.isPlain c = true := by
  intro c hc
  rw [portChars] at hc
  split at hc
  case h_2 => cases hc
  case h_1 =>
    obtain rfl | hc := List.mem_cons.mp hc
    · decide
    · exact Host.isPlain_of_isHexDigit
        (Host.isHexDigit_of_mem_toDigits (by decide) (by decide) hc)

theorem Authority.IsNormal.hostAndPort_plain {scheme : String} {authority : Authority}
    (h : authority.IsNormal scheme) :
    ∀ c ∈ authority.host.text.toList ++ authority.portChars, Host.isPlain c = true := by
  intro c hc
  obtain hc | hc := List.mem_append.mp hc
  · exact h.host.plain c hc
  · exact authority.portChars_plain c hc

theorem not_endsAuthority_of_isPlain {c : Char} (h : Host.isPlain c = true) :
    endsAuthority c = false ∧ c ≠ '@' ∧ 0x20 < c.toNat := by
  simp only [Host.isPlain, Bool.and_eq_true, decide_eq_true_eq, Bool.not_eq_true',
    List.contains_eq_mem, decide_eq_false_iff_not, List.mem_cons, List.not_mem_nil, or_false,
    not_or] at h
  obtain ⟨⟨hvisible, -⟩, hslash, hquestion, hhash, hbackslash, hat⟩ := h
  exact ⟨by simp [endsAuthority, hslash, hquestion, hhash, hbackslash], hat, hvisible⟩

theorem Authority.IsNormal.text_plain {scheme : String} {authority : Authority}
    (h : authority.IsNormal scheme) :
    ∀ c ∈ authority.text.toList, endsAuthority c = false ∧ 0x20 < c.toNat := by
  have hplain : ∀ c, Host.isPlain c = true → endsAuthority c = false ∧ 0x20 < c.toNat :=
    fun c hc => ⟨(not_endsAuthority_of_isPlain hc).1, (not_endsAuthority_of_isPlain hc).2.2⟩
  intro c hc
  rw [text_toList] at hc
  obtain hc | hc := List.mem_append.mp hc
  · rw [userChars] at hc
    split at hc
    · cases hc
    · simp only [List.mem_append, List.mem_singleton] at hc
      obtain (hc | hc) | rfl := hc
      · exact hplain c (userinfo_plain h.username c hc).1
      · split at hc
        · cases hc
        · obtain rfl | hc := List.mem_cons.mp hc
          · decide
          · exact hplain c (userinfo_plain h.password c hc).1
      · decide
  · exact hplain c (h.hostAndPort_plain c hc)

theorem Authority.IsNormal.splits {scheme : String} {authority : Authority}
    (h : authority.IsNormal scheme) :
    ∃ userinfo colonPassword,
      (splitUserinfo authority.text.toList).getD ([], authority.text.toList)
          = (userinfo, authority.host.text.toList ++ authority.portChars)
        ∧ userinfo.span (· != ':') = (authority.username.toList, colonPassword)
        ∧ colonPassword.drop 1 = authority.password.toList := by
  have hat : '@' ∉ authority.host.text.toList ++ authority.portChars :=
    fun hmem => (not_endsAuthority_of_isPlain (h.hostAndPort_plain _ hmem)).2.1 rfl
  have husername : ∀ c ∈ authority.username.toList, (c != ':') = true :=
    fun c hc => by simpa using (userinfo_plain h.username c hc).2
  rw [text_toList, userChars]
  split
  case isTrue hempty =>
    simp only [Bool.and_eq_true, String.isEmpty_iff] at hempty
    refine ⟨[], [], ?_, ?_, ?_⟩
    · rw [List.nil_append, splitUserinfo_of_not_mem hat]
      rfl
    · rw [hempty.1]
      rfl
    · rw [hempty.2]
      rfl
  case isFalse =>
    refine ⟨authority.username.toList
      ++ if authority.password.isEmpty then [] else ':' :: authority.password.toList,
      if authority.password.isEmpty then [] else ':' :: authority.password.toList, ?_, ?_, ?_⟩
    · rw [List.append_assoc _ ['@'], List.singleton_append, splitUserinfo_append hat]
      rfl
    · refine span_append husername fun c hc => ?_
      split at hc
      · cases hc
      · cases hc
        rfl
    · split
      case isTrue hempty =>
        rw [String.isEmpty_iff.mp hempty]
        rfl
      case isFalse => rfl

theorem Authority.IsNormal.readPort {scheme : String} {authority : Authority}
    (h : authority.IsNormal scheme) :
    readPort scheme authority.portChars = .ok (authority.port, []) := by
  rw [Url.readPort, portChars]
  split
  case h_1 port hport =>
    obtain ⟨hle, hdefault⟩ := h.port port hport
    rw [if_neg (by simp), List.drop_succ_cons, List.drop_zero,
      parsePort_toDigits hle hdefault, hport]
  case h_2 hport =>
    rw [hport]
    rfl

/-! ## Queries and fragments -/

def tailChars (query fragment : Option String) : List Char :=
  (match query with
    | some query => '?' :: query.toList
    | none => [])
  ++ match fragment with
    | some fragment => '#' :: fragment.toList
    | none => []

structure IsTail (query fragment : Option String) : Prop where
  query : ∀ q, query = some q → Percent.Stands Percent.specialQuery q.toList
  fragment : ∀ f, fragment = some f → Percent.Stands Percent.fragment f.toList

theorem isTail_queryAndFragment (rest : List Char) :
    IsTail (queryAndFragment .web rest).1 (queryAndFragment .web rest).2 := by
  have hquery : ∀ cs q, some (String.ofList (Percent.encode Percent.specialQuery cs)) = some q →
      Percent.Stands Percent.specialQuery q.toList := by
    rintro cs q hq
    cases hq
    rw [String.toList_ofList]
    exact Percent.stands_encode Percent.keepsEscapes_specialQuery cs
  have hfragment : ∀ cs f, some (String.ofList (Percent.encode Percent.fragment cs)) = some f →
      Percent.Stands Percent.fragment f.toList := by
    rintro cs f hf
    cases hf
    rw [String.toList_ofList]
    exact Percent.stands_encode Percent.keepsEscapes_fragment cs
  simp only [queryAndFragment, SchemeKind.isSpecial, if_true]
  split
  · split
    · exact ⟨hquery _, by simp⟩
    · exact ⟨hquery _, hfragment _⟩
  · exact ⟨by simp, hfragment _⟩
  · exact ⟨by simp, by simp⟩

theorem specialQuery_plain {c : Char} (hascii : c.toNat < 0x80)
    (h : Percent.specialQuery c = false) :
    0x20 < c.toNat ∧ c ≠ '#' :=
  forall_ascii (P := fun c => Percent.specialQuery c = false → 0x20 < c.toNat ∧ c ≠ '#') (by decide)
    c hascii h

theorem IsTail.visible {query fragment : Option String} (h : IsTail query fragment) :
    ∀ c ∈ tailChars query fragment, 0x20 < c.toNat := by
  have hquery : ∀ q, query = some q → ∀ c ∈ '?' :: q.toList, 0x20 < c.toNat := by
    intro q hq c hc
    obtain rfl | hc := List.mem_cons.mp hc
    · decide
    · obtain ⟨hascii, hset⟩ := h.query q hq c hc
      exact (specialQuery_plain hascii hset).1
  have hfragment : ∀ f, fragment = some f → ∀ c ∈ '#' :: f.toList, 0x20 < c.toNat := by
    intro f hf c hc
    obtain rfl | hc := List.mem_cons.mp hc
    · decide
    · obtain ⟨hascii, hset⟩ := h.fragment f hf c hc
      exact forall_ascii (P := fun c => Percent.fragment c = false → 0x20 < c.toNat) (by decide) c
        hascii hset
  intro c hc
  obtain hc | hc := List.mem_append.mp hc
  · cases query with
    | none => cases hc
    | some q => exact hquery q rfl c hc
  · cases fragment with
    | none => cases hc
    | some f => exact hfragment f rfl c hc

theorem kept_of_visible {cs : List Char} (h : ∀ c ∈ cs, 0x20 < c.toNat) : kept cs = cs := by
  rw [kept, List.filter_eq_self]
  intro c hc
  have hvisible := h c hc
  have hne : ∀ d : Char, d.toNat ≤ 0x20 → c ≠ d := by
    rintro d hd rfl
    omega
  simp [Path.isBreak, hne '\t' (by decide), hne '\n' (by decide), hne '\r' (by decide)]

theorem queryAndFragment_tailChars {query fragment : Option String} (h : IsTail query fragment) :
    queryAndFragment .web (tailChars query fragment) = (query, fragment) := by
  have hfragment : ∀ f, fragment = some f →
      some (String.ofList (Percent.encode Percent.fragment f.toList)) = fragment := by
    rintro f rfl
    rw [Percent.encode_of_stands (h.fragment f rfl), String.ofList_toList]
  simp only [queryAndFragment, SchemeKind.isSpecial, if_true]
  cases hq : query with
  | none =>
    cases hf : fragment with
    | none => rfl
    | some f => simp [tailChars, ← hf, hfragment f hf]
  | some q =>
    have hstands := h.query q hq
    have hspan : ∀ rest : List Char, (∀ c ∈ rest.head?, (c != '#') = false) →
        (q.toList ++ rest).span (· != '#') = (q.toList, rest) := by
      refine fun rest => span_append fun c hc => ?_
      obtain ⟨hascii, hset⟩ := hstands c hc
      simpa using (specialQuery_plain hascii hset).2
    cases hf : fragment with
    | none =>
      have hnone := hspan [] (by simp)
      rw [List.append_nil] at hnone
      simp only [tailChars, List.append_nil, hnone,
        Percent.encode_of_stands hstands, String.ofList_toList]
    | some f =>
      have hsome := hspan ('#' :: f.toList) (by simp)
      simp only [tailChars, List.cons_append, hsome, Percent.encode_of_stands hstands,
        String.ofList_toList, hfragment f hf, hf]

/-! ## Paths -/

theorem Path.IsNormal.plain {path : List Char} (h : Path.IsNormal path) :
    ∀ c ∈ path, 0x20 < c.toNat ∧ c ≠ '?' ∧ c ≠ '#' := by
  have hsegment : ∀ segment, Path.IsSegment segment →
      ∀ c ∈ segment, 0x20 < c.toNat ∧ c ≠ '?' ∧ c ≠ '#' := by
    intro segment hsegment c hc
    obtain ⟨hascii, hset⟩ := hsegment.stands c hc
    exact forall_ascii (P := fun c => Percent.path c = false → 0x20 < c.toNat ∧ c ≠ '?' ∧ c ≠ '#')
      (by decide) c hascii hset
  obtain ⟨segments, last, hsegments, hlast, rfl⟩ := h
  intro c hc
  rw [Path.directory_append_eq_cons] at hc
  obtain rfl | hc := List.mem_cons.mp hc
  · decide
  · obtain rfl | ⟨segment, hmem, hc⟩ := mem_intercalate hc
    · decide
    · obtain hmem | hmem := List.mem_append.mp hmem
      · exact hsegment segment (hsegments segment hmem) c hc
      · exact hsegment segment (List.mem_singleton.mp hmem ▸ hlast) c hc

theorem Path.IsNormal.exists_cons {path : List Char} (h : Path.IsNormal path) :
    ∃ rest, path = '/' :: rest := by
  obtain ⟨segments, last, -, -, rfl⟩ := h
  exact ⟨_, Path.directory_append_eq_cons segments last⟩

theorem splitPath_append {path : List Char} (h : Path.IsNormal path)
    (query fragment : Option String) :
    splitPath (path ++ tailChars query fragment) = (path, tailChars query fragment) := by
  refine span_append (fun c hc => ?_) (fun c hc => ?_)
  · obtain ⟨-, hquestion, hhash⟩ := h.plain c hc
    simp [hquestion, hhash]
  · cases query with
    | some q => cases hc; rfl
    | none =>
      cases fragment with
      | some f => cases hc; rfl
      | none => cases hc

/-! ## URLs -/

/-- A URL under a scheme of the web whose parts are all kept as they are written. -/
structure IsNormal (url : Url) : Prop where
  kind : SchemeKind.of url.scheme = .web
  authority : ∃ a, url.authority = some a ∧ a.IsNormal url.scheme
  path : Path.IsNormal url.path.toList
  tail : IsTail url.query url.fragment

theorem withTail_eq (kind : SchemeKind) (rest : List Char) (scheme : String)
    (authority : Option Authority) (path : List Char) :
    withTail kind rest scheme authority path
      = ⟨scheme, authority, String.ofList path, (queryAndFragment kind (kept rest)).1,
          (queryAndFragment kind (kept rest)).2⟩ := rfl

theorem withTail_path (rest : List Char) (scheme : String) (authority : Option Authority)
    (path : List Char) : (withTail .web rest scheme authority path).path.toList = path :=
  String.toList_ofList

theorem isTail_withTail (rest : List Char) (scheme : String) (authority : Option Authority)
    (path : List Char) :
    IsTail (withTail .web rest scheme authority path).query
      (withTail .web rest scheme authority path).fragment :=
  isTail_queryAndFragment (kept rest)

theorem withTail_tailChars {query fragment : Option String} (h : IsTail query fragment)
    (scheme : String) (authority : Option Authority) (path : List Char) :
    withTail .web (tailChars query fragment) scheme authority path
      = ⟨scheme, authority, String.ofList path, query, fragment⟩ := by
  rw [withTail, kept_of_visible h.visible, queryAndFragment_tailChars h]

theorem parseAuthority_text {scheme : String} {authority : Authority} {path : List Char}
    {query fragment : Option String} (hauthority : authority.IsNormal scheme)
    (hpath : Path.IsNormal path) (htail : IsTail query fragment) :
    parseAuthority scheme .web (authority.text.toList ++ (path ++ tailChars query fragment))
      = .ok ⟨scheme, some authority, String.ofList path, query, fragment⟩ := by
  have hends : (authority.text.toList ++ (path ++ tailChars query fragment)).span (!endsAuthority ·)
      = (authority.text.toList, path ++ tailChars query fragment) := by
    refine span_append (fun c hc => by simp [(hauthority.text_plain c hc).1]) (fun c hc => ?_)
    obtain ⟨rest, rfl⟩ := hpath.exists_cons
    cases hc
    rfl
  obtain ⟨userinfo, colonPassword, hsplit, husername, hpassword⟩ := hauthority.splits
  rw [parseAuthority_web hends hsplit husername
      (hauthority.host.split _ authority.portChars_ends), readParts,
    if_neg (by simpa using hauthority.host.ne_nil), hauthority.host.parse, hauthority.readPort]
  simp only [List.nil_append, splitPath_append hpath, withTail_tailChars htail, hpassword,
    Percent.encode_of_stands hauthority.username, Percent.encode_of_stands hauthority.password,
    String.ofList_toList, Path.buildRooted_of_isNormal hpath]

theorem scheme_of_web {scheme : String} (h : SchemeKind.of scheme = .web) :
    scheme ∈ ["http", "https", "ws", "wss", "ftp"] := by
  rw [SchemeKind.of] at h
  split at h
  · cases h
  · split at h
    case isTrue hmem => simpa using hmem
    case isFalse => cases h

theorem scheme_plain : ∀ scheme ∈ ["http", "https", "ws", "wss", "ftp"],
    scheme.toList.head?.any Char.isAlpha = true
      ∧ ∀ c ∈ scheme.toList, c.isAlphanum = true ∧ c.toLower = c ∧ 0x20 < c.toNat := by
  have hall : ∀ scheme ∈ ["http", "https", "ws", "wss", "ftp"],
      scheme.toList.head?.any Char.isAlpha = true
        ∧ (scheme.toList.all fun c => c.isAlphanum && c.toLower == c && 0x20 < c.toNat) = true := by
    decide
  simpa only [List.all_eq_true, Bool.and_eq_true, beq_iff_eq, decide_eq_true_eq, and_assoc]
    using hall

theorem splitScheme?_append {scheme : String} (h : SchemeKind.of scheme = .web) (rest : List Char) :
    splitScheme? (scheme.toList ++ ':' :: rest) = some (scheme, rest) := by
  obtain ⟨hfirst, hplain⟩ := scheme_plain scheme (scheme_of_web h)
  have hspan : (scheme.toList ++ ':' :: rest).span
      (fun c => (c.isAlphanum || c == '+' || c == '-' || c == '.') || Path.isBreak c)
        = (scheme.toList, ':' :: rest) :=
    span_append (fun c hc => by simp [(hplain c hc).1]) (by simp [Path.isBreak])
  have hkept : kept scheme.toList = scheme.toList :=
    kept_of_visible fun c hc => (hplain c hc).2.2
  have hlower : scheme.toList.map Char.toLower = scheme.toList := by
    rw [List.map_congr_left fun c hc => (hplain c hc).2.1, List.map_id']
  obtain ⟨first, hhead, halpha⟩ := Option.any_eq_true _ _ |>.mp hfirst
  simp only [splitScheme?, hspan, hkept, hhead, halpha, if_true, hlower, String.ofList_toList]

theorem trimmed_ofList {cs : List Char} (hfirst : ∀ c ∈ cs.head?, 0x20 < c.toNat)
    (hlast : ∀ c ∈ cs.getLast?, 0x20 < c.toNat) : trimmed (String.ofList cs) = cs := by
  have hdrop : ∀ ds : List Char, (∀ c ∈ ds.head?, 0x20 < c.toNat) →
      ds.dropWhile (fun c => decide (c.toNat ≤ 0x20)) = ds := by
    intro ds hds
    cases ds with
    | nil => rfl
    | cons c ds =>
      have hc := hds c rfl
      rw [List.dropWhile_cons_of_neg (by simpa using hc)]
  rw [trimmed, String.toList_ofList, hdrop cs hfirst, hdrop cs.reverse, List.reverse_reverse]
  rw [List.head?_reverse]
  exact hlast

theorem text_toList {url : Url} {authority : Authority} (h : url.authority = some authority) :
    url.text.toList
      = url.scheme.toList ++ ':' :: '/' :: '/' :: (authority.text.toList
          ++ (url.path.toList ++ tailChars url.query url.fragment)) := by
  simp only [text, textToPath, authorityText, h, tailChars]
  cases url.query <;> cases url.fragment <;> simp

theorem path_eq_of_text_eq {url other : Url} {authority : Authority}
    (hauthority : url.authority = some authority) (hother : other.authority = some authority)
    (hscheme : url.scheme = other.scheme) (hpath : Path.IsNormal url.path.toList)
    (hpath' : Path.IsNormal other.path.toList) (h : url.text = other.text) :
    url.path = other.path := by
  have htext := congrArg String.toList h
  rw [text_toList hauthority, text_toList hother, hscheme] at htext
  have hrest : url.path.toList ++ tailChars url.query url.fragment
      = other.path.toList ++ tailChars other.query other.fragment := by
    simpa using htext
  have hsplit := splitPath_append hpath url.query url.fragment
  rw [hrest, splitPath_append hpath'] at hsplit
  exact String.toList_inj.mp (congrArg Prod.fst hsplit).symm

theorem IsNormal.text_visible {url : Url} (h : url.IsNormal) :
    ∀ c ∈ url.text.toList, 0x20 < c.toNat := by
  obtain ⟨authority, hauthority, hnormal⟩ := h.authority
  have hscheme := (scheme_plain url.scheme (scheme_of_web h.kind)).2
  intro c hc
  rw [text_toList hauthority] at hc
  simp only [List.mem_append, List.mem_cons] at hc
  obtain hc | rfl | rfl | rfl | hc | hc | hc := hc
  · exact (hscheme c hc).2.2
  · decide
  · decide
  · decide
  · exact (hnormal.text_plain c hc).2
  · exact (h.path.plain c hc).1
  · exact h.tail.visible c hc

theorem IsNormal.trimmed_text {url : Url} (h : url.IsNormal) :
    trimmed url.text = url.text.toList := by
  have hedges := trimmed_ofList (fun c hc => h.text_visible c (List.mem_of_head? hc))
    (fun c hc => h.text_visible c (List.mem_of_getLast? hc))
  rwa [String.ofList_toList] at hedges

theorem length_takeWhile_slashes {scheme : String} {authority : Authority}
    (h : authority.IsNormal scheme) (rest : List Char) :
    (('/' :: '/' :: (authority.text.toList ++ rest)).takeWhile
      fun c => c == '/' || c == '\\').length = 2 := by
  have hne : authority.text.toList ≠ [] := by
    rw [Authority.text_toList]
    simp [h.host.ne_nil]
  obtain ⟨c, cs, hcs⟩ := List.exists_cons_of_ne_nil hne
  have hends : endsAuthority c = false :=
    (h.text_plain c (by rw [hcs]; exact List.mem_cons_self)).1
  have hstop : (c == '/' || c == '\\') = false := by
    simp only [endsAuthority, Bool.or_eq_false_iff] at hends ⊢
    exact ⟨hends.1.1.1, hends.2⟩
  rw [hcs]
  simp [hstop]

/-- The text of a URL in its normal form is read as that URL. -/
theorem parse_text {url : Url} (h : url.IsNormal) : parse url.text = .ok url := by
  obtain ⟨authority, hauthority, hnormal⟩ := h.authority
  have hvisible := h.text_visible
  have htrimmed := h.trimmed_text
  rw [text_toList hauthority] at htrimmed hvisible
  have hkept : kept ('/' :: '/' :: (authority.text.toList
      ++ (url.path.toList ++ tailChars url.query url.fragment)))
      = '/' :: '/' :: (authority.text.toList
          ++ (url.path.toList ++ tailChars url.query url.fragment)) :=
    kept_of_visible fun c hc =>
      hvisible c (List.mem_append_right _ (List.mem_cons_of_mem ':' hc))
  rw [parse, parseReference, htrimmed, splitScheme?_append h.kind]
  simp only [parseWithScheme, h.kind, hkept]
  rw [length_takeWhile_slashes hnormal]
  simp only [Option.filter_none, List.drop_succ_cons, List.drop_zero]
  rw [parseAuthority_text hnormal h.path h.tail, String.ofList_toList, ← hauthority]

theorem parseAuthority_scheme {scheme : String} {kind : SchemeKind} {input : List Char} {url : Url}
    (h : parseAuthority scheme kind input = .ok url) : url.scheme = scheme := by
  have hbind : ∀ {α : Type} {x : Except ParseError α} {f : α → Except ParseError Url},
      (∀ a, f a = .ok url → url.scheme = scheme) → (x >>= f) = .ok url → url.scheme = scheme := by
    intro α x f hf hx
    cases x with
    | error e => cases hx
    | ok a => exact hf a hx
  have hguard : ∀ {c : Bool} {x : Except ParseError Url}, (x = .ok url → url.scheme = scheme) →
      (if c = true then throw .emptyHost else x) = .ok url → url.scheme = scheme := by
    intro c x hf hx
    cases c with
    | true => cases hx
    | false => exact hf hx
  have heither : ∀ {c : Bool} {x y : Except ParseError Url}, (x = .ok url → url.scheme = scheme) →
      (y = .ok url → url.scheme = scheme) →
      (if c = true then x else y) = .ok url → url.scheme = scheme := by
    intro c x y hx hy h
    cases c with
    | true => exact hx h
    | false => exact hy h
  have hdone : ∀ {host port path rest username password},
      Except.ok (ε := ParseError) (withTail kind rest scheme
        (some ⟨username, password, host, port⟩) path) = .ok url → url.scheme = scheme := by
    intro host port path rest username password h
    cases h
    rfl
  -- The two ways to read a host, and for each the ways to go on without a port and with one.
  simp only [parseAuthority] at h
  refine hguard (hguard (heither (hbind fun host => hguard (heither ?_ ?_))
    (hbind fun host => hguard (heither ?_ ?_)))) h
  · exact fun h => hguard hdone h
  · exact fun h => hbind (fun port => hguard hdone) h
  · exact fun h => hguard hdone h
  · exact fun h => hbind (fun port => hguard hdone) h

theorem isNormal_of_readParts {scheme : String}
    {username password hostText portText rest : List Char} {url : Url}
    (hkind : SchemeKind.of scheme = .web)
    (h : readParts scheme username password hostText portText rest = .ok url) : url.IsNormal := by
  rw [readParts] at h
  split at h
  case isTrue => cases h
  case isFalse =>
    split at h
    case h_2 => cases h
    case h_3 => cases h
    case h_1 host port left hhost hport =>
      cases h
      refine ⟨hkind, ⟨_, rfl, ?_⟩, ?_, isTail_withTail _ _ _ _⟩
      · refine ⟨?_, ?_, Host.isNormal_of_parseDomain hhost, isPort_of_readPort hport⟩
        · simpa using Percent.stands_encode Percent.keepsEscapes_userinfo username
        · simpa using Percent.stands_encode Percent.keepsEscapes_userinfo password
      · rw [withTail_path]
        exact Path.isNormal_buildRooted _

theorem isNormal_of_parseAuthority {scheme : String} {input : List Char} {url : Url}
    (hkind : SchemeKind.of scheme = .web) (h : parseAuthority scheme .web input = .ok url) :
    url.IsNormal := by
  rw [parseAuthority_web rfl rfl rfl rfl] at h
  exact isNormal_of_readParts hkind h

theorem parseFileHost_scheme {input : List Char} {url : Url} (h : parseFileHost input = .ok url) :
    url.scheme = "file" := by
  simp only [parseFileHost] at h
  split at h
  · cases h
    rfl
  · cases hhost : Host.parseDomain (kept (input.span fun c =>
        !(c == '/' || c == '\\' || c == '?' || c == '#')).1) with
    | error e => rw [hhost] at h; cases h
    | ok host =>
      rw [hhost] at h
      simp only [Bind.bind, Except.bind] at h
      split at h <;> cases h <;> rfl

theorem parseFile_scheme {input : List Char} {url : Url} (h : parseFile none input = .ok url) :
    url.scheme = "file" := by
  simp only [parseFile] at h
  split at h
  · split at h
    · exact parseFileHost_scheme h
    · cases h
      rfl
  · cases h
    rfl

theorem parseWithScheme_scheme {scheme : String} {input : List Char} {url : Url}
    (h : parseWithScheme none scheme input = .ok url) : url.scheme = scheme := by
  simp only [parseWithScheme] at h
  split at h
  case h_1 hkind =>
    have hfile : scheme = "file" := by
      rw [SchemeKind.of] at hkind
      split at hkind
      case isTrue heq => simpa using heq
      case isFalse => split at hkind <;> cases hkind
    rw [hfile]
    exact parseFile_scheme h
  case h_2 => exact parseAuthority_scheme h
  case h_3 =>
    split at h
    · exact parseAuthority_scheme h
    · cases h
      rfl
    · cases h
      rfl

/-- Every URL that is read under a scheme of the web is in its normal form. -/
theorem isNormal_of_parse {text : String} {url : Url} (h : parse text = .ok url)
    (hkind : SchemeKind.of url.scheme = .web) : url.IsNormal := by
  rw [parse, parseReference] at h
  split at h
  case h_2 => cases h
  case h_1 scheme rest _ =>
    have hscheme := parseWithScheme_scheme h
    rw [hscheme] at hkind
    simp only [parseWithScheme, hkind, Option.filter_none] at h
    exact isNormal_of_parseAuthority hkind h

end ClusterClient.Url
