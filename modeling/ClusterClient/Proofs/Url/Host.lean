import ClusterClient.Url.Parser
import ClusterClient.Proofs.Url.Addresses

/-!
# Hosts and their texts

A host that was read from a text is written as a text that is read as the same host, wherever that
text stands in an authority: a name stays in small letters and keeps clear of whatever ends or
divides an authority, and so do the two kinds of addresses.
-/

namespace ClusterClient.Url.Host

/-! ## Characters of hosts -/

/-- The characters that the text of a host may have: none of them ends an authority, divides it or
is dropped. -/
def isPlain (c : Char) : Bool :=
  0x20 < c.toNat && c.toNat < 0x80 && !(['/', '?', '#', '\\', '@'].contains c)

theorem isPlain_of_not_forbidden {c : Char} (hascii : c.toNat < 0x80)
    (h : forbiddenInDomain c = false) : isPlain c = true :=
  forall_ascii (P := fun c => forbiddenInDomain c = false → isPlain c = true) (by decide) c hascii h

theorem isPlain_of_isHexDigit {c : Char} (h : isHexDigit c = true) : isPlain c = true :=
  forall_ascii (P := fun c => isHexDigit c = true → isPlain c = true) (by decide) c
    (isHexDigit_ascii h) h

/-! ## Names -/

theorem parseDomain_eq {cs : List Char} (hbracket : cs.head? ≠ some '[')
    (hplain : ∀ c ∈ cs, c.toNat < 0x80 ∧ c ≠ '%') (hlower : cs.map Char.toLower = cs) :
    parseDomain cs
      = if !isDomain cs then .error .invalidDomain
        else if cs.isEmpty then .error .emptyHost
        else if endsInNumber cs then
          match ipv4? cs with
          | some address => .ok (.ipv4 address)
          | none => .error .invalidIpv4
        else .ok (.name (String.ofList cs)) := by
  have hdecode : Percent.decode (Bytes.ofString (String.ofList cs)) =
      Bytes.ofString (String.ofList cs) := by
    apply Percent.decode_eq_self
    intro b hb
    rw [Bytes.ofString_ofList] at hb
    obtain ⟨c, hc, hb⟩ := List.mem_flatMap.mp hb
    obtain ⟨hascii, hne⟩ := hplain c hc
    rw [Bytes.utf8EncodeChar_ascii hascii, List.mem_singleton] at hb
    exact hb ▸ Percent.octet_ne_percent hascii hne
  rw [parseDomain, if_neg (by simpa using hbracket), hdecode, Bytes.toString?_ofString]
  cases haddress : ipv4? cs <;> simp only [String.toList_ofList, hlower, haddress]

theorem forbidden_of_isDomain {cs : List Char} (h : isDomain cs = true) :
    ∀ c ∈ cs, c.toNat < 0x80 ∧ forbiddenInDomain c = false := by
  intro c hc
  simp only [isDomain, Bool.and_eq_true, Bool.not_eq_true', List.any_eq_false, Bool.or_eq_true,
    decide_eq_true_eq, not_or] at h
  have := h.1 c hc
  exact ⟨by omega, by simpa using this.1⟩

theorem parseDomain_name {cs : List Char} (hdomain : isDomain cs = true) (hne : cs ≠ [])
    (hnumber : endsInNumber cs = false) (hlower : cs.map Char.toLower = cs) :
    parseDomain cs = .ok (.name (String.ofList cs)) := by
  have hforbidden := forbidden_of_isDomain hdomain
  rw [parseDomain_eq ?_ ?_ hlower]
  · simp [hdomain, hne, hnumber]
  · intro h
    have := (hforbidden '[' (List.mem_of_head? h)).2
    cases this
  · intro c hc
    refine ⟨(hforbidden c hc).1, fun h => ?_⟩
    have := (hforbidden c hc).2
    rw [h] at this
    cases this

/-! ## IPv4 addresses -/

theorem ipv4Text_plain {address : Nat} {c : Char} (h : c ∈ (ipv4Text address).toList) :
    c.toNat < 0x80 ∧ forbiddenInDomain c = false ∧ c ≠ '%' ∧ c ≠ 'x' ∧ c.toLower = c := by
  have hc := mem_ipv4Text h
  have hascii : c.toNat < 0x80 := by
    obtain hc | rfl := hc
    · exact ascii_of_isDigit hc
    · decide
  refine ⟨hascii, ?_⟩
  exact forall_ascii
    (P := fun c => c.isDigit = true ∨ c = '.' →
      forbiddenInDomain c = false ∧ c ≠ '%' ∧ c ≠ 'x' ∧ c.toLower = c) (by decide) c hascii hc

theorem isDomain_ipv4Text (address : Nat) : isDomain (ipv4Text address).toList = true := by
  have hlabels : Label.areDomain (splitWhere (· == '.') (ipv4Text address).toList) = true := by
    rw [Label.areDomain, if_neg]
    simp only [List.any_eq_true, not_exists, not_and]
    intro part hpart hencoded
    obtain ⟨rest, rfl⟩ := List.isPrefixOf_iff_prefix.mp hencoded
    have hx := (of_mem_splitWhere hpart 'x' (by simp [Label.encodedFront])).1
    exact (ipv4Text_plain hx).2.2.2.1 rfl
  have hplain : (ipv4Text address).toList.any
      (fun c => forbiddenInDomain c || decide (0x80 ≤ c.toNat)) = false := by
    rw [List.any_eq_false]
    intro c hc
    obtain ⟨hascii, hforbidden, -⟩ := ipv4Text_plain hc
    simp [hforbidden, hascii]
  rw [isDomain, hplain, hlabels]
  rfl

theorem parseDomain_ipv4Text {address : Nat} (h : address < 2 ^ 32) :
    parseDomain (ipv4Text address).toList = .ok (.ipv4 address) := by
  have hne : (ipv4Text address).toList ≠ [] := by
    intro heq
    have hlabels := labels_ipv4Text address
    rw [heq] at hlabels
    exact absurd (congrArg List.length hlabels) (by simp [octetsOf, labels, splitWhere])
  rw [parseDomain_eq ?_ ?_ ?_]
  · simp only [isDomain_ipv4Text, Bool.not_true, Bool.false_eq_true, if_false,
      List.isEmpty_eq_false_iff.mpr hne, endsInNumber_ipv4Text, if_true, ipv4?_ipv4Text h]
  · intro hhead
    have := (ipv4Text_plain (List.mem_of_head? hhead)).2.1
    cases this
  · exact fun c hc => ⟨(ipv4Text_plain hc).1, (ipv4Text_plain hc).2.2.1⟩
  · rw [List.map_congr_left fun c hc => (ipv4Text_plain hc).2.2.2.2, List.map_id']

/-! ## Hosts in their normal form -/

theorem splitHost_append {cs : List Char} (h : ∀ c ∈ cs, c ≠ ':' ∧ c ≠ '[' ∧ c ≠ ']')
    (inBrackets : Bool) (rest : List Char) :
    splitHost inBrackets (cs ++ rest)
      = (cs ++ (splitHost inBrackets rest).1, (splitHost inBrackets rest).2) := by
  induction cs with
  | nil => rfl
  | cons c cs ih =>
    obtain ⟨hcolon, hopen, hclose⟩ := h c List.mem_cons_self
    simp [splitHost, hcolon, hopen, hclose, ih fun d hd => h d (List.mem_cons_of_mem c hd)]

theorem splitHost_brackets {cs : List Char} (h : ∀ c ∈ cs, c ≠ '[' ∧ c ≠ ']') (rest : List Char) :
    splitHost true (cs ++ rest)
      = (cs ++ (splitHost true rest).1, (splitHost true rest).2) := by
  induction cs with
  | nil => rfl
  | cons c cs ih =>
    obtain ⟨hopen, hclose⟩ := h c List.mem_cons_self
    simp [splitHost, hopen, hclose, ih fun d hd => h d (List.mem_cons_of_mem c hd)]

/-- What may follow a host in an authority: nothing, or a colon and a port. -/
def Ends (rest : List Char) : Prop := rest = [] ∨ ∃ port, rest = ':' :: port

theorem splitHost_of_ends {rest : List Char} (h : Ends rest) :
    splitHost false rest = ([], rest) := by
  obtain rfl | ⟨port, rfl⟩ := h <;> rfl

/-- A host whose text is read as the host, wherever it stands in an authority. -/
structure IsNormal (host : Host) : Prop where
  parse : parseDomain host.text.toList = .ok host
  plain : ∀ c ∈ host.text.toList, isPlain c = true
  split : ∀ rest, Ends rest → splitHost false (host.text.toList ++ rest) = (host.text.toList, rest)

theorem IsNormal.ne_nil {host : Host} (h : host.IsNormal) : host.text.toList ≠ [] := by
  intro heq
  have hparse := h.parse
  rw [heq, parseDomain_eq (by simp) (by simp) rfl] at hparse
  cases hparse

theorem isNormal_name {cs : List Char} (hdomain : isDomain cs = true) (hne : cs ≠ [])
    (hnumber : endsInNumber cs = false) (hlower : cs.map Char.toLower = cs) :
    IsNormal (.name (String.ofList cs)) := by
  have hforbidden := forbidden_of_isDomain hdomain
  have hcs : (Host.name (String.ofList cs)).text.toList = cs := String.toList_ofList
  refine ⟨?_, ?_, ?_⟩
  · rw [hcs]
    exact parseDomain_name hdomain hne hnumber hlower
  · rw [hcs]
    exact fun c hc => isPlain_of_not_forbidden (hforbidden c hc).1 (hforbidden c hc).2
  · intro rest hrest
    rw [hcs, splitHost_append ?_, splitHost_of_ends hrest, List.append_nil]
    intro c hc
    have hno := (hforbidden c hc).2
    refine ⟨?_, ?_, ?_⟩ <;> rintro rfl <;> cases hno

theorem isNormal_ipv4 {address : Nat} (h : address < 2 ^ 32) : IsNormal (.ipv4 address) := by
  refine ⟨parseDomain_ipv4Text h, ?_, ?_⟩
  · intro c hc
    obtain ⟨hascii, hforbidden, -⟩ := ipv4Text_plain hc
    exact isPlain_of_not_forbidden hascii hforbidden
  · intro rest hrest
    change splitHost false ((ipv4Text address).toList ++ rest) = ((ipv4Text address).toList, rest)
    rw [splitHost_append ?_, splitHost_of_ends hrest, List.append_nil]
    intro c hc
    have hno := (ipv4Text_plain hc).2.1
    refine ⟨?_, ?_, ?_⟩ <;> rintro rfl <;> cases hno

theorem isNormal_ipv6 {groups : List Nat} (h : ∀ g ∈ groups, g < 65536)
    (hlength : groups.length = 8) : IsNormal (.ipv6 groups) := by
  have htext : (Host.ipv6 groups).text.toList = '[' :: ((ipv6Text groups).toList ++ [']']) := by
    simp [text]
  refine ⟨?_, ?_, ?_⟩
  · have hlast : ('[' :: ((ipv6Text groups).toList ++ [']'])).getLast? = some ']' := by
      rw [← List.cons_append, List.getLast?_append]
      rfl
    rw [htext, parseDomain, if_pos (by simp), bracketed?, if_pos (by rw [hlast]; rfl)]
    simp [ipv6?_ipv6Text h hlength]
  · intro c hc
    rw [htext] at hc
    simp only [List.mem_cons, List.mem_append, List.not_mem_nil, or_false] at hc
    obtain rfl | hc | rfl := hc
    · decide
    · obtain hc | rfl := mem_ipv6Text hc
      · exact isPlain_of_isHexDigit hc
      · decide
    · decide
  · intro rest hrest
    have hinside : ∀ c ∈ (ipv6Text groups).toList, c ≠ '[' ∧ c ≠ ']' := by
      intro c hc
      obtain hc | rfl := mem_ipv6Text hc
      · exact ⟨isHexDigit_ne hc (by decide), isHexDigit_ne hc (by decide)⟩
      · decide
    have hclose : splitHost true (']' :: rest) = ([']'], rest) := by
      simp [splitHost, splitHost_of_ends hrest]
    have hbrackets := splitHost_brackets hinside (']' :: rest)
    rw [hclose] at hbrackets
    rw [htext, List.cons_append, List.append_assoc, List.singleton_append, splitHost]
    simp [hbrackets]

theorem toLower_toLower (c : Char) : c.toLower.toLower = c.toLower := by
  by_cases hc : c.toNat < 0x80
  · exact forall_ascii (P := fun c => c.toLower.toLower = c.toLower) (by decide) c hc
  · have hself : c.toLower = c := by
      refine dif_neg ?_
      rintro ⟨-, hle⟩
      exact hc (Nat.lt_of_le_of_lt (show c.toNat ≤ 'Z'.toNat from hle) (by decide))
    rw [hself, hself]

theorem isNormal_of_bracketed? {cs : List Char} {host : Host} (h : bracketed? cs = .ok host) :
    host.IsNormal := by
  rw [bracketed?] at h
  split at h
  case isFalse => cases h
  case isTrue =>
    split at h
    case h_2 => cases h
    case h_1 groups hgroups =>
      cases h
      obtain ⟨hlength, hlt⟩ := ipv6?_groups hgroups
      exact isNormal_ipv6 hlt hlength

/-- Every host that is read under a scheme of the web is in its normal form. -/
theorem isNormal_of_parseDomain {cs : List Char} {host : Host} (h : parseDomain cs = .ok host) :
    host.IsNormal := by
  rw [parseDomain] at h
  split at h
  case isTrue => exact isNormal_of_bracketed? h
  case isFalse =>
    split at h
    case h_1 => cases h
    case h_2 name _ =>
      have hlower : (name.toList.map Char.toLower).map Char.toLower =
          name.toList.map Char.toLower := by
        rw [List.map_map]
        exact List.map_congr_left fun c _ => toLower_toLower c
      generalize name.toList.map Char.toLower = folded at h hlower
      simp only at h
      split at h
      case isTrue => cases h
      case isFalse hdomain =>
        split at h
        case isTrue => cases h
        case isFalse hne =>
          have hdomain : isDomain folded = true := by simpa using hdomain
          have hne : folded ≠ [] := by simpa using hne
          split at h
          case isFalse hnumber =>
            cases h
            exact isNormal_name hdomain hne (by simpa using hnumber) hlower
          case isTrue =>
            split at h
            case h_2 => cases h
            case h_1 address haddress =>
              cases h
              rw [ipv4?] at haddress
              split at haddress
              case isTrue => cases haddress
              case isFalse hcount =>
                obtain ⟨numbers, hnumbers, hjoin⟩ := Option.bind_eq_some_iff.mp haddress
                have hlength := length_of_mapM hnumbers
                exact isNormal_ipv4 (joinIpv4?_lt (by omega) hjoin)

end ClusterClient.Url.Host
