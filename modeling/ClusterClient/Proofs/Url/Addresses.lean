import Mathlib.Algebra.GroupWithZero.Nat
import ClusterClient.Proofs.Url.Percent
import ClusterClient.Proofs.Url.Splits

/-!
# Addresses and their texts

An IPv4 address is written as four decimal numbers, an IPv6 address as eight groups with the longest
run of zeros left out. Both are read back from what is written.
-/

namespace ClusterClient.Url.Host

/-! ## Numbers -/

theorem value?_digitChar : ∀ n < 16, Hex.value? n.digitChar = some n := by decide

theorem digits?_append_singleton {base v d : Nat} {cs : List Char} {c : Char}
    (hcs : digits? base cs = some v) (hc : Hex.value? c = some d) (hd : d < base) :
    digits? base (cs ++ [c]) = some (v * base + d) := by
  rw [digits?] at hcs ⊢
  rw [List.foldlM_append, hcs]
  simp [hc, hd]

theorem digits?_toDigits {base : Nat} (hbase : 1 < base) (hle : base ≤ 16) (n : Nat) :
    digits? base (Nat.toDigits base n) = some n := by
  induction n using Nat.strongRecOn with
  | _ n ih =>
    by_cases hn : n < base
    · rw [Nat.toDigits_of_lt_base hn]
      have hnil : digits? base [] = some 0 := rfl
      have h := digits?_append_singleton hnil (value?_digitChar n (by omega)) hn
      simpa using h
    · have hlt : n / base < n := Nat.div_lt_self (by omega) hbase
      have hmod : n % base < base := Nat.mod_lt n (by omega)
      rw [Nat.toDigits_of_base_le hbase (by omega),
        digits?_append_singleton (ih _ hlt) (value?_digitChar _ (by omega)) hmod,
        Nat.div_add_mod']

theorem head?_toDigits {base n : Nat} (hbase : 1 < base) (hn : n ≠ 0) :
    (Nat.toDigits base n).head? ≠ some '0' := by
  induction n using Nat.strongRecOn with
  | _ n ih =>
    by_cases hlt : n < base
    · rw [Nat.toDigits_of_lt_base hlt, List.head?_cons]
      intro h
      exact hn (Nat.digitChar_eq_zero.mp (Option.some.inj h))
    · have hdiv : n / base ≠ 0 := by
        have := Nat.div_pos (Nat.le_of_not_lt hlt) (by omega : 0 < base)
        omega
      have hhead := ih (n / base) (Nat.div_lt_self (by omega) hbase) hdiv
      rw [Nat.toDigits_of_base_le hbase (Nat.le_of_not_lt hlt)]
      obtain ⟨c, cs, hcs⟩ :=
        List.exists_cons_of_ne_nil (Nat.toDigits_ne_nil (n := n / base) (b := base))
      rw [hcs] at hhead ⊢
      exact hhead

theorem ipv4Number?_toDigits (n : Nat) : ipv4Number? (Nat.toDigits 10 n) = some n := by
  have hdigits := digits?_toDigits (by decide : 1 < 10) (by decide) n
  by_cases hn : n = 0
  · subst hn; decide
  · have hhead := head?_toDigits (by decide : 1 < 10) hn
    match hcs : Nat.toDigits 10 n with
    | [] => exact absurd hcs Nat.toDigits_ne_nil
    | c :: cs =>
      rw [hcs] at hhead hdigits
      have hc : c ≠ '0' := fun h => hhead (by rw [h]; rfl)
      rw [← hdigits]
      unfold ipv4Number?
      split <;> simp_all

/-- Whether a character may stand in the groups of an IPv6 address. -/
def isHexDigit (c : Char) : Bool := ('0' ≤ c && c ≤ '9') || ('a' ≤ c && c ≤ 'f')

theorem isHexDigit_digitChar : ∀ n < 16, isHexDigit n.digitChar = true := by decide

theorem isHexDigit_of_mem_toDigits {base n : Nat} {c : Char} (hbase : 1 < base) (hle : base ≤ 16)
    (h : c ∈ Nat.toDigits base n) : isHexDigit c = true := by
  induction n using Nat.strongRecOn with
  | _ n ih =>
    by_cases hn : n < base
    · rw [Nat.toDigits_of_lt_base hn, List.mem_singleton] at h
      exact h ▸ isHexDigit_digitChar n (by omega)
    · rw [Nat.toDigits_of_base_le hbase (by omega), List.mem_append, List.mem_singleton] at h
      have hmod : n % base < base := Nat.mod_lt n (by omega)
      obtain h | h := h
      · exact ih _ (Nat.div_lt_self (by omega) hbase) h
      · exact h ▸ isHexDigit_digitChar _ (by omega)

theorem isHexDigit_ascii {c : Char} (h : isHexDigit c = true) : c.toNat < 0x80 := by
  simp only [isHexDigit, Bool.or_eq_true, Bool.and_eq_true, decide_eq_true_eq] at h
  obtain ⟨-, h⟩ | ⟨-, h⟩ := h
  · exact Nat.lt_of_le_of_lt (show c.toNat ≤ '9'.toNat from h) (by decide)
  · exact Nat.lt_of_le_of_lt (show c.toNat ≤ 'f'.toNat from h) (by decide)

theorem isHexDigit_ne {c d : Char} (h : isHexDigit c = true) (hd : isHexDigit d = false) :
    c ≠ d := by
  intro heq
  rw [heq, hd] at h
  cases h

/-! ## IPv4 addresses -/

theorem joinIpv4?_lt {numbers : List Nat} {address : Nat} (hlength : numbers.length ≤ 4)
    (h : joinIpv4? numbers = some address) : address < 2 ^ 32 := by
  have hfold : ∀ (ns : List Nat) (v k : Nat), v < 256 ^ k → (∀ n ∈ ns, n < 256) →
      ns.foldl (fun value n => value * 256 + n) v < 256 ^ (k + ns.length) := by
    intro ns
    induction ns with
    | nil => intro v k hv _; simpa using hv
    | cons n ns ih =>
      intro v k hv hns
      have hn := hns n List.mem_cons_self
      have hnext : v * 256 + n < 256 ^ (k + 1) := by rw [Nat.pow_succ]; omega
      have := ih _ (k + 1) hnext fun m hm => hns m (List.mem_cons_of_mem n hm)
      simpa [Nat.add_assoc, Nat.add_comm 1] using this
  rw [joinIpv4?] at h
  split at h
  case h_1 => cases h
  case h_2 last hlast =>
    simp only [Bool.and_eq_true, decide_eq_true_eq] at h
    split at h
    case isFalse => cases h
    case isTrue hlt =>
      cases h
      obtain ⟨hlast, hheads⟩ := hlt
      have hheads := hfold numbers.dropLast 0 0 (by decide) (by simpa using hheads)
      have hle : numbers.dropLast.length ≤ 3 := by rw [List.length_dropLast]; omega
      generalize numbers.dropLast.foldl _ 0 = value at hheads ⊢
      generalize numbers.dropLast.length = k at *
      have hall : k + (4 - k) = 4 := by omega
      have hpow : 256 ^ k * 256 ^ (4 - k) = 2 ^ 32 :=
        calc
          256 ^ k * 256 ^ (4 - k) = 256 ^ (k + (4 - k)) := (Nat.pow_add 256 k (4 - k)).symm
          _ = 256 ^ 4 := congrArg (256 ^ ·) hall
          _ = 2 ^ 32 := by decide
      have hmul : (value + 1) * 256 ^ (4 - k) ≤ 256 ^ k * 256 ^ (4 - k) :=
        Nat.mul_le_mul_right _ (by simpa [Nat.succ_le_iff] using hheads)
      have hexpand : (value + 1) * 256 ^ (4 - k) = value * 256 ^ (4 - k) + 256 ^ (4 - k) :=
        Nat.succ_mul _ _
      have heq : ∀ k, Nat.pow 256 k = 256 ^ k := fun _ => rfl
      rw [heq] at hlast ⊢
      omega

def octetsOf (address : Nat) : List Nat :=
  [address >>> 24, address >>> 16, address >>> 8, address].map (· % 256)

theorem ipv4Text_toList (address : Nat) :
    (ipv4Text address).toList
      = List.intercalate ['.'] ((octetsOf address).map (Nat.toDigits 10)) := by
  simp [ipv4Text, octetsOf]

theorem joinIpv4?_octetsOf {address : Nat} (h : address < 2 ^ 32) :
    joinIpv4? (octetsOf address) = some address := by
  have heads : ∀ n : Nat, n % 256 < 256 := fun n => Nat.mod_lt n (by decide)
  simp only [joinIpv4?, octetsOf, List.map_cons, List.map_nil, List.getLast?_cons_cons,
    List.getLast?_singleton, List.dropLast_cons_cons, List.dropLast_singleton, List.length_cons,
    List.length_nil, List.all_cons, List.all_nil, heads, decide_true, Bool.and_true,
    List.foldl_cons, List.foldl_nil, Nat.shiftRight_eq_div_pow]
  rw [if_pos (by simp)]
  congr 1
  simp only [Nat.zero_add, Nat.reduceAdd, Nat.reduceSub, Nat.pow_eq, Nat.reducePow] at *
  omega

theorem splitWhere_ipv4Text (address : Nat) :
    splitWhere (· == '.') (ipv4Text address).toList
      = (octetsOf address).map (Nat.toDigits 10) := by
  rw [ipv4Text_toList]
  apply splitWhere_intercalate (by decide) (by simp [octetsOf])
  intro part hpart c hc
  obtain ⟨n, -, rfl⟩ := List.mem_map.mp hpart
  have hdigit := isHexDigit_of_mem_toDigits (by omega) (by omega) hc
  simpa using isHexDigit_ne (d := '.') hdigit (by decide)

theorem labels_ipv4Text (address : Nat) :
    labels (ipv4Text address).toList = (octetsOf address).map (Nat.toDigits 10) := by
  rw [labels, splitWhere_ipv4Text, if_neg]
  simp [octetsOf, Nat.toDigits_ne_nil]

theorem mem_ipv4Text {address : Nat} {c : Char} (h : c ∈ (ipv4Text address).toList) :
    c.isDigit = true ∨ c = '.' := by
  rw [ipv4Text_toList] at h
  obtain h | ⟨part, hpart, hc⟩ := mem_intercalate h
  · exact .inr h
  · obtain ⟨n, -, rfl⟩ := List.mem_map.mp hpart
    exact .inl (Nat.isDigit_of_mem_toDigits (by decide) (by decide) hc)

theorem ascii_of_isDigit {c : Char} (h : c.isDigit = true) : c.toNat < 0x80 := by
  simp only [Char.isDigit, Bool.and_eq_true, decide_eq_true_eq] at h
  exact Nat.lt_of_le_of_lt (show c.toNat ≤ '9'.toNat from h.2) (by decide)

theorem endsInNumber_ipv4Text (address : Nat) : endsInNumber (ipv4Text address).toList = true := by
  have hdigits : (Nat.toDigits 10 (address % 256)).all Char.isDigit = true := by
    rw [List.all_eq_true]
    exact fun c hc => Nat.isDigit_of_mem_toDigits (by decide) (by decide) hc
  rw [endsInNumber, labels_ipv4Text]
  simp [octetsOf, hdigits, Nat.toDigits_ne_nil]

theorem ipv4?_ipv4Text {address : Nat} (h : address < 2 ^ 32) :
    ipv4? (ipv4Text address).toList = some address := by
  have hnumbers : ((octetsOf address).map (Nat.toDigits 10)).mapM ipv4Number?
      = some (octetsOf address) := by
    simp [octetsOf, ipv4Number?_toDigits]
  rw [ipv4?, labels_ipv4Text, hnumbers]
  have hlength : ¬((octetsOf address).map (Nat.toDigits 10)).length > 4 := by simp [octetsOf]
  rw [if_neg hlength]
  exact joinIpv4?_octetsOf h

/-! ## IPv6 addresses -/

def groupsChars (groups : List Nat) : List Char :=
  List.intercalate [':'] (groups.map (Nat.toDigits 16))

theorem groupsText_toList (groups : List Nat) :
    (groupsText groups).toList = groupsChars groups := by
  simp [groupsText, groupsChars, Hex.ofNat, Function.comp_def]

theorem groupsChars_cons_cons (g h : Nat) (gs : List Nat) :
    groupsChars (g :: h :: gs) = Nat.toDigits 16 g ++ ':' :: groupsChars (h :: gs) := by
  simp [groupsChars, List.intercalate_cons_cons]

theorem isHexDigit_of_mem_hex {n : Nat} {c : Char} (h : c ∈ Nat.toDigits 16 n) :
    isHexDigit c = true :=
  isHexDigit_of_mem_toDigits (by decide) (by decide) h

theorem ne_colon_of_mem_hex {n : Nat} {c : Char} (h : c ∈ Nat.toDigits 16 n) : c ≠ ':' :=
  isHexDigit_ne (isHexDigit_of_mem_hex h) (by decide)

theorem splitWhere_groupsChars {groups : List Nat} (hne : groups ≠ []) :
    splitWhere (· == ':') (groupsChars groups) = groups.map (Nat.toDigits 16) := by
  apply splitWhere_intercalate (by decide) (by simpa using hne)
  intro part hpart c hc
  obtain ⟨n, -, rfl⟩ := List.mem_map.mp hpart
  simpa using ne_colon_of_mem_hex hc

theorem groupsChars_cons (g : Nat) (gs : List Nat) :
    ∃ c cs, groupsChars (g :: gs) = c :: cs ∧ c ≠ ':' := by
  obtain ⟨c, cs, hcs⟩ := List.exists_cons_of_ne_nil (Nat.toDigits_ne_nil (n := g) (b := 16))
  have hc : c ≠ ':' := ne_colon_of_mem_hex (n := g) (by rw [hcs]; exact List.mem_cons_self)
  cases gs with
  | nil => exact ⟨c, cs, by simp [groupsChars, List.intercalate, hcs], hc⟩
  | cons h gs => exact ⟨c, _, by rw [groupsChars_cons_cons, hcs, List.cons_append], hc⟩

theorem splitDoubleColon_append {cs : List Char} (h : ∀ c ∈ cs, c ≠ ':') (rest : List Char) :
    splitDoubleColon (cs ++ rest) = (splitDoubleColon rest).map fun p => (cs ++ p.1, p.2) := by
  induction cs with
  | nil => simp
  | cons c cs ih =>
    have hc := h c List.mem_cons_self
    rw [List.cons_append, splitDoubleColon, ih fun d hd => h d (List.mem_cons_of_mem c hd),
      Option.map_map]
    · rfl
    · intro rest heq
      cases heq
      exact absurd rfl hc

theorem splitDoubleColon_colon {c : Char} (h : c ≠ ':') (rest : List Char) :
    splitDoubleColon (':' :: c :: rest)
      = (splitDoubleColon (c :: rest)).map fun p => (':' :: p.1, p.2) := by
  rw [splitDoubleColon]
  intro after _ heq
  exact h (List.cons.inj heq).1

theorem splitDoubleColon_groupsChars (groups : List Nat) (rest : List Char) :
    splitDoubleColon (groupsChars groups ++ rest)
      = (splitDoubleColon rest).map fun p => (groupsChars groups ++ p.1, p.2) := by
  match groups with
  | [] => simp [groupsChars, List.intercalate]
  | [g] =>
    have hone : groupsChars [g] = Nat.toDigits 16 g := by simp [groupsChars, List.intercalate]
    rw [hone]
    exact splitDoubleColon_append (fun c hc => ne_colon_of_mem_hex hc) rest
  | g :: h :: gs =>
    have ih := splitDoubleColon_groupsChars (h :: gs) rest
    obtain ⟨c, cs, hcs, hc⟩ := groupsChars_cons h gs
    rw [groupsChars_cons_cons, List.append_assoc,
      splitDoubleColon_append fun c hc => ne_colon_of_mem_hex hc, List.cons_append]
    rw [hcs, List.cons_append] at ih ⊢
    rw [splitDoubleColon_colon hc, ih, Option.map_map, Option.map_map]
    congr 1
    funext p
    simp

theorem group?_toDigits {g : Nat} (h : g < 65536) : group? (Nat.toDigits 16 g) = some g := by
  have hlength : (Nat.toDigits 16 g).length ≤ 4 :=
    (Nat.length_toDigits_le_iff (by decide) (by decide)).mpr (by simpa using h)
  rw [group?, if_neg, digits?_toDigits (by decide) (by decide)]
  simp only [Bool.or_eq_true, List.isEmpty_iff, decide_eq_true_eq, not_or]
  exact ⟨Nat.toDigits_ne_nil, by omega⟩

theorem groups?_map (tailAllowed : Bool) {groups : List Nat} (h : ∀ g ∈ groups, g < 65536) :
    groups? tailAllowed (groups.map (Nat.toDigits 16)) = some groups := by
  match groups with
  | [] => rfl
  | [g] =>
    have hg := group?_toDigits (h g List.mem_cons_self)
    have hdot : (Nat.toDigits 16 g).contains '.' = false := by
      rw [List.contains_eq_mem, decide_eq_false_iff_not]
      exact fun hmem => isHexDigit_ne (isHexDigit_of_mem_hex hmem) (by decide) rfl
    rw [List.map_singleton, groups?, hdot, Bool.and_false, if_neg (by decide), hg]
    rfl
  | g :: k :: gs =>
    have ih := groups?_map tailAllowed fun m hm => h m (List.mem_cons_of_mem g hm)
    rw [List.map_cons] at ih
    rw [List.map_cons, List.map_cons, groups?, group?_toDigits (h g List.mem_cons_self), ih]
    · rfl
    · intro heq
      cases heq

theorem side?_groupsChars (tailAllowed : Bool) {groups : List Nat} (h : ∀ g ∈ groups, g < 65536) :
    side? tailAllowed (groupsChars groups) = some groups := by
  cases groups with
  | nil => rfl
  | cons g gs =>
    obtain ⟨c, cs, hcs, -⟩ := groupsChars_cons g gs
    rw [side?, if_neg (by simp [hcs]), splitWhere_groupsChars (by simp), groups?_map _ h]

theorem ipv6?_elided {left right : List Nat} (hleft : ∀ g ∈ left, g < 65536)
    (hright : ∀ g ∈ right, g < 65536) (hcount : left.length + right.length ≤ 7) :
    ipv6? (groupsChars left ++ ':' :: ':' :: groupsChars right)
      = some (left ++ List.replicate (8 - (left.length + right.length)) 0 ++ right) := by
  have hsplit : splitDoubleColon (groupsChars left ++ ':' :: ':' :: groupsChars right)
      = some (groupsChars left, groupsChars right) := by
    rw [splitDoubleColon_groupsChars, splitDoubleColon]
    simp
  rw [ipv6?, hsplit]
  simp [side?_groupsChars _ hleft, side?_groupsChars _ hright, hcount]

theorem ipv6?_full {groups : List Nat} (h : ∀ g ∈ groups, g < 65536) (hlength : groups.length = 8) :
    ipv6? (groupsChars groups) = some groups := by
  have hsplit : splitDoubleColon (groupsChars groups) = none := by
    have := splitDoubleColon_groupsChars groups []
    simpa [splitDoubleColon] using this
  have hne : groups ≠ [] := by
    rintro rfl
    cases hlength
  rw [ipv6?, hsplit]
  simp [splitWhere_groupsChars hne, groups?_map _ h, hlength]

/-! ### The longest run of zeros -/

theorem zeroRuns_cons (g : Nat) (gs : List Nat) :
    zeroRuns (g :: gs) = (if g = 0 then (zeroRuns gs).headD 0 + 1 else 0) :: zeroRuns gs := rfl

theorem zeroRuns_drop (gs : List Nat) (i : Nat) : zeroRuns (gs.drop i) = (zeroRuns gs).drop i := by
  induction gs generalizing i with
  | nil => simp [zeroRuns]
  | cons g gs ih =>
    cases i with
    | zero => rfl
    | succ i => rw [List.drop_succ_cons, ih, zeroRuns_cons, List.drop_succ_cons]

theorem take_headD_zeroRuns (gs : List Nat) :
    gs.take ((zeroRuns gs).headD 0) = List.replicate ((zeroRuns gs).headD 0) 0 := by
  induction gs with
  | nil => rfl
  | cons g gs ih =>
    rw [zeroRuns_cons, List.headD_cons]
    split
    case isTrue hg => rw [List.take_succ_cons, ih, hg, List.replicate_succ]
    case isFalse => rfl

theorem foldl_max_mem (ns : List Nat) (n : Nat) : ns.foldl max n = n ∨ ns.foldl max n ∈ ns := by
  induction ns generalizing n with
  | nil => exact .inl rfl
  | cons m ns ih =>
    rw [List.foldl_cons]
    obtain h | h := ih (max n m)
    · rw [h]
      obtain h | h := Nat.le_total n m
      · exact .inr (by rw [Nat.max_eq_right h]; exact List.mem_cons_self)
      · exact .inl (Nat.max_eq_left h)
    · exact .inr (List.mem_cons_of_mem m h)

theorem take_append_replicate_append_drop {groups : List Nat} {longest : Nat}
    (hmem : longest ∈ zeroRuns groups) :
    groups.take ((zeroRuns groups).findIdx (· == longest)) ++ List.replicate longest 0
      ++ groups.drop ((zeroRuns groups).findIdx (· == longest) + longest) = groups := by
  have hlt := List.findIdx_lt_length_of_exists (p := (· == longest)) ⟨longest, hmem, by simp⟩
  have hget : (zeroRuns groups)[(zeroRuns groups).findIdx (· == longest)] = longest := by
    simpa using List.findIdx_getElem (p := (· == longest)) (w := hlt)
  generalize (zeroRuns groups).findIdx (· == longest) = start at hlt hget
  have hrun := take_headD_zeroRuns (groups.drop start)
  rw [zeroRuns_drop, List.drop_eq_getElem_cons hlt, List.headD_cons, hget] at hrun
  rw [← hrun, ← List.drop_drop, List.append_assoc, List.take_append_drop, List.take_append_drop]

theorem ipv6?_ipv6Text {groups : List Nat} (h : ∀ g ∈ groups, g < 65536)
    (hlength : groups.length = 8) : ipv6? (ipv6Text groups).toList = some groups := by
  have htake : ∀ i, ∀ g ∈ groups.take i, g < 65536 := fun i g hg => h g (List.mem_of_mem_take hg)
  have hdrop : ∀ i, ∀ g ∈ groups.drop i, g < 65536 := fun i g hg => h g (List.mem_of_mem_drop hg)
  simp only [ipv6Text]
  split
  case isFalse =>
    rw [groupsText_toList]
    exact ipv6?_full h hlength
  case isTrue hlongest =>
    obtain hmem | hmem := foldl_max_mem (zeroRuns groups) 0
    · omega
    · generalize (zeroRuns groups).foldl max 0 = longest at hmem hlongest ⊢
      have hparts := take_append_replicate_append_drop hmem
      have hlt := List.findIdx_lt_length_of_exists (p := (· == longest)) ⟨longest, hmem, by simp⟩
      generalize (zeroRuns groups).findIdx (· == longest) = start at hparts hlt ⊢
      have hcount := congrArg List.length hparts
      simp only [List.length_append, List.length_replicate] at hcount
      have hzeros : 8 - ((groups.take start).length + (groups.drop (start + longest)).length)
          = longest := by omega
      simp only [String.toList_append, groupsText_toList]
      have helided := ipv6?_elided (htake start) (hdrop (start + longest)) (by omega)
      rw [hzeros, hparts] at helided
      simpa using helided

theorem mem_groupsChars {groups : List Nat} {c : Char} (h : c ∈ groupsChars groups) :
    isHexDigit c = true ∨ c = ':' := by
  obtain h | ⟨part, hpart, hc⟩ := mem_intercalate h
  · exact .inr h
  · obtain ⟨n, -, rfl⟩ := List.mem_map.mp hpart
    exact .inl (isHexDigit_of_mem_hex hc)

theorem mem_ipv6Text {groups : List Nat} {c : Char} (h : c ∈ (ipv6Text groups).toList) :
    isHexDigit c = true ∨ c = ':' := by
  simp only [ipv6Text] at h
  split at h
  case isFalse =>
    rw [groupsText_toList] at h
    exact mem_groupsChars h
  case isTrue =>
    simp only [String.toList_append, groupsText_toList, List.mem_append] at h
    obtain (h | h) | h := h
    · exact mem_groupsChars h
    · exact .inr (by simpa using h)
    · exact mem_groupsChars h

/-! ### What is read as an address -/

theorem digits?_lt {base n : Nat} {cs : List Char} (h : digits? base cs = some n) :
    n < base ^ cs.length := by
  have hfold : ∀ (cs : List Char) (v n : Nat),
      cs.foldlM (fun value c => do
        let d ← Hex.value? c
        if d < base then some (value * base + d) else none) v = some n →
      n < (v + 1) * base ^ cs.length := by
    intro cs
    induction cs with
    | nil => intro v n h; cases h; simp
    | cons c cs ih =>
      intro v n h
      rw [List.foldlM_cons, Option.bind_eq_bind, Option.bind_eq_some_iff] at h
      obtain ⟨w, hw, h⟩ := h
      obtain ⟨d, -, hd⟩ := Option.bind_eq_some_iff.mp hw
      split at hd
      case isFalse => cases hd
      case isTrue hlt =>
        cases hd
        have hn := ih _ _ h
        have hle : v * base + d + 1 ≤ (v + 1) * base := by rw [Nat.add_mul]; omega
        calc n < (v * base + d + 1) * base ^ cs.length := hn
          _ ≤ (v + 1) * base * base ^ cs.length := Nat.mul_le_mul_right _ hle
          _ = (v + 1) * base ^ (c :: cs).length := by
            rw [List.length_cons, Nat.pow_succ, Nat.mul_assoc, Nat.mul_comm base]
  simpa using hfold cs 0 n h

theorem group?_lt {cs : List Char} {g : Nat} (h : group? cs = some g) : g < 65536 := by
  rw [group?] at h
  split at h
  case isTrue => cases h
  case isFalse hlength =>
    simp only [Bool.or_eq_true, decide_eq_true_eq, not_or] at hlength
    have hlt := digits?_lt h
    have hpow : 16 ^ cs.length ≤ 16 ^ 4 := Nat.pow_le_pow_right (by decide) (by omega)
    omega

theorem tailNumber?_lt {cs : List Char} {n : Nat} (h : tailNumber? cs = some n) : n < 256 := by
  unfold tailNumber? at h
  split at h
  · cases h
  · cases h; decide
  · cases h
  · obtain ⟨m, -, hm⟩ := Option.bind_eq_some_iff.mp h
    split at hm
    case isTrue hlt => cases hm; exact hlt
    case isFalse => cases hm

theorem length_of_mapM {α β : Type} {f : α → Option β} {xs : List α} {ys : List β}
    (h : xs.mapM f = some ys) : ys.length = xs.length := by
  induction xs generalizing ys with
  | nil => cases h; rfl
  | cons x xs ih =>
    rw [List.mapM_cons, Option.bind_eq_bind, Option.bind_eq_some_iff] at h
    obtain ⟨y, -, h⟩ := h
    obtain ⟨zs, hzs, h⟩ := Option.bind_eq_some_iff.mp h
    cases h
    rw [List.length_cons, List.length_cons, ih hzs]

theorem mapM_tailNumber?_lt {parts : List (List Char)} {ns : List Nat}
    (h : parts.mapM tailNumber? = some ns) : ∀ n ∈ ns, n < 256 := by
  induction parts generalizing ns with
  | nil => cases h; simp
  | cons part parts ih =>
    rw [List.mapM_cons, Option.bind_eq_bind, Option.bind_eq_some_iff] at h
    obtain ⟨m, hm, h⟩ := h
    obtain ⟨ms, hms, h⟩ := Option.bind_eq_some_iff.mp h
    cases h
    intro n hn
    obtain rfl | hn := List.mem_cons.mp hn
    · exact tailNumber?_lt hm
    · exact ih hms n hn

theorem groups?_lt {tailAllowed : Bool} {parts : List (List Char)} {groups : List Nat}
    (h : groups? tailAllowed parts = some groups) : ∀ g ∈ groups, g < 65536 := by
  match parts with
  | [] => cases h; simp
  | [part] =>
    rw [groups?] at h
    split at h
    case isTrue =>
      obtain ⟨ns, hns, h⟩ := Option.bind_eq_some_iff.mp h
      have hlt := mapM_tailNumber?_lt hns
      match ns, h with
      | [a, b, c, d], h =>
        cases h
        simp only [List.mem_cons, List.not_mem_nil, or_false, forall_eq_or_imp, forall_eq] at hlt ⊢
        omega
    case isFalse =>
      obtain ⟨g, hg, rfl⟩ := Option.map_eq_some_iff.mp h
      intro k hk
      rw [List.mem_singleton.mp hk]
      exact group?_lt hg
  | part :: next :: parts =>
    rw [groups?, Option.bind_eq_bind, Option.bind_eq_some_iff] at h
    · obtain ⟨g, hg, h⟩ := h
      obtain ⟨gs, hgs, h⟩ := Option.bind_eq_some_iff.mp h
      cases h
      intro k hk
      obtain rfl | hk := List.mem_cons.mp hk
      · exact group?_lt hg
      · exact groups?_lt hgs k hk
    · intro heq
      cases heq

theorem side?_lt {tailAllowed : Bool} {cs : List Char} {groups : List Nat}
    (h : side? tailAllowed cs = some groups) : ∀ g ∈ groups, g < 65536 := by
  rw [side?] at h
  split at h
  · cases h; simp
  · exact groups?_lt h

theorem ipv6?_groups {cs : List Char} {groups : List Nat} (h : ipv6? cs = some groups) :
    groups.length = 8 ∧ ∀ g ∈ groups, g < 65536 := by
  rw [ipv6?] at h
  split at h
  case h_1 before after _ =>
    obtain ⟨left, hleft, h⟩ := Option.bind_eq_some_iff.mp h
    obtain ⟨right, hright, h⟩ := Option.bind_eq_some_iff.mp h
    simp only at h
    split at h
    case isFalse => cases h
    case isTrue hcount =>
      cases h
      refine ⟨by simp; omega, fun g hg => ?_⟩
      simp only [List.mem_append, List.mem_replicate] at hg
      obtain (hg | hg) | hg := hg
      · exact side?_lt hleft g hg
      · omega
      · exact side?_lt hright g hg
  case h_2 =>
    obtain ⟨gs, hgs, h⟩ := Option.bind_eq_some_iff.mp h
    split at h
    case isFalse => cases h
    case isTrue hlength =>
      cases h
      exact ⟨hlength, groups?_lt hgs⟩

end ClusterClient.Url.Host
