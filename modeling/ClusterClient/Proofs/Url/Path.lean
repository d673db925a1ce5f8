import Mathlib.Data.List.Induction
import ClusterClient.Url.Parser
import ClusterClient.Proofs.Url.Percent
import ClusterClient.Proofs.Url.Splits

/-!
# Paths under the schemes of the web

A path is a list of closed segments, each with a slash after it, and a last segment that may be
empty. Building one goes from segment to segment: dot segments go up or stay, every other segment is
added as it is written. A path that was built holds no dot segments, and building it once more
changes nothing.
-/

namespace ClusterClient.Url.Path

variable {segments : List (List Char)} {segment last : List Char}

/-! ## Directories -/

def directory (segments : List (List Char)) : List Char :=
  '/' :: segments.flatMap (· ++ ['/'])

theorem directory_concat (segments : List (List Char)) (segment : List Char) :
    directory (segments ++ [segment]) = directory segments ++ segment ++ ['/'] := by
  simp [directory, List.flatMap_append]

theorem directory_ne_nil (segments : List (List Char)) : directory segments ≠ [] := by
  simp [directory]

theorem exists_directory (segments : List (List Char)) :
    ∃ cs, directory segments = cs ++ ['/'] := by
  induction segments using List.reverseRecOn with
  | nil => exact ⟨[], rfl⟩
  | append_singleton segments segment => exact ⟨_, directory_concat segments segment⟩

theorem endsInSlash_directory (segments : List (List Char)) :
    endsInSlash (directory segments) = true := by
  obtain ⟨cs, hcs⟩ := exists_directory segments
  rw [hcs, endsInSlash, List.getLast?_append]
  rfl

theorem upToLastSlash_append (cs : List Char) {rest : List Char} (h : '/' ∉ rest) :
    upToLastSlash (cs ++ '/' :: rest) = cs ++ ['/'] := by
  have hrest : ∀ c ∈ rest.reverse, (c != '/') = true := by
    intro c hc
    simp only [bne_iff_ne, ne_eq]
    rintro rfl
    exact h (List.mem_reverse.mp hc)
  rw [upToLastSlash, List.reverse_append, List.reverse_cons, List.append_assoc,
    List.dropWhile_append_of_pos hrest]
  simp

/-- What stands after the last slash is what is replaced. -/
theorem pop_directory_append (segments : List (List Char)) {last : List Char} (h : '/' ∉ last) :
    pop .web (directory segments ++ last) = directory segments := by
  obtain ⟨cs, hcs⟩ := exists_directory segments
  have hpop := upToLastSlash_append cs h
  simp only [pop]
  rw [hcs, List.append_assoc, List.singleton_append, hpop]
  rfl

/-! ## Going up -/

/-- Whether a segment is never gone up from: it looks like a drive letter. -/
def isFirm (segment : List Char) : Bool := startsWithDriveLetter (segment ++ ['/'])

def up (segments : List (List Char)) : List (List Char) :=
  match segments.getLast? with
  | some last => if isFirm last then segments else segments.dropLast
  | none => []

theorem up_concat (segments : List (List Char)) (segment : List Char) :
    up (segments ++ [segment]) = if isFirm segment then segments ++ [segment] else segments := by
  simp [up]

theorem isPrefix_up (segments : List (List Char)) : up segments <+: segments := by
  induction segments using List.reverseRecOn with
  | nil => exact List.prefix_rfl
  | append_singleton segments segment =>
    rw [up_concat]
    split
    · exact List.prefix_rfl
    · exact List.prefix_append segments [segment]

theorem parent_directory (h : ∀ s ∈ segments, '/' ∉ s) :
    parent .web (directory segments) = directory (up segments) := by
  induction segments using List.reverseRecOn with
  | nil => rfl
  | append_singleton segments segment =>
    have hsegment := h segment (by simp)
    have hbefore : upToLastSlash (directory (segments ++ [segment])).dropLast
        = directory segments := by
      rw [directory_concat, List.dropLast_concat]
      exact pop_directory_append segments hsegment
    have hdrop : (directory (segments ++ [segment])).drop (directory segments).length
        = segment ++ ['/'] := by
      rw [directory_concat, List.append_assoc, List.drop_left]
    have hcan : lastSlashCanGo (directory (segments ++ [segment])) = !isFirm segment := by
      simp only [lastSlashCanGo]
      rw [hbefore, hdrop]
      simp [directory_ne_nil, isFirm]
    rw [parent, endsInSlash_directory, hcan, up_concat]
    cases isFirm segment with
    | true =>
      have hpop := pop_directory_append (segments ++ [segment]) List.not_mem_nil
      simpa using hpop
    | false =>
      simp only [Bool.not_false, Bool.and_self, if_true, Bool.false_eq_true, if_false]
      rw [directory_concat, List.dropLast_concat]
      exact pop_directory_append segments hsegment

/-! ## Dot segments -/

def singleDots : List (List Char) := [".", "%2e", "%2E"].map String.toList

def doubleDots : List (List Char) :=
  ["..", "%2e%2e", "%2e%2E", "%2E%2e", "%2E%2E", "%2e.", "%2E.", ".%2e", ".%2E"].map String.toList

theorem mem_singleDots (h : isSingleDot segment = true) : segment ∈ singleDots :=
  List.mem_map.mpr ⟨_, List.contains_iff_mem.mp h, String.toList_ofList⟩

theorem mem_doubleDots (h : isDoubleDot segment = true) : segment ∈ doubleDots :=
  List.mem_map.mpr ⟨_, List.contains_iff_mem.mp h, String.toList_ofList⟩

theorem not_dots {c : Char} (cs : List Char) (hdot : c ≠ '.') (hpercent : c ≠ '%') :
    isSingleDot (c :: cs) = false ∧ isDoubleDot (c :: cs) = false := by
  have hhead : ∀ w ∈ singleDots ++ doubleDots, w.head? = some '.' ∨ w.head? = some '%' := by decide
  have hnot : c :: cs ∉ singleDots ++ doubleDots := by
    intro hmem
    obtain h | h := hhead _ hmem
    · exact hdot (Option.some.inj h)
    · exact hpercent (Option.some.inj h)
  constructor
  · cases h : isSingleDot (c :: cs) with
    | false => rfl
    | true => exact absurd (List.mem_append_left _ (mem_singleDots h)) hnot
  · cases h : isDoubleDot (c :: cs) with
    | false => rfl
    | true => exact absurd (List.mem_append_right _ (mem_doubleDots h)) hnot

/-! ## Segment by segment -/

def write (segment : List Char) : List Char := Percent.encode Percent.path (kept segment)

/-- The closed segments after one more. -/
def enter (segments : List (List Char)) (written : List Char) : List (List Char) :=
  if isDoubleDot written then up segments
  else if isSingleDot written then segments
  else segments ++ [written]

/-- The path after its last segment. -/
def finish (segments : List (List Char)) (written : List Char) : List Char :=
  if isDoubleDot written then directory (up segments)
  else if isSingleDot written then directory segments
  else directory segments ++ written

/-- The path that leads from a directory along the segments of a text. -/
def walk (segments : List (List Char)) : List (List Char) → List Char
  | [] => directory segments
  | [written] => finish segments written
  | written :: rest => walk (enter segments written) rest

theorem addRun_web (state : List Char × Nat) (run : List Char) :
    addRun .web state run = (state.1 ++ Percent.encode Percent.path run, state.2) := by
  cases run with
  | nil => simp [addRun]
  | cons c cs => simp [addRun]

theorem foldl_addRun_web (runs : List (List Char)) (state : List Char × Nat) :
    runs.foldl (addRun .web) state
      = (state.1 ++ Percent.encode Percent.path runs.flatten, state.2) := by
  induction runs generalizing state with
  | nil => simp
  | cons run runs ih =>
    rw [List.foldl_cons, ih, addRun_web, List.flatten_cons, Percent.encode_append]
    simp

theorem addSegment_web (state : PathState) (segment : List Char) (closed : Bool) :
    addSegment .web state segment closed
      = if isDoubleDot (write segment) then
          { state with
            text :=
              if closed && !endsInSlash (parent .web state.text) then
                parent .web state.text ++ ['/']
              else parent .web state.text }
        else if isSingleDot (write segment) then
          { state with text := if endsInSlash state.text then state.text else state.text ++ ['/'] }
        else
          { state with text := state.text ++ write segment ++ if closed then ['/'] else [] } := by
  have hruns := foldl_addRun_web (splitWhere isBreak segment) (state.text, state.text.length)
  rw [flatten_splitWhere] at hruns
  rw [addSegment, hruns]
  simp only [List.take_left', List.drop_left']
  rfl

theorem addSegment_closed (h : ∀ s ∈ segments, '/' ∉ s) (hasDrive : Bool) (segment : List Char) :
    addSegment .web ⟨directory segments, hasDrive⟩ segment true
      = ⟨directory (enter segments (write segment)), hasDrive⟩ := by
  rw [addSegment_web, parent_directory h, endsInSlash_directory, endsInSlash_directory, enter]
  split
  · simp
  · split
    · simp
    · simp [directory_concat]

theorem addSegment_last (h : ∀ s ∈ segments, '/' ∉ s) (hasDrive : Bool) (segment : List Char) :
    (addSegment .web ⟨directory segments, hasDrive⟩ segment false).text
      = finish segments (write segment) := by
  rw [addSegment_web, parent_directory h, finish]
  split
  · simp
  · split <;> simp [endsInSlash_directory]

theorem not_mem_enter {written : List Char} (h : ∀ s ∈ segments, '/' ∉ s)
    (hwritten : '/' ∉ written) :
    ∀ s ∈ enter segments written, '/' ∉ s := by
  intro s hs
  rw [enter] at hs
  split at hs
  · exact h s ((isPrefix_up segments).subset hs)
  · split at hs
    · exact h s hs
    · obtain hs | hs := List.mem_append.mp hs
      · exact h s hs
      · exact List.mem_singleton.mp hs ▸ hwritten

theorem addSegments_web {segments parts : List (List Char)} (h : ∀ s ∈ segments, '/' ∉ s)
    (hparts : ∀ s ∈ parts, '/' ∉ write s) (hasDrive : Bool) :
    (addSegments .web ⟨directory segments, hasDrive⟩ parts).text
      = walk segments (parts.map write) := by
  match parts with
  | [] => rfl
  | [part] => exact addSegment_last h hasDrive part
  | part :: next :: parts =>
    have hpart := hparts part List.mem_cons_self
    rw [addSegments, addSegment_closed h, List.map_cons, List.map_cons, walk]
    · exact addSegments_web (not_mem_enter h hpart)
        (fun s hs => hparts s (List.mem_cons_of_mem part hs)) hasDrive
    · exact List.cons_ne_nil _ _
    · exact List.cons_ne_nil _ _

/-! ## Texts of paths -/

def separates (c : Char) : Bool := c == '/' || c == '\\'

def parts (input : List Char) : List (List Char) := (splitWhere separates input).map write

theorem not_mem_write (h : '/' ∉ segment ∧ '\\' ∉ segment) :
    '/' ∉ write segment ∧ '\\' ∉ write segment := by
  have hkept : ∀ c, c ∉ segment → c ∉ kept segment :=
    fun c hc hmem => hc (List.mem_filter.mp hmem).1
  exact ⟨Percent.not_mem_encode (by decide) (by decide) (hkept _ h.1),
    Percent.not_mem_encode (by decide) (by decide) (hkept _ h.2)⟩

theorem not_mem_of_mem_splitWhere {input : List Char} (h : segment ∈ splitWhere separates input) :
    '/' ∉ segment ∧ '\\' ∉ segment := by
  have hpart := of_mem_splitWhere h
  constructor <;> intro hmem <;> cases (hpart _ hmem).2

theorem build_web {segments : List (List Char)} (h : ∀ s ∈ segments, '/' ∉ s)
    (input : List Char) :
    (build .web (directory segments) input).text = walk segments (parts input) := by
  have hparts : ∀ s ∈ splitWhere separates input, '/' ∉ write s :=
    fun s hs => (not_mem_write (not_mem_of_mem_splitWhere hs)).1
  have hseparates : (fun c => c == '/' || (c == '\\' && SchemeKind.isSpecial .web)) =
      separates := by
    funext c
    simp [separates, SchemeKind.isSpecial]
  rw [build, hseparates]
  exact addSegments_web h hparts false

/-! ## Paths in their normal form -/

/-- A segment that is written as it is and leads nowhere else. -/
structure IsSegment (segment : List Char) : Prop where
  stands : Percent.Stands Percent.path segment
  slash : '/' ∉ segment
  backslash : '\\' ∉ segment
  single : isSingleDot segment = false
  double : isDoubleDot segment = false

theorem isSegment_nil : IsSegment [] :=
  ⟨by simp [Percent.Stands], by simp, by simp, by decide, by decide⟩

/-- A path whose segments are all written as they are. -/
def IsNormal (path : List Char) : Prop :=
  ∃ segments last, (∀ s ∈ segments, IsSegment s) ∧ IsSegment last ∧
    path = directory segments ++ last

theorem isNormal_directory (h : ∀ s ∈ segments, IsSegment s) : IsNormal (directory segments) :=
  ⟨segments, [], h, isSegment_nil, (List.append_nil _).symm⟩

theorem isSegment_enter {written : List Char} (h : ∀ s ∈ segments, IsSegment s)
    (hwritten : isDoubleDot written = false → isSingleDot written = false → IsSegment written) :
    ∀ s ∈ enter segments written, IsSegment s := by
  intro s hs
  rw [enter] at hs
  split at hs
  case isTrue => exact h s ((isPrefix_up segments).subset hs)
  case isFalse hdouble =>
    split at hs
    case isTrue => exact h s hs
    case isFalse hsingle =>
      obtain hs | hs := List.mem_append.mp hs
      · exact h s hs
      · rw [List.mem_singleton.mp hs]
        exact hwritten (by simpa using hdouble) (by simpa using hsingle)

theorem isNormal_finish {written : List Char} (h : ∀ s ∈ segments, IsSegment s)
    (hwritten : isDoubleDot written = false → isSingleDot written = false → IsSegment written) :
    IsNormal (finish segments written) := by
  rw [finish]
  split
  case isTrue => exact isNormal_directory fun s hs => h s ((isPrefix_up segments).subset hs)
  case isFalse hdouble =>
    split
    case isTrue => exact isNormal_directory h
    case isFalse hsingle =>
      exact ⟨segments, written, h, hwritten (by simpa using hdouble) (by simpa using hsingle), rfl⟩

theorem isNormal_walk {segments writtens : List (List Char)} (h : ∀ s ∈ segments, IsSegment s)
    (hwrittens : ∀ w ∈ writtens, isDoubleDot w = false → isSingleDot w = false → IsSegment w) :
    IsNormal (walk segments writtens) := by
  match writtens with
  | [] => exact isNormal_directory h
  | [written] => exact isNormal_finish h (hwrittens written List.mem_cons_self)
  | written :: next :: rest =>
    rw [walk]
    · exact isNormal_walk (isSegment_enter h (hwrittens written List.mem_cons_self))
        fun w hw => hwrittens w (List.mem_cons_of_mem written hw)
    · exact List.cons_ne_nil _ _

theorem isSegment_of_mem_parts {input written : List Char} (h : written ∈ parts input)
    (hdouble : isDoubleDot written = false) (hsingle : isSingleDot written = false) :
    IsSegment written := by
  obtain ⟨segment, hsegment, rfl⟩ := List.mem_map.mp h
  obtain ⟨hslash, hbackslash⟩ := not_mem_write (not_mem_of_mem_splitWhere hsegment)
  exact ⟨Percent.stands_encode Percent.keepsEscapes_path _, hslash, hbackslash, hsingle, hdouble⟩

theorem isNormal_build (h : ∀ s ∈ segments, IsSegment s) (input : List Char) :
    IsNormal (build .web (directory segments) input).text := by
  rw [build_web fun s hs => (h s hs).slash]
  exact isNormal_walk h fun w hw => isSegment_of_mem_parts hw

theorem isNormal_buildRooted (input : List Char) : IsNormal (buildRooted .web input).text := by
  have hbuild : ∀ input, IsNormal (build .web (directory []) input).text :=
    isNormal_build (by simp)
  cases input with
  | nil => exact hbuild []
  | cons c rest => exact hbuild _

theorem walk_of_segments {writtens : List (List Char)} (hne : writtens ≠ [])
    (h : ∀ w ∈ writtens, isDoubleDot w = false ∧ isSingleDot w = false)
    (segments : List (List Char)) :
    walk segments writtens = directory segments ++ List.intercalate ['/'] writtens := by
  match writtens with
  | [] => exact absurd rfl hne
  | [written] =>
    obtain ⟨hdouble, hsingle⟩ := h written List.mem_cons_self
    simp [walk, finish, hdouble, hsingle, List.intercalate]
  | written :: next :: rest =>
    obtain ⟨hdouble, hsingle⟩ := h written List.mem_cons_self
    have henter : enter segments written = segments ++ [written] := by
      simp [enter, hdouble, hsingle]
    rw [walk, henter, walk_of_segments (List.cons_ne_nil _ _)
      (fun w hw => h w (List.mem_cons_of_mem written hw)), directory_concat,
      List.intercalate_cons_cons]
    · simp
    · exact List.cons_ne_nil _ _

theorem write_of_stands (h : Percent.Stands Percent.path segment) : write segment = segment := by
  have hkept : kept segment = segment := by
    rw [kept, List.filter_eq_self]
    intro c hc
    obtain ⟨hascii, hset⟩ := h c hc
    exact forall_ascii (P := fun c => Percent.path c = false → (!isBreak c) = true) (by decide) c
      hascii hset
  rw [write, hkept, Percent.encode_of_stands h]

theorem splitWhere_segments {writtens : List (List Char)} (hne : writtens ≠ [])
    (h : ∀ w ∈ writtens, IsSegment w) :
    splitWhere separates (List.intercalate ['/'] writtens) = writtens := by
  refine splitWhere_intercalate (by decide) hne fun w hw c hc => ?_
  have hslash : c ≠ '/' := fun heq => (h w hw).slash (heq ▸ hc)
  have hbackslash : c ≠ '\\' := fun heq => (h w hw).backslash (heq ▸ hc)
  simp [separates, hslash, hbackslash]

theorem parts_intercalate {writtens : List (List Char)} (hne : writtens ≠ [])
    (h : ∀ w ∈ writtens, IsSegment w) : parts (List.intercalate ['/'] writtens) = writtens := by
  rw [parts, splitWhere_segments hne h,
    List.map_congr_left fun w hw => write_of_stands (h w hw).stands, List.map_id']

theorem directory_append_intercalate {writtens : List (List Char)} (hne : writtens ≠ [])
    (segments : List (List Char)) :
    directory segments ++ List.intercalate ['/'] writtens
      = '/' :: List.intercalate ['/'] (segments ++ writtens) := by
  induction segments with
  | nil => simp [directory]
  | cons segment segments ih =>
    obtain ⟨next, rest, hrest⟩ : ∃ next rest, segments ++ writtens = next :: rest :=
      List.exists_cons_of_ne_nil (by simp [hne])
    rw [List.cons_append, hrest, List.intercalate_cons_cons, ← hrest]
    simp only [directory, List.flatMap_cons, List.cons_append, List.cons.injEq, true_and] at ih ⊢
    rw [← ih]
    simp

theorem directory_append_eq_cons (segments : List (List Char)) (last : List Char) :
    directory segments ++ last = '/' :: List.intercalate ['/'] (segments ++ [last]) := by
  have h := directory_append_intercalate (List.cons_ne_nil last []) segments
  simpa [List.intercalate] using h

theorem buildRooted_of_isNormal {path : List Char} (h : IsNormal path) :
    (buildRooted .web path).text = path := by
  obtain ⟨segments, last, hsegments, hlast, rfl⟩ := h
  have hall : ∀ s ∈ segments ++ [last], IsSegment s := by
    intro s hs
    obtain hs | hs := List.mem_append.mp hs
    · exact hsegments s hs
    · exact List.mem_singleton.mp hs ▸ hlast
  have hne : segments ++ [last] ≠ [] := by simp
  rw [directory_append_eq_cons]
  calc (buildRooted .web ('/' :: List.intercalate ['/'] (segments ++ [last]))).text
      = walk [] (parts (List.intercalate ['/'] (segments ++ [last]))) :=
        build_web (by simp : ∀ s ∈ ([] : List (List Char)), '/' ∉ s) _
    _ = walk [] (segments ++ [last]) := by rw [parts_intercalate hne hall]
    _ = '/' :: List.intercalate ['/'] (segments ++ [last]) :=
        walk_of_segments hne (fun w hw => ⟨(hall w hw).double, (hall w hw).single⟩) []

end ClusterClient.Url.Path
