import OpenTimeline.Host
import OpenTimeline.Library.Segments

/-! Repository paths, as the charter normalises them.

`normRel` reads a path in segments and joins them again; `under` compares two paths
so read. Everything here is about which segments a text stands for: a path is under
a prefix when the prefix's segments are the first of the path's own. -/
namespace OpenTimeline.Charter
open Library

/-- `"/".join(parts)` -/
def joinSlash (parts : List String) : String := "/".intercalate parts

/-- `text.strip("/")` -/
def stripSlash (text : String) : String := String.ofList (stripChars (· = '/') text.toList)

/-- `text.replace("\\", "/")` -/
def slashed (text : String) : String :=
  String.ofList (text.toList.map fun c => if c = '\\' then '/' else c)

/-- The segments a path is read in, `none` where one of them is `..`. -/
def normSegments : List String → Option (List String)
  | [] => some []
  | chunk :: rest =>
    if chunk ∈ ["", "."] then normSegments rest
    else if chunk = ".." then none
    else (normSegments rest).map (chunk :: ·)

/-- `_norm_rel` -/
def normRel (path : String) : String :=
  let raw := slashed (strip path)
  if raw = "" || startsWith raw "/" || startsWith raw "~" then ""
  else match normSegments (splitSlash raw) with
  | none => ""
  | some parts => joinSlash parts

/-- `path == base or path.startswith(base + "/")` -/
def atOrBelow (path base : String) : Bool := path = base || startsWith path (base ++ "/")

/-- `_under` -/
def under (path pre : String) : Bool :=
  let normalizedPrefix := normRel pre
  let normalizedPath := normRel path
  if normalizedPath = "" then false
  else if normalizedPrefix = "" then strip pre ∈ [".", "./", ""]
  else atOrBelow normalizedPath normalizedPrefix

example : under "tests//unit/a.py" "./tests/" = true ∧ under "testsuite/a.py" "tests" = false := by decide

/-! ### Splitting and joining -/

theorem joinSlash_splitSlash (text : String) : joinSlash (splitSlash text) = text := by
  apply String.toList_injective
  rw [joinSlash, splitSlash, String.toList_intercalate, List.map_map]
  have hid : String.toList ∘ String.ofList = id := funext fun l => String.toList_ofList
  rw [hid, List.map_id]
  exact List.intercalate_splitOn '/'

/-- Segments without a slash in them are read back. -/
theorem splitSlash_joinSlash {parts : List String} (hne : parts ≠ [])
    (hfree : ∀ part ∈ parts, '/' ∉ part.toList) : splitSlash (joinSlash parts) = parts := by
  rw [joinSlash, splitSlash, String.toList_intercalate]
  have hsplit : (['/'].intercalate (parts.map String.toList)).splitOn '/' = parts.map String.toList :=
    List.splitOn_intercalate '/' (by simpa using hfree) (by simpa using hne)
  rw [show "/".toList = ['/'] from rfl, hsplit, List.map_map]
  have hid : String.ofList ∘ String.toList = id := funext fun s => String.ofList_toList
  rw [hid, List.map_id]

theorem slash_not_mem_of_mem_splitSlash {text segment : String} (h : segment ∈ splitSlash text) :
    '/' ∉ segment.toList := by
  obtain ⟨chars, hchars, rfl⟩ := List.mem_map.mp h
  rw [String.toList_ofList]
  exact not_mem_of_mem_splitOn hchars

theorem startsWith_iff {text start : String} : startsWith text start = true ↔ start.toList <+: text.toList :=
  List.isPrefixOf_iff_prefix

/-- A text is at or below another when the other's segments come first. -/
theorem atOrBelow_iff {path base : String} :
    atOrBelow path base = true ↔ splitSlash base <+: splitSlash path := by
  have hunder : atOrBelow path base = true ↔ Under '/' base.toList path.toList := by
    rw [atOrBelow, Bool.or_eq_true, decide_eq_true_eq, startsWith_iff, String.toList_append]
    exact or_congr String.toList_inj.symm Iff.rfl
  rw [hunder, under_iff, splitSlash, splitSlash]
  exact (List.prefix_map_iff_of_injective fun _ _ h => String.ofList_injective h).symm

/-! ### Prefixes and paths -/

/-- The segments that name the subtree a prefix stands for. -/
def prefixSegments (pre : String) : List String := (splitSlash pre).filter fun chunk => chunk ∉ ["", "."]

/-- A prefix as a charter keeps it: trimmed, relative, without backslash or `..`. -/
structure Kept (pre : String) : Prop where
  trimmed : strip pre = pre
  nonempty : pre ≠ ""
  relative : startsWith pre "/" = false
  notHome : startsWith pre "~" = false
  posix : '\\' ∉ pre.toList
  noParent : ".." ∉ splitSlash pre

/-- A name a directory entry can have. -/
def PlainName (name : String) : Prop := name ∉ ["", ".", ".."] ∧ '/' ∉ name.toList

instance (name : String) : Decidable (PlainName name) := inferInstanceAs (Decidable (_ ∧ _))

/-- A file of the repository, by the names on the way to it. -/
structure RepoPath where
  segments : List String
  nonempty : segments ≠ []
  plain : ∀ segment ∈ segments, PlainName segment

def RepoPath.text (path : RepoPath) : String := joinSlash path.segments

/-- The prefix names a directory above the path, or the path itself. -/
def Names (pre : String) (path : RepoPath) : Prop := prefixSegments pre <+: path.segments

instance (pre : String) (path : RepoPath) : Decidable (Names pre path) :=
  inferInstanceAs (Decidable (_ <+: _))

/-- Between its outer slashes the prefix is spelled without empty and `.` segments. -/
def Canonical (pre : String) : Prop := ∀ chunk ∈ splitSlash (stripSlash pre), chunk ∉ ["", "."]

instance (pre : String) : Decidable (Canonical pre) := inferInstanceAs (Decidable (∀ chunk ∈ _, _))

theorem RepoPath.splitSlash_text (path : RepoPath) : splitSlash path.text = path.segments :=
  splitSlash_joinSlash path.nonempty fun segment hm => (path.plain segment hm).2

theorem stripSlash_stripSlash (text : String) : stripSlash (stripSlash text) = stripSlash text := by
  rw [stripSlash, stripSlash, String.toList_ofList, stripChars, stripChars, trim_trim]

theorem filter_splitSlash_stripSlash (pre : String) :
    (splitSlash (stripSlash pre)).filter (fun chunk => chunk ∉ ["", "."]) = prefixSegments pre := by
  have hends : ((stripChars (· = '/') pre.toList).splitOn '/').filter
      (fun chars => String.ofList chars ∉ ["", "."]) =
        (pre.toList.splitOn '/').filter fun chars => String.ofList chars ∉ ["", "."] :=
    (filter_splitOn_rdropWhile (by decide) _).trans (filter_splitOn_dropWhile (by decide) _)
  rw [prefixSegments, splitSlash, splitSlash, stripSlash, String.toList_ofList, List.filter_map,
    List.filter_map]
  exact congrArg (List.map String.ofList) hends

theorem Canonical.splitSlash_stripSlash {pre : String} (h : Canonical pre) :
    splitSlash (stripSlash pre) = prefixSegments pre := by
  rw [← filter_splitSlash_stripSlash, List.filter_eq_self.mpr]
  simpa [Canonical] using h

/-- Its outer slashes apart, a prefix spells the first segments of a path exactly when it is
spelled canonically and names the path. -/
theorem atOrBelow_stripSlash_iff {pre : String} {path : RepoPath} :
    atOrBelow path.text (stripSlash pre) = true ↔ Canonical pre ∧ Names pre path := by
  rw [atOrBelow_iff, path.splitSlash_text]
  constructor
  · intro h
    have hcanonical : Canonical pre := by
      intro chunk hm
      have hplain := (path.plain chunk (h.subset hm)).1
      simp_all
    rw [hcanonical.splitSlash_stripSlash] at h
    exact ⟨hcanonical, h⟩
  · rintro ⟨hcanonical, hnames⟩
    rw [hcanonical.splitSlash_stripSlash]
    exact hnames

theorem normSegments_eq {chunks : List String} (h : ".." ∉ chunks) :
    normSegments chunks = some (chunks.filter fun chunk => chunk ∉ ["", "."]) := by
  induction chunks with
  | nil => rfl
  | cons chunk rest ih =>
    rw [List.mem_cons, not_or] at h
    rw [normSegments, ih h.2]
    split_ifs with hskip hparent
    · rw [List.filter_cons_of_neg (by simp only [hskip]; decide)]
    · exact absurd hparent.symm h.1
    · rw [List.filter_cons_of_pos (by simp only [hskip]; decide)]
      rfl

/-- A kept prefix is read in the segments that name its subtree. -/
theorem Kept.normRel {pre : String} (h : Kept pre) : normRel pre = joinSlash (prefixSegments pre) := by
  have hslashed : slashed pre = pre := by
    rw [slashed, show pre.toList.map _ = pre.toList.map id from List.map_congr_left ?_, List.map_id,
      String.ofList_toList]
    intro c hm
    have hc : c ≠ '\\' := fun hc => h.posix (hc ▸ hm)
    exact if_neg hc
  rw [Charter.normRel, h.trimmed, hslashed]
  simp only [h.nonempty, h.relative, h.notHome, decide_false, Bool.or_self, Bool.false_eq_true, if_false,
    normSegments_eq h.noParent]
  rfl

theorem joinSlash_prefixSegments_eq_empty {pre : String} :
    joinSlash (prefixSegments pre) = "" ↔ prefixSegments pre = [] := by
  refine ⟨fun hempty => ?_, fun hnil => by rw [hnil]; rfl⟩
  by_contra hne
  have hsplit := splitSlash_joinSlash hne fun part hm =>
    slash_not_mem_of_mem_splitSlash (List.mem_filter.mp hm).1
  rw [hempty, show splitSlash "" = [""] from rfl] at hsplit
  have hmem : "" ∈ prefixSegments pre := by
    rw [← hsplit]
    exact List.mem_singleton_self _
  have hskip := (List.mem_filter.mp hmem).2
  simp at hskip

/-- Where the path is read as it is spelled, a kept prefix it lies under names it. -/
theorem names_of_under {pre : String} {path : RepoPath} (hkept : Kept pre)
    (hread : Charter.normRel path.text = path.text) (h : under path.text pre = true) : Names pre path := by
  unfold under at h
  simp only [hread, hkept.normRel] at h
  split_ifs at h with hpath hroot
  · rw [Names, joinSlash_prefixSegments_eq_empty.mp hroot]
    exact List.nil_prefix
  · have hne := mt joinSlash_prefixSegments_eq_empty.mpr hroot
    rw [atOrBelow_iff, path.splitSlash_text, splitSlash_joinSlash hne fun part hm =>
      slash_not_mem_of_mem_splitSlash (List.mem_filter.mp hm).1] at h
    exact h

/-- Such a path lies under every canonical prefix that names it. -/
theorem under_of_names {pre : String} {path : RepoPath} (hkept : Kept pre)
    (hread : Charter.normRel path.text = path.text) (hcanonical : Canonical pre) (hnames : Names pre path) :
    under path.text pre = true := by
  have hpath : path.text ≠ "" := by
    intro hempty
    have hsplit := path.splitSlash_text
    rw [hempty, show splitSlash "" = [""] from rfl] at hsplit
    have hplain := (path.plain "" (hsplit ▸ List.mem_singleton_self _)).1
    simp at hplain
  have hne : prefixSegments pre ≠ [] := by
    rw [← hcanonical.splitSlash_stripSlash, splitSlash]
    simp
  have hroot := mt joinSlash_prefixSegments_eq_empty.mp hne
  unfold under
  simp only [hread, hkept.normRel, hpath, hroot, if_false]
  rw [atOrBelow_iff, path.splitSlash_text, splitSlash_joinSlash hne fun part hm =>
    slash_not_mem_of_mem_splitSlash (List.mem_filter.mp hm).1]
  exact hnames

end OpenTimeline.Charter
