import OpenTimeline.Charter.Charter

/-! What a mutating action may touch.

A path stands for the segments it is read in, or for nothing in the workspace where it escapes it. Under those
segments the test of the roots and of the protected prefixes is one of prefixes of lists (`under_iff`), except
that a path with no segments, the whole workspace, is only known by three of its spellings. A root in another
spelling permits less; a protected prefix in another spelling protects nothing (`mutating_in_scope_iff`). -/
namespace OpenTimeline.Charter
open Library

/-- The segments a path stands for; `none` where it escapes the workspace, by `..`, from the root or from a home. -/
def segmentsOf (path : String) : Option (List String) :=
  let raw := slashed (strip path)
  if startsWith raw "/" || startsWith raw "~" then none else normSegments (splitSlash raw)

/-- The spellings of the whole workspace that `_under` knows. -/
def rootTokens : List String := [".", "./", ""]

theorem normRel_eq (path : String) : normRel path = ((segmentsOf path).map joinSlash).getD "" := by
  unfold normRel segmentsOf
  dsimp only
  by_cases hempty : slashed (strip path) = ""
  · rw [hempty]
    rfl
  by_cases houtside : (startsWith (slashed (strip path)) "/" || startsWith (slashed (strip path)) "~") = true
  · rw [if_pos (by rw [Bool.or_assoc, houtside, Bool.or_true]), if_pos houtside]
    rfl
  · rw [if_neg (by rw [Bool.or_assoc, decide_eq_false hempty, Bool.false_or]; exact houtside), if_neg houtside]
    cases normSegments (splitSlash (slashed (strip path))) <;> rfl

theorem plain_of_normSegments {chunks segments : List String} (hfree : ∀ chunk ∈ chunks, '/' ∉ chunk.toList)
    (h : normSegments chunks = some segments) : ∀ segment ∈ segments, PlainName segment := by
  induction chunks generalizing segments with
  | nil =>
    cases h
    exact fun segment hm => absurd hm List.not_mem_nil
  | cons chunk rest ih =>
    obtain ⟨hchunk, hrest⟩ := List.forall_mem_cons.mp hfree
    rw [normSegments] at h
    split_ifs at h with hskip hparent
    · exact ih hrest h
    · obtain ⟨later, hlater, rfl⟩ := Option.map_eq_some_iff.mp h
      refine List.forall_mem_cons.mpr ⟨⟨?_, hchunk⟩, ih hrest hlater⟩
      simp only [List.mem_cons, List.not_mem_nil, or_false, not_or] at hskip ⊢
      exact ⟨hskip.1, hskip.2, hparent⟩

/-- What a path stands for has plain names only. -/
theorem plain_of_segmentsOf {path : String} {segments : List String} (h : segmentsOf path = some segments) :
    ∀ segment ∈ segments, PlainName segment := by
  unfold segmentsOf at h
  dsimp only at h
  split_ifs at h
  exact plain_of_normSegments (fun chunk hm => slash_not_mem_of_mem_splitSlash hm) h

/-- A path that stands for some file of the workspace is read as its text. -/
theorem normRel_of_segmentsOf {path : String} {segments : List String} (h : segmentsOf path = some segments) :
    normRel path = joinSlash segments := by
  rw [normRel_eq, h]
  rfl

theorem joinSlash_eq_empty {segments : List String} (hplain : ∀ segment ∈ segments, PlainName segment) :
    joinSlash segments = "" ↔ segments = [] := by
  refine ⟨fun hempty => ?_, fun hnil => by rw [hnil]; rfl⟩
  by_contra hne
  have hsplit := splitSlash_joinSlash hne fun segment hm => (hplain segment hm).2
  rw [hempty, show splitSlash "" = [""] from rfl] at hsplit
  exact absurd (hplain "" (hsplit ▸ List.mem_singleton_self _)).1 (by decide)

theorem normRel_eq_empty {path : String} : normRel path = "" ↔ segmentsOf path = none ∨ segmentsOf path = some [] := by
  cases hsegments : segmentsOf path with
  | none => simp [normRel_eq, hsegments]
  | some segments =>
    rw [normRel_of_segmentsOf hsegments, joinSlash_eq_empty (plain_of_segmentsOf hsegments)]
    simp

theorem segmentsOf_of_rootToken {pre : String} (h : strip pre ∈ rootTokens) : segmentsOf pre = some [] := by
  unfold segmentsOf
  simp only [rootTokens, List.mem_cons, List.not_mem_nil, or_false] at h
  obtain h | h | h := h
  · rw [h]
    decide
  · rw [h]
    decide
  · rw [h]
    decide

/-- `_under`, in segments: the prefix's come first, and a prefix without any is spelled as one of three tokens. -/
theorem under_iff {path pre : String} : under path pre = true ↔ ∃ segments base, segmentsOf path = some segments ∧
    segments ≠ [] ∧ segmentsOf pre = some base ∧ base <+: segments ∧ (base = [] → strip pre ∈ rootTokens) := by
  unfold under
  dsimp only
  by_cases hpath : normRel path = ""
  · rw [if_pos hpath]
    refine ⟨fun h => (by cases h), ?_⟩
    rintro ⟨segments, base, hsegments, hne, -⟩
    obtain hnone | hnil := normRel_eq_empty.mp hpath
    · rw [hsegments] at hnone
      cases hnone
    · rw [hsegments] at hnil
      exact absurd (Option.some.inj hnil) hne
  rw [if_neg hpath]
  obtain ⟨segments, hsegments⟩ : ∃ segments, segmentsOf path = some segments := by
    cases hsegments : segmentsOf path with
    | none => exact absurd (normRel_eq_empty.mpr (Or.inl hsegments)) hpath
    | some segments => exact ⟨segments, rfl⟩
  have hne : segments ≠ [] := by
    rintro rfl
    exact hpath (normRel_eq_empty.mpr (Or.inr hsegments))
  by_cases hprefix : normRel pre = ""
  · rw [if_pos hprefix, decide_eq_true_eq]
    constructor
    · intro htoken
      exact ⟨segments, [], hsegments, hne, segmentsOf_of_rootToken htoken, List.nil_prefix, fun _ => htoken⟩
    · rintro ⟨_, base, -, -, hbase, -, htoken⟩
      obtain hnone | hnil := normRel_eq_empty.mp hprefix
      · rw [hbase] at hnone
        cases hnone
      · rw [hbase] at hnil
        exact htoken (Option.some.inj hnil)
  · rw [if_neg hprefix]
    obtain ⟨base, hbase⟩ : ∃ base, segmentsOf pre = some base := by
      cases hbase : segmentsOf pre with
      | none => exact absurd (normRel_eq_empty.mpr (Or.inl hbase)) hprefix
      | some base => exact ⟨base, rfl⟩
    have hbaseNe : base ≠ [] := by
      rintro rfl
      exact hprefix (normRel_eq_empty.mpr (Or.inr hbase))
    have hread : atOrBelow (normRel path) (normRel pre) = true ↔ base <+: segments := by
      rw [normRel_of_segmentsOf hsegments, normRel_of_segmentsOf hbase, atOrBelow_iff,
        splitSlash_joinSlash hne fun segment hm => (plain_of_segmentsOf hsegments segment hm).2,
        splitSlash_joinSlash hbaseNe fun segment hm => (plain_of_segmentsOf hbase segment hm).2]
    rw [hread]
    constructor
    · intro h
      exact ⟨segments, base, hsegments, hne, hbase, h, fun hnil => absurd hnil hbaseNe⟩
    · rintro ⟨_, _, hsegments', -, hbase', h, -⟩
      rw [hsegments] at hsegments'
      rw [hbase] at hbase'
      cases hsegments'
      cases hbase'
      exact h

/-! ### In scope -/

/-- A target is, normalised, a file of the workspace, under some permitted root and under no protected prefix. -/
def InScope (charter : ResolvedCharter) (target : String) : Prop :=
  ∃ file : RepoPath, file.text = normRel target ∧
    (∃ root ∈ charter.permittedRoots, ∃ base, segmentsOf root = some base ∧ base <+: file.segments) ∧
    ∀ pre ∈ charter.protectedWritePrefixes, ∀ base, segmentsOf pre = some base → ¬ base <+: file.segments

variable {host : Host} {charter : ResolvedCharter} {actionKind : String} {targets : List String}

/-- A target that is not refused is a file of the workspace under some root. -/
theorem file_of_allowsPath {target : String} (h : charter.allowsPath target = true) :
    ∃ file : RepoPath, file.text = normRel target ∧ segmentsOf target = some file.segments ∧
      ∃ root ∈ charter.permittedRoots, ∃ base, segmentsOf root = some base ∧ base <+: file.segments := by
  obtain ⟨root, hroot, hunder⟩ := List.any_eq_true.mp h
  obtain ⟨segments, base, hsegments, hne, hbase, hprefix, -⟩ := under_iff.mp hunder
  exact ⟨⟨segments, hne, plain_of_segmentsOf hsegments⟩, (normRel_of_segmentsOf hsegments).symm, hsegments, root, hroot,
    base, hbase, hprefix⟩

/-- Where a mutating action is not blocked, its targets are in scope exactly where there are none, or every protected
prefix that stands for the whole workspace is spelled as one of the tokens. -/
theorem mutating_in_scope_iff (hmutating : isMutatingActionKind host actionKind = true)
    (hpasses : (charterScopeNarrowing host (some charter) actionKind targets).1 = false) :
    (∀ target ∈ targets, InScope charter target) ↔
      (targets ≠ [] → ∀ pre ∈ charter.protectedWritePrefixes, segmentsOf pre = some [] → strip pre ∈ rootTokens) := by
  have hclear := ((charterScopeNarrowing_passes host).mp hpasses).2 hmutating
  constructor
  · intro hscope hne pre hpre hroot
    obtain ⟨target, rest, rfl⟩ := List.exists_cons_of_ne_nil hne
    obtain ⟨file, -, -, hout⟩ := hscope target (List.mem_cons_self ..)
    exact absurd List.nil_prefix (hout pre hpre [] hroot)
  · intro hspelled target htarget
    obtain ⟨hunprotected, hallowed⟩ := hclear target htarget
    obtain ⟨file, htext, hsegments, hroot⟩ := file_of_allowsPath hallowed
    refine ⟨file, htext, hroot, fun pre hpre base hbase hprefix => ?_⟩
    rw [ResolvedCharter.isProtectedWrite, protects, List.any_eq_false] at hunprotected
    refine hunprotected pre hpre (under_iff.mpr ⟨file.segments, base, hsegments, file.nonempty, hbase, hprefix, ?_⟩)
    rintro rfl
    exact hspelled (List.ne_nil_of_mem htarget) pre hpre hbase

/-- A charter that permits `src` and protects one prefix. -/
def protectedSource (pre : String) : ResolvedCharter where
  charterId := "x"
  workspaceId := "w"
  ownerId := "o"
  projectId := none
  charterVersion := "v1"
  policyRevision := "p3-2026-09"
  status := "active"
  enforcementTier := .advisory
  permittedRoots := ["src"]
  protectedWritePrefixes := [pre]
  deniedReadPaths := []
  permittedCapabilities := {"filesystem.write"}
  confirmRequiredCapabilities := ∅
  egressMode := .denyAll
  runtimeAllowlist := []
  caps := ⟨3, 1, 1800, 0, "USD", .unsupported⟩
  approvedBy := "o"
  approvedAt := ⟨epoch, true⟩
  expiresAt := ⟨epoch + 1, true⟩
  revokedAt := none
  narrowingIds := []
  charterDigest := ""
  schemaVersion := "v1"
  credentialRiskAcknowledged := false

theorem mutating_in_scope_source : (∀ target ∈ ["src//a.py"], InScope (protectedSource "tests/") target) ↔
    (["src//a.py"] ≠ [] → ∀ pre ∈ (protectedSource "tests/").protectedWritePrefixes, segmentsOf pre = some [] →
      strip pre ∈ rootTokens) :=
  @mutating_in_scope_iff (asciiHost [] []) (protectedSource "tests/") "edit" ["src//a.py"] (by decide) (by decide)

/-- `././` is the whole workspace and protects nothing of it. -/
theorem mutating_out_of_scope : ¬ ∀ (host : Host) (charter : ResolvedCharter) (actionKind : String) (targets : List String),
    isMutatingActionKind host actionKind = true → (charterScopeNarrowing host (some charter) actionKind targets).1 = false →
      ∀ target ∈ targets, InScope charter target := by
  intro h
  obtain ⟨file, -, -, hout⟩ := h (asciiHost [] []) (protectedSource "././") "edit" ["src/a.py"] (by decide) (by decide)
    "src/a.py" (by decide)
  exact hout "././" (by decide) [] (by decide) List.nil_prefix

end OpenTimeline.Charter
