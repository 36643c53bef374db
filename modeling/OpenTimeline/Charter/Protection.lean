import OpenTimeline.Charter.Validation

/-! Who protects what.

Three readers take the same protected prefixes: `is_protected_write` normalises each
of them, the corpus manifest and the sandbox block only strip slashes. A stripped
prefix covers what it names only where it is already spelled in canonical segments
(`atOrBelow_stripSlash_iff`), and the manifest's walk leaves some directories out
whatever the prefixes say. `consumers_agree_iff` is what is left to ask of a
prefix list and a path for the three to agree.

A subpath of the sandbox is taken as the text it is rendered as: the file it names
and every path that goes on from it with a slash. -/
namespace OpenTimeline.Charter
open Library

/-! ### The corpus manifest -/

/-- A directory entry of the clone; a file that cannot be read has no digest. -/
inductive Node
  | file (name : {name : String // PlainName name}) (digest : Option String)
  | dir (name : {name : String // PlainName name}) (entries : List Node)

/-- `_SKIP_DIR_NAMES`, `_SKIP_DIR_PREFIXES` -/
def skippedDirectory (name : String) : Bool :=
  name ∈ [".git", "__pycache__", "node_modules", "build", "dist"] || startsWith name ".venv"

mutual

/-- The files a walk visits that leaves out the directories `skip` names. -/
def walkNode (skip : String → Bool) : Node → List (List String × Option String)
  | .file name digest => [([name.val], digest)]
  | .dir name entries =>
    if skip name.val then []
    else (walk skip entries).map fun file => (name.val :: file.1, file.2)

def walk (skip : String → Bool) : List Node → List (List String × Option String)
  | [] => []
  | node :: rest => walkNode skip node ++ walk skip rest

end

/-- Every file of a clone. -/
def files (root : List Node) : List (List String × Option String) := walk (fun _ => false) root

/-- `DECIDING_FILE_PATHS` -/
def decidingFilePaths : List String :=
  ["pyproject.toml", "conftest.py", "setup.cfg", "tox.ini", "pytest.ini", "ruff.toml", ".ruff.toml",
    "uv.lock", "poetry.lock", "requirements.txt", "Makefile"]

/-- `_manifest_wanted` -/
def manifestWanted (relative : String) (prefixes : List String) : Bool :=
  (splitSlash relative).getLastD "" ∈ decidingFilePaths || prefixes.any fun pre => atOrBelow relative pre

/-- `build_corpus_manifest` -/
def buildCorpusManifest (root : List Node) (prefixes : List String) : List (String × String) :=
  let wantedPrefixes := (prefixes.filter fun pre => strip pre ≠ "").map fun pre => stripSlash (strip pre)
  let entries := (walk skippedDirectory root).filterMap fun file =>
    if manifestWanted (joinSlash file.1) wantedPrefixes then
      file.2.map fun digest => (joinSlash file.1, digest)
    else none
  entries.insertionSort fun a b => toLex a ≤ toLex b

/-! ### The sandbox block -/

/-- `os.path.join(base, path)` -/
def pathJoin (base path : String) : String :=
  if startsWith path "/" then path
  else if base = "" || base.toList.getLast? = some '/' then base ++ path
  else base ++ "/" ++ path

/-- The directories the protected block denies writes under. -/
def protectedTargets (clone : String) (prefixes : List String) : List String :=
  prefixes.map fun pre => pathJoin clone (stripSlash pre)

/-- `_protected_block` -/
def protectedBlock (clone : String) (prefixes : List String) : String :=
  "\n".intercalate ((protectedTargets clone prefixes).map fun target =>
    "(deny file-write* (subpath \"" ++ target ++ "\"))")

/-- The prefixes `render_profile` renders. -/
def renderedPrefixes (prefixes : List String) : Except CharterError (List String) :=
  let rendered := (prefixes.map stripSlash).filter (· ≠ "")
  if rendered.isEmpty then
    .error (.invalid "protected_write_prefixes"
      "must be non-empty: a zero-clause render silently allows every protected path")
  else .ok rendered

/-- A file of the clone is under a directory the rendered block denies. -/
def Denied (clone : String) (prefixes : List String) (path : RepoPath) : Prop :=
  ∃ rendered, renderedPrefixes prefixes = .ok rendered ∧
    ∃ target ∈ protectedTargets clone rendered, atOrBelow (pathJoin clone path.text) target = true

/-! ### What each reader covers -/

/-- The walk descends to the path. -/
def Reached (path : RepoPath) : Prop := ∀ name ∈ path.segments.dropLast, skippedDirectory name = false

instance (path : RepoPath) : Decidable (Reached path) := inferInstanceAs (Decidable (∀ name ∈ _, _))

theorem mem_walkNode_dir {skip : String → Bool} {name : {name : String // PlainName name}}
    {entries : List Node} {path : List String} {digest : Option String} :
    (path, digest) ∈ walkNode skip (.dir name entries) ↔
      skip name.val = false ∧ ∃ rest, path = name.val :: rest ∧ (rest, digest) ∈ walk skip entries := by
  rw [walkNode]
  split_ifs with hskip
  · simp [hskip]
  · simp only [List.mem_map, Prod.mk.injEq, Prod.exists, hskip, true_and]
    constructor
    · rintro ⟨rest, _, hrest, rfl, rfl⟩
      exact ⟨rest, rfl, hrest⟩
    · rintro ⟨rest, rfl, hrest⟩
      exact ⟨rest, digest, hrest, rfl, rfl⟩

mutual

/-- What a walk visits is a path of plain names. -/
theorem plain_of_mem_walkNode {skip : String → Bool} {path : List String} {digest : Option String} :
    ∀ node, (path, digest) ∈ walkNode skip node → path ≠ [] ∧ ∀ name ∈ path, PlainName name
  | .file name _, h => by
    rw [walkNode, List.mem_singleton, Prod.mk.injEq] at h
    obtain ⟨rfl, rfl⟩ := h
    exact ⟨by simp, by simpa using name.property⟩
  | .dir name entries, h => by
    obtain ⟨_, rest, rfl, hrest⟩ := mem_walkNode_dir.mp h
    exact ⟨by simp, List.forall_mem_cons.mpr ⟨name.property, (plain_of_mem_walk entries hrest).2⟩⟩

theorem plain_of_mem_walk {skip : String → Bool} {path : List String} {digest : Option String} :
    ∀ nodes, (path, digest) ∈ walk skip nodes → path ≠ [] ∧ ∀ name ∈ path, PlainName name
  | [], h => by cases h
  | node :: rest, h => by
    rw [walk, List.mem_append] at h
    exact h.elim (plain_of_mem_walkNode node) (plain_of_mem_walk rest)

end

mutual

/-- A walk visits the files it does not leave out a directory above. -/
theorem mem_walkNode {skip : String → Bool} {path : List String} {digest : Option String} :
    ∀ node, (path, digest) ∈ walkNode skip node ↔
      (path, digest) ∈ walkNode (fun _ => false) node ∧ ∀ name ∈ path.dropLast, skip name = false
  | .file name _ => by
    simp only [walkNode, List.mem_singleton, Prod.mk.injEq]
    constructor
    · rintro ⟨rfl, rfl⟩
      simp
    · exact And.left
  | .dir name entries => by
    rw [mem_walkNode_dir, mem_walkNode_dir]
    constructor
    · rintro ⟨hskip, rest, rfl, hrest⟩
      obtain ⟨hvisited, hreached⟩ := (mem_walk entries).mp hrest
      rw [List.dropLast_cons_of_ne_nil (plain_of_mem_walk entries hrest).1, List.forall_mem_cons]
      exact ⟨⟨rfl, rest, rfl, hvisited⟩, hskip, hreached⟩
    · rintro ⟨⟨_, rest, rfl, hrest⟩, hreached⟩
      rw [List.dropLast_cons_of_ne_nil (plain_of_mem_walk entries hrest).1, List.forall_mem_cons] at hreached
      exact ⟨hreached.1, rest, rfl, (mem_walk entries).mpr ⟨hrest, hreached.2⟩⟩

theorem mem_walk {skip : String → Bool} {path : List String} {digest : Option String} :
    ∀ nodes, (path, digest) ∈ walk skip nodes ↔
      (path, digest) ∈ walk (fun _ => false) nodes ∧ ∀ name ∈ path.dropLast, skip name = false
  | [] => by simp [walk]
  | node :: rest => by
    rw [walk, walk, List.mem_append, List.mem_append, mem_walkNode node, mem_walk rest, ← or_and_right]

end

/-- A readable file is in the manifest when the walk reaches it and it is wanted. -/
theorem mem_buildCorpusManifest {root : List Node} {prefixes : List String} {path : RepoPath}
    {digest : String} (hfile : (path.segments, some digest) ∈ files root) :
    (path.text, digest) ∈ buildCorpusManifest root prefixes ↔ Reached path ∧
      manifestWanted path.text
        ((prefixes.filter fun pre => strip pre ≠ "").map fun pre => stripSlash (strip pre)) = true := by
  rw [buildCorpusManifest, List.mem_insertionSort, List.mem_filterMap]
  constructor
  · rintro ⟨⟨segments, content⟩, hvisited, hentry⟩
    simp only [] at hentry
    split_ifs at hentry with hwanted
    obtain ⟨_, rfl, hpair⟩ := Option.map_eq_some_iff.mp hentry
    obtain ⟨htext, rfl⟩ := Prod.mk.inj hpair
    obtain ⟨hne, hplain⟩ := plain_of_mem_walk _ hvisited
    -- the text of a path has its segments
    have hsegments : segments = path.segments := by
      rw [← splitSlash_joinSlash hne fun name hm => (hplain name hm).2, htext, path.splitSlash_text]
    subst hsegments
    exact ⟨((mem_walk root).mp hvisited).2, htext ▸ hwanted⟩
  · rintro ⟨hreached, hwanted⟩
    refine ⟨(path.segments, some digest), (mem_walk root).mpr ⟨hfile, hreached⟩, ?_⟩
    have htext : joinSlash path.segments = path.text := rfl
    simp only [htext, hwanted, if_true, Option.map_some]

theorem atOrBelow_append (dir path base : String) :
    atOrBelow (dir ++ path) (dir ++ base) = atOrBelow path base := by
  rw [Bool.eq_iff_iff, atOrBelow, atOrBelow, Bool.or_eq_true, Bool.or_eq_true, decide_eq_true_eq,
    decide_eq_true_eq, startsWith_iff, startsWith_iff, ← String.toList_inj, ← String.toList_inj]
  simp only [String.toList_append, List.append_assoc, List.prefix_append_right_inj, List.append_cancel_left_eq]

theorem pathJoin_eq (clone : String) {path : String} (h : startsWith path "/" = false) :
    pathJoin clone path =
      (if clone = "" || clone.toList.getLast? = some '/' then clone else clone ++ "/") ++ path := by
  unfold pathJoin
  rw [if_neg (by simp [h])]
  split_ifs <;> rfl

/-- Joined to one directory, relative paths compare as they are. -/
theorem atOrBelow_pathJoin {clone path base : String} (hpath : startsWith path "/" = false)
    (hbase : startsWith base "/" = false) :
    atOrBelow (pathJoin clone path) (pathJoin clone base) = atOrBelow path base := by
  rw [pathJoin_eq clone hpath, pathJoin_eq clone hbase, atOrBelow_append]

theorem startsWith_stripSlash (text : String) : startsWith (stripSlash text) "/" = false := by
  rw [Bool.eq_false_iff, Ne, startsWith_iff, stripSlash, String.toList_ofList]
  rintro ⟨rest, hrest⟩
  rw [String.toList_ofList] at hrest
  have htrimmed : (stripChars (· = '/') text.toList).dropWhile (· = '/') = stripChars (· = '/') text.toList :=
    dropWhile_trim text.toList
  rw [← hrest] at htrimmed
  have hlength := List.length_dropWhile_le (fun c : Char => decide (c = '/')) rest
  have hshorter := congrArg List.length htrimmed
  simp at hshorter
  omega

theorem RepoPath.not_atOrBelow_empty (path : RepoPath) : atOrBelow path.text "" = false := by
  rw [Bool.eq_false_iff, Ne, atOrBelow_iff, path.splitSlash_text]
  intro h
  have hplain := (path.plain "" (h.subset (List.mem_singleton_self _))).1
  simp at hplain

theorem RepoPath.startsWith_text (path : RepoPath) : startsWith path.text "/" = false := by
  have h := path.not_atOrBelow_empty
  rw [atOrBelow, Bool.or_eq_false_iff] at h
  exact h.2

/-- The sandbox denies what a canonical prefix names. -/
theorem denied_iff {clone : String} {prefixes : List String} {path : RepoPath} :
    Denied clone prefixes path ↔ ∃ pre ∈ prefixes, Canonical pre ∧ Names pre path := by
  unfold Denied renderedPrefixes protectedTargets
  simp only [← atOrBelow_stripSlash_iff]
  constructor
  · rintro ⟨rendered, hrendered, target, htarget, hbelow⟩
    split_ifs at hrendered
    cases hrendered
    obtain ⟨base, hbase, rfl⟩ := List.mem_map.mp htarget
    obtain ⟨pre, hpre, rfl⟩ := List.mem_map.mp (List.mem_filter.mp hbase).1
    rw [atOrBelow_pathJoin path.startsWith_text (startsWith_stripSlash _), stripSlash_stripSlash] at hbelow
    exact ⟨pre, hpre, hbelow⟩
  · rintro ⟨pre, hpre, hbelow⟩
    have hne : stripSlash pre ≠ "" := by
      intro hempty
      rw [hempty, path.not_atOrBelow_empty] at hbelow
      cases hbelow
    have hmem : stripSlash pre ∈ (prefixes.map stripSlash).filter (· ≠ "") :=
      List.mem_filter.mpr ⟨List.mem_map_of_mem hpre, decide_eq_true hne⟩
    refine ⟨_, if_neg (by simpa using List.ne_nil_of_mem hmem), _, List.mem_map_of_mem hmem, ?_⟩
    rwa [atOrBelow_pathJoin path.startsWith_text (startsWith_stripSlash _), stripSlash_stripSlash]

/-- The manifest wants what a canonical prefix names, and the deciding files. -/
theorem manifestWanted_iff {prefixes : List String} (hkept : ∀ pre ∈ prefixes, Kept pre) {path : RepoPath} :
    manifestWanted path.text
      ((prefixes.filter fun pre => strip pre ≠ "").map fun pre => stripSlash (strip pre)) = true ↔
        path.segments.getLastD "" ∈ decidingFilePaths ∨ ∃ pre ∈ prefixes, Canonical pre ∧ Names pre path := by
  have hstripped : (prefixes.filter fun pre => strip pre ≠ "").map (fun pre => stripSlash (strip pre)) =
      prefixes.map stripSlash := by
    have hall : prefixes.filter (fun pre => strip pre ≠ "") = prefixes := by
      refine List.filter_eq_self.mpr fun pre hpre => ?_
      rw [(hkept pre hpre).trimmed]
      exact decide_eq_true (hkept pre hpre).nonempty
    rw [hall]
    exact List.map_congr_left fun pre hpre => congrArg stripSlash (hkept pre hpre).trimmed
  simp only [hstripped, manifestWanted, path.splitSlash_text, Bool.or_eq_true, decide_eq_true_eq,
    List.any_map, List.any_eq_true, Function.comp, atOrBelow_stripSlash_iff]

/-! ### Agreement -/

/-- The three readers protect one file alike: a path whose writes are refused is in the manifest
and denied by the sandbox, and so is, with its writes refused, a path some prefix names. -/
structure Agree (prefixes : List String) (root : List Node) (clone : String) (path : RepoPath)
    (digest : String) : Prop where
  refused : protects prefixes path.text = true →
    (path.text, digest) ∈ buildCorpusManifest root prefixes ∧ Denied clone prefixes path
  named : ∀ pre ∈ prefixes, Names pre path → protects prefixes path.text = true ∧
    (path.text, digest) ∈ buildCorpusManifest root prefixes ∧ Denied clone prefixes path

/-- The walk descends to the path, and a prefix names it in canonical spelling. -/
structure Covered (prefixes : List String) (path : RepoPath) : Prop where
  reached : Reached path
  canonical : ∃ pre ∈ prefixes, Canonical pre ∧ Names pre path

section Accepted
variable {prefixes : List String} (hkept : ∀ pre ∈ prefixes, Kept pre) {root : List Node} {path : RepoPath}
  {digest clone : String} (hfile : (path.segments, some digest) ∈ files root)
include hkept hfile

theorem covered_iff : (path.text, digest) ∈ buildCorpusManifest root prefixes ∧ Denied clone prefixes path ↔
    Covered prefixes path := by
  rw [mem_buildCorpusManifest hfile, manifestWanted_iff hkept, denied_iff]
  constructor
  · rintro ⟨⟨hreached, _⟩, hcanonical⟩
    exact ⟨hreached, hcanonical⟩
  · rintro ⟨hreached, hcanonical⟩
    exact ⟨⟨hreached, Or.inr hcanonical⟩, hcanonical⟩

theorem agree_iff : Agree prefixes root clone path digest ↔
    ((∃ pre ∈ prefixes, Names pre path) ∨ protects prefixes path.text = true →
      Covered prefixes path ∧ protects prefixes path.text = true) := by
  have hcovered : _ ∧ Denied clone prefixes path ↔ _ := covered_iff hkept hfile
  constructor
  · rintro ⟨hrefused, hnamed⟩ (⟨pre, hpre, hnames⟩ | hprotects)
    · obtain ⟨hprotects, hboth⟩ := hnamed pre hpre hnames
      exact ⟨hcovered.mp hboth, hprotects⟩
    · exact ⟨hcovered.mp (hrefused hprotects), hprotects⟩
  · intro h
    exact ⟨fun hprotects => hcovered.mpr (h (Or.inr hprotects)).1, fun pre hpre hnames =>
      have hboth := h (Or.inl ⟨pre, hpre, hnames⟩)
      ⟨hboth.2, hcovered.mpr hboth.1⟩⟩

/-- Where the path is read as it is spelled, a canonical prefix that names it protects it. -/
theorem agree_iff_of_read (hread : normRel path.text = path.text) :
    Agree prefixes root clone path digest ↔
      ((∃ pre ∈ prefixes, Names pre path) → Covered prefixes path) := by
  rw [agree_iff hkept hfile]
  constructor
  · exact fun h hnames => (h (Or.inl hnames)).1
  · intro h hconcerned
    have hnamed : ∃ pre ∈ prefixes, Names pre path := by
      rcases hconcerned with hnamed | hprotects
      · exact hnamed
      · obtain ⟨pre, hpre, hunder⟩ := List.any_eq_true.mp hprotects
        exact ⟨pre, hpre, names_of_under (hkept pre hpre) hread hunder⟩
    have hcovered := h hnamed
    obtain ⟨pre, hpre, hcanonical, hnames⟩ := hcovered.canonical
    exact ⟨hcovered, List.any_eq_true.mpr ⟨pre, hpre,
      under_of_names (hkept pre hpre) hread hcanonical hnames⟩⟩

end Accepted

/-- For an accepted payload the three readers agree about a file exactly when, if a prefix names
it or has it under it, the manifest's walk reaches it, a prefix names it in canonical spelling, and
it is under a prefix as `_under` reads it; the last goes without saying where `_norm_rel` leaves
the path as it is spelled. -/
theorem consumers_agree_iff (host : Host) {payload : Payload} {charter : NormalizedCharter}
    (hvalid : validateCharterPayload host payload = .ok charter) {root : List Node} {path : RepoPath}
    {digest : String} (hfile : (path.segments, some digest) ∈ files root) (clone : String) :
    (Agree charter.protectedWritePrefixes root clone path digest ↔
      ((∃ pre ∈ charter.protectedWritePrefixes, Names pre path) ∨
        protects charter.protectedWritePrefixes path.text = true →
          Covered charter.protectedWritePrefixes path ∧
            protects charter.protectedWritePrefixes path.text = true)) ∧
    (normRel path.text = path.text →
      (Agree charter.protectedWritePrefixes root clone path digest ↔
        ((∃ pre ∈ charter.protectedWritePrefixes, Names pre path) →
          Covered charter.protectedWritePrefixes path))) :=
  have hkept := (kept_of_validate host hvalid).2
  ⟨agree_iff hkept hfile, agree_iff_of_read hkept hfile⟩

/-- A payload that protects one prefix. -/
def protecting (pre : String) : Payload :=
  [("enforcement_tier", .str "container"), ("permitted_roots", .arr [.str "src"]),
    ("protected_write_prefixes", .arr [.str pre])]

/-- A clone with the one file `tests/a.py`. -/
def testsClone : List Node := [.dir ⟨"tests", by decide⟩ [.file ⟨"a.py", by decide⟩ (some "d")]]

def testsPath : RepoPath := ⟨["tests", "a.py"], by decide, by decide⟩

theorem prefixes_of_protecting (pre : String) (prefixes : List String)
    (h : (validateCharterPayload (asciiHost [] []) (protecting pre)).map (·.protectedWritePrefixes) =
      .ok prefixes) : ∃ charter, validateCharterPayload (asciiHost [] []) (protecting pre) = .ok charter ∧
        charter.protectedWritePrefixes = prefixes := by
  cases hvalid : validateCharterPayload (asciiHost [] []) (protecting pre) with
  | error e =>
    rw [hvalid] at h
    cases h
  | ok charter =>
    rw [hvalid] at h
    exact ⟨charter, rfl, Except.ok.inj h⟩

theorem consumers_agree_tests : Agree ["tests/"] testsClone "/t/clone" testsPath "d" := by
  obtain ⟨charter, hvalid, hprefixes⟩ := prefixes_of_protecting "tests/" ["tests/"] (by decide)
  have hfile : (testsPath.segments, some "d") ∈ files testsClone := by decide
  have h := (consumers_agree_iff (asciiHost [] []) hvalid hfile "/t/clone").2 (by decide)
  rw [hprefixes] at h
  exact h.mpr fun _ => ⟨by decide, "tests/", by decide, by decide, by decide⟩

/-- `./tests/` is accepted and refuses writes under `tests`, but the manifest has nothing under it. -/
theorem consumers_disagree : ∃ charter,
    validateCharterPayload (asciiHost [] []) (protecting "./tests/") = .ok charter ∧
      charter.protectedWritePrefixes = ["./tests/"] ∧
      protects ["./tests/"] "tests/a.py" = true ∧
      (testsPath.segments, some "d") ∈ files testsClone ∧
      ¬ Agree ["./tests/"] testsClone "/t/clone" testsPath "d" := by
  obtain ⟨charter, hvalid, hprefixes⟩ := prefixes_of_protecting "./tests/" ["./tests/"] (by decide)
  refine ⟨charter, hvalid, hprefixes, by decide, by decide, fun hagree => ?_⟩
  have hmanifest := (hagree.refused (by decide)).1
  exact absurd hmanifest (by decide)

end OpenTimeline.Charter
