import OpenTimeline.Decision.Support

/-! The split that a policy is evaluated on.

Whole episodes go to the holdout, the newest first, until it has the share of the cases wanted. Then each other
episode that shares a leakage group with one of these is moved there too, and the groups it brings along are not
looked at again. So the episodes are parted (`parts_freezeSplit`), and no group is on both sides exactly where
whatever is linked to the newest episodes by a chain of groups is linked to one of them by a single group
(`split_sound_iff`). -/
namespace OpenTimeline.Decision
open Library

variable (host : PolicyHost)

/-! ### The code -/

/-- An adjudicated case, as the split reads it. -/
structure PolicyCase where
  episodeKey : String
  /-- `objective_hash`, or empty where the row has none -/
  leakageGroup : String
  frozenAt : Instant
  /-- `context_group_key` -/
  contextGroupKey : String
  tuning : PolicyTuning

structure FrozenSplit (R : Type) where
  splitSha256 : String
  holdoutEpisodeKeys : List String
  trainEpisodeKeys : List String
  leakageGroupsMoved : Nat
  casesMoved : Nat
  duplicateContextRatio : R
  thresholdsSha : String
  tuningSha : String
  frozenAt : Option Instant

/-- `sorted(keys)` -/
def sortedKeys (keys : List String) : List String := keys.insertionSort (· ≤ ·)

/-- `_split_digest` -/
def splitDigest (holdout train : List String) (tuningSha : String) : String :=
  host.sha256Hex (dumps (.obj [("holdout", .arr ((sortedKeys holdout).map .str)),
    ("train", .arr ((sortedKeys train).map .str)), ("thresholds_sha", .str host.thresholdsSha),
    ("tuning_sha", .str tuningSha)]))

/-- `by_episode` -/
def byEpisode (cases : List PolicyCase) : List (String × List PolicyCase) := groupBy (·.episodeKey) cases

/-- The episodes, the oldest first. -/
def orderedEpisodes (cases : List PolicyCase) : List (String × List PolicyCase) :=
  let key : String × List PolicyCase → ℕ ×ₗ String := fun episode =>
    toLex ((episode.2.map (·.frozenAt)).min?.getD 0, episode.1)
  (byEpisode cases).insertionSort fun a b => key a ≤ key b

/-- Episodes in turn, until `wanted` cases are held. -/
def holdOut (wanted : Nat) : Nat → List (String × List PolicyCase) → List String
  | _, [] => []
  | held, (key, entries) :: rest => if wanted ≤ held then [] else key :: holdOut wanted (held + entries.length) rest

/-- The newest episodes, which are held out first; `wanted` is `math.ceil(total * HOLDOUT_RATIO)` of a total. -/
def newestEpisodes (wanted : Nat → Nat) (cases : List PolicyCase) : List String :=
  holdOut (wanted cases.length) 0 (orderedEpisodes cases).reverse

/-- The groups of an episode's cases. -/
def groupsOf (entries : List PolicyCase) : List String := ((entries.map (·.leakageGroup)).filter (· ≠ "")).dedup

/-- The repair under way. -/
structure Repair where
  holdout : List String
  movedGroups : List String := []
  casesMoved : Nat := 0

/-- One turn of the repair: the groups held are those of before it. -/
def repairEpisode (holdoutGroups : List String) (repair : Repair) (episode : String × List PolicyCase) : Repair :=
  let shared := (groupsOf episode.2).filter (· ∈ holdoutGroups)
  if episode.1 ∈ repair.holdout ∨ shared = [] then repair
  else
    { holdout := repair.holdout ++ [episode.1]
      movedGroups := (repair.movedGroups ++ shared).dedup
      casesMoved := repair.casesMoved + episode.2.length }

/-- The cases of an episode, `by_episode[key]`. -/
def casesOf (cases : List PolicyCase) (key : String) : List PolicyCase := ((byEpisode cases).lookup key).getD []

/-- The leakage repair. -/
def repairLeakage (wanted : Nat → Nat) (cases : List PolicyCase) : Repair :=
  let held := newestEpisodes wanted cases
  (orderedEpisodes cases).foldl (repairEpisode (held.flatMap fun key => groupsOf (casesOf cases key))) {holdout := held}

/-- `freeze_split` -/
def freezeSplit (R : Type) [Floats R] (wanted : Nat → Nat) (cases : List PolicyCase) : FrozenSplit R :=
  let tuningSha := (cases.head?.map fun first => first.tuning.tuningSha host).getD ""
  let repair := repairLeakage wanted cases
  let holdoutFinal := sortedKeys repair.holdout
  let trainFinal := sortedKeys (((orderedEpisodes cases).map Prod.fst).filter (· ∉ repair.holdout))
  let contextKeys := (holdoutFinal.flatMap (casesOf cases)).map (·.contextGroupKey)
  { splitSha256 := splitDigest host holdoutFinal trainFinal tuningSha
    holdoutEpisodeKeys := holdoutFinal
    trainEpisodeKeys := trainFinal
    leakageGroupsMoved := repair.movedGroups.length
    casesMoved := repair.casesMoved
    duplicateContextRatio :=
      if contextKeys = [] then Floats.near 0
      else Floats.round6 (Floats.near 1 - Floats.near ((contextKeys.dedup.length : ℚ) / contextKeys.length))
    thresholdsSha := host.thresholdsSha
    tuningSha
    frozenAt := (cases.map (·.frozenAt)).min? }

/-! ### What a split is for -/

/-- When the first of an episode's cases was frozen. -/
def firstFrozen (cases : List PolicyCase) (key : String) : Instant :=
  ((cases.filter fun case => case.episodeKey = key).map (·.frozenAt)).min?.getD 0

/-- What the episodes are ordered by. -/
def age (cases : List PolicyCase) (key : String) : ℕ ×ₗ String := toLex (firstFrozen cases key, key)

/-- Fewer cases than are wanted are of episodes that are newer. -/
def IsNewest (wanted : Nat → Nat) (cases : List PolicyCase) (key : String) : Prop :=
  (∃ case ∈ cases, case.episodeKey = key) ∧
    (cases.filter fun case => age cases key < age cases case.episodeKey).length < wanted cases.length

/-- Two episodes have cases of one leakage group. -/
def SharesGroup (cases : List PolicyCase) (a b : String) : Prop :=
  ∃ case ∈ cases, ∃ case' ∈ cases, case.episodeKey = a ∧ case'.episodeKey = b ∧
    case.leakageGroup = case'.leakageGroup ∧ case.leakageGroup ≠ ""

/-- Every episode is on one of the sides. -/
structure FrozenSplit.Parts {R : Type} (split : FrozenSplit R) (cases : List PolicyCase) : Prop where
  distinct : (split.holdoutEpisodeKeys ++ split.trainEpisodeKeys).Nodup
  covers : ∀ key, key ∈ split.holdoutEpisodeKeys ++ split.trainEpisodeKeys ↔ ∃ case ∈ cases, case.episodeKey = key

/-- No group is on both. -/
def FrozenSplit.NoLeak {R : Type} (split : FrozenSplit R) (cases : List PolicyCase) : Prop :=
  ∀ a ∈ split.holdoutEpisodeKeys, ∀ b ∈ split.trainEpisodeKeys, ¬ SharesGroup cases a b

variable {host} {cases : List PolicyCase} {wanted : Nat → Nat}

theorem SharesGroup.symm {a b : String} (h : SharesGroup cases a b) : SharesGroup cases b a := by
  obtain ⟨case, hcase, case', hcase', ha, hb, hgroup, hne⟩ := h
  exact ⟨case', hcase', case, hcase, hb, ha, hgroup.symm, hgroup ▸ hne⟩

/-! ### The sides -/

theorem orderedEpisodes_perm : (orderedEpisodes cases).Perm (byEpisode cases) := List.perm_insertionSort _ _

theorem mem_orderedEpisodes {key : String} {entries : List PolicyCase} :
    (key, entries) ∈ orderedEpisodes cases ↔ entries = (cases.filter fun case => case.episodeKey = key) ∧ entries ≠ [] :=
  orderedEpisodes_perm.mem_iff.trans mem_groupBy_iff

theorem nodup_orderedEpisodes : ((orderedEpisodes cases).map Prod.fst).Nodup :=
  (orderedEpisodes_perm.map Prod.fst).nodup_iff.mpr (nodup_groupBy _ _)

theorem mem_episodeKeys {key : String} :
    key ∈ (orderedEpisodes cases).map Prod.fst ↔ ∃ case ∈ cases, case.episodeKey = key :=
  (orderedEpisodes_perm.map Prod.fst).mem_iff.trans mem_keys_groupBy

theorem mem_groupsOf {entries : List PolicyCase} {group : String} :
    group ∈ groupsOf entries ↔ group ≠ "" ∧ ∃ case ∈ entries, case.leakageGroup = group := by
  rw [groupsOf, List.mem_dedup, List.mem_filter, List.mem_map, decide_eq_true_eq, and_comm]

theorem holdOut_sublist (wanted held : Nat) (episodes : List (String × List PolicyCase)) :
    (holdOut wanted held episodes).Sublist (episodes.map Prod.fst) := by
  induction episodes generalizing held with
  | nil => exact List.Sublist.refl _
  | cons episode rest ih =>
    unfold holdOut
    split_ifs
    · exact List.nil_sublist _
    · exact (ih _).cons_cons _

theorem newestEpisodes_sublist : (newestEpisodes wanted cases).Sublist ((orderedEpisodes cases).map Prod.fst).reverse := by
  rw [← List.map_reverse]
  exact holdOut_sublist _ _ _

theorem mem_holdOut {wanted held : Nat} {episodes : List (String × List PolicyCase)} {key : String} :
    key ∈ holdOut wanted held episodes ↔ ∃ newer entries older, episodes = newer ++ (key, entries) :: older ∧
      held + (newer.map fun episode => episode.2.length).sum < wanted := by
  induction episodes generalizing held with
  | nil => simp [holdOut]
  | cons episode rest ih =>
    unfold holdOut
    by_cases hfull : wanted ≤ held
    · rw [if_pos hfull]
      refine iff_of_false List.not_mem_nil ?_
      rintro ⟨newer, -, -, -, hroom⟩
      omega
    · rw [if_neg hfull, List.mem_cons, ih]
      constructor
      · rintro (rfl | ⟨newer, entries, older, rfl, hroom⟩)
        · exact ⟨[], episode.2, rest, rfl, by simpa using hfull⟩
        · refine ⟨episode :: newer, entries, older, rfl, ?_⟩
          rw [List.map_cons, List.sum_cons]
          omega
      · rintro ⟨_ | ⟨first, newer⟩, entries, older, hepisodes, hroom⟩
        · rw [List.nil_append, List.cons.injEq] at hepisodes
          exact Or.inl (by rw [hepisodes.1])
        · rw [List.cons_append, List.cons.injEq] at hepisodes
          obtain ⟨rfl, rfl⟩ := hepisodes
          rw [List.map_cons, List.sum_cons] at hroom
          exact Or.inr ⟨newer, entries, older, rfl, by omega⟩

/-- The cases of distinct episodes, counted episode by episode. -/
theorem length_filter_mem {keys : List String} (hkeys : keys.Nodup) :
    (cases.filter fun case => case.episodeKey ∈ keys).length =
      (keys.map fun key => (cases.filter fun case => case.episodeKey = key).length).sum := by
  induction keys with
  | nil => simp
  | cons key rest ih =>
    rw [List.nodup_cons] at hkeys
    rw [List.map_cons, List.sum_cons, ← ih hkeys.2, ← List.countP_eq_length_filter, ← List.countP_eq_length_filter,
      ← List.countP_eq_length_filter]
    clear ih
    induction cases with
    | nil => rfl
    | cons case others ih =>
      rw [List.countP_cons, List.countP_cons, List.countP_cons, ih]
      have hne : case.episodeKey = key → case.episodeKey ∉ rest := fun heq => heq ▸ hkeys.1
      by_cases hkey : case.episodeKey = key
      · simp [hkey, hkeys.1]
        omega
      · simp [hkey]
        omega

/-- The episodes are in order of age. -/
theorem orderedEpisodes_pairwise :
    (orderedEpisodes cases).Pairwise fun a b => age cases a.1 < age cases b.1 := by
  have hsorted : (orderedEpisodes cases).Pairwise fun a b =>
      toLex ((a.2.map (·.frozenAt)).min?.getD 0, a.1) ≤ toLex ((b.2.map (·.frozenAt)).min?.getD 0, b.1) :=
    List.pairwise_insertionSort _ _
  have hdistinct := List.pairwise_map.mp (@nodup_orderedEpisodes cases)
  refine (hsorted.and hdistinct).imp_of_mem ?_
  intro (a, entries) (b, entries') ha hb ⟨hle, hne⟩
  obtain ⟨rfl, -⟩ := mem_orderedEpisodes.mp ha
  obtain ⟨rfl, -⟩ := mem_orderedEpisodes.mp hb
  exact lt_of_le_of_ne hle fun heq => hne (congrArg (fun pair => (ofLex pair).2) heq)

/-- Where the episodes are cut at one of them, those before the cut are the newer ones. -/
theorem mem_newer_iff {newer older : List (String × List PolicyCase)} {key : String} {entries : List PolicyCase}
    (hcut : (orderedEpisodes cases).reverse = newer ++ (key, entries) :: older) {case : PolicyCase} (hcase : case ∈ cases) :
    case.episodeKey ∈ newer.map Prod.fst ↔ age cases key < age cases case.episodeKey := by
  have hpairwise := List.pairwise_reverse.mpr (@orderedEpisodes_pairwise cases)
  rw [hcut, List.pairwise_append] at hpairwise
  obtain ⟨-, htail, hbefore⟩ := hpairwise
  constructor
  · intro hnewer
    obtain ⟨episode, hepisode, hkey⟩ := List.mem_map.mp hnewer
    exact hkey ▸ hbefore episode hepisode (key, entries) List.mem_cons_self
  · intro hlt
    have hmem : case.episodeKey ∈ ((orderedEpisodes cases).reverse).map Prod.fst := by
      rw [List.map_reverse, List.mem_reverse]
      exact mem_episodeKeys.mpr ⟨case, hcase, rfl⟩
    rw [hcut, List.map_append, List.mem_append, List.map_cons, List.mem_cons] at hmem
    rcases hmem with hnewer | heq | holder
    · exact hnewer
    · exact absurd (heq ▸ hlt) (lt_irrefl _)
    · obtain ⟨episode, hepisode, hkey⟩ := List.mem_map.mp holder
      exact absurd (hkey ▸ List.rel_of_pairwise_cons htail hepisode) (lt_asymm hlt)

/-- The newest episodes are those with fewer newer cases than are wanted. -/
theorem mem_newestEpisodes {key : String} : key ∈ newestEpisodes wanted cases ↔ IsNewest wanted cases key := by
  -- what the episodes before a cut hold is what the cases newer than it come to
  have hheld : ∀ newer entries older, (orderedEpisodes cases).reverse = newer ++ (key, entries) :: older →
      (newer.map fun episode => episode.2.length).sum =
        (cases.filter fun case => age cases key < age cases case.episodeKey).length := by
    intro newer entries older hcut
    have hnodup : (newer.map Prod.fst).Nodup := by
      have hall := List.nodup_reverse.mpr (@nodup_orderedEpisodes cases)
      rw [← List.map_reverse, hcut, List.map_append] at hall
      exact hall.of_append_left
    rw [← List.filter_congr fun case hcase => decide_eq_decide.mpr (mem_newer_iff hcut hcase), length_filter_mem hnodup,
      List.map_map]
    refine congrArg List.sum (List.map_congr_left fun (key', entries') hepisode => ?_)
    have hmem : (key', entries') ∈ orderedEpisodes cases := by
      rw [← List.mem_reverse, hcut]
      exact List.mem_append_left _ hepisode
    rw [Function.comp_apply, (mem_orderedEpisodes.mp hmem).1]
  rw [newestEpisodes, mem_holdOut]
  constructor
  · rintro ⟨newer, entries, older, hcut, hroom⟩
    have hmem : (key, entries) ∈ orderedEpisodes cases := by
      rw [← List.mem_reverse, hcut]
      exact List.mem_append_right _ List.mem_cons_self
    rw [hheld newer entries older hcut, Nat.zero_add] at hroom
    exact ⟨mem_episodeKeys.mp (List.mem_map_of_mem hmem), hroom⟩
  · rintro ⟨hcase, hroom⟩
    obtain ⟨⟨_, entries⟩, hepisode, rfl⟩ := List.mem_map.mp (mem_episodeKeys.mpr hcase)
    obtain ⟨newer, older, hcut⟩ := List.append_of_mem (List.mem_reverse.mpr hepisode)
    refine ⟨newer, entries, older, hcut, ?_⟩
    rw [hheld newer entries older hcut, Nat.zero_add]
    exact hroom

/-- The repair moves the episodes that share a group with those held before it. -/
theorem holdout_foldl (holdoutGroups : List String) {episodes : List (String × List PolicyCase)}
    (hkeys : (episodes.map Prod.fst).Nodup) (repair : Repair) :
    (episodes.foldl (repairEpisode holdoutGroups) repair).holdout = repair.holdout ++
      (episodes.filter fun episode => episode.1 ∉ repair.holdout ∧
        (groupsOf episode.2).filter (· ∈ holdoutGroups) ≠ []).map Prod.fst := by
  induction episodes generalizing repair with
  | nil => simp
  | cons episode rest ih =>
    rw [List.map_cons, List.nodup_cons] at hkeys
    rw [List.foldl_cons, ih hkeys.2, List.filter_cons]
    unfold repairEpisode
    by_cases hstays : episode.1 ∈ repair.holdout ∨ (groupsOf episode.2).filter (· ∈ holdoutGroups) = []
    · have hnot : ¬ (episode.1 ∉ repair.holdout ∧ (groupsOf episode.2).filter (· ∈ holdoutGroups) ≠ []) := by
        tauto
      simp only [if_pos hstays, hnot, decide_false, Bool.false_eq_true, if_false]
    · have hmoves : episode.1 ∉ repair.holdout ∧ (groupsOf episode.2).filter (· ∈ holdoutGroups) ≠ [] :=
        not_or.mp hstays
      have hrest : (rest.filter fun other => other.1 ∉ repair.holdout ++ [episode.1] ∧
            (groupsOf other.2).filter (· ∈ holdoutGroups) ≠ []) =
          rest.filter fun other => other.1 ∉ repair.holdout ∧ (groupsOf other.2).filter (· ∈ holdoutGroups) ≠ [] := by
        refine List.filter_congr fun other hother => ?_
        have hne : other.1 ≠ episode.1 := fun heq => hkeys.1 (heq ▸ List.mem_map_of_mem hother)
        simp [hne]
      rw [if_neg hstays]
      dsimp only
      rw [hrest, if_pos (decide_eq_true hmoves), List.map_cons, List.append_assoc]
      rfl

/-! ### No group on both sides -/

theorem casesOf_eq (key : String) : casesOf cases key = cases.filter fun case => case.episodeKey = key := by
  rw [casesOf, byEpisode, lookup_groupBy]
  split_ifs with hnone
  · exact hnone.symm
  · rfl

theorem mem_casesOf {key : String} {case : PolicyCase} :
    case ∈ casesOf cases key ↔ case ∈ cases ∧ case.episodeKey = key := by
  rw [casesOf_eq, List.mem_filter, decide_eq_true_eq]

/-- The repair's test of an episode: it shares a group with one of those held. -/
theorem shared_ne_nil_iff {held : List String} {key : String} :
    (groupsOf (casesOf cases key)).filter (· ∈ held.flatMap fun key => groupsOf (casesOf cases key)) ≠ [] ↔
      ∃ a ∈ held, SharesGroup cases a key := by
  constructor
  · intro hne
    obtain ⟨group, hgroup⟩ := List.exists_mem_of_ne_nil _ hne
    rw [List.mem_filter, decide_eq_true_eq, List.mem_flatMap] at hgroup
    obtain ⟨hhere, a, ha, hthere⟩ := hgroup
    obtain ⟨hnonempty, case', hcase', rfl⟩ := mem_groupsOf.mp hhere
    obtain ⟨-, case, hcase, hsame⟩ := mem_groupsOf.mp hthere
    obtain ⟨hmem, hkey⟩ := mem_casesOf.mp hcase
    obtain ⟨hmem', hkey'⟩ := mem_casesOf.mp hcase'
    exact ⟨a, ha, case, hmem, case', hmem', hkey, hkey', hsame, hsame.symm ▸ hnonempty⟩
  · rintro ⟨a, ha, case, hmem, case', hmem', hkey, hkey', hsame, hnonempty⟩
    refine List.ne_nil_of_mem (List.mem_filter.mpr ⟨mem_groupsOf.mpr ⟨hnonempty, case', ?_, hsame.symm⟩, ?_⟩)
    · exact mem_casesOf.mpr ⟨hmem', hkey'⟩
    · rw [decide_eq_true_eq, List.mem_flatMap]
      exact ⟨a, ha, mem_groupsOf.mpr ⟨hnonempty, case, mem_casesOf.mpr ⟨hmem, hkey⟩, rfl⟩⟩

/-- An episode is held out when it is one of the newest or shares a group with one. -/
theorem mem_repairLeakage {key : String} :
    key ∈ (repairLeakage wanted cases).holdout ↔
      key ∈ newestEpisodes wanted cases ∨ ∃ a ∈ newestEpisodes wanted cases, SharesGroup cases a key := by
  unfold repairLeakage
  rw [holdout_foldl _ nodup_orderedEpisodes, List.mem_append]
  refine or_congr_right' fun hnew => ?_
  constructor
  · intro hkey
    obtain ⟨⟨_, entries⟩, hepisode, rfl⟩ := List.mem_map.mp hkey
    rw [List.mem_filter, mem_orderedEpisodes, decide_eq_true_eq] at hepisode
    obtain ⟨⟨rfl, -⟩, -, hshared⟩ := hepisode
    rw [← casesOf_eq] at hshared
    exact shared_ne_nil_iff.mp hshared
  · intro hshares
    have hne : cases.filter (fun case => case.episodeKey = key) ≠ [] := by
      obtain ⟨-, -, -, -, case', hcase', -, hkey', -⟩ := hshares
      exact List.ne_nil_of_mem (List.mem_filter.mpr ⟨hcase', decide_eq_true hkey'⟩)
    refine List.mem_map.mpr ⟨(key, cases.filter fun case => case.episodeKey = key), List.mem_filter.mpr
      ⟨mem_orderedEpisodes.mpr ⟨rfl, hne⟩, decide_eq_true ⟨hnew, ?_⟩⟩, rfl⟩
    dsimp only
    rw [← casesOf_eq]
    exact shared_ne_nil_iff.mpr hshares

theorem nodup_repairLeakage : (repairLeakage wanted cases).holdout.Nodup := by
  unfold repairLeakage
  rw [holdout_foldl _ nodup_orderedEpisodes]
  refine List.Nodup.append ?_ ?_ ?_
  · exact newestEpisodes_sublist.nodup (List.nodup_reverse.mpr nodup_orderedEpisodes)
  · exact ((List.filter_sublist).map Prod.fst).nodup nodup_orderedEpisodes
  · intro key hheld hmoved
    obtain ⟨episode, hepisode, rfl⟩ := List.mem_map.mp hmoved
    exact (of_decide_eq_true (List.mem_filter.mp hepisode).2).1 hheld

variable {R : Type} [Floats R]

theorem sortedKeys_perm (keys : List String) : (sortedKeys keys).Perm keys := List.perm_insertionSort _ _

theorem mem_holdout {key : String} :
    key ∈ (freezeSplit host R wanted cases).holdoutEpisodeKeys ↔ key ∈ (repairLeakage wanted cases).holdout :=
  (sortedKeys_perm _).mem_iff

theorem mem_train {key : String} :
    key ∈ (freezeSplit host R wanted cases).trainEpisodeKeys ↔
      (∃ case ∈ cases, case.episodeKey = key) ∧ key ∉ (repairLeakage wanted cases).holdout := by
  refine (sortedKeys_perm _).mem_iff.trans ?_
  rw [List.mem_filter, mem_episodeKeys, decide_eq_true_eq]

/-- Every episode is on one of the sides, and on one only. -/
theorem parts_freezeSplit : (freezeSplit host R wanted cases).Parts cases := by
  have hepisode : ∀ key ∈ (repairLeakage wanted cases).holdout, ∃ case ∈ cases, case.episodeKey = key := by
    intro key hkey
    rcases mem_repairLeakage.mp hkey with hnew | ⟨-, -, -, -, case', hcase', -, hkey', -⟩
    · exact mem_episodeKeys.mp (List.mem_reverse.mp (newestEpisodes_sublist.subset hnew))
    · exact ⟨case', hcase', hkey'⟩
  constructor
  · refine List.Nodup.append ?_ ?_ ?_
    · exact (sortedKeys_perm _).nodup_iff.mpr nodup_repairLeakage
    · exact (sortedKeys_perm _).nodup_iff.mpr (nodup_orderedEpisodes.filter _)
    · intro key hholdout htrain
      exact (mem_train.mp htrain).2 (mem_holdout.mp hholdout)
  · intro key
    rw [List.mem_append, mem_holdout, mem_train]
    constructor
    · rintro (hholdout | ⟨hcase, -⟩)
      · exact hepisode key hholdout
      · exact hcase
    · intro hcase
      by_cases hholdout : key ∈ (repairLeakage wanted cases).holdout
      · exact Or.inl hholdout
      · exact Or.inr ⟨hcase, hholdout⟩

/-- The split is sound where what a chain of groups links to the newest episodes one group links to them. -/
theorem split_sound_iff :
    ((freezeSplit host R wanted cases).Parts cases ∧ (freezeSplit host R wanted cases).NoLeak cases) ↔
      ∀ a, IsNewest wanted cases a → ∀ b, Relation.ReflTransGen (SharesGroup cases) a b →
        IsNewest wanted cases b ∨ ∃ a', IsNewest wanted cases a' ∧ SharesGroup cases a' b := by
  simp only [← mem_newestEpisodes]
  constructor
  · intro ⟨_, hsplit⟩ a ha b hchain
    -- the holdout is closed under sharing a group, so the chain stays in it
    have hheld : b ∈ (repairLeakage wanted cases).holdout := by
      induction hchain with
      | refl => exact mem_repairLeakage.mpr (Or.inl ha)
      | tail _ hshares ih =>
        by_contra hout
        obtain ⟨-, -, case', hcase', -, hkey', -⟩ := id hshares
        exact hsplit _ (mem_holdout.mpr ih) _ (mem_train.mpr ⟨⟨case', hcase', hkey'⟩, hout⟩) hshares
    exact mem_repairLeakage.mp hheld
  · intro hclosed
    refine ⟨parts_freezeSplit, fun a ha b hb hshares => (mem_train.mp hb).2 ?_⟩
    rcases mem_repairLeakage.mp (mem_holdout.mp ha) with hnew | ⟨a', hnew, hlink⟩
    · exact mem_repairLeakage.mpr (hclosed a hnew b (Relation.ReflTransGen.single hshares))
    · exact mem_repairLeakage.mpr (hclosed a' hnew b ((Relation.ReflTransGen.single hlink).tail hshares))

/-- An episode of two groups. -/
def linkedCases : List PolicyCase :=
  let adjudicated (episodeKey leakageGroup : String) (frozenAt : Instant) : PolicyCase :=
    {episodeKey, leakageGroup, frozenAt, contextGroupKey := "", tuning := {}}
  [adjudicated "e1" "payments" 5, adjudicated "e2" "payments" 4, adjudicated "e2" "refunds" 4,
    adjudicated "e3" "refunds" 3, adjudicated "e4" "" 2]

/-- One case of the five is wanted; the second group comes along with the first, and is on both sides. -/
theorem linkedCases_leaks :
    ¬ ∀ (host : PolicyHost) (R : Type) (_ : Floats R) (wanted : Nat → Nat) (cases : List PolicyCase),
      (freezeSplit host R wanted cases).Parts cases ∧ (freezeSplit host R wanted cases).NoLeak cases := by
  intro h
  obtain ⟨-, hsplit⟩ := h exampleHost ℚ exactFloats (fun total => (total + 4) / 5) linkedCases
  have hheld : "e2" ∈ (freezeSplit exampleHost ℚ (fun total => (total + 4) / 5) linkedCases).holdoutEpisodeKeys := by
    decide +kernel
  have htrain : "e3" ∈ (freezeSplit exampleHost ℚ (fun total => (total + 4) / 5) linkedCases).trainEpisodeKeys := by
    decide +kernel
  exact hsplit "e2" hheld "e3" htrain
    ⟨linkedCases[2], List.getElem_mem _, linkedCases[3], List.getElem_mem _, rfl, rfl, rfl, by decide⟩

end OpenTimeline.Decision
