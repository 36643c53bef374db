import OpenTimeline.Charter.Charter
import OpenTimeline.Words

/-! The risk of an action, and the permit for it.

The kind, the command and the target paths are one text, whose terms say how grave the action
is. One more path can take a term away: it cuts one that stands across two paths, or its words
of negation reach a word of destruction in the path behind it. Any other path only adds
(`permit_keeps`). The permit is the stricter the graver the action, and the more paths it has. -/
namespace OpenTimeline.Charter
open Library

variable (host : Host)

/-! ### Vocabulary -/

inductive AutonomyRiskTier
  | low | medium | high | critical
deriving DecidableEq, Repr

def AutonomyRiskTier.rank : AutonomyRiskTier → Nat
  | low => 0
  | medium => 1
  | high => 2
  | critical => 3

inductive ExecutionPermitDecision
  | allow | confirmRequired | blocked
deriving DecidableEq, Repr

def ExecutionPermitDecision.strictness : ExecutionPermitDecision → Nat
  | allow => 0
  | confirmRequired => 1
  | blocked => 2

inductive AutonomyPolicyProfile
  | humanConsultative | humanSafe | humanAggressive
deriving DecidableEq, Repr

def criticalTerms : List String :=
  ["rm -rf", "drop table", "truncate ", "delete all", "reset --hard", "force push", "production deploy", "rotate key",
    "secret", "credential"]

def highTerms : List String := ["delete ", "rename ", "migrate", "schema", "infra", "deploy", "rollback"]

def destructiveActionTerms : List String :=
  ["delete", "drop", "truncate", "erase", "wipe", "destroy", "purge", "nuke"]

def criticalObjectTerms : List String :=
  ["database", "db", "prod", "production", "cluster", "bucket", "table", "tables"]

def negationTokens : List String := ["not", "never", "dont", "don't", "without", "avoid"]

/-! ### The tier -/

/-- The words of a text, with slashes and hyphens for blanks. -/
def actionTokens (normalized : String) : List String :=
  splitBlanks (String.ofList (normalized.toList.map fun c => if c = '/' ∨ c = '-' then ' ' else c))

/-- A word of destruction with no negation among the three words before it; the words gone by in reverse. -/
def actsUnnegated : List String → List String → Bool
  | _, [] => false
  | before, token :: rest =>
    (token ∈ destructiveActionTerms && !(before.take 3).any (· ∈ negationTokens)) || actsUnnegated (token :: before) rest

/-- `_contains_action_object` -/
def containsActionObject (normalized : String) : Bool :=
  let tokens := actionTokens normalized
  tokens.any (· ∈ destructiveActionTerms) && tokens.any (· ∈ criticalObjectTerms) && actsUnnegated [] tokens

/-- The text `classify_risk_tier` reads. -/
def actionText (actionKind commandPreview : String) (targetPaths : List String) : String :=
  " ".intercalate [host.lower (strip actionKind), host.lower (strip commandPreview),
    " ".intercalate (targetPaths.map host.lower)]

/-- `classify_risk_tier` -/
def classifyRiskTier (actionKind : String) (targetPaths : List String) (commandPreview : String)
    (estimatedChangeSize : Int) : AutonomyRiskTier :=
  let normalized := actionText host actionKind commandPreview targetPaths
  if containsActionObject normalized then .critical
  else if criticalTerms.any (contains normalized) then .critical
  else if highTerms.any (contains normalized) then .high
  else if 100 ≤ estimatedChangeSize then .high
  else if 25 ≤ estimatedChangeSize then .medium
  else .low

/-! ### The permit -/

/-- `_evaluate_execution_permit_base` -/
def evaluateExecutionPermitBase (policyProfile : AutonomyPolicyProfile) (riskTier : AutonomyRiskTier)
    (estimatedChangeSize : Int) (role : String) (sensitivePathHit : Bool) : ExecutionPermitDecision × String :=
  if host.lower (strip role) = "advisor" then (.blocked, "advisor role is read-only")
  else if riskTier = .critical then (.blocked, "critical-risk action is blocked")
  else if sensitivePathHit then (.confirmRequired, "target touches protected/sensitive paths")
  else if riskTier = .high then (.confirmRequired, "high-risk action requires confirmation")
  else if riskTier = .medium then
    if policyProfile = .humanAggressive then (.allow, "medium-risk action allowed by aggressive profile")
    else if policyProfile = .humanConsultative ∧ estimatedChangeSize ≤ 20 then
      (.allow, "small-scope medium-risk action allowed by consultative profile")
    else (.confirmRequired, "medium-risk action requires confirmation")
  else if policyProfile = .humanSafe ∧ 30 < estimatedChangeSize then
    (.confirmRequired, "safe profile requires confirmation for broad changes")
  else (.allow, "low-risk action allowed")

/-- `evaluate_execution_permit` -/
def evaluateExecutionPermit (policyProfile : AutonomyPolicyProfile) (riskTier : AutonomyRiskTier)
    (estimatedChangeSize : Int) (role : String) (sensitivePathHit : Bool) (charter : Option ResolvedCharter)
    (actionKind : String) (targetPaths : List String) : ExecutionPermitDecision × String :=
  let base := evaluateExecutionPermitBase host policyProfile riskTier estimatedChangeSize role sensitivePathHit
  match charter with
  | none => base
  | some resolved =>
    let narrowing := charterScopeNarrowing host (some resolved) actionKind targetPaths
    if narrowing.1 then (.blocked, narrowing.2)
    else if capabilityForActionKind host actionKind ∈ resolved.confirmRequiredCapabilities then
      if base.1 ≠ .allow then base
      else (.confirmRequired, "charter: confirmation required for " ++ capabilityForActionKind host actionKind)
    else base

/-! ### Words of destruction -/

theorem actsUnnegated_iff {before tokens : List String} :
    actsUnnegated before tokens ↔ ∃ a token b, tokens = a ++ token :: b ∧ token ∈ destructiveActionTerms ∧
      ∀ word ∈ (a.reverse ++ before).take 3, word ∉ negationTokens := by
  induction tokens generalizing before with
  | nil => simp [actsUnnegated]
  | cons token rest ih =>
    rw [actsUnnegated, Bool.or_eq_true, ih]
    constructor
    · rintro (h | ⟨a, other, b, rfl, hother, hnone⟩)
      · simp only [Bool.and_eq_true, decide_eq_true_eq, Bool.not_eq_true', List.any_eq_false] at h
        exact ⟨[], token, rest, rfl, h.1, h.2⟩
      · exact ⟨token :: a, other, b, rfl, hother, by simpa using hnone⟩
    · rintro ⟨a, other, b, heq, hother, hnone⟩
      cases a with
      | nil =>
        obtain ⟨rfl, rfl⟩ := List.cons.inj heq
        left
        simp only [Bool.and_eq_true, decide_eq_true_eq, Bool.not_eq_true', List.any_eq_false]
        exact ⟨hother, hnone⟩
      | cons first a =>
        obtain ⟨rfl, rfl⟩ := List.cons.inj heq
        exact Or.inr ⟨a, other, b, rfl, hother, by simpa using hnone⟩

/-- Words whose negations reach a word of destruction among the words behind them. -/
def Shields (path later : List String) : Prop :=
  ∃ a token b, later = a ++ token :: b ∧ token ∈ destructiveActionTerms ∧
    ∃ word ∈ path.reverse.take (3 - a.length), word ∈ negationTokens

instance (path later : List String) : Decidable (Shields path later) :=
  decidable_of_iff (∃ n ∈ List.range later.length, (later.drop n).head?.any (· ∈ destructiveActionTerms) ∧
      (path.reverse.take (3 - n)).any (· ∈ negationTokens)) <| by
    simp only [List.any_eq_true, decide_eq_true_eq]
    constructor
    · rintro ⟨n, hn, htoken, hword⟩
      obtain ⟨token, htoken, hdestroys⟩ := (Option.any_eq_true _ _).mp htoken
      obtain ⟨rest, hrest⟩ := List.head?_eq_some_iff.mp htoken
      refine ⟨later.take n, token, rest, ?_, by simpa using hdestroys, ?_⟩
      · rw [← hrest, List.take_append_drop]
      · rwa [List.length_take_of_le (List.mem_range.mp hn).le]
    · rintro ⟨a, token, b, rfl, htoken, hword⟩
      exact ⟨a.length, by simp, by simpa using htoken, hword⟩

/-- Words between others leave a word of destruction as it is, if they do not shield it. -/
theorem actsUnnegated_insert {earlier path later : List String} (hshields : ¬ Shields path later)
    (h : actsUnnegated [] (earlier ++ later)) : actsUnnegated [] (earlier ++ path ++ later) := by
  obtain ⟨a, token, b, heq, htoken, hnone⟩ := actsUnnegated_iff.mp h
  rw [List.append_nil] at hnone
  rw [actsUnnegated_iff]
  have hplace : (∃ c, a = earlier ++ c ∧ later = c ++ token :: b) ∨ ∃ c, earlier = a ++ token :: c := by
    obtain ⟨c, ha, hlater⟩ | ⟨_ | ⟨first, c⟩, hearlier, hrest⟩ := List.append_eq_append_iff.mp heq
    · exact Or.inl ⟨c, ha, hlater⟩
    · exact Or.inl ⟨[], by rw [hearlier, List.append_nil, List.append_nil], hrest.symm⟩
    · exact Or.inr ⟨c, by rw [hearlier, (List.cons.inj hrest).1]⟩
  obtain ⟨c, rfl, hlater⟩ | ⟨c, rfl⟩ := hplace
  · -- behind the words put in: what is nearest before it is its own, then theirs
    refine ⟨earlier ++ path ++ c, token, b, by rw [hlater, List.append_assoc _ c], htoken, ?_⟩
    intro word hword hnegation
    simp only [List.append_nil, List.reverse_append, List.take_append, List.mem_append, List.length_reverse] at hword hnone
    obtain hword | hword | hword := hword
    · exact hnone word (Or.inl hword) hnegation
    · exact hshields ⟨c, token, b, hlater, htoken, word, hword, hnegation⟩
    · exact hnone word (Or.inr (List.take_subset_take_left _ (Nat.sub_le _ _) hword)) hnegation
  · exact ⟨a, token, c ++ path ++ later, by simp, htoken, by rwa [List.append_nil]⟩

/-! ### The text with one more path -/

/-- The text up to the paths behind some of them, a blank at its end. -/
def textBefore (actionKind commandPreview : String) (earlier : List String) : List Char :=
  (host.lower (strip actionKind)).toList ++ ' ' :: ((host.lower (strip commandPreview)).toList ++
    ' ' :: earlier.flatMap fun path => (host.lower path).toList ++ [' '])

/-- The text of the paths behind. -/
def textBehind (later : List String) : List Char := (" ".intercalate (later.map host.lower)).toList

/-- A term that begins in one text and ends in the next. -/
def Straddles (term : String) (before behind : List Char) : Prop :=
  ∃ u v, u ≠ [] ∧ v ≠ [] ∧ term.toList = u ++ v ∧ u <:+ before ∧ v <+: behind

instance (term : String) (before behind : List Char) : Decidable (Straddles term before behind) :=
  decidable_of_iff (∃ n ∈ List.range term.toList.length, 0 < n ∧ term.toList.take n <:+ before ∧
      term.toList.drop n <+: behind) <| by
    constructor
    · rintro ⟨n, hn, hpos, hbefore, hbehind⟩
      have hn := List.mem_range.mp hn
      refine ⟨_, _, ?_, ?_, (List.take_append_drop n term.toList).symm, hbefore, hbehind⟩
      · exact List.ne_nil_of_length_pos (by rw [List.length_take]; omega)
      · exact List.ne_nil_of_length_pos (by rw [List.length_drop]; omega)
    · rintro ⟨u, v, hu, hv, hterm, hbefore, hbehind⟩
      refine ⟨u.length, ?_, List.length_pos_iff.mpr hu, ?_, ?_⟩
      · rw [List.mem_range, hterm, List.length_append]
        have := List.length_pos_iff.mpr hv
        omega
      · rwa [hterm, List.take_left]
      · rwa [hterm, List.drop_left]

theorem contains_iff {text token : String} : contains text token ↔ token.toList <:+: text.toList := by
  rw [contains, List.any_eq_true, List.infix_iff_prefix_suffix]
  simp only [List.mem_tails, List.isPrefixOf_iff_prefix]
  exact ⟨fun ⟨t, hsuffix, hprefix⟩ => ⟨t, hprefix, hsuffix⟩, fun ⟨t, hprefix, hsuffix⟩ => ⟨t, hsuffix, hprefix⟩⟩

theorem splitBlanks_append (u v : List Char) :
    splitBlanks (String.ofList (u ++ ' ' :: v)) = splitBlanks (String.ofList u) ++ splitBlanks (String.ofList v) := by
  simp only [splitBlanks, String.toList_ofList]
  rw [List.splitOnP_append_cons u v (show isSpace ' ' from rfl), List.filter_append, List.map_append]

theorem actionTokens_append (u v : List Char) :
    actionTokens (String.ofList (u ++ ' ' :: v)) = actionTokens (String.ofList u) ++ actionTokens (String.ofList v) := by
  simp only [actionTokens, String.toList_ofList, List.map_append, List.map_cons]
  exact splitBlanks_append _ _

theorem actionTokens_intercalate (texts : List String) :
    actionTokens (" ".intercalate texts) = texts.flatMap actionTokens := by
  induction texts with
  | nil => rfl
  | cons text rest ih =>
    cases rest with
    | nil => rw [String.intercalate_singleton, List.flatMap_singleton]
    | cons next rest =>
      have hjoined : " ".intercalate (text :: next :: rest) =
          String.ofList (text.toList ++ ' ' :: (" ".intercalate (next :: rest)).toList) := by
        rw [String.intercalate_cons_cons, ← String.toList_inj]
        simp
      rw [hjoined, actionTokens_append, String.ofList_toList, String.ofList_toList, ih]
      rfl

theorem actionTokens_actionText (actionKind commandPreview : String) (paths : List String) :
    actionTokens (actionText host actionKind commandPreview paths) =
      actionTokens (host.lower (strip actionKind)) ++ (actionTokens (host.lower (strip commandPreview)) ++
        paths.flatMap fun path => actionTokens (host.lower path)) := by
  rw [actionText, actionTokens_intercalate]
  simp [actionTokens_intercalate, List.flatMap_map]

/-- The text is that before, and that of the paths behind. -/
theorem actionText_append (actionKind commandPreview : String) (earlier : List String) {later : List String}
    (hlater : later ≠ []) :
    (actionText host actionKind commandPreview (earlier ++ later)).toList =
      textBefore host actionKind commandPreview earlier ++ textBehind host later := by
  have hjoined : ∀ texts others : List String, others ≠ [] → (" ".intercalate (texts ++ others)).toList =
      (texts.flatMap fun text => text.toList ++ [' ']) ++ (" ".intercalate others).toList := by
    intro texts others hne
    induction texts with
    | nil => rfl
    | cons text rest ih =>
      obtain ⟨next, rest', hrest⟩ := List.exists_cons_of_ne_nil (List.append_ne_nil_of_right_ne_nil rest hne)
      rw [List.cons_append, hrest, String.intercalate_cons_cons, ← hrest]
      simp [ih]
  have hsplit := hjoined (earlier.map host.lower) (later.map host.lower) (by simpa using hlater)
  rw [← List.map_append] at hsplit
  simp only [actionText, textBefore, textBehind, String.intercalate_cons_cons, String.intercalate_singleton,
    String.toList_append, hsplit, List.flatMap_map]
  simp

/-- A text ends where that before the next path does, but for the blank. -/
theorem actionText_starts (actionKind commandPreview : String) (earlier : List String) :
    (actionText host actionKind commandPreview earlier).toList <+: textBefore host actionKind commandPreview earlier := by
  cases earlier using List.reverseRecOn with
  | nil => simp [actionText, textBefore, String.intercalate_cons_cons]
  | append_singleton earlier path =>
    rw [actionText_append host _ _ _ (List.cons_ne_nil _ _)]
    simp [textBefore, textBehind, List.prefix_append_right_inj]

/-- A term stays in the text with one more path that does not cut it. -/
theorem contains_insert {actionKind commandPreview term path : String} {earlier later : List String}
    (hcut : ¬ Straddles term (textBefore host actionKind commandPreview earlier) (textBehind host later))
    (h : contains (actionText host actionKind commandPreview (earlier ++ later)) term) :
    contains (actionText host actionKind commandPreview (earlier ++ path :: later)) term := by
  rw [contains_iff] at h ⊢
  rw [actionText_append host _ _ _ (List.cons_ne_nil _ _)]
  cases later with
  | nil =>
    rw [List.append_nil] at h
    exact h.trans ((actionText_starts host _ _ _).isInfix.trans (List.prefix_append _ _).isInfix)
  | cons next rest =>
    rw [actionText_append host _ _ _ (List.cons_ne_nil _ _)] at h
    obtain hbefore | hbehind | hstraddles := List.infix_append_iff_ne_nil.mp h
    · exact hbefore.trans (List.prefix_append _ _).isInfix
    · have hsuffix : textBehind host (next :: rest) <:+ textBehind host (path :: next :: rest) := by
        rw [textBehind, textBehind, List.map_cons, List.map_cons, List.map_cons, String.intercalate_cons_cons,
          String.toList_append]
        exact List.suffix_append _ _
      exact hbehind.trans (hsuffix.isInfix.trans (List.suffix_append _ _).isInfix)
    · exact absurd hstraddles hcut

/-- So does an unnegated word of destruction, if the path does not shield it. -/
theorem containsActionObject_insert {actionKind commandPreview path : String} {earlier later : List String}
    (hshields : ¬ Shields (actionTokens (host.lower path)) (later.flatMap fun path => actionTokens (host.lower path)))
    (h : containsActionObject (actionText host actionKind commandPreview (earlier ++ later))) :
    containsActionObject (actionText host actionKind commandPreview (earlier ++ path :: later)) := by
  have hany : ∀ (p : String → Bool) (before path later : List String), (before ++ later).any p →
      (before ++ path ++ later).any p := by
    intro p before path later h
    rw [List.any_append] at h
    rw [List.any_append, List.any_append, Bool.or_right_comm, h, Bool.true_or]
  simp only [containsActionObject, actionTokens_actionText, List.flatMap_append, List.flatMap_cons,
    ← List.append_assoc] at h ⊢
  rw [Bool.and_eq_true, Bool.and_eq_true] at h ⊢
  exact ⟨⟨hany _ _ _ _ h.1.1, hany _ _ _ _ h.1.2⟩, actsUnnegated_insert hshields h.2⟩

/-! ### The permit of more -/

/-- The permit is no laxer for a graver action, a sensitive path or more paths. -/
theorem evaluateExecutionPermit_mono {policyProfile : AutonomyPolicyProfile} {tier tier' : AutonomyRiskTier}
    {size : Int} {role : String} {sensitive sensitive' : Bool} {charter : Option ResolvedCharter} {actionKind : String}
    {paths paths' : List String} (htier : tier.rank ≤ tier'.rank) (hsensitive : sensitive → sensitive')
    (hpaths : paths ⊆ paths') :
    (evaluateExecutionPermit host policyProfile tier size role sensitive charter actionKind paths).1.strictness ≤
      (evaluateExecutionPermit host policyProfile tier' size role sensitive' charter actionKind paths').1.strictness := by
  have hbase : (evaluateExecutionPermitBase host policyProfile tier size role sensitive).1.strictness ≤
      (evaluateExecutionPermitBase host policyProfile tier' size role sensitive').1.strictness := by
    cases tier <;> cases tier' <;>
      grind [evaluateExecutionPermitBase, AutonomyRiskTier.rank, ExecutionPermitDecision.strictness]
  have hmost : ∀ decision : ExecutionPermitDecision, decision.strictness ≤ 2 := by
    intro decision
    cases decision <;> decide
  have hallow : ∀ decision : ExecutionPermitDecision, decision ≠ .allow ↔ 1 ≤ decision.strictness := by
    intro decision
    cases decision <;> decide
  cases charter with
  | none => exact hbase
  | some resolved =>
    simp only [evaluateExecutionPermit]
    by_cases hblocked : (charterScopeNarrowing host (some resolved) actionKind paths').1
    · rw [if_pos hblocked]
      exact hmost _
    · rw [if_neg hblocked]
      rw [Bool.not_eq_true] at hblocked
      obtain ⟨hcapability, htargets⟩ := (charterScopeNarrowing_passes host).mp hblocked
      have hpasses : (charterScopeNarrowing host (some resolved) actionKind paths).1 = false :=
        (charterScopeNarrowing_passes host).mpr ⟨hcapability, fun hmutating path hpath =>
          htargets hmutating path (hpaths hpath)⟩
      rw [if_neg (by simp [hpasses])]
      split_ifs with hconfirm hsome hsome' hsome'
      · exact hbase
      · exact absurd ((hallow _).mpr (le_trans ((hallow _).mp hsome) hbase)) hsome'
      · exact (hallow _).mp hsome'
      · exact le_rfl
      · exact hbase

/-- One more path leaves the tier at least as high, unless it shields a word of destruction in the paths behind it or
comes between the parts of a term. Where the tier is no lower, the permit is no laxer. -/
theorem permit_keeps (policyProfile : AutonomyPolicyProfile) (size : Int) (role : String) (charter : Option ResolvedCharter)
    (actionKind commandPreview path : String) (earlier later : List String) (sensitive sensitive' : Bool)
    (hsensitive : sensitive → sensitive') :
    let tier := classifyRiskTier host actionKind (earlier ++ later) commandPreview size
    let tier' := classifyRiskTier host actionKind (earlier ++ path :: later) commandPreview size
    (¬ Shields (actionTokens (host.lower path)) (later.flatMap fun path => actionTokens (host.lower path)) →
      (∀ term ∈ criticalTerms ++ highTerms,
        ¬ Straddles term (textBefore host actionKind commandPreview earlier) (textBehind host later)) →
      tier.rank ≤ tier'.rank) ∧
    (tier.rank ≤ tier'.rank →
      (evaluateExecutionPermit host policyProfile tier size role sensitive charter actionKind
        (earlier ++ later)).1.strictness ≤
      (evaluateExecutionPermit host policyProfile tier' size role sensitive' charter actionKind
        (earlier ++ path :: later)).1.strictness) := by
  refine ⟨fun hshields hstraddles => ?_, fun htier => evaluateExecutionPermit_mono host htier hsensitive ?_⟩
  · have hterms : ∀ terms ⊆ criticalTerms ++ highTerms,
        terms.any (contains (actionText host actionKind commandPreview (earlier ++ later))) →
        terms.any (contains (actionText host actionKind commandPreview (earlier ++ path :: later))) := by
      intro terms hsub h
      obtain ⟨term, hterm, h⟩ := List.any_eq_true.mp h
      exact List.any_eq_true.mpr ⟨term, hterm, contains_insert host (hstraddles term (hsub hterm)) h⟩
    have haction : containsActionObject (actionText host actionKind commandPreview (earlier ++ later)) →
        containsActionObject (actionText host actionKind commandPreview (earlier ++ path :: later)) :=
      containsActionObject_insert host hshields
    have hcritical := hterms criticalTerms (List.subset_append_left _ _)
    have hhigh := hterms highTerms (List.subset_append_right _ _)
    simp only [classifyRiskTier]
    -- each test that the text passes, it passes with the path
    grind [AutonomyRiskTier.rank]
  · intro target htarget
    obtain htarget | htarget := List.mem_append.mp htarget
    · exact List.mem_append_left _ htarget
    · exact List.mem_append_right _ (List.mem_cons_of_mem _ htarget)

theorem permit_keeps_example :
    (classifyRiskTier (asciiHost [] []) "edit" ["scripts/drop/db", "docs"] "" 0).rank ≤
      (classifyRiskTier (asciiHost [] []) "edit" ["scripts/drop/db", "never/mind", "docs"] "" 0).rank ∧
    (evaluateExecutionPermit (asciiHost [] []) .humanSafe
      (classifyRiskTier (asciiHost [] []) "edit" ["scripts/drop/db", "docs"] "" 0) 0 "executor" false none "edit"
      ["scripts/drop/db", "docs"]).1.strictness ≤
    (evaluateExecutionPermit (asciiHost [] []) .humanSafe
      (classifyRiskTier (asciiHost [] []) "edit" ["scripts/drop/db", "never/mind", "docs"] "" 0) 0 "executor" true none
      "edit" ["scripts/drop/db", "never/mind", "docs"]).1.strictness := by
  obtain ⟨htier, hpermit⟩ := permit_keeps (asciiHost [] []) .humanSafe 0 "executor" none "edit" "" "never/mind"
    ["scripts/drop/db"] ["docs"] false true (by decide)
  have htier := htier (by decide +kernel) (by decide +kernel)
  exact ⟨htier, hpermit htier⟩

/-- A path of negation shields a word of destruction behind it: what was blocked is allowed. A path between the parts of
a term cuts it. -/
theorem permit_lowered :
    let host := asciiHost [] []
    let before := classifyRiskTier host "edit" ["scripts/drop/db"] "" 0
    let after := classifyRiskTier host "edit" ["docs/never", "scripts/drop/db"] "" 0
    (before = .critical ∧ after = .low) ∧
      ((evaluateExecutionPermit host .humanSafe before 0 "executor" false none "edit" ["scripts/drop/db"]).1 = .blocked ∧
        (evaluateExecutionPermit host .humanSafe after 0 "executor" false none "edit"
          ["docs/never", "scripts/drop/db"]).1 = .allow) ∧
      classifyRiskTier host "edit" ["etc/rm", "-rf"] "" 0 = .critical ∧
      classifyRiskTier host "edit" ["etc/rm", "docs", "-rf"] "" 0 = .low := by
  decide +kernel

end OpenTimeline.Charter
