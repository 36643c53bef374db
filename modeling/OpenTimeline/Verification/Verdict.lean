import OpenTimeline.Verification.Criteria

/-! What the verdict `passed` says.

The checks of a freeze have distinct ids (`validateChecks_nodup`), so the loop over the results,
which stops at an id it has seen or does not know, gets through exactly the lists of distinct ids
of the checks (`evidenced_eq_ok_iff`), and with none missing these are the checks' ids in some
order. `passed` is then the conjunction of everything the cascade refuses for
(`decideVerdict_passed_iff`). -/
namespace OpenTimeline.Verification
open TaskState (Verdict)

variable (host : Host)

/-! ### The ids of the checks -/

variable {host}

theorem CriteriaInvalid.unless_ok {condition : Bool} {field message : String} {u : Unit}
    (h : CriteriaInvalid.unless condition field message = .ok u) : condition = true := by
  unfold CriteriaInvalid.unless at h
  split_ifs at h with hcondition
  exact hcondition

theorem validateCheck_notMem {maxTimeoutSeconds : Int} {seen : List String} {check normalised : AcceptanceCheck}
    (h : validateCheck host maxTimeoutSeconds seen check = .ok normalised) : normalised.checkId ∉ seen := by
  unfold validateCheck at h
  obtain ⟨_, _, h⟩ := bind_ok h
  obtain ⟨_, hfresh, h⟩ := bind_ok h
  obtain ⟨_, _, h⟩ := bind_ok h
  obtain ⟨_, _, h⟩ := bind_ok h
  obtain ⟨_, _, h⟩ := bind_ok h
  obtain ⟨_, _, h⟩ := bind_ok h
  cases h
  exact of_decide_eq_true (CriteriaInvalid.unless_ok hfresh)

/-- The ids that the loop lets through are new, each of them. -/
theorem validateEach_nodup {maxTimeoutSeconds : Int} {checks : List AcceptanceCheck} :
    ∀ {seen : List String} {normalised : List AcceptanceCheck},
      validateEach host maxTimeoutSeconds seen checks = .ok normalised → seen.Nodup →
      (seen ++ normalised.map (·.checkId)).Nodup := by
  induction checks with
  | nil =>
    intro seen normalised h hseen
    cases h
    rwa [List.map_nil, List.append_nil]
  | cons check rest ih =>
    intro seen normalised h hseen
    unfold validateEach at h
    obtain ⟨first, hfirst, h⟩ := bind_ok h
    obtain ⟨others, hothers, h⟩ := bind_ok h
    cases h
    have hfresh := validateCheck_notMem hfirst
    have hgrown : (seen ++ [first.checkId]).Nodup := by
      rw [List.nodup_append]
      refine ⟨hseen, List.nodup_singleton _, fun a ha b hb => ?_⟩
      rw [List.mem_singleton.mp hb]
      exact fun heq => hfresh (heq ▸ ha)
    have := ih hothers hgrown
    rwa [List.append_assoc, List.singleton_append] at this

theorem validateChecks_nodup {checks normalised : List AcceptanceCheck} {maxChecks maxTimeoutSeconds : Int}
    (h : validateChecks host checks maxChecks maxTimeoutSeconds = .ok normalised) :
    (normalised.map (·.checkId)).Nodup := by
  unfold validateChecks at h
  obtain ⟨_, _, h⟩ := bind_ok h
  obtain ⟨_, _, h⟩ := bind_ok h
  exact validateEach_nodup h List.nodup_nil

theorem validateChecks_ne_nil {checks normalised : List AcceptanceCheck} {maxChecks maxTimeoutSeconds : Int}
    (h : validateChecks host checks maxChecks maxTimeoutSeconds = .ok normalised) : normalised ≠ [] := by
  unfold validateChecks at h
  obtain ⟨_, hsome, h⟩ := bind_ok h
  obtain ⟨_, _, h⟩ := bind_ok h
  cases checks with
  | nil => cases hsome
  | cons check rest =>
    unfold validateEach at h
    obtain ⟨first, _, h⟩ := bind_ok h
    obtain ⟨others, _, h⟩ := bind_ok h
    cases h
    exact List.cons_ne_nil _ _

theorem checkOf_eq_some_iff {checks : List AcceptanceCheck} (hnodup : (checks.map (·.checkId)).Nodup)
    {checkId : String} {check : AcceptanceCheck} :
    checkOf checks checkId = some check ↔ check ∈ checks ∧ check.checkId = checkId := by
  constructor
  · intro h
    refine ⟨List.mem_reverse.mp (List.mem_of_find?_eq_some h), ?_⟩
    simpa using List.find?_some h
  · rintro ⟨hmem, rfl⟩
    cases hfound : checkOf checks check.checkId with
    | none =>
      have := List.find?_eq_none.mp hfound check (List.mem_reverse.mpr hmem)
      simp at this
    | some found =>
      have hid : found.checkId = check.checkId := by simpa using List.find?_some hfound
      have hin := List.mem_reverse.mp (List.mem_of_find?_eq_some hfound)
      rw [List.inj_on_of_nodup_map hnodup hin hmem hid]

theorem checkOf_isNone_iff {checks : List AcceptanceCheck} {checkId : String} :
    (checkOf checks checkId).isNone ↔ checkId ∉ checks.map (·.checkId) := by
  rw [Option.isNone_iff_eq_none, checkOf, List.find?_eq_none]
  simp [eq_comm]

/-! ### The results -/

/-- The loop gets through exactly the results that are of checks, each of one not seen yet. -/
theorem evidenced_eq_ok_iff {checks : List AcceptanceCheck} {results : List CheckResult} :
    ∀ {seen gathered : List String}, evidenced checks seen results = .ok gathered ↔
      gathered = seen ++ results.map (·.checkId) ∧ (results.map (·.checkId)).Nodup ∧
        (∀ result ∈ results, result.checkId ∉ seen) ∧
        ∀ result ∈ results, result.checkId ∈ checks.map (·.checkId) := by
  induction results with
  | nil =>
    intro seen gathered
    simp [evidenced, eq_comm]
  | cons result rest ih =>
    intro seen gathered
    unfold evidenced
    split_ifs with hseen hunknown
    · simp [hseen]
    · have hnone := checkOf_isNone_iff.mp hunknown
      simp only [false_iff]
      rintro ⟨_, _, _, hknown⟩
      exact hnone (hknown result List.mem_cons_self)
    · have hknown : result.checkId ∈ checks.map (·.checkId) := by
        by_contra hnone
        exact hunknown (checkOf_isNone_iff.mpr hnone)
      rw [ih, List.map_cons, List.nodup_cons, List.forall_mem_cons, List.forall_mem_cons, List.append_assoc,
        List.singleton_append]
      constructor
      · rintro ⟨rfl, hnodup, hfresh, hall⟩
        refine ⟨rfl, ⟨?_, hnodup⟩, ⟨hseen, fun other hother => ?_⟩, hknown, hall⟩
        · intro hmem
          obtain ⟨other, hother, hid⟩ := List.mem_map.mp hmem
          exact hfresh other hother (List.mem_append_right _ (by simp [hid]))
        · exact fun hmem => hfresh other hother (List.mem_append_left _ hmem)
      · rintro ⟨rfl, ⟨hnew, hnodup⟩, ⟨_, hfresh⟩, _, hall⟩
        refine ⟨rfl, hnodup, fun other hother hmem => ?_, hall⟩
        obtain hmem | hmem := List.mem_append.mp hmem
        · exact hfresh other hother hmem
        · exact hnew (List.mem_map.mpr ⟨other, hother, List.mem_singleton.mp hmem⟩)

/-- No result misses its check. -/
theorem find_misses_eq_none_iff {checks : List AcceptanceCheck} (hnodup : (checks.map (·.checkId)).Nodup)
    {results : List CheckResult} :
    results.find? (·.misses checks) = none ↔
      ∀ result ∈ results, ∀ check ∈ checks, check.checkId = result.checkId → result.exitCode = check.expectExitCode := by
  simp only [List.find?_eq_none, CheckResult.misses, Option.any_eq_true, decide_eq_true_eq, ne_eq, not_exists, not_and,
    not_not, checkOf_eq_some_iff hnodup, and_imp]

/-! ### The verdict -/

variable (host) in
/-- Evidence of someone else, on the criteria and the corpus that were frozen, with one result for each check
and each as its check expects it. -/
structure Conclusive (results : List CheckResult) (criteria : AcceptanceCriteria)
    (observedCorpusDigest runnerPrincipal executingIdentity : String) : Prop where
  checks : criteria.checks ≠ []
  digest : criteriaDigest host criteria.checks = criteria.criteriaDigest
  runner : runnerPrincipal ≠ executingIdentity
  freezer : criteria.frozenBy ≠ "" → criteria.frozenBy ≠ executingIdentity
  corpus : observedCorpusDigest = criteria.corpusDigest
  distinct : (results.map (·.checkId)).Nodup
  covers : (results.map (·.checkId)).Perm (criteria.checks.map (·.checkId))
  exits : ∀ result ∈ results, ∀ check ∈ criteria.checks, check.checkId = result.checkId →
    result.exitCode = check.expectExitCode

/-- Distinct results of known checks that leave no check out are the checks in some order. -/
theorem evidenced_covers_iff {checks : List AcceptanceCheck} (hnodup : (checks.map (·.checkId)).Nodup)
    {results : List CheckResult} :
    (∃ seen, evidenced checks [] results = .ok seen ∧ ∀ check ∈ checks, check.checkId ∈ seen) ↔
      (results.map (·.checkId)).Nodup ∧ (results.map (·.checkId)).Perm (checks.map (·.checkId)) := by
  constructor
  · rintro ⟨seen, hseen, hall⟩
    obtain ⟨rfl, hdistinct, _, hknown⟩ := evidenced_eq_ok_iff.mp hseen
    refine ⟨hdistinct, (List.perm_ext_iff_of_nodup hdistinct hnodup).mpr fun checkId => ⟨fun hmem => ?_, fun hmem => ?_⟩⟩
    · obtain ⟨result, hresult, rfl⟩ := List.mem_map.mp hmem
      exact hknown result hresult
    · obtain ⟨check, hcheck, rfl⟩ := List.mem_map.mp hmem
      exact hall check hcheck
  · rintro ⟨hdistinct, hperm⟩
    refine ⟨results.map (·.checkId), evidenced_eq_ok_iff.mpr ⟨rfl, hdistinct, by simp, fun result hresult => ?_⟩,
      fun check hcheck => ?_⟩
    · exact hperm.mem_iff.mp (List.mem_map.mpr ⟨result, hresult, rfl⟩)
    · exact hperm.mem_iff.mpr (List.mem_map.mpr ⟨check, hcheck, rfl⟩)

/-- On criteria that a freeze lets through, evidence is graded passed exactly where it is conclusive. -/
theorem decideVerdict_passed_iff {checks : List AcceptanceCheck} {maxChecks maxTimeoutSeconds : Int}
    {criteria : AcceptanceCriteria}
    (hadmitted : validateChecks host checks maxChecks maxTimeoutSeconds = .ok criteria.checks)
    (results : List CheckResult) (observedCorpusDigest runnerPrincipal executingIdentity : String) :
    (decideVerdict host results criteria observedCorpusDigest runnerPrincipal executingIdentity).verdict = .passed ↔
      Conclusive host results criteria observedCorpusDigest runnerPrincipal executingIdentity := by
  have hnodup := validateChecks_nodup hadmitted
  constructor
  · intro h
    unfold decideVerdict at h
    split_ifs at h with hempty hdigest hrunner hfreezer hcorpus
    · obtain ⟨hdigest, hcorpus⟩ := And.intro (not_not.mp hdigest) (not_not.mp hcorpus)
      cases hseen : evidenced criteria.checks [] results with
      | error reason =>
        rw [hseen] at h
        cases h
      | ok seen =>
        simp only [hseen] at h
        split_ifs at h with hmissing
        have hall : ∀ check ∈ criteria.checks, check.checkId ∈ seen := by simpa using hmissing
        obtain ⟨hdistinct, hcovers⟩ := (evidenced_covers_iff hnodup).mp ⟨seen, hseen, hall⟩
        cases hmiss : results.find? (·.misses criteria.checks) with
        | some result =>
          rw [hmiss] at h
          cases h
        | none =>
          exact ⟨hempty, hdigest, hrunner, fun hnamed heq => hfreezer ⟨hnamed, heq⟩, hcorpus, hdistinct, hcovers,
            (find_misses_eq_none_iff hnodup).mp hmiss⟩
  · intro h
    obtain ⟨seen, hseen, hall⟩ := (evidenced_covers_iff hnodup).mpr ⟨h.distinct, h.covers⟩
    have hmissing : criteria.checks.any (fun check => check.checkId ∉ seen) = false := by
      rw [List.any_eq_false]
      intro check hcheck
      simpa using hall check hcheck
    have hfreezer : ¬ (criteria.frozenBy ≠ "" ∧ criteria.frozenBy = executingIdentity) := fun ⟨hnamed, heq⟩ =>
      h.freezer hnamed heq
    simp only [decideVerdict, if_neg h.checks, if_neg (not_not.mpr h.digest), if_neg h.runner, if_neg hfreezer,
      if_neg (not_not.mpr h.corpus), hseen, hmissing, (find_misses_eq_none_iff hnodup).mpr h.exits]
    rfl

/-- Two checks, frozen by the owner. -/
def exampleCriteria : AcceptanceCriteria where
  criteriaId := "k"
  directiveId := "d"
  checks := [⟨"a", ["/a"], ".", 0, 1⟩, ⟨"b", ["/b"], ".", 1, 1⟩]
  criteriaDigest := criteriaDigest (asciiHost [] []) [⟨"a", ["/a"], ".", 0, 1⟩, ⟨"b", ["/b"], ".", 1, 1⟩]
  corpusDigest := "c"
  corpusManifest := []
  frozenAt := epoch
  frozenBy := "owner"
  policyRevision := "p3-2026-09"

theorem decideVerdict_passed_iff_reordered :
    Conclusive (asciiHost [] []) [⟨"b", ["/b"], 1, 0, "", "", ""⟩, ⟨"a", ["/a"], 0, 0, "", "", ""⟩] exampleCriteria "c"
      "verifier" "worker" := by
  have hadmitted : (validateChecks (asciiHost [] []) exampleCriteria.checks 8 60).toOption = some exampleCriteria.checks := by
    decide +kernel
  exact (decideVerdict_passed_iff (toOption_eq_some_iff.mp hadmitted) _ _ _ _).mp (by decide +kernel)

end OpenTimeline.Verification
