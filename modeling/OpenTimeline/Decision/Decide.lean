import OpenTimeline.Decision.Votes

/-! `decide`.

Rules first, then the guard of the candidates, the eligible rows, the neighbours and their
vote: each may settle the request, and else there is a `Judgement`. What the gates and the
advisor make of a judgement is a selection of its winning option or an abstention
(`conclude_status`). -/
namespace OpenTimeline.Decision
open Library

variable (host : PolicyHost) (R : Type) [Floats R]

/-! ### Rules -/

/-- `apply_explicit_rules` -/
def applyExplicitRules (request : DecisionRequest) : Option (ExplicitRule × String) :=
  if request.candidateOptions.isEmpty then none
  else
    let inScope := request.explicitRules.filter fun rule =>
      rule.scopeProjectId = none || rule.scopeProjectId = request.projectId
    let key : ExplicitRule → ℤ ×ₗ String := fun rule => toLex (rule.priority, rule.ruleId)
    (inScope.insertionSort fun a b => key a ≤ key b).findSome? fun rule =>
      let mapped := mapChoice host R (strip rule.statement) request.candidateOptions
      if mapped = "" then none else some (rule, mapped)

theorem applyExplicitRules_mem {request : DecisionRequest} {rule : ExplicitRule} {option : String}
    (h : applyExplicitRules host R request = some (rule, option)) : option ∈ request.candidateOptions := by
  unfold applyExplicitRules at h
  rw [Option.ite_none_left_eq_some] at h
  obtain ⟨hoffered, hrule⟩ := h
  obtain ⟨_, _, hmapped⟩ := List.exists_of_findSome?_eq_some hrule
  simp only [Option.ite_none_left_eq_some, Option.some.injEq, Prod.mk.injEq] at hmapped
  obtain ⟨hne, _, rfl⟩ := hmapped
  exact mapChoice_mem host R (by simpa using hoffered) hne

variable {R}

/-! ### Measurements -/

/-- Whether a neighbour counts as decision evidence. -/
def isAboveFloor (request : DecisionRequest) (scored : R × EvidenceRow) : Bool :=
  let projectBound := request.projectId ≠ none && !request.tuning.allowUnscopedProjectEvidence
  !(scored.1 < similarityFloor) && !(projectBound && strip ((scored.2.get "project_id").text host) = "")

/-- The adequacy of some neighbours, by the weights and the share of the winning option, if
there is one. -/
def adequacyOf (request : DecisionRequest) (eligible : List EvidenceRow) (scored : List (R × EvidenceRow))
    (effectiveSampleSize agreementShare : R) (shortfalls : Nat → List String) : Adequacy R :=
  let aboveFloor := (scored.filter (isAboveFloor host request)).length
  { eligibleCount := eligible.length
    neighbourCount := scored.length
    aboveFloorCount := aboveFloor
    effectiveSampleSize
    topSimilarity := (scored.head?.map fun s => Floats.round6 s.1).getD (Floats.near 0)
    topOverlap := Floats.round6
      (((scored.map fun s => topicalOverlap host request.query s.2).max?).getD (Floats.near 0))
    agreementShare
    learningEligibleCount := (scored.filter fun s =>
      ((s.2.lookup "learning_eligible").getD (.json (.bool true))).truthy).length
    medianEvidenceAgeDays := Floats.round6 (median (scored.map fun s => ageDays host request.decisionAt s.2))
    adequate := (shortfalls aboveFloor).isEmpty
    shortfalls := shortfalls aboveFloor }

/-- Stage 7: what is short of the floors. -/
def shortfallsOf (effectiveSampleSize agreementShare : R) (aboveFloor : Nat) : List String :=
  (if aboveFloor < 2 then ["above_floor_count"] else []) ++
    (if effectiveSampleSize < minEffectiveSample then ["effective_sample_size"] else []) ++
    (if agreementShare < minAgreementShare then ["agreement_share"] else [])

/-! ### Conflict -/

def appendNew (ids : List String) (value : String) : List String :=
  if value ∈ ids then ids else ids ++ [value]

/-- The neighbours a neighbour contradicts that voted for another option. -/
def contradictions (votes : Votes R) (entry : String × EvidenceRow) : Except PyError (List (String × String)) :=
  match votes.optionByRowId.lookup entry.1 with
  | none => return []
  | some sourceOption => do
    let targets ← (entry.2.get "contradicts_observation_ids").items
    return (targets.map fun target => strip (pyStr host.toHost target)).filterMap fun targetId =>
      (votes.optionByRowId.lookup targetId).bind fun targetOption =>
        if targetOption = sourceOption then none else some (entry.1, targetId)

/-- The best two options are too close. -/
def isSplitVote : List (String × OptionTally R) → Bool
  | first :: second :: _ => Floats.near 0 < first.2.vote && conflictShareRatio ≤ second.2.vote / first.2.vote
  | _ => false

/-- The two tests of stage 9, and the ids that conflict. -/
def conflictOf (votes : Votes R) (ranked : List (String × OptionTally R)) :
    Except PyError (ConflictStatus × List String) := do
  let contradicting ← votes.rowById.mapM (contradictions host votes)
  let split := isSplitVote ranked
  let status := if !contradicting.flatten.isEmpty then ConflictStatus.explicitContradiction
    else if split then .splitVote else .none
  let splitIds := if split then ((ranked[1]?).map (·.2.supporters)).getD [] else []
  return (status, contradicting.flatten.foldl (fun ids pair => appendNew (appendNew ids pair.1) pair.2) splitIds)

/-! ### Judgement -/

/-- What stages four to nine leave for the gates. -/
structure Judgement (R : Type) where
  consideredIds : List String
  rankedOptions : List (RankedOption R)
  winning : RankedOption R
  conflictStatus : ConflictStatus
  conflictingIds : List String
  oodStatus : OodStatus
  oodScore : R
  policyScore : R
  adequacy : Adequacy R
  suggestedAction : Option String
  diagnostics : List (String × Nat)

/-- The action the winning option's neighbours took most. -/
def suggestedActionOf (actions : List (String × R)) : Option String :=
  let key : String × R → R ×ₗ String := fun item => toLex (-item.2, item.1)
  (actions.insertionSort fun a b => key a ≤ key b).head?.map (·.1)

/-- The judgement of a vote, by the option that leads it. -/
def judge (request : DecisionRequest) (eligible : List EvidenceRow) (scored : List (R × EvidenceRow))
    (votes : Votes R) (winner : String × OptionTally R) (winning : RankedOption R)
    (conflict : ConflictStatus × List String) : Judgement R :=
  let ess := Floats.round6 (effectiveSampleSize winner.2.weights)
  let adequacy := adequacyOf host request eligible scored ess winning.share (shortfallsOf ess winning.share)
  { consideredIds := votes.consideredIds
    rankedOptions := rankOptions votes.ranked
    winning
    conflictStatus := conflict.1
    conflictingIds := conflict.2
    oodStatus := if adequacy.topOverlap < oodOverlapFloor then .outOfDistribution else .inDistribution
    oodScore := Floats.near 1 - adequacy.topOverlap
    policyScore := winning.share * (Floats.near 0.45 + Floats.near 0.55 * min (Floats.near 1) adequacy.topSimilarity)
    adequacy
    suggestedAction := suggestedActionOf winner.2.actions
    diagnostics := [("unmappable_neighbours", votes.unmappable), ("considered_count", votes.consideredIds.length)] }

/-- What the stages before the gates come to. -/
inductive Verdict (R : Type) [Floats R]
  | settled (findings : Findings R)
  | judged (judgement : Judgement R)

/-- Stages 4 to 9. -/
def weigh (request : DecisionRequest) (eligible : List EvidenceRow) : Except PyError (Verdict R) :=
  let scored := neighbours host request eligible
  let votes := countVotes host request.candidateOptions scored
  match votes.ranked, rankOptions votes.ranked with
  | winner :: _, winning :: _ => do
    let conflict ← conflictOf host votes votes.ranked
    return .judged (judge host request eligible scored votes winner winning conflict)
  | _, _ =>
    return .settled {
      status := .abstained
      abstainReason := some .noCandidateMatch
      evidenceObservationIds := votes.consideredIds
      adequacy := adequacyOf host request eligible scored (Floats.near 0) (Floats.near 0)
        fun _ => ["no_mapped_neighbour"]
      diagnostics := [("unmappable_neighbours", votes.unmappable)] }

/-- Stages 1 to 9. -/
def deliberate (request : DecisionRequest) : Except PyError (Verdict R) :=
  match applyExplicitRules host R request with
  | some (rule, option) =>
    return .settled {
      status := .ruleApplied
      selectedOption := some option
      rankedOptions := [⟨option, Floats.near 1, []⟩]
      evidenceRole := "rule"
      policyScore := Floats.near 1
      appliedRuleId := some rule.ruleId
      ruleLayer := true }
  | none =>
    if request.candidateOptions.isEmpty then
      return .settled {
        status := .abstained
        abstainReason := some .noCandidateMatch
        adequacy := emptyAdequacy ["no_candidate_options"] }
    else do
      let eligible ← eligibleBehaviorEvidence host request.evidenceRows request.decisionAt true
      if eligible.isEmpty then
        return .settled {
          status := .abstained
          abstainReason := some .noEligibleEvidence
          adequacy := emptyAdequacy ["no_eligible_evidence"] }
      else weigh host request eligible

/-! ### The advisor -/

/-- What `_advisor_stage` returns. -/
structure Advice (R : Type) where
  agreement : AdvisorAgreement
  forcesAbstention : Bool
  conflicting : List String := []
  citationOverlap : Option R := none
  note : Option String := none

/-- `_advisor_stage` -/
def advisorStage (request : DecisionRequest) (selectedOption : String) (supportingIds offeredIds : List String) :
    Advice R :=
  match request.advisor with
  | none =>
    { agreement := .absent
      forcesAbstention := request.decisionFamily ∈ request.tuning.advisorRequiredFamilies }
  | some advisor =>
    if advisor.parseState ≠ "parsed" then
      { agreement := .unavailable
        forcesAbstention := true
        note := advisor.advisorNote }
    else
      let conflicting := (validateCitedIds advisor.conflictingEvidenceIds offeredIds).1
      let kept := (validateCitedIds advisor.evidenceIds offeredIds).1
      let overlap : Option R :=
        if kept.isEmpty then none
        else some (Floats.round6
          (Floats.near (((kept.filter (· ∈ supportingIds)).length : ℚ) / kept.length)))
      let agrees := choiceKey host (advisor.recommendedOption.getD "") = choiceKey host selectedOption
      { agreement := if advisor.abstained then .abstained else if agrees then .agreed else .disagreed
        forcesAbstention := advisor.abstained || !agrees
        conflicting
        citationOverlap := overlap
        note := advisor.advisorNote }

/-! ### The decision -/

/-- The findings of an abstention from a judgement. -/
def Judgement.abstain (judgement : Judgement R) (reason : AbstainReason) : Findings R where
  status := .abstained
  abstainReason := some reason
  evidenceObservationIds := judgement.consideredIds
  conflictingObservationIds := judgement.conflictingIds
  rankedOptions := judgement.rankedOptions
  oodStatus := judgement.oodStatus
  oodScore := judgement.oodScore
  conflictStatus := judgement.conflictStatus
  policyScore := judgement.policyScore
  adequacy := judgement.adequacy
  diagnostics := judgement.diagnostics

/-- The gates, stage 10 and the advisor. -/
def conclude (request : DecisionRequest) (judgement : Judgement R) : Findings R :=
  if judgement.conflictStatus ≠ .none then judgement.abstain .conflictingEvidence
  else if judgement.oodStatus = .outOfDistribution then judgement.abstain .outOfDistribution
  else if !judgement.adequacy.adequate then judgement.abstain .inadequateEvidence
  else
    let winning := judgement.winning
    let advice : Advice R :=
      advisorStage host request winning.option winning.supportingObservationIds judgement.consideredIds
    let conflictingIds := advice.conflicting.foldl appendNew judgement.conflictingIds
    if advice.forcesAbstention then
      { judgement.abstain .advisorForced with
        conflictingObservationIds := conflictingIds
        advisorAgreement := some advice.agreement
        advisorCitationOverlap := advice.citationOverlap
        advisorNote := advice.note }
    else
      { status := .selected
        selectedOption := some winning.option
        rankedOptions := judgement.rankedOptions
        evidenceObservationIds := winning.supportingObservationIds
        evidenceRole := "supporting"
        conflictingObservationIds := conflictingIds
        oodStatus := judgement.oodStatus
        oodScore := judgement.oodScore
        conflictStatus := judgement.conflictStatus
        policyScore := judgement.policyScore
        adequacy := judgement.adequacy
        suggestedAction := judgement.suggestedAction
        advisorAgreement := some advice.agreement
        advisorCitationOverlap := advice.citationOverlap
        advisorNote := advice.note
        diagnostics := judgement.diagnostics }

/-- `decide` -/
def decide (request : DecisionRequest) : Except PyError (DecisionResult R) := do
  let verdict : Verdict R ← deliberate host request
  match verdict with
  | .settled findings => return finish host request findings
  | .judged judgement => return finish host request (conclude host request judgement)

end OpenTimeline.Decision
