import OpenTimeline.Decision.Decide

/-! What stands behind a selection.

An option that is selected or that a rule names is on offer. A selection has passed the
gates, no advisor holds it back, and the ids it cites are those of eligible rows whose
choice maps onto the option (`selected_supported`). Eligible is what
`eligible_behavior_evidence` admits, by time and by label: `decide` has no filter of scope
and takes the rows it is given for those of its loader, so a row of someone else's may be
cited (`selected_out_of_scope`). -/
namespace OpenTimeline.Decision
open Library

variable (host : PolicyHost) {R : Type} [Floats R]

/-! ### Gates -/

/-- The gates before the advisor. -/
def Judgement.passes (judgement : Judgement R) : Bool :=
  judgement.conflictStatus = .none && judgement.oodStatus ≠ .outOfDistribution && judgement.adequacy.adequate

/-- An advisor that is missing where one is required, that failed, that abstains or that
names another option. -/
def advisorForces (request : DecisionRequest) (option : String) : Bool :=
  match request.advisor with
  | none => request.decisionFamily ∈ request.tuning.advisorRequiredFamilies
  | some advisor => advisor.parseState ≠ "parsed" || advisor.abstained ||
      choiceKey host (advisor.recommendedOption.getD "") ≠ choiceKey host option

theorem advisorStage_forcesAbstention (request : DecisionRequest) (option : String) (supportingIds offeredIds : List String) :
    (advisorStage host request option supportingIds offeredIds : Advice R).forcesAbstention =
      advisorForces host request option := by
  unfold advisorStage advisorForces
  cases request.advisor with
  | none => rfl
  | some advisor =>
    by_cases hparsed : advisor.parseState = "parsed" <;> simp [hparsed]

/-- A judgement is selected just where it passes the gates and no advisor forces an
abstention. -/
theorem conclude_status (request : DecisionRequest) (judgement : Judgement R) :
    (conclude host request judgement).status =
      if judgement.passes && !advisorForces host request judgement.winning.option then .selected else .abstained := by
  unfold conclude Judgement.passes
  by_cases hconflict : judgement.conflictStatus = .none
  · by_cases hood : judgement.oodStatus = .outOfDistribution
    · simp [hconflict, hood, Judgement.abstain]
    · cases hadequate : judgement.adequacy.adequate
      · simp [hconflict, hood, Judgement.abstain]
      · cases hforces : advisorForces host request judgement.winning.option <;>
          simp [hconflict, hood, advisorStage_forcesAbstention, hforces, Judgement.abstain]
  · simp [hconflict, Judgement.abstain]

theorem conclude_selected {request : DecisionRequest} {judgement : Judgement R}
    (h : (conclude host request judgement).status = .selected) :
    judgement.passes ∧ advisorForces host request judgement.winning.option = false := by
  rw [conclude_status] at h
  split_ifs at h with hselected
  simpa using hselected

/-- What the findings of a selection take from its judgement. -/
theorem conclude_findings {request : DecisionRequest} {judgement : Judgement R}
    (h : (conclude host request judgement).status = .selected) :
    (conclude host request judgement).selectedOption = some judgement.winning.option ∧
      (conclude host request judgement).rankedOptions = judgement.rankedOptions ∧
      (conclude host request judgement).evidenceObservationIds = judgement.winning.supportingObservationIds ∧
      (conclude host request judgement).policyScore = judgement.policyScore ∧
      (conclude host request judgement).oodStatus = judgement.oodStatus ∧
      (conclude host request judgement).conflictStatus = judgement.conflictStatus ∧
      (conclude host request judgement).adequacy = judgement.adequacy := by
  obtain ⟨hpasses, hforces⟩ := conclude_selected host h
  simp only [Judgement.passes, Bool.and_eq_true, decide_eq_true_eq] at hpasses
  obtain ⟨⟨hconflict, hood⟩, hadequate⟩ := hpasses
  unfold conclude
  simp [hconflict, hood, hadequate, advisorStage_forcesAbstention, hforces]

/-! ### Judgements -/

/-- Enough neighbours are near enough, and enough of the vote is for one option. -/
structure Adequacy.ClearsFloors (adequacy : Adequacy R) : Prop where
  aboveFloor : 2 ≤ adequacy.aboveFloorCount
  sample : minEffectiveSample ≤ adequacy.effectiveSampleSize
  agreement : minAgreementShare ≤ adequacy.agreementShare

/-- The option that leads a vote is on offer and its supporters are eligible rows; the
evidence is called adequate and in distribution only where it is. -/
structure Judgement.Supported (request : DecisionRequest) (eligible : List EvidenceRow) (judgement : Judgement R) :
    Prop where
  offered : judgement.winning.option ∈ request.candidateOptions
  supported : ∀ id ∈ judgement.winning.supportingObservationIds, ∃ row ∈ eligible, row.id host = id ∧
    Supports host R request.candidateOptions row judgement.winning.option
  adequate : judgement.adequacy.adequate → judgement.adequacy.ClearsFloors
  distribution : judgement.oodStatus = .outOfDistribution ∨
    judgement.oodStatus = .inDistribution ∧ oodOverlapFloor ≤ judgement.adequacy.topOverlap

theorem shortfallsOf_eq_nil_iff {effectiveSampleSize agreementShare : R} {aboveFloor : Nat} :
    shortfallsOf effectiveSampleSize agreementShare aboveFloor = [] ↔
      2 ≤ aboveFloor ∧ minEffectiveSample ≤ effectiveSampleSize ∧ minAgreementShare ≤ agreementShare := by
  simp only [shortfallsOf, List.append_eq_nil_iff, ite_eq_right_iff, List.cons_ne_nil, imp_false, not_lt, and_assoc]

variable {host}

theorem weigh_judged {request : DecisionRequest} (hoffered : request.candidateOptions ≠ [])
    {eligible : List EvidenceRow} {judgement : Judgement R}
    (h : weigh host request eligible = .ok (.judged judgement)) : judgement.Supported host request eligible := by
  have hfounded : (countVotes host request.candidateOptions (neighbours host request eligible) : Votes R).Founded host
      request.candidateOptions eligible := founded_countVotes hoffered fun _ => mem_of_mem_neighbours host
  simp only [weigh] at h
  cases hranked : (countVotes host request.candidateOptions (neighbours host request eligible) : Votes R).ranked with
  | nil =>
    rw [hranked] at h
    cases h
  | cons winner rest =>
    have hwinner := hfounded winner (mem_options_of_mem_ranked (by simp [hranked]))
    rw [hranked] at h
    simp only [rankOptions, List.map_cons] at h
    obtain ⟨conflict, _, hjudge⟩ := bind_ok h
    obtain rfl := Verdict.judged.inj (Except.ok.inj hjudge)
    refine ⟨hwinner.offered, hwinner.supported, fun hadequate => ?_, ?_⟩
    · obtain ⟨habove, hsample, hagreement⟩ := shortfallsOf_eq_nil_iff.mp (List.isEmpty_iff.mp hadequate)
      exact ⟨habove, hsample, hagreement⟩
    · simp only [judge]
      split_ifs with hfar
      · exact Or.inl rfl
      · exact Or.inr ⟨rfl, not_lt.mp hfar⟩

/-- A vote that settles the request settles it by abstaining. -/
theorem weigh_settled {request : DecisionRequest} {eligible : List EvidenceRow} {findings : Findings R}
    (h : weigh host request eligible = .ok (.settled findings)) : findings.status = .abstained := by
  simp only [weigh] at h
  cases hranked : (countVotes host request.candidateOptions (neighbours host request eligible) : Votes R).ranked with
  | nil =>
    rw [hranked] at h
    obtain rfl := Verdict.settled.inj (Except.ok.inj h)
    rfl
  | cons winner rest =>
    rw [hranked] at h
    simp only [rankOptions, List.map_cons] at h
    obtain ⟨conflict, _, hjudge⟩ := bind_ok h
    cases hjudge

/-- What the stages before the gates come to: an option a rule names, an abstention, or a
judgement of eligible rows. -/
theorem deliberate_cases {request : DecisionRequest} {verdict : Verdict R}
    (h : deliberate host request = .ok verdict) :
    (∃ findings, verdict = .settled findings ∧ findings.status = .ruleApplied ∧
      ∃ option ∈ request.candidateOptions, findings.selectedOption = some option) ∨
    (∃ findings, verdict = .settled findings ∧ findings.status = .abstained) ∨
    ∃ judgement eligible, verdict = .judged judgement ∧
      eligibleBehaviorEvidence host request.evidenceRows request.decisionAt true = .ok eligible ∧
      judgement.Supported host request eligible := by
  unfold deliberate at h
  cases hrule : applyExplicitRules host R request with
  | some hit =>
    rw [hrule] at h
    obtain rfl := Except.ok.inj h
    exact Or.inl ⟨_, rfl, rfl, hit.2, applyExplicitRules_mem host R hrule, rfl⟩
  | none =>
    simp only [hrule] at h
    split_ifs at h with hnone
    · obtain rfl := Except.ok.inj h
      exact Or.inr (Or.inl ⟨_, rfl, rfl⟩)
    obtain ⟨eligible, heligible, h⟩ := bind_ok h
    split_ifs at h
    · obtain rfl := Except.ok.inj h
      exact Or.inr (Or.inl ⟨_, rfl, rfl⟩)
    cases verdict with
    | judged judgement =>
      exact Or.inr (Or.inr ⟨judgement, eligible, rfl, heligible, weigh_judged (by simpa using hnone) h⟩)
    | settled findings =>
      refine Or.inr (Or.inl ⟨findings, rfl, ?_⟩)
      exact weigh_settled h

theorem decide_cases {request : DecisionRequest} {result : DecisionResult R} (h : decide host request = .ok result) :
    (∃ findings : Findings R, deliberate host request = .ok (.settled findings) ∧
      result = finish host request findings) ∨
    ∃ judgement : Judgement R, deliberate host request = .ok (.judged judgement) ∧
      result = finish host request (conclude host request judgement) := by
  obtain ⟨verdict, hverdict, h⟩ := bind_ok h
  cases verdict with
  | settled findings => exact Or.inl ⟨findings, hverdict, (Except.ok.inj h).symm⟩
  | judged judgement => exact Or.inr ⟨judgement, hverdict, (Except.ok.inj h).symm⟩

variable (host)

/-- An option that is selected or named by a rule is on offer; one that is selected has
adequate evidence in distribution and without conflict, is held back by no advisor, and
cites eligible rows that support it. -/
theorem selected_supported (request : DecisionRequest) (result : DecisionResult R)
    (h : decide host request = .ok result) :
    (result.status = .selected ∨ result.status = .ruleApplied →
      ∃ option ∈ request.candidateOptions, result.selectedOption = some option) ∧
    (result.status = .selected →
      result.adequacy.adequate ∧ result.adequacy.ClearsFloors ∧
      result.oodStatus = .inDistribution ∧ oodOverlapFloor ≤ result.adequacy.topOverlap ∧
      result.conflictStatus = .none ∧
      ∃ option eligible, result.selectedOption = some option ∧ advisorForces host request option = false ∧
        eligibleBehaviorEvidence host request.evidenceRows request.decisionAt true = .ok eligible ∧
        ∀ id ∈ result.evidenceObservationIds, ∃ row ∈ eligible, row.id host = id ∧
          Supports host R request.candidateOptions row option) := by
  rcases decide_cases h with ⟨findings, hsettled, rfl⟩ | ⟨judgement, hjudged, rfl⟩
  · have hstatus : (finish host request findings).status = findings.status := rfl
    have hoption : (finish host request findings).selectedOption = findings.selectedOption := rfl
    rw [hstatus, hoption]
    rcases deliberate_cases hsettled with ⟨_, heq, hrule, hoffered⟩ | ⟨_, heq, habstained⟩ | ⟨_, _, heq, _⟩
    · obtain rfl := Verdict.settled.inj heq
      exact ⟨fun _ => hoffered, fun hselected => absurd (hrule.symm.trans hselected) nofun⟩
    · obtain rfl := Verdict.settled.inj heq
      refine ⟨fun hselected => ?_, fun hselected => absurd (habstained.symm.trans hselected) nofun⟩
      rcases hselected with hselected | hrule
      · exact absurd (habstained.symm.trans hselected) nofun
      · exact absurd (habstained.symm.trans hrule) nofun
    · cases heq
  · rcases deliberate_cases hjudged with ⟨_, heq, _⟩ | ⟨_, heq, _⟩ | ⟨_, eligible, heq, heligible, hsupported⟩
    · cases heq
    · cases heq
    obtain rfl := Verdict.judged.inj heq
    have hstatus : (finish host request (conclude host request judgement)).status =
        (conclude host request judgement).status := rfl
    rw [hstatus]
    have hnever : (conclude host request judgement).status ≠ .ruleApplied := by
      rw [conclude_status]
      split_ifs <;> simp
    refine ⟨fun hselected => ?_, fun hselected => ?_⟩
    · obtain ⟨hoption, _⟩ := conclude_findings host (hselected.resolve_right hnever)
      exact ⟨_, hsupported.offered, hoption⟩
    · obtain ⟨hoption, _, hcited, _, hood, hconflict, hadequacy⟩ := conclude_findings host hselected
      obtain ⟨hpasses, hforces⟩ := conclude_selected host hselected
      simp only [Judgement.passes, Bool.and_eq_true, decide_eq_true_eq] at hpasses
      obtain ⟨⟨hpeace, hnear⟩, hadequate⟩ := hpasses
      obtain ⟨hknown, hoverlap⟩ := hsupported.distribution.resolve_left hnear
      have hsame : (finish host request (conclude host request judgement)).adequacy = judgement.adequacy := hadequacy
      rw [hsame]
      refine ⟨hadequate, hsupported.adequate hadequate, hood.trans hknown, hoverlap, hconflict.trans hpeace,
        judgement.winning.option, eligible, hoption, hforces, heligible, ?_⟩
      intro id hid
      have hid : id ∈ (conclude host request judgement).evidenceObservationIds := hid
      rw [hcited] at hid
      exact hsupported.supported id hid

/-! ### Scope -/

/-- `observations_scope_predicate` with `allow_null_project`, as the loaders filter by it. -/
def inScope (request : DecisionRequest) (row : EvidenceRow) : Bool :=
  (row.get "workspace_id").str host = request.workspaceId &&
    (row.get "subject_user_id").str host = request.subjectUserId &&
    (request.projectId.getD "" = "" || match row.get "project_id" with
      | .json .null => true
      | project => project.str host = request.projectId.getD "")

/-! ### Runs

The numbers of the runs below are rationals, and the rows are as old as the decision. -/

def roundHalfEven (x : ℚ) : ℤ :=
  let n := ⌊x⌋
  if x - n < 1 / 2 then n else if 1 / 2 < x - n then n + 1 else if n % 2 = 0 then n else n + 1

instance exactFloats : Floats ℚ where
  near x := x
  exp x := 1 / (1 - x)
  log x := x - 1
  round6 x := roundHalfEven (x * 1000000) / 1000000
  sum := List.sum

def exampleHost : PolicyHost where
  toHost := asciiHost [] []
  strTime _ := ""
  isoformat _ := ""
  thresholdsSha := ""

/-- A choice another user made in another project. -/
def exampleRow (id : String) : EvidenceRow :=
  [("id", .json (.str id)), ("workspace_id", .json (.str "w")), ("subject_user_id", .json (.str "v")),
    ("project_id", .json (.str "q")), ("ts", .time ⟨epoch, true⟩), ("situation_type", .json (.str "release")),
    ("situation_summary", .json (.str "ship the fix")), ("objective_text", .json (.str "ship")),
    ("selected_choice", .json (.str "deploy now")), ("evidence_source", .json (.str "explicit"))]

def exampleRequest : DecisionRequest where
  decisionFamily := "release"
  situationType := "release"
  situationSummary := "ship the fix"
  objectiveText := "ship"
  constraints := []
  contextSnapshot := []
  candidateOptions := ["deploy now", "wait"]
  evidenceRows := [exampleRow "a", exampleRow "b"]
  decisionAt := epoch
  workspaceId := "w"
  subjectUserId := "u"
  projectId := some "p"
  episodeKey := ""
  evidenceRevision := ""
  evidenceCutoffAt := none
  retrievalVersion := ""
  modelId := ""
  runtimeVersion := ""

theorem decide_exampleRequest : ∃ result : DecisionResult ℚ, decide exampleHost exampleRequest = .ok result ∧
    result.status = .selected ∧ result.evidenceObservationIds = ["a", "b"] := by
  have hrun : (decide exampleHost exampleRequest : Except PyError (DecisionResult ℚ)).toOption.any (fun result =>
      result.status = .selected && result.evidenceObservationIds = ["a", "b"]) := by decide +kernel
  obtain ⟨result, hresult, hselected⟩ := (Option.any_eq_true _ _).mp hrun
  simp only [Bool.and_eq_true, decide_eq_true_eq] at hselected
  exact ⟨result, toOption_eq_some_iff.mp hresult, hselected⟩

theorem selected_supported_exampleRequest : ∃ result : DecisionResult ℚ,
    decide exampleHost exampleRequest = .ok result ∧ result.status = .selected ∧
    ∃ option ∈ exampleRequest.candidateOptions, result.selectedOption = some option := by
  obtain ⟨result, hresult, hselected, _⟩ := decide_exampleRequest
  exact ⟨result, hresult, hselected,
    (selected_supported exampleHost exampleRequest result hresult).1 (Or.inl hselected)⟩

/-- A selection may cite only rows out of the request's scope. -/
theorem selected_out_of_scope : ¬ ∀ (R : Type) (_ : Floats R) host request (result : DecisionResult R),
    decide host request = .ok result → result.status = .selected →
      ∀ id ∈ result.evidenceObservationIds, ∃ eligible,
        eligibleBehaviorEvidence host request.evidenceRows request.decisionAt true = .ok eligible ∧
        ∃ row ∈ eligible, row.id host = id ∧ inScope host request row := by
  intro h
  obtain ⟨result, hresult, hselected, hcited⟩ := decide_exampleRequest
  obtain ⟨eligible, heligible, row, hrow, _, hscope⟩ :=
    h ℚ exactFloats exampleHost exampleRequest result hresult hselected "a" (by simp [hcited])
  have hout : ∀ row ∈ exampleRequest.evidenceRows, inScope exampleHost exampleRequest row = false := by decide
  rw [hout row (mem_eligibleBehaviorEvidence exampleHost heligible hrow).1] at hscope
  cases hscope

end OpenTimeline.Decision
