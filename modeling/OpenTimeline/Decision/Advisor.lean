import OpenTimeline.Decision.Support

/-! What an advisor can do.

Nothing before the gates reads the advisor's answer, so two runs that differ in it come to
the same verdict (`deliberate_advisor`). It can only turn a selection into an abstention,
and where the family requires no advisor none at all does not (`advisor_only_holds_back`). -/
namespace OpenTimeline.Decision
open Library

variable (host : PolicyHost) {R : Type} [Floats R]

theorem deliberate_advisor (request : DecisionRequest) (advisor : Option AdvisorContribution) :
    (deliberate host {request with advisor} : Except PyError (Verdict R)) = deliberate host request := rfl

/-- Two findings that choose the same. -/
structure SameChoice (findings findings' : Findings R) : Prop where
  status : findings.status = findings'.status
  option : findings.selectedOption = findings'.selectedOption
  score : findings.policyScore = findings'.policyScore
  ranking : findings.rankedOptions = findings'.rankedOptions

variable {host}

/-- A judgement is selected as it is, whoever advises. -/
theorem conclude_sameChoice {request request' : DecisionRequest} {judgement : Judgement R}
    (h : (conclude host request judgement).status ≠ .abstained)
    (h' : (conclude host request' judgement).status ≠ .abstained) :
    SameChoice (conclude host request judgement) (conclude host request' judgement) := by
  have hselected : ∀ request, (conclude host request judgement).status ≠ .abstained →
      (conclude host request judgement).status = .selected := by
    intro request h
    rw [conclude_status] at h ⊢
    split_ifs at h ⊢
    · rfl
    · exact absurd rfl h
  obtain ⟨hoption, hranking, _, hscore, _⟩ := conclude_findings host (hselected request h)
  obtain ⟨hoption', hranking', _, hscore', _⟩ := conclude_findings host (hselected request' h')
  exact ⟨(hselected request h).trans (hselected request' h').symm, hoption.trans hoption'.symm,
    hscore.trans hscore'.symm, hranking.trans hranking'.symm⟩

/-- Where no advisor is required, what one lets through would go through without one. -/
theorem conclude_abstained {request : DecisionRequest} {judgement : Judgement R}
    (hfamily : request.decisionFamily ∉ request.tuning.advisorRequiredFamilies)
    (h : (conclude host {request with advisor := none} judgement).status = .abstained)
    (advisor : Option AdvisorContribution) :
    (conclude host {request with advisor} judgement).status = .abstained := by
  rw [conclude_status] at h ⊢
  have hforces : advisorForces host {request with advisor := none} judgement.winning.option = false :=
    decide_eq_false hfamily
  rw [hforces] at h
  cases hpasses : judgement.passes with
  | false => rfl
  | true =>
    rw [hpasses] at h
    cases h

variable (host)

/-- Whatever two advisors answer, or none does, two selections are one and the same; and
where the family requires no advisor, an abstention without one stays one with any. -/
theorem advisor_only_holds_back (request : DecisionRequest)
    (hfamily : request.decisionFamily ∉ request.tuning.advisorRequiredFamilies)
    (advisor advisor' : Option AdvisorContribution) :
    (∀ result result' : DecisionResult R, decide host {request with advisor} = .ok result →
      decide host {request with advisor := advisor'} = .ok result' →
      result.status ≠ .abstained → result'.status ≠ .abstained →
      result.status = result'.status ∧ result.selectedOption = result'.selectedOption ∧
        result.policyScore = result'.policyScore ∧ result.rankedOptions = result'.rankedOptions) ∧
    ∀ result : DecisionResult R, decide host {request with advisor := none} = .ok result →
      result.status = .abstained →
      ∃ result' : DecisionResult R, decide host {request with advisor} = .ok result' ∧ result'.status = .abstained := by
  constructor
  · intro result result' h h' hchosen hchosen'
    rcases decide_cases h with ⟨findings, hsettled, rfl⟩ | ⟨judgement, hjudged, rfl⟩ <;>
      rcases decide_cases h' with ⟨findings', hsettled', rfl⟩ | ⟨judgement', hjudged', rfl⟩
    · obtain rfl := Verdict.settled.inj (Except.ok.inj (hsettled.symm.trans hsettled'))
      exact ⟨rfl, rfl, rfl, rfl⟩
    · cases hsettled.symm.trans hjudged'
    · cases hjudged.symm.trans hsettled'
    · obtain rfl := Verdict.judged.inj (Except.ok.inj (hjudged.symm.trans hjudged'))
      have hsame : SameChoice (conclude host {request with advisor} judgement)
          (conclude host {request with advisor := advisor'} judgement) := conclude_sameChoice hchosen hchosen'
      exact ⟨hsame.status, hsame.option, congrArg (fun score => Floats.round6 (Floats.clamp score)) hsame.score,
        hsame.ranking⟩
  · intro result h habstained
    rcases decide_cases h with ⟨findings, hsettled, rfl⟩ | ⟨judgement, hjudged, rfl⟩
    · refine ⟨finish host {request with advisor} findings, ?_, habstained⟩
      rw [deliberate_advisor] at hsettled
      simp only [decide, deliberate_advisor, hsettled]
      rfl
    · refine ⟨finish host {request with advisor} (conclude host {request with advisor} judgement), ?_,
        conclude_abstained hfamily habstained advisor⟩
      rw [deliberate_advisor] at hjudged
      simp only [decide, deliberate_advisor, hjudged]
      rfl

/-! ### Runs -/

/-- An advisor who names an option. -/
def exampleAdvisor (recommended : String) : AdvisorContribution where
  recommendedOption := some recommended
  abstained := false
  abstainReason := none
  evidenceIds := []
  conflictingEvidenceIds := []
  advisorNote := none
  parseState := "parsed"
  promptSha256 := ""
  modelId := ""
  runtimeVersion := ""

/-- One who does not agree. -/
example : (decide exampleHost {exampleRequest with advisor := some (exampleAdvisor "wait")} :
    Except PyError (DecisionResult ℚ)).toOption.any fun result =>
      result.status = .abstained && result.advisorAgreement = .disagreed := by decide +kernel

/-- One who agrees, in other letters, and none. -/
theorem advisor_only_holds_back_agreed : ∃ result result' : DecisionResult ℚ,
    decide exampleHost {exampleRequest with advisor := some (exampleAdvisor " Deploy  NOW")} = .ok result ∧
    decide exampleHost {exampleRequest with advisor := none} = .ok result' ∧
    result.status = .selected ∧ result.selectedOption = result'.selectedOption ∧
    result.policyScore = result'.policyScore ∧ result.rankedOptions = result'.rankedOptions := by
  have hrun : (decide exampleHost {exampleRequest with advisor := some (exampleAdvisor " Deploy  NOW")} :
      Except PyError (DecisionResult ℚ)).toOption.any (·.status = .selected) := by decide +kernel
  obtain ⟨result, hresult, hselected⟩ := (Option.any_eq_true _ _).mp hrun
  obtain ⟨result', hresult', hselected', _⟩ := decide_exampleRequest
  rw [decide_eq_true_eq] at hselected
  have hsame := (advisor_only_holds_back exampleHost exampleRequest nofun
    (some (exampleAdvisor " Deploy  NOW")) none).1 result result' (toOption_eq_some_iff.mp hresult) hresult'
      (by simp [hselected]) (by simp [hselected'])
  exact ⟨result, result', toOption_eq_some_iff.mp hresult, hresult', hselected, hsame.2⟩

end OpenTimeline.Decision
