import OpenTimeline.Library.Dict
import OpenTimeline.TaskState.Records

/-! The status table.

`deriveStatus` is the rule table the fold ends in, first match wins. What it
takes for the table to say `done`, and to say that a step is to be executed, is
stated once each (`deriveStatus_done_iff`, `deriveStatus_executeStep_iff`); no
later proof unfolds the table. -/
namespace OpenTimeline.TaskState
open Library

variable (host : Host)

/-! ### Plan progress -/

inductive RootStatus
  | absent | blocked | active | done
deriving DecidableEq, Repr

/-- `str(step.status or "").strip().lower()` -/
def stepStatus (status : String) : String := host.lower (strip status)

/-- The lowest open step, unless it is blocked: `next_open_step`. -/
def nextOpenStep (steps : List (Int × String)) : Option Int :=
  let openSteps := (steps.map fun s => toLex (s.1, stepStatus host s.2)).filter
    fun s => (ofLex s).2 ∉ terminalStepStatuses
  match openSteps.insertionSort (· ≤ ·) with
  | [] => none
  | first :: _ => if (ofLex first).2 = blockingStepStatus then none else some (ofLex first).1

/-- `status_by_index`: a later step of an index replaces an earlier one. -/
def statusByIndex (steps : List PlanStepState) : Dict Int String :=
  steps.foldl (fun d step => d.insert step.stepIndex (stepStatus host step.status)) ∅

def rootStatus (steps : List PlanStepState) : RootStatus :=
  let status := statusByIndex host steps
  if steps = [] then .absent
  else if blockingStepStatus ∈ status.sortedValues then .blocked
  else if steps.any (fun step => stepStatus host step.status ∉ terminalStepStatuses &&
      step.dependsOn.any fun dependency =>
        status.lookup dependency ∈ [some blockingStepStatus, some "dropped"]) then .blocked
  else if (nextOpenStep host (steps.map fun step => (step.stepIndex, step.status))).isSome then .active
  else if status.sortedValues.all (· ∈ terminalStepStatuses) && "done" ∈ status.sortedValues then .done
  else .blocked

theorem lookup_statusByIndex {steps : List PlanStepState} (hnodup : (steps.map (·.stepIndex)).Nodup)
    {step : PlanStepState} (hm : step ∈ steps) :
    (statusByIndex host steps).lookup step.stepIndex = some (stepStatus host step.status) := by
  suffices hgen : ∀ (d : Dict Int String), (steps.foldl
      (fun d step => d.insert step.stepIndex (stepStatus host step.status)) d).lookup step.stepIndex =
        some (stepStatus host step.status) from hgen ∅
  have hframe : ∀ (rest : List PlanStepState) (d : Dict Int String) (k : Int),
      k ∉ rest.map (·.stepIndex) → (rest.foldl
        (fun d step => d.insert step.stepIndex (stepStatus host step.status)) d).lookup k = d.lookup k := by
    intro rest
    induction rest with
    | nil => intro d k _; rfl
    | cons s rest ih =>
      intro d k hk
      rw [List.map_cons, List.mem_cons, not_or] at hk
      rw [List.foldl_cons, ih _ k hk.2, AList.lookup_insert_ne hk.1]
  induction steps with
  | nil => cases hm
  | cons s rest ih =>
    intro d
    rw [List.map_cons, List.nodup_cons] at hnodup
    rcases List.mem_cons.mp hm with rfl | hm
    · rw [List.foldl_cons, hframe rest _ _ hnodup.1, AList.lookup_insert]
    · exact ih hnodup.2 hm _

theorem lookup_statusByIndex_some {steps : List PlanStepState} {k : Int} {v : String}
    (h : (statusByIndex host steps).lookup k = some v) :
    ∃ step ∈ steps, stepStatus host step.status = v := by
  suffices hgen : ∀ (rest : List PlanStepState) (d : Dict Int String), (rest.foldl
      (fun d step => d.insert step.stepIndex (stepStatus host step.status)) d).lookup k = some v →
      d.lookup k = some v ∨ ∃ step ∈ rest, stepStatus host step.status = v by
    rcases hgen steps ∅ h with h | h
    · simp at h
    · exact h
  intro rest
  induction rest with
  | nil => exact fun d h => Or.inl h
  | cons s rest ih =>
    intro d h
    rcases ih _ h with h | ⟨step, hm, hs⟩
    · by_cases hk : k = s.stepIndex
      · rw [hk, AList.lookup_insert, Option.some.injEq] at h
        exact Or.inr ⟨s, List.mem_cons_self, h⟩
      · rw [AList.lookup_insert_ne hk] at h
        exact Or.inl h
    · exact Or.inr ⟨step, List.mem_cons_of_mem _ hm, hs⟩

/-- A finished plan: every step terminal, and at least one of them done rather than
dropped. -/
def Finished (steps : List PlanStepState) : Prop :=
  (∀ step ∈ steps, stepStatus host step.status ∈ terminalStepStatuses) ∧
    ∃ step ∈ steps, stepStatus host step.status = "done"

theorem rootStatus_done {steps : List PlanStepState} (hnodup : (steps.map (·.stepIndex)).Nodup)
    (h : rootStatus host steps = .done) : Finished host steps := by
  simp only [rootStatus] at h
  split_ifs at h with hempty hblocked hdep hopen hdone
  simp only [Bool.and_eq_true, List.all_eq_true, decide_eq_true_eq] at hdone
  obtain ⟨hall, hone⟩ := hdone
  constructor
  · intro step hm
    exact hall _ ((Dict.mem_sortedValues _ _).mpr ⟨_, lookup_statusByIndex host hnodup hm⟩)
  · obtain ⟨k, hk⟩ := (Dict.mem_sortedValues _ _).mp hone
    exact lookup_statusByIndex_some host hk

/-! ### The rule table -/

structure StatusInputs where
  cancelledAt : Option Instant
  cancelledSeq : Int
  objectiveSetAt : Option Instant
  objectiveSetSeq : Int
  objectiveText : String
  contractRevision : Int
  openDecisions : List OpenDecision
  plan : Option ApprovedPlan
  unresolvedEffects : List UnresolvedEffect
  latestVerification : Option VerificationRef

/-- `(at, seq) > (at', seq')` on tuples. -/
def Later (a b : Instant × Int) : Prop := b.1 < a.1 ∨ (a.1 = b.1 ∧ b.2 < a.2)

instance (a b : Instant × Int) : Decidable (Later a b) := inferInstanceAs (Decidable (_ ∨ _))

/-- Rule R1: a cancel that is newer than the objective. -/
def StatusInputs.cancelled (parts : StatusInputs) : Bool :=
  match parts.cancelledAt with
  | none => false
  | some at' => Later (at', parts.cancelledSeq) (parts.objectiveSetAt.getD 0, parts.objectiveSetSeq)

def verificationIsCurrent (parts : StatusInputs) : Bool :=
  match parts.latestVerification, parts.plan with
  | some ref, some plan =>
    ref.contractRevision = parts.contractRevision && ref.planId = some plan.planId
  | _, _ => false

def verificationPassed (parts : StatusInputs) : Bool :=
  match parts.latestVerification with
  | some ref => ref.state ∈ verificationPassStates
  | none => false

def deriveStatus (parts : StatusInputs) : TaskStatus × NextPermittedAction :=
  -- R1: a cancel that is newer than the objective is terminal
  if parts.cancelled then (.cancelled, .none)
  -- R2
  else if strip parts.objectiveText = "" then (.awaitingObjective, .awaitOwnerObjective)
  -- R3
  else if parts.openDecisions.any (fun decision => !decision.superseded) then
    (.awaitingDecision, .awaitDecision)
  -- R4: every case without a live plan of this contract
  else match parts.plan with
  | none => (.planning, .awaitPlanning)
  | some plan =>
    if plan.state ∈ [PlanState.absent, .pending, .invalidated] ||
        plan.contractRevision ≠ parts.contractRevision then (.planning, .awaitPlanning)
    else match rootStatus host plan.steps with
    -- R5, R6, R7
    | .blocked => (.blocked, .blocked)
    | .active => (.active, .executeStep)
    | .absent => (.planning, .awaitPlanning)
    | .done =>
      -- R8
      if parts.unresolvedEffects ≠ [] then (.awaitingVerification, .resolveEffects)
      -- R9: the only route to done
      else if verificationIsCurrent parts && verificationPassed parts then (.done, .none)
      -- R10
      else (.awaitingVerification, .awaitVerification)

/-- The first four rules are passed: nothing cancelled or undecided, and an approved
plan of the current contract. -/
structure Live (parts : StatusInputs) (plan : ApprovedPlan) : Prop where
  notCancelled : parts.cancelled = false
  objective : strip parts.objectiveText ≠ ""
  decided : ∀ decision ∈ parts.openDecisions, decision.superseded = true
  planned : parts.plan = some plan
  approved : plan.state = .approved
  current : plan.contractRevision = parts.contractRevision

/-- The four positives of R9, with what the rules above it ask. -/
structure Verified (parts : StatusInputs) (plan : ApprovedPlan) (ref : VerificationRef) : Prop where
  live : Live parts plan
  finished : rootStatus host plan.steps = .done
  settled : parts.unresolvedEffects = []
  verification : parts.latestVerification = some ref
  passed : ref.state ∈ verificationPassStates
  contract : ref.contractRevision = parts.contractRevision
  names : ref.planId = some plan.planId

theorem deriveStatus_of_live {parts : StatusInputs} {plan : ApprovedPlan} (h : Live parts plan) :
    deriveStatus host parts = match rootStatus host plan.steps with
      | .blocked => (.blocked, .blocked)
      | .active => (.active, .executeStep)
      | .absent => (.planning, .awaitPlanning)
      | .done =>
        if parts.unresolvedEffects ≠ [] then (.awaitingVerification, .resolveEffects)
        else if verificationIsCurrent parts && verificationPassed parts then (.done, .none)
        else (.awaitingVerification, .awaitVerification) := by
  have hdecided : parts.openDecisions.any (fun decision => !decision.superseded) = false := by
    rw [List.any_eq_false]
    intro decision hm
    simp [h.decided decision hm]
  simp only [deriveStatus, h.notCancelled, h.objective, hdecided, h.planned, h.approved, h.current,
    Bool.false_eq_true, if_false]
  simp

/-- R1 is the only rule that says `cancelled`. -/
theorem deriveStatus_cancelled_iff {parts : StatusInputs} :
    (deriveStatus host parts).1 = .cancelled ↔ parts.cancelled = true := by
  constructor
  · intro h
    by_contra hcancelled
    unfold deriveStatus at h
    rw [if_neg hcancelled] at h
    repeat' split at h
    all_goals cases h
  · intro h
    simp [deriveStatus, h]

/-- Without a live plan the table says neither `done` nor `executeStep`. -/
theorem live_of_deriveStatus {parts : StatusInputs}
    (h : (deriveStatus host parts).1 = .done ∨ (deriveStatus host parts).2 = .executeStep) :
    ∃ plan, Live parts plan := by
  by_cases hcancelled : parts.cancelled = true
  · simp [deriveStatus, hcancelled] at h
  by_cases hobjective : strip parts.objectiveText = ""
  · simp [deriveStatus, hcancelled, hobjective] at h
  by_cases hdecided : parts.openDecisions.any (fun decision => !decision.superseded) = true
  · simp only [deriveStatus, hcancelled, hobjective, hdecided] at h
    simp at h
  cases hplan : parts.plan with
  | none =>
    simp only [deriveStatus, hcancelled, hobjective, hdecided, hplan] at h
    simp at h
  | some plan =>
    by_cases hstale : (plan.state ∈ [PlanState.absent, .pending, .invalidated] ||
        plan.contractRevision ≠ parts.contractRevision) = true
    · simp only [deriveStatus, hcancelled, hobjective, hdecided, hplan, hstale] at h
      simp at h
    · simp only [Bool.or_eq_true, decide_eq_true_eq, not_or, List.mem_cons, List.not_mem_nil,
        or_false, not_not] at hstale
      refine ⟨plan, by simpa using hcancelled, hobjective, ?_, hplan, ?_, hstale.2⟩
      · simpa using hdecided
      · cases hs : plan.state <;> simp_all

theorem deriveStatus_executeStep_iff {parts : StatusInputs} :
    (deriveStatus host parts).2 = .executeStep ↔
      ∃ plan, Live parts plan ∧ rootStatus host plan.steps = .active := by
  constructor
  · intro h
    obtain ⟨plan, hlive⟩ := live_of_deriveStatus host (Or.inr h)
    refine ⟨plan, hlive, ?_⟩
    rw [deriveStatus_of_live host hlive] at h
    cases hroot : rootStatus host plan.steps <;> rw [hroot] at h <;> simp_all
    split_ifs at h
  · rintro ⟨plan, hlive, hroot⟩
    rw [deriveStatus_of_live host hlive, hroot]

theorem deriveStatus_done_iff {parts : StatusInputs} :
    (deriveStatus host parts).1 = .done ↔ ∃ plan ref, Verified host parts plan ref := by
  constructor
  · intro h
    obtain ⟨plan, hlive⟩ := live_of_deriveStatus host (Or.inl h)
    rw [deriveStatus_of_live host hlive] at h
    cases hroot : rootStatus host plan.steps <;> rw [hroot] at h <;> simp only [reduceCtorEq] at h
    split_ifs at h with hsettled hverified
    simp only [Bool.and_eq_true, verificationIsCurrent, verificationPassed, hlive.planned] at hverified
    cases href : parts.latestVerification with
    | none => simp [href] at hverified
    | some ref =>
      simp only [href, Bool.and_eq_true, decide_eq_true_eq] at hverified
      exact ⟨plan, ref, hlive, hroot, not_not.mp hsettled, href, hverified.2, hverified.1.1,
        hverified.1.2⟩
  · rintro ⟨plan, ref, hlive, hroot, hsettled, href, hpassed, hcontract, hnames⟩
    rw [deriveStatus_of_live host hlive, hroot]
    simp [hsettled, verificationIsCurrent, verificationPassed, href, hlive.planned, hpassed, hcontract,
      hnames]

end OpenTimeline.TaskState
