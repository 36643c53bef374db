import OpenTimeline.TaskState.Contract

/-! What `done` has behind it.

Three invariants of the whole fold carry the result. Every step sits under its
own index; an approved plan is the one some `PLAN_APPROVED` event of the log
carried, at the revision current there (`plan_origin`); and the latest
verification is the one some `VERIFICATION_RECORDED` event carried
(`verification_origin`). Writers stamp an event with a revision no later than the
one then current (`WellStamped`), so a plan and a verification that name the
final revision were both recorded after the last change of objective. -/
namespace OpenTimeline.TaskState
open Library

variable (host : Host) (taskId : String)

/-! ### Steps keep their index -/

theorem stepAfter_stepIndex {kind : TaskStateEventKind} {event : TaskStateEvent}
    {step after : PlanStepState} (h : stepAfter host kind event step = some after) :
    after.stepIndex = step.stepIndex := by
  unfold stepAfter at h
  split at h
  case h_4 =>
    split_ifs at h
    cases h
    rfl
  all_goals
    cases h
    rfl

theorem stepEvent_keyed {st : FoldState} (h : Dict.Keyed PlanStepState.stepIndex st.steps)
    (kind : TaskStateEventKind) (event : TaskStateEvent) :
    Dict.Keyed PlanStepState.stepIndex (st.stepEvent host kind event).steps := by
  simp only [FoldState.stepEvent]
  cases hstep : st.steps.lookup (integer host (event.payload.get "step_index") (-1)) with
  | none => exact h
  | some step =>
    simp only []
    cases hafter : stepAfter host kind event step with
    | none => exact h
    | some after =>
      have hindex := (stepAfter_stepIndex host hafter).trans (h _ _ hstep)
      have hinsert := h.insert after
      rwa [hindex] at hinsert

theorem workStep_keyed (current : Int) {work : Option ApprovedPlan × Dict Int PlanStepState}
    (h : Dict.Keyed PlanStepState.stepIndex work.2) (event : TaskStateEvent) :
    Dict.Keyed PlanStepState.stepIndex (workStep host taskId current work event).2 := by
  have hst : Dict.Keyed PlanStepState.stepIndex (workState current work).steps := h
  unfold workStep
  split
  case h_1 =>
    simp only [FoldState.planRequested]
    split_ifs
    · exact h
    · exact Dict.keyed_empty
  case h_2 => exact Dict.keyed_ofList _
  case h_4 | h_5 | h_6 | h_7 => exact stepEvent_keyed host hst _ event
  all_goals exact h

theorem foldEvents_keyed (events : List TaskStateEvent) :
    Dict.Keyed PlanStepState.stepIndex (foldEvents host taskId events).steps := by
  induction events using List.reverseRecOn with
  | nil => exact Dict.keyed_empty
  | append_singleton events event ih =>
    have hwork := foldStep_work host taskId (foldEvents host taskId events) event
    rw [foldEvents_snoc, show (foldStep host taskId (foldEvents host taskId events) event).steps =
      (foldStep host taskId (foldEvents host taskId events) event).work.2 from rfl, hwork]
    split_ifs
    · exact ih
    · exact workStep_keyed host taskId _ ih event

/-- The plan read out of a fold has one step per index. -/
theorem folded_nodup {events : List TaskStateEvent} {plan : ApprovedPlan}
    (h : (foldEvents host taskId events).folded = some plan) : (plan.steps.map (·.stepIndex)).Nodup := by
  obtain ⟨held, _, rfl⟩ := Option.map_eq_some_iff.mp h
  exact (foldEvents_keyed host taskId events).nodup_sortedValues

/-! ### Where a plan and a verification come from -/

theorem stepEvent_plan (st : FoldState) (kind : TaskStateEventKind) (event : TaskStateEvent) :
    (st.stepEvent host kind event).plan = st.plan := by
  simp only [FoldState.stepEvent]
  cases st.steps.lookup (integer host (event.payload.get "step_index") (-1)) with
  | none => rfl
  | some step =>
    simp only []
    cases stepAfter host kind event step <;> rfl

/-- Only a `PLAN_APPROVED` event makes a plan approved. -/
theorem workStep_approved {current : Int} {work : Option ApprovedPlan × Dict Int PlanStepState}
    {event : TaskStateEvent} {plan : ApprovedPlan}
    (hplan : (workStep host taskId current work event).1 = some plan) (happroved : plan.state = .approved) :
    work.1 = some plan ∨
      event.kind = .known .planApproved ∧ plan = approvedPlan host taskId current event := by
  unfold workStep at hplan
  split at hplan
  case h_1 =>
    simp only [FoldState.planRequested] at hplan
    split_ifs at hplan
    · exact Or.inl hplan
    · cases hplan
      cases happroved
  case h_2 hk =>
    cases hplan
    exact Or.inr ⟨hk, rfl⟩
  case h_3 =>
    obtain ⟨held, _, rfl⟩ := Option.map_eq_some_iff.mp hplan
    cases happroved
  case h_4 | h_5 | h_6 | h_7 =>
    simp only [FoldState.work, stepEvent_plan] at hplan
    exact Or.inl hplan
  case h_8 => exact Or.inl hplan

/-- An approved plan is one the log carries, approved at the revision current there. -/
theorem plan_origin {events : List TaskStateEvent} {plan : ApprovedPlan}
    (hplan : (foldEvents host taskId events).plan = some plan) (happroved : plan.state = .approved) :
    ∃ pre event suf, events = pre ++ event :: suf ∧ event.kind = .known .planApproved ∧
      plan = approvedPlan host taskId (foldEvents host taskId pre).contractRevision event := by
  induction events using List.reverseRecOn with
  | nil => cases hplan
  | append_singleton events event ih =>
    have hwork := congrArg Prod.fst (foldStep_work host taskId (foldEvents host taskId events) event)
    rw [← foldEvents_snoc] at hwork
    have hkept : (foldEvents host taskId events).plan = some plan → ∃ pre event' suf,
        events ++ [event] = pre ++ event' :: suf ∧ event'.kind = .known .planApproved ∧
          plan = approvedPlan host taskId (foldEvents host taskId pre).contractRevision event' := by
      intro h
      obtain ⟨pre, event', suf, rfl, hk, rfl⟩ := ih h
      exact ⟨pre, event', suf ++ [event], by simp, hk, rfl⟩
    have hafter := hwork.symm.trans hplan
    split_ifs at hafter
    · exact hkept hafter
    · rcases workStep_approved host taskId hafter happroved with h | ⟨hk, rfl⟩
      · exact hkept h
      · exact ⟨events, event, [], rfl, hk, rfl⟩

/-- The latest verification is one the log carries. -/
theorem verification_origin {events : List TaskStateEvent} {ref : VerificationRef}
    (href : (foldEvents host taskId events).latestVerification = some ref) :
    ∃ pre event suf, events = pre ++ event :: suf ∧ event.kind = .known .verificationRecorded ∧
      verificationFromJson host event.payload = some ref := by
  induction events using List.reverseRecOn with
  | nil => cases href
  | append_singleton events event ih =>
    have hkept : (foldEvents host taskId events).latestVerification = some ref → ∃ pre event' suf,
        events ++ [event] = pre ++ event' :: suf ∧ event'.kind = .known .verificationRecorded ∧
          verificationFromJson host event'.payload = some ref := by
      intro h
      obtain ⟨pre, event', suf, rfl, hk, hdecoded⟩ := ih h
      exact ⟨pre, event', suf ++ [event], by simp, hk, hdecoded⟩
    rw [foldEvents_snoc, foldStep_verification] at href
    unfold verificationStep at href
    split at href
    case h_1 hk =>
      rcases Option.or_eq_some_iff.mp href with hdecoded | ⟨_, h⟩
      · exact ⟨events, event, [], rfl, hk, hdecoded⟩
      · exact hkept h
    case h_2 => exact hkept href

/-! ### Done -/

/-- A plan or verification event stamped no later than `current`. -/
def Stamped (current : Int) (event : TaskStateEvent) : Prop :=
  (event.kind = .known .planApproved → event.contractRevision ≤ current) ∧
    (event.kind = .known .verificationRecorded →
      ∀ ref ∈ verificationFromJson host event.payload, ref.contractRevision ≤ current)

instance (current : Int) (event : TaskStateEvent) : Decidable (Stamped host current event) :=
  inferInstanceAs (Decidable (_ ∧ _))

/-- Every plan and verification event stamped no later than the revision current when
it was appended. -/
def WellStamped (log : List TaskStateEvent) : Prop :=
  ∀ pre event suf, log = pre ++ event :: suf →
    Stamped host (foldEvents host taskId pre).contractRevision event

theorem wellStamped_nil : WellStamped host taskId [] := by
  intro pre event suf h
  simp at h

variable {host taskId} in
theorem WellStamped.snoc {log : List TaskStateEvent} (h : WellStamped host taskId log)
    (event : TaskStateEvent)
    (hevent : Stamped host (foldEvents host taskId log).contractRevision event) :
    WellStamped host taskId (log ++ [event]) := by
  intro pre event' suf hsplit
  rcases snoc_eq_split_iff.mp hsplit with ⟨_, rfl, rfl⟩ | ⟨suf', _, hlog⟩
  · exact hevent
  · exact h pre event' suf' hlog

/-- What a projection that says `done` shows. -/
structure ShowsDone (projection : TaskStateProjection) (plan : ApprovedPlan) (ref : VerificationRef) :
    Prop where
  objective : strip projection.objectiveText ≠ ""
  decided : ∀ decision ∈ projection.openDecisions, decision.superseded = true
  planned : projection.plan = some plan
  approved : plan.state = .approved
  current : plan.contractRevision = projection.contractRevision
  finished : Finished host plan.steps
  settled : projection.unresolvedEffects = []
  verification : projection.latestVerification = some ref
  passed : ref.state ∈ verificationPassStates
  contract : ref.contractRevision = projection.contractRevision
  names : ref.planId = some plan.planId

/-- An event at a higher revision than another comes after it. -/
theorem mem_suffix_of_revision_lt {pre suf pre' suf' : List TaskStateEvent} {event event' : TaskStateEvent}
    (hsplit : pre ++ event :: suf = pre' ++ event' :: suf')
    (hlt : (foldEvents host taskId pre).contractRevision <
      (foldEvents host taskId pre').contractRevision) : event' ∈ suf := by
  rcases List.append_eq_append_iff.mp hsplit with ⟨between, hpre, hrest⟩ | ⟨between, hpre, _⟩
  · cases between with
    | nil =>
      rw [List.append_nil] at hpre
      exact absurd hlt (hpre ▸ lt_irrefl _)
    | cons head between =>
      rw [List.cons_append, List.cons.injEq] at hrest
      rw [hrest.2]
      simp
  · have hle := contractRevision_le_append host taskId pre' between
    rw [← hpre] at hle
    exact absurd hlt (not_lt.mpr hle)

/-- The revision a plan was approved under is at most the one current at its event. -/
theorem approvedPlan_revision_le {current : Int} {event : TaskStateEvent}
    (h : event.contractRevision ≤ current) :
    (approvedPlan host taskId current event).contractRevision ≤ current := by
  show (if event.contractRevision = 0 then current else event.contractRevision) ≤ current
  split_ifs
  · exact le_refl current
  · exact h

section Done
variable {host taskId} {log : List TaskStateEvent} {plan : ApprovedPlan} {ref : VerificationRef}

/-- A live plan was approved under the final revision. -/
theorem approval_of_live (hstamped : WellStamped host taskId log)
    (hlive : Live (foldEvents host taskId log).parts plan) :
    ∃ pre approval suf, log = pre ++ approval :: suf ∧ approval.kind = .known .planApproved ∧
      (foldEvents host taskId pre).contractRevision = (foldEvents host taskId log).contractRevision ∧
      plan = {approvedPlan host taskId (foldEvents host taskId log).contractRevision approval with
        steps := plan.steps} := by
  obtain ⟨held, hheld, rfl⟩ := Option.map_eq_some_iff.mp hlive.planned
  obtain ⟨pre, approval, suf, hsplit, hk, rfl⟩ := plan_origin host taskId hheld hlive.approved
  have hle := contractRevision_le_append host taskId pre (approval :: suf)
  rw [← hsplit] at hle
  have hstamp := approvedPlan_revision_le host taskId ((hstamped pre approval suf hsplit).1 hk)
  have hcurrent : (approvedPlan host taskId (foldEvents host taskId pre).contractRevision
      approval).contractRevision = (foldEvents host taskId log).contractRevision := hlive.current
  have hrevision : (foldEvents host taskId pre).contractRevision =
      (foldEvents host taskId log).contractRevision := le_antisymm hle (hcurrent ▸ hstamp)
  refine ⟨pre, approval, suf, hsplit, hk, hrevision, ?_⟩
  rw [hrevision]

/-- The verification behind `done` was recorded under the final revision. -/
theorem check_of_verified (hstamped : WellStamped host taskId log)
    (hv : Verified host (foldEvents host taskId log).parts plan ref) :
    ∃ pre check suf, log = pre ++ check :: suf ∧ check.kind = .known .verificationRecorded ∧
      verificationFromJson host check.payload = some ref ∧
      (foldEvents host taskId pre).contractRevision =
        (foldEvents host taskId log).contractRevision := by
  obtain ⟨pre, check, suf, hsplit, hk, hdecoded⟩ := verification_origin host taskId hv.verification
  have hle := contractRevision_le_append host taskId pre (check :: suf)
  rw [← hsplit] at hle
  have hstamp := (hstamped pre check suf hsplit).2 hk ref hdecoded
  have hcontract : ref.contractRevision = (foldEvents host taskId log).contractRevision := hv.contract
  exact ⟨pre, check, suf, hsplit, hk, hdecoded, le_antisymm hle (hcontract ▸ hstamp)⟩

theorem showsDone_of_verified (hv : Verified host (foldEvents host taskId log).parts plan ref)
    (ids : TaskIds) (revision : Int) :
    ShowsDone host ((foldEvents host taskId log).projection host ids revision) plan ref where
  objective := hv.live.objective
  decided := hv.live.decided
  planned := hv.live.planned
  approved := hv.live.approved
  current := hv.live.current
  finished := rootStatus_done host (folded_nodup host taskId hv.live.planned) hv.finished
  settled := hv.settled
  verification := hv.verification
  passed := hv.passed
  contract := hv.contract
  names := hv.names

end Done

/-- `done` is sound: over a well-stamped log that fits the window, the projection
shows a finished plan of the current contract with nothing open, verified under
that contract and plan; and after any change of objective the log goes on to
approve a plan and to pass a verification of the contract then final. -/
theorem foldTaskState_done (events : List TaskStateEvent) (ids : TaskIds) (revision maxEvents : Int)
    (hfits : truncates maxEvents (orderedEvents host events) = false)
    (hstamped : WellStamped host ids.taskId (orderedEvents host events))
    (hdone : (foldTaskState host events ids revision maxEvents).projection.status = .done) :
    (∃ plan ref, ShowsDone host (foldTaskState host events ids revision maxEvents).projection plan ref ∧
      ∃ pre approval suf, orderedEvents host events = pre ++ approval :: suf ∧
        approval.kind = .known .planApproved ∧
        (foldEvents host ids.taskId pre).contractRevision = plan.contractRevision ∧
        plan = {approvedPlan host ids.taskId plan.contractRevision approval with steps := plan.steps}) ∧
    ∀ pre set suf, orderedEvents host events = pre ++ set :: suf →
      Effective (foldEvents host ids.taskId pre).objectiveHash set →
      (∃ approval ∈ suf, approval.kind = .known .planApproved) ∧
      ∃ check ∈ suf, check.kind = .known .verificationRecorded ∧
        ∃ ref, verificationFromJson host check.payload = some ref ∧ ref.state ∈ verificationPassStates ∧
          ref.contractRevision =
            (foldEvents host ids.taskId pre).contractRevision + 1 + changes (setHash set) suf := by
  have hretained : retainedEvents host maxEvents events = orderedEvents host events := by
    simp only [retainedEvents, hfits, Bool.false_eq_true, if_false]
  have hprojection : (foldTaskState host events ids revision maxEvents).projection =
      (foldEvents host ids.taskId (orderedEvents host events)).projection host ids revision := by
    simp only [foldTaskState, hretained]
  rw [hprojection] at hdone ⊢
  obtain ⟨plan, ref, hv⟩ := (deriveStatus_done_iff host).mp hdone
  obtain ⟨pre, approval, suf, happroval, hkind, hrevision, hplan⟩ := approval_of_live hstamped hv.live
  obtain ⟨pre', check, suf', hcheck, hkind', hdecoded, hrevision'⟩ := check_of_verified hstamped hv
  have hcurrent : plan.contractRevision =
      (foldEvents host ids.taskId (orderedEvents host events)).contractRevision := hv.live.current
  refine ⟨⟨plan, ref, showsDone_of_verified hv ids revision, pre, approval, suf, happroval, hkind,
    hrevision.trans hcurrent.symm, hcurrent ▸ hplan⟩, fun before set after hset heffective => ?_⟩
  -- the final revision is past the one before the change, so both events come after it
  have hfinal := contractRevision_effective host ids.taskId before after set heffective
  rw [← hset] at hfinal
  refine ⟨⟨approval, mem_suffix_of_revision_lt host ids.taskId (hset.symm.trans happroval) ?_, hkind⟩,
    check, mem_suffix_of_revision_lt host ids.taskId (hset.symm.trans hcheck) ?_, hkind', ref, hdecoded,
    hv.passed, hv.contract.trans hfinal⟩
  · omega
  · omega

/-- The shortest way to `done`: an objective, a plan already worked off, its verification. -/
def doneLog : List TaskStateEvent :=
  [{seq := 1, kind := .known .objectiveSet, contractRevision := 0, occurredAt := epoch,
      payload := [("objective_hash", .str "h1"), ("objective_text", .str "ship it")]},
    {seq := 2, kind := .known .planApproved, contractRevision := 1, occurredAt := epoch + 1,
      payload := [("plan_id", .str "p1"),
        ("steps", .arr [.obj [("step_index", .int 0), ("status", .str "done")]])]},
    {seq := 3, kind := .known .verificationRecorded, contractRevision := 1, occurredAt := epoch + 2,
      payload := [("contract_revision", .int 1), ("plan_id", .str "p1"), ("state", .str "passed"),
        ("verification_id", .str "v1")]}]

theorem wellStamped_doneLog :
    WellStamped (asciiHost [] []) "t" (orderedEvents (asciiHost [] []) doneLog) := by
  have hordered : orderedEvents (asciiHost [] []) doneLog = doneLog := rfl
  rw [hordered]
  have hset := (wellStamped_nil (asciiHost [] []) "t").snoc doneLog[0] (by decide)
  have hplan := hset.snoc doneLog[1] (by decide)
  exact hplan.snoc doneLog[2] (by decide)

theorem foldTaskState_done_doneLog :
    ∃ plan ref, ShowsDone (asciiHost [] [])
      (foldTaskState (asciiHost [] []) doneLog exampleIds 3 2000).projection plan ref := by
  obtain ⟨⟨plan, ref, hshows, _⟩, _⟩ := foldTaskState_done (asciiHost [] []) doneLog exampleIds 3 2000
    (by decide) wellStamped_doneLog (by decide)
  exact ⟨plan, ref, hshows⟩

end OpenTimeline.TaskState
