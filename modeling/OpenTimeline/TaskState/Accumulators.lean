import OpenTimeline.TaskState.Fold

/-! What one event can change.

`foldStep_core` says it once: an event the contract filter lets through sends each
accumulator the status reads through a transition of its own (`pinnedStep`,
`decisionsStep`, `workStep`, `effectsStep`, `verificationStep`), and any other
event leaves them all alone. The lemma of each accumulator is read off it, and no
later proof goes through the event kinds of the whole loop again. -/
namespace OpenTimeline.TaskState
open Library

variable (host : Host) (taskId : String)

/-! ### The accumulators' own transitions -/

/-- The objective, the cancellation and the contract revision. -/
def pinnedStep (st : FoldState) (event : TaskStateEvent) : FoldState :=
  match event.kind with
  | .known .objectiveSet => st.objectiveSet event
  | .known .objectiveCleared => {st with objectiveText := "", objectiveHash := none}
  | .known .cancellationRequested => st.cancellationRequested event
  | _ => st

def decisionsStep (decisions : Dict String OpenDecision) (event : TaskStateEvent) :
    Dict String OpenDecision :=
  match event.kind with
  | .known .decisionOpened =>
    match decisionFromJson host event.payload with
    | none => decisions
    | some decision => decisions.insert decision.decisionId decision
  | .known .decisionResolved => (({decisions} : FoldState).decisionResolved event).decisions
  | _ => decisions

def effectsStep (effects : Dict String UnresolvedEffect) (event : TaskStateEvent) :
    Dict String UnresolvedEffect :=
  match event.kind with
  | .known .effectRecorded =>
    match effectFromJson host event.payload with
    | none => effects
    | some effect => effects.insert effect.effectId effect
  | .known .effectResolved => effects.erase (text (event.payload.get "effect_id") "")
  | _ => effects

def verificationStep (latest : Option VerificationRef) (event : TaskStateEvent) : Option VerificationRef :=
  match event.kind with
  | .known .verificationRecorded => (verificationFromJson host event.payload).or latest
  | _ => latest

/-- A plan and the steps under it, as they are at contract revision `current`. -/
def workState (current : Int) (work : Option ApprovedPlan × Dict Int PlanStepState) : FoldState :=
  {contractRevision := current, plan := work.1, steps := work.2}

def FoldState.work (st : FoldState) : Option ApprovedPlan × Dict Int PlanStepState := (st.plan, st.steps)

def workStep (current : Int) (work : Option ApprovedPlan × Dict Int PlanStepState)
    (event : TaskStateEvent) : Option ApprovedPlan × Dict Int PlanStepState :=
  let st := workState current work
  FoldState.work <| match event.kind with
  | .known .planRequested => st.planRequested host taskId event
  | .known .planApproved => st.planApproved host taskId event
  | .known .planInvalidated => st.planInvalidated
  | .known .stepStarted => st.stepEvent host .stepStarted event
  | .known .stepCompleted => st.stepEvent host .stepCompleted event
  | .known .stepBlocked => st.stepEvent host .stepBlocked event
  | .known .stepDropped => st.stepEvent host .stepDropped event
  | _ => st

/-- All of them at once. -/
def decidedStep (st : FoldState) (event : TaskStateEvent) : FoldState :=
  let work := workStep host taskId st.contractRevision st.work event
  { pinnedStep st event with
    decisions := decisionsStep host st.decisions event
    plan := work.1
    steps := work.2
    effects := effectsStep host st.effects event
    latestVerification := verificationStep host st.latestVerification event }

/-! ### One turn of the loop -/

/-- The accumulators the status reads. -/
def FoldState.core (st : FoldState) : FoldState :=
  {st with constraints := ∅, citations := [], unknownKinds := []}

theorem note_core (st : FoldState) (kind : String) : (st.note kind).core = st.core := rfl

theorem cite_core (st : FoldState) (value : String) : (st.cite host value).core = st.core := by
  unfold FoldState.cite
  split_ifs <;> rfl

theorem cites_core (st : FoldState) (values : List String) :
    (values.foldl (FoldState.cite host) st).core = st.core := by
  induction values generalizing st with
  | nil => rfl
  | cons value rest ih => rw [List.foldl_cons, ih, cite_core]

theorem contractRevision_of_core {a b : FoldState} (h : a.core = b.core) :
    a.contractRevision = b.contractRevision := by
  have hc : a.core.contractRevision = b.core.contractRevision := by rw [h]
  exact hc

theorem decidedStep_core {a b : FoldState} (h : a.core = b.core) (event : TaskStateEvent) :
    (decidedStep host taskId a event).core = (decidedStep host taskId b event).core := by
  have hself : ∀ st : FoldState,
      (decidedStep host taskId st event).core = (decidedStep host taskId st.core event).core := by
    intro st
    unfold decidedStep pinnedStep
    split <;> rfl
  rw [hself a, hself b, h]

/-- A step event reaches no accumulator but the steps. -/
theorem stepEvent_core (st : FoldState) (kind : TaskStateEventKind) (event : TaskStateEvent) :
    (st.stepEvent host kind event).core =
      let work := (workState st.contractRevision st.work).stepEvent host kind event
      {st with plan := work.plan, steps := work.steps}.core := by
  simp only [FoldState.stepEvent, workState, FoldState.work]
  cases st.steps.lookup (integer host (event.payload.get "step_index") (-1)) with
  | none => rfl
  | some step =>
    simp only []
    cases stepAfter host kind event step <;> rfl

/-- A plan request reaches no accumulator but the plan and its steps. -/
theorem planRequested_core (st : FoldState) (event : TaskStateEvent) :
    (st.planRequested host taskId event).core =
      let work := (workState st.contractRevision st.work).planRequested host taskId event
      {st with plan := work.plan, steps := work.steps}.core := by
  by_cases hheld : st.plan.any (fun plan => plan.contractRevision = st.contractRevision) = true
  · have hst : st.planRequested host taskId event = st := if_pos hheld
    have hwork : (workState st.contractRevision st.work).planRequested host taskId event =
        workState st.contractRevision st.work := if_pos hheld
    rw [hst, hwork]
    rfl
  · have hst : st.planRequested host taskId event =
        {st with plan := some (requestedPlan host taskId st.contractRevision event), steps := ∅} :=
      if_neg hheld
    have hwork : (workState st.contractRevision st.work).planRequested host taskId event =
        workState st.contractRevision
          (some (requestedPlan host taskId st.contractRevision event), ∅) := if_neg hheld
    rw [hst, hwork]
    rfl

theorem applyKind_core (st : FoldState) (kind : TaskStateEventKind) (event : TaskStateEvent)
    (hk : event.kind = .known kind) :
    (applyKind host taskId st kind event).core = (decidedStep host taskId st event).core := by
  unfold decidedStep pinnedStep decisionsStep effectsStep verificationStep workStep
  rw [hk]
  cases kind
  case constraintGranted => simp only [applyKind]; split <;> rfl
  case constraintRevoked => simp only [applyKind, FoldState.constraintRevoked]; split <;> rfl
  case decisionOpened =>
    simp only [applyKind]
    cases decisionFromJson host event.payload <;> rfl
  case decisionResolved =>
    simp only [applyKind, FoldState.decisionResolved]
    cases st.decisions.lookup (text (event.payload.get "decision_id") "") <;> rfl
  case planRequested => exact planRequested_core host taskId st event
  case effectRecorded =>
    simp only [applyKind]
    cases effectFromJson host event.payload <;> rfl
  case verificationRecorded =>
    simp only [applyKind, FoldState.verificationRecorded]
    cases verificationFromJson host event.payload with
    | none => rfl
    | some ref => exact cites_core host _ _
  case stepStarted => exact stepEvent_core host st .stepStarted event
  case stepCompleted => exact stepEvent_core host st .stepCompleted event
  case stepBlocked => exact stepEvent_core host st .stepBlocked event
  case stepDropped => exact stepEvent_core host st .stepDropped event
  all_goals rfl

theorem decidedStep_unknown (st : FoldState) (event : TaskStateEvent)
    {name : {s : String // s ∉ knownKinds}} (hk : event.kind = .unknown name) :
    (decidedStep host taskId st event).core = st.core := by
  unfold decidedStep pinnedStep decisionsStep effectsStep verificationStep workStep
  rw [hk]
  rfl

/-- What an event can change, for every event. -/
theorem foldStep_core (st : FoldState) (event : TaskStateEvent) :
    (foldStep host taskId st event).core =
      if superseded st.contractRevision event then st.core
      else (decidedStep host taskId st event).core := by
  have hcite := cite_core host st (event.sourceEventId.getD "")
  simp only [foldStep, contractRevision_of_core hcite]
  cases hk : event.kind with
  | unknown name => rw [note_core, hcite, decidedStep_unknown host taskId st event hk, ite_self]
  | known kind =>
    simp only []
    split_ifs
    · exact hcite
    · rw [applyKind_core host taskId _ kind event hk, decidedStep_core host taskId hcite]

/-- The same, for anything read off the accumulators the status reads. -/
theorem foldStep_read {β : Type} (read : FoldState → β) (hread : ∀ st, read st.core = read st)
    (st : FoldState) (event : TaskStateEvent) :
    read (foldStep host taskId st event) =
      if superseded st.contractRevision event then read st else read (decidedStep host taskId st event) := by
  rw [← hread (foldStep host taskId st event), foldStep_core]
  split_ifs <;> rw [hread]

theorem superseded_of_exempt {event : TaskStateEvent} (h : event.kind ∈ contractExemptKinds)
    (current : Int) : superseded current event = false := by
  simp [superseded, h]

/-! ### One accumulator at a time -/

/-- The accumulators only the pinned kinds write. -/
def FoldState.pinned (st : FoldState) : FoldState where
  contractRevision := st.contractRevision
  objectiveText := st.objectiveText
  objectiveHash := st.objectiveHash
  objectiveSetAt := st.objectiveSetAt
  objectiveSetSeq := st.objectiveSetSeq
  cancelledAt := st.cancelledAt
  cancelledSeq := st.cancelledSeq
  lastCancelSeq := st.lastCancelSeq
  cancelReason := st.cancelReason

theorem pinnedStep_of_not_mem {event : TaskStateEvent} (h : event.kind ∉ pinnedKinds) (st : FoldState) :
    pinnedStep st event = st := by
  unfold pinnedStep
  split
  case h_1 hk => exact absurd (hk ▸ by decide) h
  case h_2 hk => exact absurd (hk ▸ by decide) h
  case h_3 hk => exact absurd (hk ▸ by decide) h
  case h_4 => rfl

theorem exempt_of_pinned {kind : EventKind} (h : kind ∈ pinnedKinds) : kind ∈ contractExemptKinds := by
  revert kind
  decide

/-- The pinned kinds are never filtered, and write from what they wrote before. -/
theorem foldStep_pinned (st : FoldState) (event : TaskStateEvent) :
    (foldStep host taskId st event).pinned = pinnedStep st.pinned event := by
  have hdecided : (decidedStep host taskId st event).pinned = pinnedStep st.pinned event := by
    unfold decidedStep pinnedStep
    split <;> rfl
  rw [foldStep_read host taskId FoldState.pinned (fun _ => rfl), hdecided]
  split_ifs with hs
  · refine (pinnedStep_of_not_mem (fun hp => ?_) _).symm
    rw [superseded_of_exempt (exempt_of_pinned hp)] at hs
    exact absurd hs (by decide)
  · rfl

theorem foldStep_decisions (st : FoldState) (event : TaskStateEvent) :
    (foldStep host taskId st event).decisions =
      if superseded st.contractRevision event then st.decisions
      else decisionsStep host st.decisions event :=
  foldStep_read host taskId FoldState.decisions (fun _ => rfl) st event

theorem foldStep_work (st : FoldState) (event : TaskStateEvent) :
    (foldStep host taskId st event).work =
      if superseded st.contractRevision event then st.work
      else workStep host taskId st.contractRevision st.work event :=
  foldStep_read host taskId FoldState.work (fun _ => rfl) st event

theorem foldStep_effects (st : FoldState) (event : TaskStateEvent) :
    (foldStep host taskId st event).effects = effectsStep host st.effects event := by
  rw [foldStep_read host taskId FoldState.effects (fun _ => rfl)]
  split_ifs with hs
  · unfold effectsStep
    split
    case h_1 hk => rw [superseded_of_exempt (hk ▸ by decide)] at hs; cases hs
    case h_2 hk => rw [superseded_of_exempt (hk ▸ by decide)] at hs; cases hs
    case h_3 => rfl
  · rfl

theorem foldStep_verification (st : FoldState) (event : TaskStateEvent) :
    (foldStep host taskId st event).latestVerification =
      verificationStep host st.latestVerification event := by
  rw [foldStep_read host taskId FoldState.latestVerification (fun _ => rfl)]
  split_ifs with hs
  · unfold verificationStep
    split
    case h_1 hk => rw [superseded_of_exempt (hk ▸ by decide)] at hs; cases hs
    case h_2 => rfl
  · rfl

/-! ### Whole logs -/

theorem foldEvents_append (a b : List TaskStateEvent) :
    foldEvents host taskId (a ++ b) = b.foldl (foldStep host taskId) (foldEvents host taskId a) :=
  List.foldl_append

theorem foldEvents_snoc (events : List TaskStateEvent) (event : TaskStateEvent) :
    foldEvents host taskId (events ++ [event]) =
      foldStep host taskId (foldEvents host taskId events) event := foldEvents_append ..

end OpenTimeline.TaskState
