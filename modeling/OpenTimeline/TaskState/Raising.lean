import OpenTimeline.Library.Yields
import OpenTimeline.TaskState.Codecs
import OpenTimeline.TaskState.Contract

/-! Where the decoders and the fold raise.

The decoders of `Records` return whatever they are given. Those of the source do not: `_integer` calls `int` on a
float outside of its `try`, and `json.loads` admits `NaN` and `Infinity`. Here they are taken again with what they
raise, under the same names, and so is the fold. Each of them returns what its namesake does if the numbers it reads
are finite, and raises otherwise (`yields_foldTaskState`, and `outcome_ok_iff` for any call). -/
namespace OpenTimeline.TaskState.Raising
open Library

variable (host : Host)

/-- What a decoder or the fold raises. -/
inductive Raised
  /-- out of the `int` of a float -/
  | conversion (error : PyError)
  /-- out of `json` or of the encoding of a text, by its class -/
  | named (name : String)
deriving DecidableEq, Repr

inductive LoadError
  | jsonDecodeError
  | other (name : String)
deriving DecidableEq, Repr

/-- What `json` and the codec of texts do with the values they are given. -/
structure Coding where
  /-- the class of what `canonical_json(_json_safe(payload))` raises -/
  dumpsError : Payload → Option String
  /-- the class of what `.encode("utf-8")` of that text raises -/
  encodeError : Payload → Option String
  /-- `json.loads` -/
  loads : String → Except LoadError Json

/-! ### Numbers -/

/-- `_integer` -/
def integer (raw : Json) (default : Int) : Except Raised Int :=
  match raw with
  | .int n => return n
  | .float x => x.int.mapError .conversion
  | .str s => return (host.parseInt (strip s)).getD default
  | _ => return default

/-- `int(raw)` would not raise for what `raw` is as a float. -/
def IsFinite : Json → Prop
  | .float x => x.repr ≠ "nan" ∧ x.repr ∉ ["inf", "-inf"]
  | _ => True

theorem yields_integer (raw : Json) (default : Int) :
    Yields (integer host raw default) (IsFinite raw) (TaskState.integer host raw default) := by
  cases raw with
  | float x =>
    simp only [integer, PyFloat.int]
    by_cases hnan : x.repr = "nan"
    · rw [if_pos hnan]
      exact .error fun h => h.1 hnan
    · rw [if_neg hnan]
      by_cases hinf : x.repr ∈ ["inf", "-inf"]
      · rw [if_pos hinf]
        exact .error fun h => h.2 hinf
      · rw [if_neg hinf]
        exact (Yields.ok x.trunc).congr (iff_of_true trivial ⟨hnan, hinf⟩)
  | _ => exact .pure _

/-- Neither a list nor an object. -/
def isScalar : Json → Bool
  | .arr _ | .obj _ => false
  | _ => true

def elements : Json → List Json
  | .arr items => items
  | _ => []

/-- `_int_tuple` -/
def intTuple (raw : Json) : Except Raised (List Int) :=
  ((elements raw).filter isScalar).mapM fun item => integer host item 0

theorem intTuple_eq (raw : Json) :
    TaskState.intTuple host raw = ((elements raw).filter isScalar).map fun item => TaskState.integer host item 0 := by
  cases raw with
  | arr items =>
    rw [TaskState.intTuple, elements, ← List.filterMap_eq_map, List.filterMap_filter]
    refine List.filterMap_congr fun item _ => ?_
    cases item <;> rfl
  | _ => rfl

theorem yields_intTuple (raw : Json) :
    Yields (intTuple host raw) (∀ item ∈ elements raw, IsFinite item) (TaskState.intTuple host raw) := by
  rw [intTuple_eq]
  refine (Yields.mapM (fun item => yields_integer host item 0) _).congr ⟨fun h item hm => ?_, fun h item hm => ?_⟩
  · cases hscalar : isScalar item with
    | true => exact h item (List.mem_filter.mpr ⟨hm, hscalar⟩)
    | false => cases item <;> trivial
  · exact h item (List.mem_of_mem_filter hm)

/-! ### Records -/

/-- One item of `constraints_from_json`. -/
def constraintFromJson (item : Payload) : Except Raised (Option ApprovedConstraint) :=
  let constraintId := text (item.get "constraint_id") ""
  if constraintId = "" then return none
  else do
    let contractRevision ← integer host (item.get "contract_revision") 0
    return some {
      constraintId
      kind := orElse (text (item.get "kind") "permit") "permit"
      scopeDigest := text (item.get "scope_digest") ""
      contractRevision
      grantedAt := (dtFromJson host (item.get "granted_at")).getD epoch
      expiresAt := dtFromJson host (item.get "expires_at")
      revokedAt := dtFromJson host (item.get "revoked_at")
      reason := text (item.get "reason") "" }

/-- One item of `decisions_from_json`. -/
def decisionFromJson (item : Payload) : Except Raised (Option OpenDecision) :=
  let decisionId := text (item.get "decision_id") ""
  if decisionId = "" then return none
  else do
    let contractRevision ← integer host (item.get "contract_revision") 0
    return some {
      decisionId
      family := text (item.get "family") ""
      questionText := text (item.get "question_text") ""
      alternatives := textTuple (item.get "alternatives")
      openedAt := (dtFromJson host (item.get "opened_at")).getD epoch
      contractRevision
      superseded := flag host (item.get "superseded") false }

/-- One item of `plan_steps_from_json`. -/
def planStepFromJson (item : Payload) : Except Raised PlanStepState := do
  let stepIndex ← integer host (item.get "step_index") 0
  let dependsOn ← intTuple host (item.get "depends_on")
  let attempts ← integer host (item.get "attempts") 0
  return {
    stepIndex
    goalId := optText (item.get "goal_id")
    title := text (item.get "title") ""
    description := text (item.get "description") ""
    status := orElse (text (item.get "status") "candidate") "candidate"
    dependsOn
    attempts
    mutating := flag host (item.get "mutating") false
    blockedReason := text (item.get "blocked_reason") "" }

/-- `plan_steps_from_json` -/
def planStepsFromJson (raw : Json) : Except Raised (List PlanStepState) := (mappings raw).mapM (planStepFromJson host)

/-- `verification_from_json` of an object -/
def verificationFromJson (raw : Payload) : Except Raised (Option VerificationRef) :=
  let verificationId := text (raw.get "verification_id") ""
  if verificationId = "" then return none
  else do
    let contractRevision ← integer host (raw.get "contract_revision") 0
    return some {
      verificationId
      directiveId := optText (raw.get "directive_id")
      state := orElse (text (raw.get "state") "unverified") "unverified"
      method := orElse (text (raw.get "method") "none") "none"
      recordedAt := (dtFromJson host (raw.get "recorded_at")).getD epoch
      contractRevision
      planId := optText (raw.get "plan_id")
      evidenceEventIds := textTuple (raw.get "evidence_event_ids")
      summary := text (raw.get "summary") "" }

/-- The contract revision of a record with an id is finite. -/
def RevisionReads (idKey : String) (item : Payload) : Prop :=
  text (item.get idKey) "" ≠ "" → IsFinite (item.get "contract_revision")

def StepReads (item : Payload) : Prop :=
  IsFinite (item.get "step_index") ∧ (∀ n ∈ elements (item.get "depends_on"), IsFinite n) ∧
    IsFinite (item.get "attempts")

def StepsRead (raw : Json) : Prop := ∀ item ∈ mappings raw, StepReads item

/-- The shape of the records with an id: nothing without one, else a record around its contract revision. -/
theorem yields_identified {α : Type} (idKey : String) (item : Payload) (record : Int → α) :
    Yields (if text (item.get idKey) "" = "" then return none
        else do
          let contractRevision ← integer host (item.get "contract_revision") 0
          return some (record contractRevision))
      (RevisionReads idKey item)
      (if text (item.get idKey) "" = "" then none
        else some (record (TaskState.integer host (item.get "contract_revision") 0))) := by
  by_cases hid : text (item.get idKey) "" = ""
  · rw [if_pos hid, if_pos hid]
    exact (Yields.pure none).congr (iff_of_true trivial fun h => absurd hid h)
  · rw [if_neg hid, if_neg hid]
    exact ((yields_integer host (item.get "contract_revision") 0).map (some ∘ record)).congr (by simp [RevisionReads, hid])

theorem yields_constraintFromJson (item : Payload) : Yields (constraintFromJson host item)
    (RevisionReads "constraint_id" item) (TaskState.constraintFromJson host item) :=
  yields_identified host "constraint_id" item _

theorem yields_decisionFromJson (item : Payload) : Yields (decisionFromJson host item)
    (RevisionReads "decision_id" item) (TaskState.decisionFromJson host item) :=
  yields_identified host "decision_id" item _

theorem yields_verificationFromJson (raw : Payload) : Yields (verificationFromJson host raw)
    (RevisionReads "verification_id" raw) (TaskState.verificationFromJson host raw) :=
  yields_identified host "verification_id" raw _

theorem yields_planStepFromJson (item : Payload) :
    Yields (planStepFromJson host item) (StepReads item) (TaskState.planStepFromJson host item) :=
  (yields_integer host _ _).bind ((yields_intTuple host _).bind ((yields_integer host _ _).map _))

theorem yields_planStepsFromJson (raw : Json) :
    Yields (planStepsFromJson host raw) (StepsRead raw) (TaskState.planStepsFromJson host raw) :=
  .mapM (yields_planStepFromJson host) (mappings raw)

/-! ### Columns -/

def constraintsFromJson (raw : Json) : Except Raised (List ApprovedConstraint) := do
  let read ← (mappings raw).mapM (constraintFromJson host)
  return read.reduceOption

def decisionsFromJson (raw : Json) : Except Raised (List OpenDecision) := do
  let read ← (mappings raw).mapM (decisionFromJson host)
  return read.reduceOption

/-- `approved_plan_from_json` of an object -/
def approvedPlanFromJson (raw : Payload) : Except Raised (Option ApprovedPlan) :=
  let planId := text (raw.get "plan_id") ""
  if planId = "" then return none
  else do
    let contractRevision ← integer host (raw.get "contract_revision") 0
    let steps ← planStepsFromJson host (raw.get "steps")
    return some {
      taskId := text (raw.get "task_id") ""
      planId
      contractRevision
      state := planState (orElse (text (raw.get "state") "absent") "absent")
      producer := text (raw.get "producer") ""
      rootGoalId := optText (raw.get "root_goal_id")
      steps
      approvedAt := dtFromJson host (raw.get "approved_at") }

/-- `charter_from_json` of an object -/
def charterFromJson (raw : Payload) : Except Raised PlanCharter := do
  let maxSteps ← integer host (raw.get "max_steps") PlanCharter.maxPlanSteps
  return {maxSteps, reason := text (raw.get "reason") ""}

/-- A decoder of objects on a column: what is not an object has the default. -/
def onMapping {α : Type} (decode : Payload → Except Raised α) (default : α) (raw : Json) : Except Raised α :=
  match mapping raw with
  | none => return default
  | some fields => decode fields

/-- `approved_plan_from_json` -/
def approvedPlanColumn : Json → Except Raised (Option ApprovedPlan) := onMapping (approvedPlanFromJson host) none

/-- `verification_from_json` -/
def verificationColumn : Json → Except Raised (Option VerificationRef) := onMapping (verificationFromJson host) none

/-- `charter_from_json` -/
def charterColumn : Json → Except Raised PlanCharter :=
  onMapping (charterFromJson host) {maxSteps := PlanCharter.maxPlanSteps}

/-- `event_payload_from_json`. It catches that a text is no JSON, and nothing else. -/
def eventPayloadFromJson (coding : Coding) (raw : Json) : Except Raised Payload :=
  match raw with
  | .obj fields => return fields
  | .str s =>
    if strip s = "" then return []
    else match coding.loads s with
      | .ok parsed => return (mapping parsed).getD []
      | .error .jsonDecodeError => return []
      | .error (.other name) => throw (.named name)
  | _ => return []

/-- The plan's revision and the numbers of its steps are finite. -/
def PlanReads (raw : Payload) : Prop :=
  text (raw.get "plan_id") "" ≠ "" → IsFinite (raw.get "contract_revision") ∧ StepsRead (raw.get "steps")

/-- A text is JSON, or is told by `json.loads` not to be. -/
def TextReads (coding : Coding) (raw : Json) : Prop :=
  ∀ s name, raw = .str s → strip s ≠ "" → coding.loads s ≠ .error (.other name)

theorem reduceOption_map {α β : Type} (f : α → Option β) (l : List α) : (l.map f).reduceOption = l.filterMap f := by
  rw [List.reduceOption, List.filterMap_map]
  rfl

theorem yields_constraintsFromJson (raw : Json) : Yields (constraintsFromJson host raw)
    (∀ item ∈ mappings raw, RevisionReads "constraint_id" item) (TaskState.constraintsFromJson host raw) := by
  rw [TaskState.constraintsFromJson, ← reduceOption_map]
  exact (Yields.mapM (yields_constraintFromJson host) (mappings raw)).map List.reduceOption

theorem yields_decisionsFromJson (raw : Json) : Yields (decisionsFromJson host raw)
    (∀ item ∈ mappings raw, RevisionReads "decision_id" item) (TaskState.decisionsFromJson host raw) := by
  rw [TaskState.decisionsFromJson, ← reduceOption_map]
  exact (Yields.mapM (yields_decisionFromJson host) (mappings raw)).map List.reduceOption

theorem yields_approvedPlanFromJson (raw : Payload) :
    Yields (approvedPlanFromJson host raw) (PlanReads raw) (TaskState.approvedPlanFromJson host raw) := by
  unfold approvedPlanFromJson TaskState.approvedPlanFromJson PlanReads
  by_cases hid : text (raw.get "plan_id") "" = ""
  · simp only [hid, if_true]
    exact (Yields.pure none).congr (by simp)
  · simp only [hid, if_false]
    exact ((yields_integer host _ _).bind ((yields_planStepsFromJson host _).map _)).congr (by simp [hid])

theorem yields_charterFromJson (raw : Payload) : Yields (charterFromJson host raw)
    (IsFinite (raw.get "max_steps")) (TaskState.charterFromJson host raw) :=
  (yields_integer host _ _).map _

theorem onMapping_returns_iff {α : Type} {decode : Payload → Except Raised α} {P : Payload → Prop} {value : Payload → α}
    (h : ∀ fields, Yields (decode fields) (P fields) (value fields)) (default : α) (raw : Json) :
    (∃ a, onMapping decode default raw = .ok a) ↔ ∀ fields ∈ mapping raw, P fields := by
  unfold onMapping
  cases mapping raw with
  | none => exact iff_of_true ⟨default, rfl⟩ fun fields h => by cases h
  | some fields =>
    refine (h fields).returns_iff.trans ⟨fun hP fields' hm => ?_, fun hall => hall fields rfl⟩
    obtain rfl := Option.some.inj hm
    exact hP

theorem eventPayloadFromJson_returns (coding : Coding) (raw : Json) :
    (∃ payload, eventPayloadFromJson coding raw = .ok payload) ↔ TextReads coding raw := by
  cases raw with
  | str s =>
    simp only [eventPayloadFromJson, TextReads, Json.str.injEq]
    by_cases hblank : strip s = ""
    · rw [if_pos hblank]
      exact iff_of_true ⟨_, rfl⟩ fun s' _ heq hs' => absurd (heq ▸ hblank) hs'
    · rw [if_neg hblank]
      cases hloads : coding.loads s with
      | ok parsed => exact iff_of_true ⟨_, rfl⟩ fun s' _ heq _ h => by rw [← heq, hloads] at h; cases h
      | error e =>
        cases e with
        | jsonDecodeError => exact iff_of_true ⟨_, rfl⟩ fun s' _ heq _ h => by rw [← heq, hloads] at h; cases h
        | other name =>
          refine iff_of_false ?_ fun h => h s name rfl hblank hloads
          rintro ⟨_, h⟩
          cases h
  | _ => exact iff_of_true ⟨_, rfl⟩ fun s _ h => by cases h

/-! ### The fold -/

/-- The branch the four step kinds share, on a step that is read. -/
def stepEventAt (st : FoldState) (kind : TaskStateEventKind) (event : TaskStateEvent) (index : Int) : FoldState :=
  match st.steps.lookup index with
  | none => st.note (kind.value ++ ":unknown_step")
  | some step =>
    match stepAfter host kind event step with
    | none => st.note "step_dropped:blocked"
    | some after => {st with steps := st.steps.insert index after}

/-- The branches of the loop. Those that read no number are the ones of the fold. -/
def applyKind (taskId : String) (st : FoldState) (kind : TaskStateEventKind) (event : TaskStateEvent) :
    Except Raised FoldState :=
  match kind with
  | .constraintGranted => do
    match ← constraintFromJson host event.payload with
    | none => return st
    | some constraint => return {st with constraints := st.constraints.insert constraint.constraintId constraint}
  | .decisionOpened => do
    match ← decisionFromJson host event.payload with
    | none => return st
    | some decision => return {st with decisions := st.decisions.insert decision.decisionId decision}
  | .planApproved => do
    let approvedSteps ← planStepsFromJson host (event.payload.get "steps")
    return { st with
      plan := some {approvedPlan host taskId st.contractRevision event with steps := approvedSteps}
      steps := Dict.ofList PlanStepState.stepIndex approvedSteps }
  | .stepStarted | .stepCompleted | .stepBlocked | .stepDropped => do
    let index ← integer host (event.payload.get "step_index") (-1)
    return stepEventAt host st kind event index
  | .verificationRecorded => do
    match ← verificationFromJson host event.payload with
    | none => return st
    | some ref =>
      return ref.evidenceEventIds.foldl (FoldState.cite host) {st with latestVerification := some ref}
  | _ => return TaskState.applyKind host taskId st kind event

/-- The numbers a branch reads are finite. -/
def KindReads (kind : TaskStateEventKind) (payload : Payload) : Prop :=
  match kind with
  | .constraintGranted => RevisionReads "constraint_id" payload
  | .decisionOpened => RevisionReads "decision_id" payload
  | .planApproved => StepsRead (payload.get "steps")
  | .stepStarted | .stepCompleted | .stepBlocked | .stepDropped => IsFinite (payload.get "step_index")
  | .verificationRecorded => RevisionReads "verification_id" payload
  | _ => True

theorem yields_applyKind (taskId : String) (st : FoldState) (kind : TaskStateEventKind) (event : TaskStateEvent) :
    Yields (applyKind host taskId st kind event) (KindReads kind event.payload)
      (TaskState.applyKind host taskId st kind event) := by
  cases kind
  case constraintGranted =>
    refine (yields_constraintFromJson host event.payload).bind_ok ?_
    simp only [TaskState.applyKind]
    cases TaskState.constraintFromJson host event.payload <;> rfl
  case decisionOpened =>
    refine (yields_decisionFromJson host event.payload).bind_ok ?_
    simp only [TaskState.applyKind]
    cases TaskState.decisionFromJson host event.payload <;> rfl
  case verificationRecorded =>
    refine (yields_verificationFromJson host event.payload).bind_ok ?_
    simp only [TaskState.applyKind, FoldState.verificationRecorded]
    cases TaskState.verificationFromJson host event.payload <;> rfl
  case planApproved => exact (yields_planStepsFromJson host _).map _
  case stepStarted => exact (yields_integer host _ _).map _
  case stepCompleted => exact (yields_integer host _ _).map _
  case stepBlocked => exact (yields_integer host _ _).map _
  case stepDropped => exact (yields_integer host _ _).map _
  all_goals exact .pure _

/-- One turn of the loop. -/
def foldStep (taskId : String) (st : FoldState) (event : TaskStateEvent) : Except Raised FoldState :=
  let cited := st.cite host (event.sourceEventId.getD "")
  match event.kind with
  | .unknown name => return cited.note name
  | .known kind =>
    if superseded cited.contractRevision event then return cited else applyKind host taskId cited kind event

/-- What the loop reads of an event under a contract revision. -/
def EventReads (current : Int) (event : TaskStateEvent) : Prop :=
  ∀ kind, event.kind = .known kind → superseded current event = false → KindReads kind event.payload

theorem yields_foldStep (taskId : String) (st : FoldState) (event : TaskStateEvent) :
    Yields (foldStep host taskId st event) (EventReads st.contractRevision event)
      (TaskState.foldStep host taskId st event) := by
  have hrevision := contractRevision_of_core (cite_core host st (event.sourceEventId.getD ""))
  unfold foldStep TaskState.foldStep EventReads
  cases hk : event.kind with
  | unknown name => exact (Yields.pure _).congr (iff_of_true trivial fun kind h => by cases h)
  | known kind =>
    simp only [hrevision]
    by_cases hsuperseded : superseded st.contractRevision event = true
    · rw [if_pos hsuperseded, if_pos hsuperseded]
      refine (Yields.pure _).congr (iff_of_true trivial fun kind' _ h => ?_)
      rw [hsuperseded] at h
      cases h
    · rw [if_neg hsuperseded, if_neg hsuperseded]
      refine (yields_applyKind host taskId _ kind event).congr ⟨fun h kind' heq _ => ?_, fun h => ?_⟩
      · cases heq
        exact h
      · exact h kind rfl (Bool.not_eq_true _ ▸ hsuperseded)

/-- An exception of `json` or of an encoding -/
def raiseAny (error : Option String) : Except Raised Unit :=
  match error with
  | none => return ()
  | some name => throw (.named name)

theorem yields_raiseAny (error : Option String) : Yields (raiseAny error) (error = none) () := by
  cases error with
  | none => exact (Yields.pure ()).congr (iff_of_true trivial rfl)
  | some name => exact .error fun h => by cases h

/-- `fold_task_state`: the keys of `sorted`, the digests of `_dedupe`, the loop. Past `max_events` the events are
sorted once more, and all of them have been then. -/
def foldTaskState (coding : Coding) (events : List TaskStateEvent) (ids : TaskIds) (revision maxEvents : Int) :
    Except Raised FoldResult := do
  forM events fun event => raiseAny (coding.dumpsError event.payload)
  forM (events.insertionSort fun a b => sortKey a ≤ sortKey b) fun event => raiseAny (coding.encodeError event.payload)
  let retained := retainedEvents host maxEvents events
  let st ← retained.foldlM (foldStep host ids.taskId) {}
  return {
    projection := st.projection host ids revision
    sourceRevision := sourceRevision host retained
    unknownKinds := st.unknownKinds
    truncated := truncates maxEvents (orderedEvents host events) }

/-- Every payload can be digested, and where a retained event is one that decides, the numbers it is read for are
finite. -/
def LogReads (coding : Coding) (maxEvents : Int) (events : List TaskStateEvent) : Prop :=
  (∀ event ∈ events, coding.dumpsError event.payload = none) ∧
  (∀ event ∈ events, coding.encodeError event.payload = none) ∧
  ∀ before event after, retainedEvents host maxEvents events = before ++ event :: after →
    EventReads (changes none before) event

/-- The fold returns the projection of the log, if it can read the log. -/
theorem yields_foldTaskState (coding : Coding) (events : List TaskStateEvent) (ids : TaskIds) (revision maxEvents : Int) :
    Yields (foldTaskState host coding events ids revision maxEvents) (LogReads host coding maxEvents events)
      (TaskState.foldTaskState host events ids revision maxEvents) := by
  have hkeys := Yields.forM (fun event : TaskStateEvent => yields_raiseAny (coding.dumpsError event.payload)) events
  have hdigests := Yields.forM (fun event : TaskStateEvent => yields_raiseAny (coding.encodeError event.payload))
    (events.insertionSort fun a b => sortKey a ≤ sortKey b)
  have hloop := Yields.foldlM (yields_foldStep host ids.taskId) (retainedEvents host maxEvents events) {}
  refine (hkeys.bind (hdigests.bind (hloop.map _))).congr ?_
  have hrevision : ∀ before : List TaskStateEvent,
      (before.foldl (TaskState.foldStep host ids.taskId) {}).contractRevision = changes none before :=
    foldEvents_contractRevision host ids.taskId
  simp only [LogReads, List.mem_insertionSort, hrevision]

/-! ### Any call -/

/-- A call of a decoder or of the fold. -/
inductive Call
  | constraints (raw : Json)
  | decisions (raw : Json)
  | planSteps (raw : Json)
  | approvedPlan (raw : Json)
  | effects (raw : Json)
  | verification (raw : Json)
  | charter (raw : Json)
  | eventPayload (raw : Json)
  | fold (events : List TaskStateEvent) (ids : TaskIds) (revision maxEvents : Int)

variable (coding : Coding)

/-- The call returns a value. -/
def Call.Returns : Call → Prop
  | .constraints raw => ∃ value, constraintsFromJson host raw = .ok value
  | .decisions raw => ∃ value, decisionsFromJson host raw = .ok value
  | .planSteps raw => ∃ value, planStepsFromJson host raw = .ok value
  | .approvedPlan raw => ∃ value, approvedPlanColumn host raw = .ok value
  | .effects raw => ∃ value, effectsFromJson host raw = value
  | .verification raw => ∃ value, verificationColumn host raw = .ok value
  | .charter raw => ∃ value, charterColumn host raw = .ok value
  | .eventPayload raw => ∃ value, eventPayloadFromJson coding raw = .ok value
  | .fold events ids revision maxEvents => ∃ value, foldTaskState host coding events ids revision maxEvents = .ok value

/-- What a call reads can be read: the numbers are finite, texts can be loaded and payloads be digested. -/
def Call.Reads : Call → Prop
  | .constraints raw => ∀ item ∈ mappings raw, RevisionReads "constraint_id" item
  | .decisions raw => ∀ item ∈ mappings raw, RevisionReads "decision_id" item
  | .planSteps raw => StepsRead raw
  | .approvedPlan raw => ∀ fields ∈ mapping raw, PlanReads fields
  | .effects _ => True
  | .verification raw => ∀ fields ∈ mapping raw, RevisionReads "verification_id" fields
  | .charter raw => ∀ fields ∈ mapping raw, IsFinite (fields.get "max_steps")
  | .eventPayload raw => TextReads coding raw
  | .fold events _ _ maxEvents => LogReads host coding maxEvents events

/-- A decoder or the fold returns if what it reads can be read, and raises otherwise. -/
theorem returns_iff_reads (call : Call) : call.Returns host coding ↔ call.Reads host coding := by
  cases call with
  | constraints raw => exact (yields_constraintsFromJson host raw).returns_iff
  | decisions raw => exact (yields_decisionsFromJson host raw).returns_iff
  | planSteps raw => exact (yields_planStepsFromJson host raw).returns_iff
  | approvedPlan raw => exact onMapping_returns_iff (yields_approvedPlanFromJson host) none raw
  | effects raw => exact iff_of_true ⟨_, rfl⟩ trivial
  | verification raw => exact onMapping_returns_iff (yields_verificationFromJson host) none raw
  | charter raw => exact onMapping_returns_iff (yields_charterFromJson host) _ raw
  | eventPayload raw => exact eventPayloadFromJson_returns coding raw
  | fold events ids revision maxEvents => exact (yields_foldTaskState host coding events ids revision maxEvents).returns_iff

/-- A grant whose revision is no number: `{"constraint_id": "c", "contract_revision": NaN}`. -/
def nanGrant : TaskStateEvent where
  seq := 1
  kind := .known .constraintGranted
  contractRevision := 0
  payload := [("constraint_id", .str "c"), ("contract_revision", .float ⟨"nan", 0, false⟩)]
  occurredAt := 0

/-- Payloads that are digested, and texts none of which is JSON. -/
def plainCoding : Coding where
  dumpsError _ := none
  encodeError _ := none
  loads _ := .error .jsonDecodeError

/-- One such event in a log, and the log is never folded again. -/
theorem fold_raises : ¬∀ call : Call, call.Returns (asciiHost [] []) plainCoding := by
  intro h
  obtain ⟨value, hvalue⟩ := h (.fold [nanGrant] exampleIds 1 2000)
  have hraises : (foldTaskState (asciiHost [] []) plainCoding [nanGrant] exampleIds 1 2000).isOk = false := by
    decide +kernel
  rw [hvalue] at hraises
  cases hraises

end OpenTimeline.TaskState.Raising
