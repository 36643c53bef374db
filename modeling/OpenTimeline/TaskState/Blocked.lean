import OpenTimeline.TaskState.Replay

/-! A blocked step stays blocked.

What one event can do to a blocked step is said once (`foldStep_held`): start or complete it by its index, or put
another plan in its place. Dropping it is refused, and an invalidation leaves the steps as they are. Along an
extension of a log a blocked step is therefore freed by one of these events, or stays blocked, as long as the longer
log is folded whole (`blocked_stays`). A window can lose the plan, and the step with it (`window_frees`). -/
namespace OpenTimeline.TaskState
open Library

variable (host : Host) (taskId : String)

/-- The step is blocked, as the status table reads it. -/
def PlanStepState.Blocked (step : PlanStepState) : Prop := stepStatus host step.status = blockingStepStatus

instance (step : PlanStepState) : Decidable (step.Blocked host) := inferInstanceAs (Decidable (_ = _))

/-- The event starts or completes the step of that index, or replaces the plan, in a fold that has come to `st`. -/
def Frees (st : FoldState) (event : TaskStateEvent) (index : Int) : Prop :=
  superseded st.contractRevision event = false ∧
    ((event.kind = .known .stepStarted ∨ event.kind = .known .stepCompleted) ∧
        integer host (event.payload.get "step_index") (-1) = index ∨
      event.kind = .known .planApproved ∨
      event.kind = .known .planRequested ∧ st.plan.any (fun plan => plan.contractRevision = st.contractRevision) = false)

/-- The plan holds a blocked step of that index. -/
def HoldsBlocked (work : Option ApprovedPlan × Dict Int PlanStepState) (index : Int) : Prop :=
  work.1.isSome ∧ ∃ step, work.2.lookup index = some step ∧ step.Blocked host

variable {host}

/-- A step event for another step leaves this one alone. -/
theorem lookup_stepEvent_ne {st : FoldState} {kind : TaskStateEventKind} {event : TaskStateEvent} {index : Int}
    (h : integer host (event.payload.get "step_index") (-1) ≠ index) :
    (st.stepEvent host kind event).steps.lookup index = st.steps.lookup index := by
  simp only [FoldState.stepEvent]
  cases st.steps.lookup (integer host (event.payload.get "step_index") (-1)) with
  | none => rfl
  | some step =>
    dsimp only
    cases stepAfter host kind event step with
    | none => rfl
    | some after => exact AList.lookup_insert_ne h.symm

/-- Blocking a step, or dropping a blocked one, leaves it blocked. -/
theorem lookup_stepEvent_blocked (hlower : host.lower "blocked" = "blocked") {st : FoldState} {kind : TaskStateEventKind}
    (hkind : kind = .stepBlocked ∨ kind = .stepDropped) {event : TaskStateEvent} {index : Int}
    (h : ∃ step, st.steps.lookup index = some step ∧ step.Blocked host) :
    ∃ step, (st.stepEvent host kind event).steps.lookup index = some step ∧ step.Blocked host := by
  by_cases hindex : integer host (event.payload.get "step_index") (-1) = index
  · subst hindex
    obtain ⟨step, hlookup, hblocked⟩ := h
    have hself : stepStatus host blockingStepStatus = blockingStepStatus := hlower
    rcases hkind with rfl | rfl
    · refine ⟨{step with status := blockingStepStatus, blockedReason := text (event.payload.get "blocked_reason") ""}, ?_, hself⟩
      simp only [FoldState.stepEvent, hlookup, stepAfter, AList.lookup_insert]
    · refine ⟨step, ?_, hblocked⟩
      have hrefused : stepAfter host .stepDropped event step = none := if_pos hblocked
      simp only [FoldState.stepEvent, hlookup, hrefused, FoldState.note]
  · rwa [lookup_stepEvent_ne hindex]

theorem workStep_held (hlower : host.lower "blocked" = "blocked") {st : FoldState} {event : TaskStateEvent} {index : Int}
    (hsuperseded : superseded st.contractRevision event = false) (h : HoldsBlocked host st.work index) :
    Frees host st event index ∨ HoldsBlocked host (workStep host taskId st.contractRevision st.work event) index := by
  obtain ⟨hplan, hstep⟩ := h
  unfold workStep
  split
  case h_1 hk =>
    by_cases hkept : st.plan.any (fun plan => plan.contractRevision = st.contractRevision) = true
    · right
      have hsame : (workState st.contractRevision st.work).planRequested host taskId event = workState st.contractRevision st.work :=
        if_pos hkept
      dsimp only
      rw [hsame]
      exact ⟨hplan, hstep⟩
    · exact Or.inl ⟨hsuperseded, Or.inr (Or.inr ⟨hk, by simpa using hkept⟩)⟩
  case h_2 hk => exact Or.inl ⟨hsuperseded, Or.inr (Or.inl hk)⟩
  case h_3 =>
    refine Or.inr ⟨?_, hstep⟩
    simpa [FoldState.work, FoldState.planInvalidated, workState] using hplan
  case h_4 hk =>
    by_cases hindex : integer host (event.payload.get "step_index") (-1) = index
    · exact Or.inl ⟨hsuperseded, Or.inl ⟨Or.inl hk, hindex⟩⟩
    · refine Or.inr ⟨by rwa [FoldState.work, stepEvent_plan], ?_⟩
      rwa [FoldState.work, lookup_stepEvent_ne hindex]
  case h_5 hk =>
    by_cases hindex : integer host (event.payload.get "step_index") (-1) = index
    · exact Or.inl ⟨hsuperseded, Or.inl ⟨Or.inr hk, hindex⟩⟩
    · refine Or.inr ⟨by rwa [FoldState.work, stepEvent_plan], ?_⟩
      rwa [FoldState.work, lookup_stepEvent_ne hindex]
  case h_6 =>
    exact Or.inr ⟨by rwa [FoldState.work, stepEvent_plan], lookup_stepEvent_blocked hlower (Or.inl rfl) hstep⟩
  case h_7 =>
    exact Or.inr ⟨by rwa [FoldState.work, stepEvent_plan], lookup_stepEvent_blocked hlower (Or.inr rfl) hstep⟩
  case h_8 => exact Or.inr ⟨hplan, hstep⟩

/-- What one event can do to a blocked step. -/
theorem foldStep_held (hlower : host.lower "blocked" = "blocked") {st : FoldState} {index : Int}
    (h : HoldsBlocked host st.work index) (event : TaskStateEvent) :
    Frees host st event index ∨ HoldsBlocked host (foldStep host taskId st event).work index := by
  rw [foldStep_work]
  split_ifs with hsuperseded
  · exact Or.inr h
  · exact workStep_held taskId hlower (by simpa using hsuperseded) h

/-- A blocked step stays blocked along events none of which frees it. -/
theorem foldl_held (hlower : host.lower "blocked" = "blocked") (rest : List TaskStateEvent) {st : FoldState} {index : Int}
    (h : HoldsBlocked host st.work index) :
    (∃ pre event suf, rest = pre ++ event :: suf ∧ Frees host (pre.foldl (foldStep host taskId) st) event index) ∨
      HoldsBlocked host (rest.foldl (foldStep host taskId) st).work index := by
  induction rest generalizing st with
  | nil => exact Or.inr h
  | cons event rest ih =>
    obtain hfrees | hheld := foldStep_held taskId hlower h event
    · exact Or.inl ⟨[], event, rest, rfl, hfrees⟩
    · obtain ⟨pre, freeing, suf, rfl, hfrees⟩ | hheld := ih hheld
      · exact Or.inl ⟨event :: pre, freeing, suf, rfl, hfrees⟩
      · exact Or.inr hheld

/-! ### Projections -/

/-- The steps of the plan a projection shows. -/
def TaskStateProjection.steps (projection : TaskStateProjection) : List PlanStepState :=
  (projection.plan.map (·.steps)).getD []

theorem mem_steps_iff {events : List TaskStateEvent} {ids : TaskIds} {revision : Int} {step : PlanStepState} :
    step ∈ ((foldEvents host ids.taskId events).projection host ids revision).steps ↔
      (foldEvents host ids.taskId events).plan.isSome ∧
        (foldEvents host ids.taskId events).steps.lookup step.stepIndex = some step := by
  have hkeyed := foldEvents_keyed host ids.taskId events
  simp only [TaskStateProjection.steps, FoldState.projection, FoldState.folded]
  cases (foldEvents host ids.taskId events).plan with
  | none => simp
  | some plan =>
    simp only [Option.map_some, Option.getD_some, Option.isSome_some, true_and, Dict.mem_sortedValues]
    constructor
    · rintro ⟨k, hk⟩
      rwa [hkeyed k step hk]
    · exact fun h => ⟨_, h⟩

/-- With a blocked step, a plan is blocked. -/
theorem rootStatus_of_blocked {steps : List PlanStepState} (hnodup : (steps.map (·.stepIndex)).Nodup)
    {step : PlanStepState} (hm : step ∈ steps) (hblocked : step.Blocked host) : rootStatus host steps = .blocked := by
  have hstatus : blockingStepStatus ∈ (statusByIndex host steps).sortedValues :=
    (Dict.mem_sortedValues _ _).mpr ⟨step.stepIndex, (lookup_statusByIndex host hnodup hm).trans (congrArg some hblocked)⟩
  unfold rootStatus
  rw [if_neg (List.ne_nil_of_mem hm), if_pos hstatus]

/-- Only a step to be executed makes a task active. -/
theorem deriveStatus_active {parts : StatusInputs} (h : (deriveStatus host parts).1 = .active) :
    (deriveStatus host parts).2 = .executeStep := by
  cases hstatus : deriveStatus host parts with
  | mk status action =>
    rw [hstatus] at h
    unfold deriveStatus at hstatus
    repeat' split at hstatus
    all_goals cases hstatus; first | rfl | cases h

theorem status_of_blocked {events : List TaskStateEvent} {ids : TaskIds} {revision : Int} {step : PlanStepState}
    (hm : step ∈ ((foldEvents host ids.taskId events).projection host ids revision).steps) (hblocked : step.Blocked host) :
    ((foldEvents host ids.taskId events).projection host ids revision).status ≠ .done ∧
      ((foldEvents host ids.taskId events).projection host ids revision).status ≠ .active := by
  have hroot : ∀ plan, Live (foldEvents host ids.taskId events).parts plan → rootStatus host plan.steps = .blocked := by
    intro plan hlive
    have hplan : (foldEvents host ids.taskId events).folded = some plan := hlive.planned
    refine rootStatus_of_blocked (folded_nodup host ids.taskId hplan) ?_ hblocked
    simpa [TaskStateProjection.steps, FoldState.projection, hplan] using hm
  constructor
  · intro hdone
    obtain ⟨plan, ref, hverified⟩ := (deriveStatus_done_iff host).mp hdone
    exact absurd (hverified.finished.symm.trans (hroot plan hverified.live)) (by decide)
  · intro hactive
    obtain ⟨plan, hlive, hopen⟩ := (deriveStatus_executeStep_iff host).mp (deriveStatus_active hactive)
    exact absurd (hopen.symm.trans (hroot plan hlive)) (by decide)

theorem orderedEvents_append {events more : List TaskStateEvent} (hlater : ∀ a ∈ events, ∀ b ∈ more, a.seq < b.seq) :
    orderedEvents host (events ++ more) = orderedEvents host events ++ orderedEvents host more := by
  refine arrange_append (fun a ha b hb => ?_) fun a ha b hb hkey => ?_
  · exact (Prod.Lex.lt_iff.mpr (Or.inl (hlater a ha b hb))).le
  · exact absurd (congrArg Prod.fst hkey) (ne_of_gt (hlater a ha b hb))

/-- A step that is blocked in the fold of a log is, in the fold of a longer one, blocked as well, unless a later
event started or completed it or replaced the plan, or the longer log no longer fits; and while a step is blocked
the task is neither done nor active. -/
theorem blocked_stays (host : Host) (hlower : host.lower "blocked" = "blocked") (ids : TaskIds) (maxEvents : Int)
    (events more : List TaskStateEvent) (hlater : ∀ a ∈ events, ∀ b ∈ more, a.seq < b.seq) (revision revision' : Int) :
    ∀ step ∈ (foldTaskState host events ids revision maxEvents).projection.steps, step.Blocked host →
      ((foldTaskState host events ids revision maxEvents).projection.status ≠ .done ∧
        (foldTaskState host events ids revision maxEvents).projection.status ≠ .active) ∧
      ((∃ after ∈ (foldTaskState host (events ++ more) ids revision' maxEvents).projection.steps,
          after.stepIndex = step.stepIndex ∧ after.Blocked host) ∨
        (∃ pre event suf, orderedEvents host more = pre ++ event :: suf ∧
          Frees host (foldEvents host ids.taskId (orderedEvents host events ++ pre)) event step.stepIndex) ∨
        truncates maxEvents (orderedEvents host (events ++ more)) = true) := by
  intro step hm hblocked
  refine ⟨status_of_blocked hm hblocked, ?_⟩
  have hordered := @orderedEvents_append host events more hlater
  cases hfits : truncates maxEvents (orderedEvents host (events ++ more)) with
  | true => exact Or.inr (Or.inr rfl)
  | false =>
    have hfits' : truncates maxEvents (orderedEvents host events) = false := by
      simp only [truncates, hordered, List.length_append, decide_eq_false_iff_not, not_lt] at hfits ⊢
      omega
    have hretained : retainedEvents host maxEvents events = orderedEvents host events := by
      simp only [retainedEvents, hfits', Bool.false_eq_true, if_false]
    have hretained' : retainedEvents host maxEvents (events ++ more) = orderedEvents host events ++ orderedEvents host more := by
      rw [← hordered]
      simp only [retainedEvents, hfits, Bool.false_eq_true, if_false]
    simp only [foldTaskState, hretained, hretained'] at hm ⊢
    obtain ⟨hplan, hlookup⟩ := mem_steps_iff.mp hm
    have hheld : HoldsBlocked host (foldEvents host ids.taskId (orderedEvents host events)).work step.stepIndex :=
      ⟨hplan, step, hlookup, hblocked⟩
    obtain ⟨pre, event, suf, hsplit, hfrees⟩ | ⟨hplan', after, hafter, hblocked'⟩ :=
      foldl_held ids.taskId hlower (orderedEvents host more) hheld
    · exact Or.inr (Or.inl ⟨pre, event, suf, hsplit, by rwa [foldEvents_append]⟩)
    · rw [← foldEvents_append] at hplan' hafter
      have hindex := foldEvents_keyed host ids.taskId _ _ _ hafter
      exact Or.inl ⟨after, mem_steps_iff.mpr ⟨hplan', by rwa [hindex]⟩, hindex, hblocked'⟩

/-- An objective, a plan of one step, and its block. -/
def blockedLog : List TaskStateEvent :=
  [{seq := 1, kind := .known .objectiveSet, contractRevision := 0, occurredAt := epoch,
      payload := [("objective_hash", .str "h1"), ("objective_text", .str "ship it")]},
    {seq := 2, kind := .known .planApproved, contractRevision := 1, occurredAt := epoch + 1,
      payload := [("plan_id", .str "p1"), ("steps", .arr [.obj [("step_index", .int 1)]])]},
    {seq := 3, kind := .known .stepBlocked, contractRevision := 1, occurredAt := epoch + 2,
      payload := [("step_index", .int 1)]}]

/-- Constraints that are granted later. -/
def laterGrants : List TaskStateEvent :=
  [4, 5, 6].map fun seq =>
    {seq, kind := .known .constraintGranted, contractRevision := 1, occurredAt := epoch + 3,
      payload := [("constraint_id", .str (toString seq))]}

theorem blocked_stays_blockedLog :
    ∃ after ∈ (foldTaskState (asciiHost [] []) (blockedLog ++ laterGrants) exampleIds 2 2000).projection.steps,
      after.stepIndex = 1 ∧ after.Blocked (asciiHost [] []) := by
  obtain ⟨-, hstays | hfreed | hcut⟩ := blocked_stays (asciiHost [] []) (by decide) exampleIds 2000 blockedLog laterGrants
    (by decide) 1 2 ⟨1, none, "", "", "blocked", [], 0, false, ""⟩ (by decide) (by decide)
  · exact hstays
  · obtain ⟨pre, event, suf, hsplit, -, hkind⟩ := hfreed
    have hgrant : event.kind = .known .constraintGranted := by
      have hall : ∀ event ∈ orderedEvents (asciiHost [] []) laterGrants, event.kind = .known .constraintGranted := by decide
      exact hall event (by simp [hsplit])
    rw [hgrant] at hkind
    revert hkind
    simp
  · exact absurd hcut (by decide)

/-- A window of five over six events loses the plan, with the step that was blocked. -/
theorem window_frees : ¬ ∀ (host : Host) (ids : TaskIds) (maxEvents : Int) (events more : List TaskStateEvent),
    host.lower "blocked" = "blocked" → (∀ a ∈ events, ∀ b ∈ more, a.seq < b.seq) → ∀ revision revision' : Int,
    ∀ step ∈ (foldTaskState host events ids revision maxEvents).projection.steps, step.Blocked host →
      (∃ after ∈ (foldTaskState host (events ++ more) ids revision' maxEvents).projection.steps,
        after.stepIndex = step.stepIndex ∧ after.Blocked host) ∨
      ∃ event ∈ more, event.kind ∈ [EventKind.known .stepStarted, .known .stepCompleted, .known .planApproved,
        .known .planRequested, .known .planInvalidated] := by
  intro h
  obtain hstays | hfreed := h (asciiHost [] []) exampleIds 5 blockedLog laterGrants (by decide) (by decide) 1 2
    ⟨1, none, "", "", "blocked", [], 0, false, ""⟩ (by decide) (by decide)
  · revert hstays
    decide
  · revert hfreed
    decide

end OpenTimeline.TaskState
