import OpenTimeline.Dream.Reconcile
import OpenTimeline.Planning.Jobs
import OpenTimeline.TaskState.Revision

/-! Full's binding of a proposal to a task, and the planning job it enqueues.

The binder stamps the job with the revision of what it is about to write: the proposal's
objective under the contract revision the task's row leads to, and no cancellation. The worker
takes all three from the fold. They agree on the scope (`taskScopeDigest_fromJson`) and on the
objective, so the job can be planned exactly where the log has no cancellation and the fold
counts the change as the binder does (`binding_plannable_iff`), which a log that fits in a fold
always does (`countsChange_of_short`). -/
namespace OpenTimeline.Planning
open Library
open TaskState (TaskStore TaskIds TaskStateProjection TaskStateEvent EventKind FoldState StoreError WriteRequest Kept
  NoCollision ensureTaskState applyTaskStateEvents objectiveContractRevision maxTaskStateEventsPerFold retainedEvents
  foldedEvents grownLog storeWindow changes setHash hashAfter runWrites digest32)
open Dream (Planner ProposalRow DreamProposalEvent isIdle objectiveHash)

variable (host : Host)

/-! ### The binding -/

/-- The arguments of `_bind_objective`, with the settings it reads and the id it draws. -/
structure BindCall where
  scope : ResolvedScope
  sessionId : String
  now : Instant
  maxAttempts : Int
  jobId : String

/-- The event that sets the objective. -/
def objectiveSetEvent (call : BindCall) (proposal : ProposalRow) (hash : String) (contractRevision : Int) :
    TaskStateEvent where
  seq := 0
  kind := .known .objectiveSet
  contractRevision
  payload := [("objective_text", .str proposal.firstStep), ("objective_hash", .str hash),
    ("source", .str "dream_proposal"), ("proposal_id", .str proposal.id)]
  occurredAt := call.now
  actor := "system"

/-- The job `_enqueue_decompose` asks for. -/
def decomposeRequest (call : BindCall) (proposal : ProposalRow) (hash : String) (contractRevision : Int) : Enqueue where
  workspaceId := call.scope.workspaceId
  ownerId := call.scope.ownerId
  sessionId := call.sessionId
  taskId := call.sessionId
  jobKind := planningJobKindDecompose
  inputRevision := planInputRevision host (some hash) contractRevision (taskScopeDigest host call.scope) 0
  contractRevision
  objectiveHash := some hash
  objectiveText := proposal.firstStep
  scopeJson := resolvedScopeToJson call.scope
  id := call.jobId
  maxAttempts := call.maxAttempts
  now := call.now

def objectiveBoundEvent (call : BindCall) (hash : String) : DreamProposalEvent where
  seq := 0
  kind := .known .objectiveBound
  payload := [("task_id", .str call.sessionId), ("objective_hash", .str hash)]
  occurredAt := call.now
  actor := "system"
  actorClass := "system"

/-- What a binding writes: the task, the job it enqueues, and the proposal's event. -/
structure Binding where
  hash : String
  task : TaskStore
  request : Enqueue
  event : DreamProposalEvent

/-- The task a binding finds, inserted where there is none. -/
def BindCall.found (call : BindCall) (task : Option TaskStore) : TaskStore :=
  task.getD (ensureTaskState ⟨call.sessionId, call.scope.workspaceId, call.scope.ownerId, call.sessionId⟩)

/-- `_bind_objective`: none where the session is not idle or the proposal has nothing to do. -/
def bindObjective (planner : Planner) (call : BindCall) (proposal : ProposalRow) (task : Option TaskStore) :
    Except StoreError (Option Binding) :=
  let projection := task.map (·.row.projection)
  let hash := objectiveHash host planner proposal.firstStep
  if !projection.all (isIdle ·.status) then .ok none
  else if hash = "" || strip proposal.firstStep = "" then .ok none
  else
    let contractRevision := objectiveContractRevision ((projection.map (·.contractRevision)).getD 0)
      (projection.bind (·.objectiveHash)) (some hash)
    let request : WriteRequest := {
      sessionId := call.sessionId
      newEvents := [objectiveSetEvent call proposal hash contractRevision] }
    match applyTaskStateEvents host (call.found task) request with
    | .error e => .error e
    | .ok store => .ok (some {
      hash
      task := store
      request := decomposeRequest host call proposal hash contractRevision
      event := objectiveBoundEvent call hash })

/-! ### The last cancellation -/

theorem foldStep_lastCancelSeq (taskId : String) (st : FoldState) (event : TaskStateEvent) :
    (TaskState.foldStep host taskId st event).lastCancelSeq =
      if event.kind = .known .cancellationRequested then max st.lastCancelSeq event.seq else st.lastCancelSeq := by
  have h := congrArg FoldState.lastCancelSeq (TaskState.foldStep_pinned host taskId st event)
  refine h.trans ?_
  unfold TaskState.pinnedStep
  split
  case h_1 hk =>
    rw [if_neg (by simp [hk])]
    rfl
  case h_2 hk =>
    rw [if_neg (by simp [hk])]
    rfl
  case h_3 hk =>
    rw [if_pos hk]
    rfl
  case h_4 hcancel =>
    rw [if_neg hcancel]
    rfl

/-- The fold's last cancellation is none exactly where the log has none. -/
theorem foldl_lastCancelSeq_eq_zero (taskId : String) {log : List TaskStateEvent} (hpos : ∀ event ∈ log, 0 < event.seq)
    {st : FoldState} (hst : 0 ≤ st.lastCancelSeq) :
    (log.foldl (TaskState.foldStep host taskId) st).lastCancelSeq = 0 ↔
      st.lastCancelSeq = 0 ∧ ∀ event ∈ log, event.kind ≠ .known .cancellationRequested := by
  induction log generalizing st with
  | nil => simp
  | cons event rest ih =>
    have hseq := hpos event List.mem_cons_self
    have hstep := foldStep_lastCancelSeq host taskId st event
    have hnext : 0 ≤ (TaskState.foldStep host taskId st event).lastCancelSeq := by
      rw [hstep]
      split_ifs <;> omega
    rw [List.foldl_cons, ih (fun other hother => hpos other (List.mem_cons_of_mem _ hother)) hnext, hstep,
      List.forall_mem_cons]
    split_ifs with hcancel
    · constructor
      · intro h
        omega
      · intro h
        exact absurd hcancel h.2.1
    · exact ⟨fun h => ⟨h.1, hcancel, h.2⟩, fun h => ⟨h.1, h.2.2⟩⟩

variable {host}

/-- The window has a cancellation where its log has one. -/
theorem storeWindow_uncancelled {log : List TaskStateEvent}
    (h : Arranged TaskState.sortKey (TaskState.dedupeKey host) log) :
    (∀ event ∈ storeWindow host log, event.kind ≠ .known .cancellationRequested) ↔
      ∀ event ∈ log, event.kind ≠ .known .cancellationRequested := by
  constructor
  · intro hwindow
    refine latest_eq_none_iff.mp ?_
    cases hlatest : latest TaskStateEvent.kind (EventKind.known .cancellationRequested) log with
    | none => rfl
    | some last =>
      have hkind := (mem_of_latest hlatest).2
      refine absurd hkind (hwindow last ((TaskState.mem_storeWindow h).mpr (List.mem_append_left _ ?_)))
      exact mem_pins_iff.mpr ⟨hkind ▸ by decide, hkind.symm ▸ hlatest⟩
  · exact fun hlog event hevent => hlog event ((TaskState.storeWindow_sublist host log).subset hevent)

section Write
variable {store : TaskStore} {event : TaskStateEvent}

theorem retained_subset (hkept : Kept store) (new : List TaskStateEvent) :
    retainedEvents host maxTaskStateEventsPerFold (foldedEvents store new) ⊆ grownLog store new := by
  rw [TaskState.retainedEvents_folded hkept new]
  split_ifs
  · exact (TaskState.storeWindow_sublist host _).subset
  · exact (List.Sublist.append (TaskState.storeWindow_sublist host _) (List.Sublist.refl _)).subset

/-- What a write folds has a cancellation where the log has one. -/
theorem retained_uncancelled (hkept : Kept store) (hkind : event.kind = .known .objectiveSet) :
    (∀ held ∈ retainedEvents host maxTaskStateEventsPerFold (foldedEvents store [event]),
        held.kind ≠ .known .cancellationRequested) ↔
      ∀ held ∈ store.events, held.kind ≠ .known .cancellationRequested := by
  have hnew : ∀ held ∈ TaskState.stamp store.row.highestSeq [event], held.kind ≠ .known .cancellationRequested := by
    simp [TaskState.stamp, hkind]
  have hgrown : (∀ held ∈ grownLog store [event], held.kind ≠ .known .cancellationRequested) ↔
      ∀ held ∈ store.events, held.kind ≠ .known .cancellationRequested :=
    List.forall_mem_append.trans (and_iff_left hnew)
  have hretained := @TaskState.retainedEvents_folded host store hkept [event]
  split_ifs at hretained
  · rw [hretained, storeWindow_uncancelled ((hkept.grown [event]).arranged host), hgrown]
  · rw [hretained, List.forall_mem_append, storeWindow_uncancelled (hkept.numbered.arranged host),
      and_iff_left hnew]

/-- What it folds ends with its own event. -/
theorem retained_hash (hkept : Kept store) (hkind : event.kind = .known .objectiveSet) :
    (retainedEvents host maxTaskStateEventsPerFold (foldedEvents store [event])).foldl hashAfter none =
      setHash event := by
  have hlast (log : List TaskStateEvent) (seq : Int) :
      (log ++ TaskState.stamp seq [event]).foldl hashAfter none = setHash event := by
    rw [List.foldl_append]
    exact if_pos hkind
  rw [TaskState.retainedEvents_folded hkept [event]]
  split_ifs
  · rw [TaskState.storeWindow_eq ((hkept.grown [event]).arranged host),
      TaskState.hash_window ((hkept.grown [event]).arranged host)]
    exact hlast store.events store.row.highestSeq
  · exact hlast _ _

end Write

/-! ### Whether the job can be planned -/

variable (host) in
/-- What the write folds counts the row's changes of objective, and the new one. -/
def CountsChange (planner : Planner) (call : BindCall) (proposal : ProposalRow) (task : Option TaskStore) : Prop :=
  let hash := objectiveHash host planner proposal.firstStep
  let row := (call.found task).row.projection
  let contractRevision := objectiveContractRevision row.contractRevision row.objectiveHash (some hash)
  (changes none (retainedEvents host maxTaskStateEventsPerFold
      (foldedEvents (call.found task) [objectiveSetEvent call proposal hash contractRevision])) : Int) =
    row.contractRevision + if row.objectiveHash = some hash then 0 else 1

/-- What a binding that is made is made of. -/
theorem bindObjective_some {planner : Planner} {call : BindCall} {proposal : ProposalRow} {task : Option TaskStore}
    {binding : Binding} (h : bindObjective host planner call proposal task = .ok (some binding)) :
    let hash := objectiveHash host planner proposal.firstStep
    hash ≠ "" ∧ ∃ contractRevision,
      contractRevision = objectiveContractRevision (call.found task).row.projection.contractRevision
        (call.found task).row.projection.objectiveHash (some hash) ∧
      applyTaskStateEvents host (call.found task) {
        sessionId := call.sessionId
        newEvents := [objectiveSetEvent call proposal hash contractRevision] } = .ok binding.task ∧
      binding.request = decomposeRequest host call proposal hash contractRevision ∧
      binding.event = objectiveBoundEvent call hash := by
  have hrow : ((task.map (·.row.projection)).map (·.contractRevision)).getD 0 =
      (call.found task).row.projection.contractRevision ∧
      (task.map (·.row.projection)).bind (·.objectiveHash) = (call.found task).row.projection.objectiveHash := by
    cases task <;> exact ⟨rfl, rfl⟩
  simp only [bindObjective, hrow.1, hrow.2] at h
  split_ifs at h with hidle hempty
  · cases h
  · cases h
  · rw [Bool.or_eq_true, decide_eq_true_eq, decide_eq_true_eq, not_or] at hempty
    refine ⟨hempty.1, _, rfl, ?_⟩
    split at h
    case h_1 => cases h
    case h_2 store hwrite =>
      rw [← Option.some.inj (Except.ok.inj h)]
      exact ⟨hwrite, rfl, rfl⟩

theorem inputText_epoch {objectiveHash : Option String} {contractRevision : Int} {scopeDigest : String} {a b : Int} :
    inputText objectiveHash contractRevision scopeDigest a = inputText objectiveHash contractRevision scopeDigest b ↔
      a = b := by
  refine ⟨fun h => ?_, congrArg _⟩
  simp only [inputText, String.intercalate_cons_cons, String.intercalate_singleton] at h
  exact Int.repr_injective (by simpa using h)

/-- The hash of an objective that is set, as the log reads it. -/
theorem setHash_objectiveSetEvent {call : BindCall} {proposal : ProposalRow} {hash : String} {contractRevision : Int}
    (h : hash ≠ "") : TaskState.setHash (objectiveSetEvent call proposal hash contractRevision) = some hash := by
  show TaskState.optText (.str hash) = some hash
  unfold TaskState.optText
  rw [if_neg]
  · rfl
  · exact h

theorem objectiveContractRevision_counts {current : Int} {currentHash : Option String} {hash : String} (h : hash ≠ "") :
    objectiveContractRevision current currentHash (some hash) =
      current + if currentHash = some hash then 0 else 1 := by
  unfold objectiveContractRevision
  have hnone : (some hash : Option String) ≠ none ∧ (some hash : Option String) ≠ some "" := by simp [h]
  by_cases hsame : currentHash = some hash
  · rw [if_pos (Or.inr (Or.inr hsame.symm)), if_pos hsame, Int.add_zero]
  · rw [if_neg (by tauto), if_neg hsame]

/-- What the binding leaves of the task: the objective, the changes counted, and the last cancellation. -/
theorem binding_projection {store after : TaskStore} {event : TaskStateEvent} {sessionId : String}
    (hkept : Kept store) (hkind : event.kind = .known .objectiveSet)
    (hwrite : applyTaskStateEvents host store {sessionId, newEvents := [event]} = .ok after) :
    after.row.projection.objectiveHash = setHash event ∧
      after.row.projection.contractRevision =
        changes none (retainedEvents host maxTaskStateEventsPerFold (foldedEvents store [event])) ∧
      (after.row.projection.lastCancelSeq = 0 ↔
        ∀ held ∈ store.events, held.kind ≠ .known .cancellationRequested) := by
  have hstored := (TaskState.stored_eq hwrite).1
  refine ⟨?_, ?_, ?_⟩
  · rw [hstored, ← retained_hash hkept hkind]
    exact TaskState.foldEvents_hash host _ _
  · rw [hstored]
    exact TaskState.foldEvents_contractRevision host _ _
  · have hpos : ∀ held ∈ retainedEvents host maxTaskStateEventsPerFold (foldedEvents store [event]), 0 < held.seq :=
      fun held hheld => (hkept.grown [event]).lt_seq held (retained_subset hkept [event] hheld)
    have hzero := @foldl_lastCancelSeq_eq_zero host store.row.projection.ids.taskId _ hpos {} (le_refl (0 : Int))
    rw [hstored]
    exact hzero.trans ((and_iff_right rfl).trans (retained_uncancelled hkept hkind))

/-! ### A log that fits in a fold -/

/-- A log that fits in a fold is counted as it is. -/
def Counted (store : TaskStore) : Prop :=
  store.events.length ≤ TaskState.tailSize maxTaskStateEventsPerFold →
    store.row.projection.contractRevision = changes none store.events ∧
      store.row.projection.objectiveHash = store.events.foldl hashAfter none

/-- What a write folds of such a log, its event among it. -/
theorem retained_short {store : TaskStore} (hkept : Kept store) {new : List TaskStateEvent}
    (hshort : store.events.length ≤ TaskState.tailSize maxTaskStateEventsPerFold)
    (hfits : (store.events.length + new.length : Int) ≤ maxTaskStateEventsPerFold) :
    retainedEvents host maxTaskStateEventsPerFold (foldedEvents store new) = grownLog store new := by
  have hwindow : storeWindow host store.events = store.events := window_of_length_le hshort
  rw [TaskState.retainedEvents_folded hkept new, if_neg, hwindow]
  · rfl
  · rw [TaskState.foldedEvents_arranged hkept new, hwindow, List.length_append, TaskState.length_stamp]
    push_cast
    omega

theorem Counted.write {store after : TaskStore} {request : WriteRequest} (hkept : Kept store)
    (hwrite : applyTaskStateEvents host store request = .ok after) : Counted after := by
  intro hshort
  have hlength : (grownLog store request.newEvents).length = store.events.length + request.newEvents.length := by
    simp [grownLog]
  have hlog : after.events = grownLog store request.newEvents := (hkept.applyTaskStateEvents host hwrite).2.1
  rw [hlog, hlength] at hshort
  have htail : TaskState.tailSize maxTaskStateEventsPerFold = 1997 := by decide
  have hmax : maxTaskStateEventsPerFold = 2000 := rfl
  have hretained := @retained_short host store hkept request.newEvents (by omega) (by omega)
  rw [hlog, (TaskState.stored_eq hwrite).1, hretained]
  exact ⟨TaskState.foldEvents_contractRevision host _ _, TaskState.foldEvents_hash host _ _⟩

theorem Counted.runWrites {store after : TaskStore} {requests : List WriteRequest} (h : Counted store)
    (hkept : Kept store) (hrun : TaskState.runWrites host store requests = .ok after) : Counted after := by
  induction requests generalizing store with
  | nil =>
    cases hrun
    exact h
  | cons request rest ih =>
    obtain ⟨next, hwrite, hrest⟩ := TaskState.runWrites_cons host hrun
    exact ih (Counted.write hkept hwrite) (hkept.applyTaskStateEvents host hwrite).1 hrest

/-- One more objective counts where it is another one. -/
theorem changes_stamp {current : Option String} {event : TaskStateEvent} {seq : Int} {hash : String}
    (hkind : event.kind = .known .objectiveSet) (hhash : setHash event = some hash) :
    changes current (TaskState.stamp seq [event]) = if current = some hash then 0 else 1 := by
  have hset : setHash {event with seq := seq + 1} = some hash := hhash
  have heffective : TaskState.Effective current {event with seq := seq + 1} ↔ current ≠ some hash := by
    rw [TaskState.Effective, hset]
    simp [hkind, eq_comm]
  simp only [TaskState.stamp, changes, heffective, Nat.add_zero]
  split_ifs <;> first | rfl | contradiction

/-- So there only a cancellation makes the job stale. -/
theorem countsChange_of_short {planner : Planner} {call : BindCall} {proposal : ProposalRow} {task : Option TaskStore}
    (hreached : ∀ store ∈ task, ∃ ids requests, runWrites host (ensureTaskState ids) requests = .ok store)
    (hhash : objectiveHash host planner proposal.firstStep ≠ "")
    (hshort : (call.found task).events.length ≤ TaskState.tailSize maxTaskStateEventsPerFold) :
    CountsChange host planner call proposal task := by
  have hnew (ids : TaskIds) : Counted (ensureTaskState ids) := fun _ => ⟨rfl, rfl⟩
  have hfound : Kept (call.found task) ∧ Counted (call.found task) := by
    cases task with
    | none => exact ⟨TaskState.kept_ensureTaskState _, hnew _⟩
    | some store =>
      obtain ⟨ids, requests, hrun⟩ := hreached store rfl
      have hkept := TaskState.kept_ensureTaskState ids
      exact ⟨hkept.runWrites host hrun, (hnew ids).runWrites hkept hrun⟩
  obtain ⟨hrevision, hobjective⟩ := hfound.2 hshort
  have htail : TaskState.tailSize maxTaskStateEventsPerFold = 1997 := by decide
  have hmax : maxTaskStateEventsPerFold = 2000 := rfl
  dsimp only [CountsChange]
  rw [retained_short hfound.1 hshort (by simp only [List.length_singleton]; omega), grownLog,
    TaskState.changes_append, changes_stamp rfl (setHash_objectiveSetEvent hhash), Nat.cast_add, ← hrevision,
    ← hobjective]
  split_ifs <;> rfl

/-- The job of a binding that is made can be planned exactly where the task was never cancelled, and the window the
write folds counts the changes of objective as the row does. -/
theorem binding_plannable_iff (planner : Planner) (call : BindCall) (proposal : ProposalRow) (task : Option TaskStore)
    (binding : Binding)
    (hreached : ∀ store ∈ task, ∃ ids requests, runWrites host (ensureTaskState ids) requests = .ok store)
    (hscope : call.scope.Resolved) (hbinding : bindObjective host planner call proposal task = .ok (some binding))
    (hdigest : NoCollision host
      (inputText binding.request.objectiveHash binding.request.contractRevision (taskScopeDigest host call.scope) 0)
      (inputText binding.task.row.projection.objectiveHash binding.task.row.projection.contractRevision
        (taskScopeDigest host (resolvedScopeFromJson host binding.request.scopeJson))
        binding.task.row.projection.lastCancelSeq)) :
    let job := binding.request.row host .pending
    job.toJobInput.staleFor host binding.task.row.projection job.cancelRequested = none ↔
      (∀ event ∈ (call.found task).events, event.kind ≠ .known .cancellationRequested) ∧
        CountsChange host planner call proposal task := by
  have hkept : Kept (call.found task) := by
    cases task with
    | none => exact TaskState.kept_ensureTaskState _
    | some store =>
      obtain ⟨ids, requests, hrun⟩ := hreached store rfl
      exact (TaskState.kept_ensureTaskState ids).runWrites host hrun
  obtain ⟨hempty, contractRevision, hrevision, hwrite, hrequest, _⟩ := bindObjective_some hbinding
  obtain ⟨hhash, hchanges, hcancel⟩ := binding_projection hkept rfl hwrite
  rw [setHash_objectiveSetEvent hempty] at hhash
  have hcounts : CountsChange host planner call proposal task ↔
      contractRevision = binding.task.row.projection.contractRevision := by
    rw [CountsChange, ← hrevision, hchanges, hrevision, objectiveContractRevision_counts hempty]
    exact eq_comm
  have hjob : (binding.request.row host .pending).toJobInput =
      (decomposeRequest host call proposal _ contractRevision).toJobInput := congrArg Enqueue.toJobInput hrequest
  rw [hrequest] at hdigest
  dsimp only [decomposeRequest] at hdigest
  intro job
  rw [hjob, JobInput.staleFor_eq_none, hcounts]
  dsimp only [decomposeRequest, currentInputRevision]
  rw [taskScopeDigest_fromJson hscope, hhash] at hdigest ⊢
  constructor
  · rintro ⟨_, hinput, hcontract⟩
    refine ⟨hcancel.mp ?_, hcontract⟩
    have htext := hdigest hinput
    rw [hcontract] at htext
    exact (inputText_epoch.mp htext).symm
  · rintro ⟨huncancelled, hcontract⟩
    refine ⟨rfl, ?_, hcontract⟩
    rw [hcancel.mpr huncancelled, hcontract]

/-! ### Concrete bindings -/

/-- Short texts are their own digests, and all long ones have the same. -/
def bindHost : Host := {Dream.dayHost with sha256Hex := fun text => if 64 < text.length then "d" else text}

def exampleCall : BindCall where
  scope := {
    workspaceId := "w"
    executorId := "e"
    ownerId := "o"
    subjectUserId := "u"
    projectId := none
    projectBinding := projectUnbound
    taskId := none
    ownerIds := ["o"] }
  sessionId := "s"
  now := Dream.nextDay
  maxAttempts := 3
  jobId := "j"

def cancelWrite : WriteRequest where
  sessionId := "s"
  newEvents := [{
    seq := 0
    kind := .known .cancellationRequested
    contractRevision := 0
    occurredAt := Dream.firstDay
    payload := [] }]

/-- A minted proposal, a task after some writes, and the binding that is made of them. -/
def exampleBinding (requests : List WriteRequest) : Option (ProposalRow × TaskStore × Binding) := do
  let proposal ← (Dream.exampleRun []).toOption.bind (·.loadProposal Dream.exampleScope "p")
  let store ← (runWrites bindHost (ensureTaskState TaskState.exampleIds) requests).toOption
  let binding ← (bindObjective bindHost Dream.examplePlanner exampleCall proposal (some store)).toOption.join
  return (proposal, store, binding)

theorem exists_of_exampleBinding {requests : List WriteRequest} {check : TaskStore → Binding → Bool}
    (h : (exampleBinding requests).any fun (_, store, binding) => check store binding) :
    ∃ proposal store binding, runWrites bindHost (ensureTaskState TaskState.exampleIds) requests = .ok store ∧
      bindObjective bindHost Dream.examplePlanner exampleCall proposal (some store) = .ok (some binding) ∧
      check store binding := by
  obtain ⟨⟨proposal, store, binding⟩, hmade, hcheck⟩ := (Option.any_eq_true _ _).mp h
  unfold exampleBinding at hmade
  obtain ⟨made, _, hmade⟩ := Option.bind_eq_some_iff.mp hmade
  obtain ⟨found, hrun, hmade⟩ := Option.bind_eq_some_iff.mp hmade
  obtain ⟨bound, hbound, hmade⟩ := Option.bind_eq_some_iff.mp hmade
  cases hmade
  refine ⟨proposal, store, binding, ?_, ?_, hcheck⟩
  · exact toOption_eq_some_iff.mp hrun
  · exact toOption_eq_some_iff.mp (Option.join_eq_some_iff.mp hbound)

theorem exampleCall_resolved : exampleCall.scope.Resolved := ⟨by decide, by decide, by decide⟩

/-- A session that is new to the binder. -/
theorem binding_plannable_fresh : ∃ proposal store binding,
    bindObjective bindHost Dream.examplePlanner exampleCall proposal (some store) = .ok (some binding) ∧
      let job := binding.request.row bindHost .pending
      (job.toJobInput.staleFor bindHost binding.task.row.projection job.cancelRequested = none ↔
        (∀ event ∈ store.events, event.kind ≠ .known .cancellationRequested) ∧
          CountsChange bindHost Dream.examplePlanner exampleCall proposal (some store)) := by
  obtain ⟨proposal, store, binding, hrun, hbinding, hcheck⟩ := @exists_of_exampleBinding []
    (fun _ binding => inputText binding.request.objectiveHash binding.request.contractRevision
        (taskScopeDigest bindHost exampleCall.scope) 0 =
      inputText binding.task.row.projection.objectiveHash binding.task.row.projection.contractRevision
        (taskScopeDigest bindHost (resolvedScopeFromJson bindHost binding.request.scopeJson))
        binding.task.row.projection.lastCancelSeq) (by decide +kernel)
  refine ⟨proposal, store, binding, hbinding, binding_plannable_iff Dream.examplePlanner exampleCall proposal
    (some store) binding ?_ exampleCall_resolved hbinding fun _ => of_decide_eq_true hcheck⟩
  rintro _ ⟨⟩
  exact ⟨_, _, hrun⟩

/-- A session that was cancelled once: the job is stale at once. -/
theorem cancelled_binding_stale :
    ¬ ∀ (host : Host) (planner : Planner) (call : BindCall) (proposal : ProposalRow) (task : Option TaskStore)
      (binding : Binding),
      (∀ store ∈ task, ∃ ids requests, runWrites host (ensureTaskState ids) requests = .ok store) →
      call.scope.Resolved → bindObjective host planner call proposal task = .ok (some binding) →
      let job := binding.request.row host .pending
      job.toJobInput.staleFor host binding.task.row.projection job.cancelRequested = none := by
  intro h
  obtain ⟨proposal, store, binding, hrun, hbinding, hcheck⟩ := @exists_of_exampleBinding [cancelWrite]
    (fun _ binding => (binding.request.row bindHost .pending).toJobInput.staleFor bindHost
      binding.task.row.projection false = some planningStaleReason) (by decide +kernel)
  have hplannable := h bindHost Dream.examplePlanner exampleCall proposal (some store) binding
    (by rintro _ ⟨⟩; exact ⟨_, _, hrun⟩) exampleCall_resolved hbinding
  exact absurd (hplannable.symm.trans (of_decide_eq_true hcheck)) nofun

end OpenTimeline.Planning
