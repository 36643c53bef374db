import OpenTimeline.Library.Text
import OpenTimeline.TaskState.Store

/-! The stored row against its reconstruction.

A write folds what it loaded and its own events; `rebuild_task_state` folds what
the loader reads back afterwards. The loader always reads back the pinned window of
the grown log. The write folds that same window as soon as it has more events than
one fold takes, since it then truncates; below that it folds everything it holds
(`foldedEvents_arranged`). The two agree exactly when every event the write folded
is one the loader reads back (`stored_eq_rebuilt_iff`). -/
namespace OpenTimeline.TaskState
open Library

variable (host : Host)

/-- The pinned window of a log, at the size the store loads. -/
def storeWindow (log : List TaskStateEvent) : List TaskStateEvent :=
  window TaskStateEvent.kind (dedupeKey host) pinnedKinds (tailSize maxTaskStateEventsPerFold) log

/-- The log after a write. -/
def grownLog (store : TaskStore) (new : List TaskStateEvent) : List TaskStateEvent :=
  store.events ++ stamp store.row.highestSeq new

/-- The events a write folds: those it loads, and its own. -/
def foldedEvents (store : TaskStore) (new : List TaskStateEvent) : List TaskStateEvent :=
  loadTaskStateEvents maxTaskStateEventsPerFold store.events ++ stamp store.row.highestSeq new

/-- The write folds more events than one fold takes, or every event it folds is one the
loader reads back after it. -/
def ReadsBack (store : TaskStore) (new : List TaskStateEvent) : Prop :=
  maxTaskStateEventsPerFold < (orderedEvents host (foldedEvents store new)).length ∨
    ∀ event ∈ foldedEvents store new,
      event ∈ loadTaskStateEvents maxTaskStateEventsPerFold (grownLog store new)

theorem storeWindow_sublist (log : List TaskStateEvent) : (storeWindow host log).Sublist log :=
  window_sublist pinnedKinds _ log

variable {host} in
theorem mem_storeWindow {log : List TaskStateEvent} (h : Arranged sortKey (dedupeKey host) log)
    {event : TaskStateEvent} : event ∈ storeWindow host log ↔ event ∈
      pins TaskStateEvent.kind pinnedKinds log ++ newest (tailSize maxTaskStateEventsPerFold) log :=
  h.mem_window

/-! ### What each side folds -/

section Sides
variable {host} {store : TaskStore} (hkept : Kept store) (new : List TaskStateEvent)
include hkept

theorem Kept.grown : Numbered 0 (grownLog store new) := by
  refine hkept.numbered.append ?_
  rw [zero_add, ← hkept.highest]
  exact numbered_stamp _ _

theorem foldedEvents_arranged : orderedEvents host (foldedEvents store new) =
    storeWindow host store.events ++ stamp store.row.highestSeq new := by
  rw [foldedEvents, hkept.numbered.loadTaskStateEvents]
  exact ((hkept.grown new).arranged host).arrange_window_append

theorem orderedEvents_reload :
    orderedEvents host (loadTaskStateEvents maxTaskStateEventsPerFold (grownLog store new)) =
      storeWindow host (grownLog store new) := by
  rw [(hkept.grown new).loadTaskStateEvents]
  exact ((hkept.grown new).arranged host).window_eq _ _

theorem mem_reload {event : TaskStateEvent} :
    event ∈ loadTaskStateEvents maxTaskStateEventsPerFold (grownLog store new) ↔
      event ∈ storeWindow host (grownLog store new) := by
  rw [(hkept.grown new).loadTaskStateEvents, mem_storeWindow ((hkept.grown new).arranged host)]

omit hkept in
theorem storeWindow_length_le (log : List TaskStateEvent) (h : Arranged sortKey (dedupeKey host) log) :
    (storeWindow host log).length ≤ 2000 := by
  have hsub : (storeWindow host log).Subperm
      (pins TaskStateEvent.kind pinnedKinds log ++ newest (tailSize maxTaskStateEventsPerFold) log) :=
    (h.nodup.sublist (storeWindow_sublist host log)).subperm fun event hm => h.mem_window.mp hm
  have hpins : (pins TaskStateEvent.kind pinnedKinds log).length ≤ 3 := length_pins_le _ _
  have hnewest := length_newest (tailSize maxTaskStateEventsPerFold) log
  have htail : tailSize maxTaskStateEventsPerFold = 1997 := by decide
  have hle := hsub.length_le
  rw [List.length_append, hnewest, htail] at hle
  omega

/-- The rebuild folds the window of the grown log. -/
theorem retainedEvents_reload : retainedEvents host maxTaskStateEventsPerFold
    (loadTaskStateEvents maxTaskStateEventsPerFold (grownLog store new)) =
      storeWindow host (grownLog store new) := by
  have hle := storeWindow_length_le (grownLog store new) ((hkept.grown new).arranged host)
  have hfits : truncates maxTaskStateEventsPerFold (storeWindow host (grownLog store new)) = false := by
    refine decide_eq_false ?_
    simp only [maxTaskStateEventsPerFold]
    omega
  simp only [retainedEvents, orderedEvents_reload hkept new, hfits, Bool.false_eq_true, if_false]

/-- The write folds the window of the grown log where it truncates, and else all it holds. -/
theorem retainedEvents_folded : retainedEvents host maxTaskStateEventsPerFold (foldedEvents store new) =
    if maxTaskStateEventsPerFold < (orderedEvents host (foldedEvents store new)).length then
      storeWindow host (grownLog store new)
    else storeWindow host store.events ++ stamp store.row.highestSeq new := by
  simp only [retainedEvents, truncates, decide_eq_true_eq]
  split_ifs
  · rw [foldedEvents_arranged hkept new]
    exact ((hkept.grown new).arranged host).window_window_append
  · exact foldedEvents_arranged hkept new

/-- Both sides fold the same events exactly when the write reads back. -/
theorem retainedEvents_eq_iff : retainedEvents host maxTaskStateEventsPerFold (foldedEvents store new) =
    storeWindow host (grownLog store new) ↔ ReadsBack host store new := by
  have harranged := (hkept.grown new).arranged host
  rw [retainedEvents_folded hkept new]
  unfold ReadsBack
  split_ifs with htruncates
  · simp [htruncates]
  · have hsub : (storeWindow host (grownLog store new)).Sublist
        (storeWindow host store.events ++ stamp store.row.highestSeq new) := harranged.window_grown_sublist
    have hfolded : ∀ event, event ∈ foldedEvents store new ↔
        event ∈ storeWindow host store.events ++ stamp store.row.highestSeq new := by
      intro event
      rw [foldedEvents, hkept.numbered.loadTaskStateEvents, List.mem_append,
        ← mem_storeWindow (hkept.numbered.arranged host), List.mem_append]
    simp only [htruncates, false_or]
    constructor
    · intro heq event hm
      rw [mem_reload hkept new, ← heq]
      exact (hfolded event).mp hm
    · intro hreads
      have hheld : Arranged sortKey (dedupeKey host)
          (storeWindow host store.events ++ stamp store.row.highestSeq new) :=
        harranged.sublist ((storeWindow_sublist host store.events).append_right _)
      exact hheld.ext (harranged.sublist (storeWindow_sublist host _)) fun event =>
        ⟨fun hm => (mem_reload hkept new).mp (hreads event ((hfolded event).mpr hm)),
          fun hm => hsub.subset hm⟩

end Sides

/-! ### Stored and rebuilt -/

/-- Leaving events out of a source text shortens it. -/
theorem sourceText_ne_of_sublist {a b : List TaskStateEvent} (hsub : a.Sublist b) (hne : a ≠ [])
    (hlt : a.length < b.length) : sourceText host a ≠ sourceText host b := by
  intro heq
  have h := length_intercalate_lt "|" (by decide)
    (hsub.map fun event => toString event.seq ++ ":" ++ event.kind.str ++ ":" ++
      payloadDigest host event.payload) (by simpa using hne) (by simpa using hlt)
  exact absurd (congrArg String.length heq) (ne_of_lt h)

section Stored
variable {host} {store after : TaskStore} {request : WriteRequest}

/-- What a write stores is the fold of the events it folded. -/
theorem stored_eq (hok : applyTaskStateEvents host store request = .ok after) :
    after.row.projection = (foldEvents host store.row.projection.ids.taskId
        (retainedEvents host maxTaskStateEventsPerFold (foldedEvents store request.newEvents))).projection
          host store.row.projection.ids (store.row.revision + 1) ∧
      after.row.sourceRevision = sourceRevision host
        (retainedEvents host maxTaskStateEventsPerFold (foldedEvents store request.newEvents)) := by
  obtain ⟨_, hcas, _⟩ := commitWrite_ok (applyTaskStateEvents_ok host hok)
  obtain ⟨_, hprojection, _, hsource⟩ := casUpdate_some hcas
  exact ⟨hprojection, hsource⟩

/-- What a rebuild finds is the fold of the window of the grown log. -/
theorem rebuilt_eq (hkept : Kept store) (hok : applyTaskStateEvents host store request = .ok after) :
    (rebuildTaskState host after).projection = (foldEvents host store.row.projection.ids.taskId
        (storeWindow host (grownLog store request.newEvents))).projection
          host store.row.projection.ids (store.row.revision + 1) ∧
      (rebuildTaskState host after).sourceRevision =
        sourceRevision host (storeWindow host (grownLog store request.newEvents)) := by
  obtain ⟨_, hevents, hrevision⟩ := hkept.applyTaskStateEvents host hok
  have hids : after.row.projection.ids = store.row.projection.ids := by
    rw [(stored_eq hok).1]
    rfl
  have hretained := @retainedEvents_reload host _ hkept request.newEvents
  have hlog : after.events = grownLog store request.newEvents := hevents
  simp only [rebuildTaskState, foldTaskState, hlog, hretained, hids, hrevision, and_self]

/-- A write that reads back stores what a rebuild finds. -/
theorem stored_eq_rebuilt (hkept : Kept store) (hok : applyTaskStateEvents host store request = .ok after)
    (hreads : ReadsBack host store request.newEvents) :
    after.row.projection = (rebuildTaskState host after).projection ∧
      after.row.sourceRevision = (rebuildTaskState host after).sourceRevision := by
  have heq := (retainedEvents_eq_iff hkept request.newEvents).mpr hreads
  rw [(stored_eq hok).1, (stored_eq hok).2, (rebuilt_eq hkept hok).1, (rebuilt_eq hkept hok).2, heq]
  exact ⟨rfl, rfl⟩

/-- One that does not stores another source text. -/
theorem sourceText_ne (hkept : Kept store) (hreads : ¬ ReadsBack host store request.newEvents) :
    storeWindow host (grownLog store request.newEvents) ≠ [] ∧
    retainedEvents host maxTaskStateEventsPerFold (foldedEvents store request.newEvents) ≠ [] ∧
    sourceText host (storeWindow host (grownLog store request.newEvents)) ≠
      sourceText host (retainedEvents host maxTaskStateEventsPerFold
        (foldedEvents store request.newEvents)) := by
  have hne := fun heq => hreads ((retainedEvents_eq_iff hkept request.newEvents).mp heq)
  have hfolded := @retainedEvents_folded host _ hkept request.newEvents
  split_ifs at hfolded with htruncates
  · exact absurd hfolded hne
  have hsub : (storeWindow host (grownLog store request.newEvents)).Sublist
      (retainedEvents host maxTaskStateEventsPerFold (foldedEvents store request.newEvents)) := by
    rw [hfolded]
    exact ((hkept.grown request.newEvents).arranged host).window_grown_sublist
  have hlt := lt_of_le_of_ne hsub.length_le fun heq => hne (hsub.eq_of_length heq).symm
  have hretained : retainedEvents host maxTaskStateEventsPerFold
      (foldedEvents store request.newEvents) ≠ [] := by
    intro hnil
    rw [hnil] at hlt
    simp at hlt
  have hwindow : storeWindow host (grownLog store request.newEvents) ≠ [] := by
    intro hnil
    -- the window of a log with an event in it has its newest event
    have hlog : grownLog store request.newEvents = [] := by
      by_contra hlog
      have hlength := length_newest (tailSize maxTaskStateEventsPerFold) (grownLog store request.newEvents)
      have htail : tailSize maxTaskStateEventsPerFold = 1997 := by decide
      rw [(List.append_eq_nil_iff.mp hnil).2, htail, List.length_nil] at hlength
      have := List.length_pos_of_ne_nil hlog
      omega
    have hempty : storeWindow host store.events ++ stamp store.row.highestSeq request.newEvents = [] := by
      have hgrown := (storeWindow_sublist host store.events).append_right
        (stamp store.row.highestSeq request.newEvents)
      exact List.sublist_nil.mp (hlog ▸ hgrown)
    exact hretained (hfolded.trans hempty)
  exact ⟨hwindow, hretained, sourceText_ne_of_sublist host hsub hwindow hlt⟩

end Stored

/-- The digest tells two texts apart. -/
def NoCollision (a b : String) : Prop := digest32 host a = digest32 host b → a = b

/-- After any run of writes, one more stores what a rebuild finds exactly when it reads
back. -/
theorem stored_eq_rebuilt_iff (ids : TaskIds) (requests : List WriteRequest) (last : WriteRequest)
    (before after : TaskStore) (hrun : runWrites host (ensureTaskState ids) requests = .ok before)
    (hlast : applyTaskStateEvents host before last = .ok after)
    (hdigest : NoCollision host
      (sourceText host (retainedEvents host maxTaskStateEventsPerFold
        (loadTaskStateEvents maxTaskStateEventsPerFold after.events)))
      (sourceText host (retainedEvents host maxTaskStateEventsPerFold
        (foldedEvents before last.newEvents)))) :
    (after.row.projection = (rebuildTaskState host after).projection ∧
      after.row.sourceRevision = (rebuildTaskState host after).sourceRevision) ↔
        ReadsBack host before last.newEvents := by
  have hkept := (kept_ensureTaskState ids).runWrites host hrun
  refine ⟨fun hstored => ?_, stored_eq_rebuilt hkept hlast⟩
  by_contra hreads
  have hlog : after.events = grownLog before last.newEvents :=
    (hkept.applyTaskStateEvents host hlast).2.1
  rw [hlog, retainedEvents_reload hkept] at hdigest
  obtain ⟨hwindow, hfolded, htext⟩ := sourceText_ne hkept hreads
  have hsource := hstored.2
  rw [(stored_eq hlast).2, (rebuilt_eq hkept hlast).2, sourceRevision, sourceRevision,
    if_neg (by simpa using hfolded), if_neg (by simpa using hwindow)] at hsource
  exact htext (hdigest hsource.symm)

def firstSet : TaskStateEvent where
  seq := 0
  kind := .known .objectiveSet
  contractRevision := 0
  occurredAt := epoch
  payload := [("objective_hash", .str "h1")]

theorem stored_eq_rebuilt_first :
    let request : WriteRequest := {sessionId := "s", newEvents := [firstSet]}
    ∃ after, applyTaskStateEvents (asciiHost [] []) (ensureTaskState exampleIds) request = .ok after ∧
      ((after.row.projection = (rebuildTaskState (asciiHost [] []) after).projection ∧
        after.row.sourceRevision = (rebuildTaskState (asciiHost [] []) after).sourceRevision) ↔
          ReadsBack (asciiHost [] []) (ensureTaskState exampleIds) request.newEvents) :=
  ⟨_, rfl, stored_eq_rebuilt_iff (asciiHost [] []) exampleIds [] _ (ensureTaskState exampleIds) _ rfl rfl
    fun _ => rfl⟩

/-! ### A write the rebuild does not find again -/

def firstGrant : TaskStateEvent where
  seq := 0
  kind := .known .constraintGranted
  contractRevision := 0
  occurredAt := epoch
  payload := [("constraint_id", .str "c1")]

def laterEvent : TaskStateEvent where
  seq := 0
  kind := .known .planInvalidated
  contractRevision := 0
  occurredAt := epoch
  payload := []

/-- A grant followed by `n` events of another kind. -/
def longWrite (n : Nat) : WriteRequest where
  sessionId := "s"
  newEvents := firstGrant :: List.replicate n laterEvent

theorem kind_of_mem_stamp {seq : Int} {events : List TaskStateEvent} {kind : EventKind}
    (h : ∀ event ∈ events, event.kind = kind) : ∀ event ∈ stamp seq events, event.kind = kind := by
  induction events generalizing seq with
  | nil => simp [stamp]
  | cons head rest ih =>
    intro event hm
    rcases List.mem_cons.mp hm with rfl | hm
    · exact h head List.mem_cons_self
    · exact ih (fun e he => h e (List.mem_cons_of_mem _ he)) event hm

theorem projection_constraints (st : FoldState) (ids : TaskIds) (revision : Int) :
    (st.projection host ids revision).constraints = st.constraints.sortedValues := rfl

theorem cite_constraints (st : FoldState) (value : String) :
    (st.cite host value).constraints = st.constraints := by
  unfold FoldState.cite
  split_ifs <;> rfl

theorem foldl_constraints {events : List TaskStateEvent} (taskId : String)
    (h : ∀ event ∈ events, event.kind = .known .planInvalidated) (st : FoldState) :
    (events.foldl (foldStep host taskId) st).constraints = st.constraints := by
  induction events generalizing st with
  | nil => rfl
  | cons event rest ih =>
    have hstep : (foldStep host taskId st event).constraints = st.constraints := by
      simp only [foldStep, h event List.mem_cons_self]
      split_ifs
      · exact cite_constraints host st _
      · exact cite_constraints host st _
    rw [List.foldl_cons, ih fun e he => h e (List.mem_cons_of_mem _ he), hstep]

theorem kind_of_mem_later {n : Nat} :
    ∀ event ∈ stamp 1 (List.replicate n laterEvent), event.kind = .known .planInvalidated :=
  kind_of_mem_stamp fun event hm => by rw [List.eq_of_mem_replicate hm, laterEvent]

/-- The grant falls out of the window such a write leaves. -/
theorem kind_of_mem_longWindow {n : Nat} (hn : n = 1997) (event : TaskStateEvent) (hm : event ∈
    storeWindow host (grownLog (ensureTaskState exampleIds) (longWrite n).newEvents)) :
    event.kind = .known .planInvalidated := by
  have hgrown := ((kept_ensureTaskState exampleIds).grown (longWrite n).newEvents).arranged host
  have hlog : grownLog (ensureTaskState exampleIds) (longWrite n).newEvents =
      {firstGrant with seq := 1} :: stamp 1 (List.replicate n laterEvent) := rfl
  rw [mem_storeWindow hgrown, List.mem_append, hlog] at hm
  rcases hm with hpin | hnew
  · have hkind := (mem_pins_iff.mp hpin).1
    rcases List.mem_cons.mp (pins_subset hpin) with rfl | hm
    · exact absurd hkind (by decide)
    · exact kind_of_mem_later event hm
  · have htailSize : tailSize maxTaskStateEventsPerFold = n := by rw [hn]; decide
    have hlength : (stamp 1 (List.replicate n laterEvent)).length = n := by
      rw [length_stamp, List.length_replicate]
    have hdrop : newest n ({firstGrant with seq := 1} :: stamp 1 (List.replicate n laterEvent)) =
        stamp 1 (List.replicate n laterEvent) := by
      rw [newest, List.length_cons, hlength, Nat.add_sub_cancel_left]
      rfl
    rw [htailSize, hdrop] at hnew
    exact kind_of_mem_later event hnew

theorem longWrite_stored_ne_rebuilt {n : Nat} (hn : n = 1997) :
    ∃ after, applyTaskStateEvents (asciiHost [] []) (ensureTaskState exampleIds) (longWrite n) = .ok after ∧
      after.row.projection ≠ (rebuildTaskState (asciiHost [] []) after).projection := by
  have hkept := kept_ensureTaskState exampleIds
  obtain ⟨after, hok⟩ : ∃ after, applyTaskStateEvents (asciiHost [] []) (ensureTaskState exampleIds)
      (longWrite n) = .ok after := hkept.succeeds (asciiHost [] []) rfl
  refine ⟨after, hok, fun heq => ?_⟩
  have hconstraints := congrArg TaskStateProjection.constraints heq
  rw [(stored_eq hok).1, (rebuilt_eq hkept hok).1, projection_constraints, projection_constraints]
    at hconstraints
  -- the write folds all its 1998 events
  have hfolded : retainedEvents (asciiHost [] []) maxTaskStateEventsPerFold
      (foldedEvents (ensureTaskState exampleIds) (longWrite n).newEvents) =
        {firstGrant with seq := 1} :: stamp 1 (List.replicate n laterEvent) := by
    rw [retainedEvents_folded hkept, foldedEvents_arranged hkept, if_neg]
    · rfl
    · show ¬ (2000 : Int) < (stamp 0 (longWrite n).newEvents).length
      rw [length_stamp, longWrite, List.length_cons, List.length_replicate, hn]
      decide
  have hstored := foldl_constraints (asciiHost [] []) (ensureTaskState exampleIds).row.projection.ids.taskId
    (@kind_of_mem_later n) (foldStep (asciiHost [] [])
      (ensureTaskState exampleIds).row.projection.ids.taskId {} {firstGrant with seq := 1})
  have hrebuilt := foldl_constraints (asciiHost [] []) (ensureTaskState exampleIds).row.projection.ids.taskId
    (kind_of_mem_longWindow (asciiHost [] []) hn) {}
  rw [hfolded, foldEvents, foldEvents, List.foldl_cons, hstored, hrebuilt] at hconstraints
  exact absurd hconstraints (by decide)

/-- A first write of 1998 events: the row keeps the constraint its oldest event grants,
the rebuild does not. -/
theorem stored_ne_rebuilt :
    ∃ after, applyTaskStateEvents (asciiHost [] []) (ensureTaskState exampleIds) (longWrite 1997) =
        .ok after ∧
      after.row.projection ≠ (rebuildTaskState (asciiHost [] []) after).projection :=
  longWrite_stored_ne_rebuilt rfl

end OpenTimeline.TaskState
