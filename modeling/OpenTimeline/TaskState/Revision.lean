import OpenTimeline.TaskState.Rebuild
import OpenTimeline.TaskState.Truncation

/-! The contract revision across a cut.

A truncated fold counts the objective changes of what it retains: of the dropped
part only the latest `OBJECTIVE_SET` and `OBJECTIVE_CLEARED` are left, and they
only where the newest events have none. So it counts at most one change of the
dropped part (`SameCount`), whatever the number there was, and the count is exact
precisely when that is right (`changes_window_iff`). Over a run of writes the
stored revision is then the log's own, and never falls. -/
namespace OpenTimeline.TaskState
open Library

variable (host : Host)

/-! ### Counting from another hash -/

/-- The first objective event sets the objective with this hash again. -/
def Restates (hash : Option String) (events : List TaskStateEvent) : Prop :=
  ∃ event, events.find? writesObjective = some event ∧ event.kind = .known .objectiveSet ∧
    setHash event = hash ∧ hash ≠ none

/-- Started without the hash in force, a count is one too high where the objective is
restated, and else the same. -/
theorem changes_none (hash : Option String) (events : List TaskStateEvent) :
    (Restates hash events → changes none events = changes hash events + 1) ∧
      (¬ Restates hash events → changes none events = changes hash events) := by
  induction events with
  | nil => exact ⟨fun ⟨_, h, _⟩ => by simp at h, fun _ => rfl⟩
  | cons event rest ih =>
    cases hwrites : writesObjective event with
    | false =>
      have hkinds : event.kind ≠ .known .objectiveSet ∧ event.kind ≠ .known .objectiveCleared := by
        simpa [writesObjective] using hwrites
      have hrestates : Restates hash (event :: rest) ↔ Restates hash rest := by
        simp [Restates, hwrites]
      have hafter : ∀ current, hashAfter current event = current := by
        intro current
        rw [hashAfter, if_neg hkinds.1, if_neg hkinds.2]
      have hneither : ∀ current, ¬ Effective current event := fun current h => hkinds.1 h.1
      rw [hrestates, changes, changes, if_neg (hneither _), if_neg (hneither _), hafter, hafter,
        Nat.zero_add, Nat.zero_add]
      exact ih
    | true =>
      have hrestates : Restates hash (event :: rest) ↔
          event.kind = .known .objectiveSet ∧ setHash event = hash ∧ hash ≠ none := by
        simp [Restates, hwrites]
      by_cases hset : event.kind = .known .objectiveSet
      · have hafter : ∀ current, hashAfter current event = setHash event := by
          intro current
          rw [hashAfter, if_pos hset]
        simp only [hrestates, changes, hafter, Effective, hset, true_and]
        by_cases hhash : setHash event = hash <;> by_cases hnone : hash = none <;>
          simp_all [Nat.add_comm]
      · have hcleared : event.kind = .known .objectiveCleared := by
          have hkinds : event.kind = .known .objectiveSet ∨ event.kind = .known .objectiveCleared := by
            simpa [writesObjective] using hwrites
          exact hkinds.resolve_left hset
        have hafter : ∀ current, hashAfter current event = none := by
          intro current
          rw [hashAfter, if_neg hset, if_pos hcleared]
        simp [hrestates, changes, hafter, Effective, hset]

/-- Without a change every `OBJECTIVE_SET` is without a hash. -/
theorem setHash_of_no_change {events : List TaskStateEvent} (h : changes none events = 0) :
    ∀ event ∈ events, event.kind = .known .objectiveSet → setHash event = none := by
  intro event hm hset
  obtain ⟨pre, suf, rfl⟩ := List.append_of_mem hm
  rw [changes_append, changes] at h
  rw [hash_of_no_change (by omega : changes none pre = 0)] at h
  by_contra hhash
  rw [if_pos ⟨hset, hhash, hhash⟩] at h
  omega

/-- With one `OBJECTIVE_SET`, the count is whether it has a hash. -/
theorem changes_of_one_set {events : List TaskStateEvent} {set : TaskStateEvent}
    (h : events.filter (fun event => event.kind = .known .objectiveSet) = [set]) :
    changes none events = if setHash set = none then 0 else 1 := by
  obtain ⟨pre, suf, rfl, hpre, hset, hsuf⟩ := List.filter_eq_cons_iff.mp h
  have hpre' : ∀ event ∈ pre, event.kind ≠ .known .objectiveSet := by simpa using hpre
  have hsuf' : ∀ event ∈ suf, event.kind ≠ .known .objectiveSet := by
    simpa [List.filter_eq_nil_iff] using hsuf
  have hkind : set.kind = .known .objectiveSet := by simpa using hset
  have hzero := changes_of_no_set hpre' none
  rw [changes_append, hzero, hash_of_no_change hzero, changes, changes_of_no_set hsuf']
  by_cases hhash : setHash set = none <;> simp [Effective, hkind, hhash]

/-! ### The count of a window -/

/-- The part before a cut has no objective change, or one that what is kept after the
cut counts again. -/
def SameCount (pre mid : List TaskStateEvent) : Prop :=
  changes none pre = 0 ∨ changes none pre = 1 ∧
    if ∃ event ∈ mid, event.kind = .known .objectiveSet then Restates (pre.foldl hashAfter none) mid
    else ∃ set, latest TaskStateEvent.kind (.known .objectiveSet) pre = some set ∧ setHash set ≠ none

section Window
variable {host} {maxEvents : Int} {log : List TaskStateEvent}

/-- Where the newest events set the objective, the window starts without a hash. -/
theorem changes_window_of_set (h : Arranged sortKey (dedupeKey host) log)
    (hset : ∃ event ∈ newestEvents maxEvents log, event.kind = .known .objectiveSet) :
    changes none (windowEvents host maxEvents log) = changes none log ↔
      SameCount (olderEvents maxEvents log) (newestEvents maxEvents log) := by
  have hkept := changes_of_no_set (keptPins_no_set h hset) none
  have hsplit : changes none log = changes none (olderEvents maxEvents log) +
      changes ((olderEvents maxEvents log).foldl hashAfter none) (newestEvents maxEvents log) := by
    rw [← changes_append, older_append_newestEvents]
  obtain ⟨hyes, hno⟩ := changes_none ((olderEvents maxEvents log).foldl hashAfter none)
    (newestEvents maxEvents log)
  rw [windowEvents_eq h, changes_append, hkept, hash_of_no_change hkept, hsplit, SameCount, if_pos hset]
  by_cases hrestates : Restates ((olderEvents maxEvents log).foldl hashAfter none) (newestEvents maxEvents log)
  · have hchanged : changes none (olderEvents maxEvents log) ≠ 0 := by
      intro hzero
      obtain ⟨_, _, _, _, hhash⟩ := hrestates
      exact hhash (hash_of_no_change hzero)
    rw [hyes hrestates]
    simp only [hrestates, and_true]
    omega
  · rw [hno hrestates]
    simp only [hrestates, and_false, or_false]
    omega

/-- Where they do not, it has the older part's latest `OBJECTIVE_SET` and no other. -/
theorem changes_window_of_no_set (h : Arranged sortKey (dedupeKey host) log)
    (hset : ¬ ∃ event ∈ newestEvents maxEvents log, event.kind = .known .objectiveSet) :
    changes none (windowEvents host maxEvents log) = changes none log ↔
      SameCount (olderEvents maxEvents log) (newestEvents maxEvents log) := by
  have hnewest : ∀ event ∈ newestEvents maxEvents log, event.kind ≠ .known .objectiveSet :=
    fun event hm hk => hset ⟨event, hm, hk⟩
  have hsplit : changes none log = changes none (olderEvents maxEvents log) := by
    rw [← older_append_newestEvents maxEvents log, changes_append,
      changes_of_no_set hnewest, older_append_newestEvents, Nat.add_zero]
  have hkept : (keptPins host maxEvents log).filter (fun event => event.kind = .known .objectiveSet) =
      (latest TaskStateEvent.kind (.known .objectiveSet) (olderEvents maxEvents log)).toList :=
    (h.kept_kind (by decide)).trans (if_pos (latest_eq_none_iff.mpr hnewest))
  rw [windowEvents_eq h, changes_append, changes_of_no_set hnewest, Nat.add_zero, hsplit, SameCount,
    if_neg hset]
  cases hlatest : latest TaskStateEvent.kind (.known .objectiveSet) (olderEvents maxEvents log) with
  | none =>
    rw [hlatest] at hkept
    have hpins : ∀ event ∈ keptPins host maxEvents log, event.kind ≠ .known .objectiveSet := by
      simpa [List.filter_eq_nil_iff] using hkept
    simp [changes_of_no_set hpins, changes_of_no_set (latest_eq_none_iff.mp hlatest)]
  | some set =>
    rw [hlatest] at hkept
    rw [changes_of_one_set hkept]
    by_cases hhash : setHash set = none
    · simp only [hhash, if_true, Option.some.injEq, exists_eq_left', ne_eq, not_true_eq_false,
        and_false, or_false]
      omega
    · have hchanged : changes none (olderEvents maxEvents log) ≠ 0 := by
        intro hzero
        obtain ⟨hm, hk⟩ := mem_of_latest hlatest
        exact hhash (setHash_of_no_change hzero set hm hk)
      simp only [hhash, if_false, Option.some.injEq, exists_eq_left', ne_eq, not_false_eq_true, and_true]
      omega

/-- A window counts the log's objective changes exactly when its cut is one of the two. -/
theorem changes_window_iff (h : Arranged sortKey (dedupeKey host) log) :
    changes none (windowEvents host maxEvents log) = changes none log ↔
      SameCount (olderEvents maxEvents log) (newestEvents maxEvents log) := by
  by_cases hset : ∃ event ∈ newestEvents maxEvents log, event.kind = .known .objectiveSet
  · exact changes_window_of_set h hset
  · exact changes_window_of_no_set h hset

/-- A window ends with the hash its log ends with. -/
theorem hash_window (h : Arranged sortKey (dedupeKey host) log) :
    (windowEvents host maxEvents log).foldl hashAfter none = log.foldl hashAfter none := by
  obtain ⟨P, hfilter, hP⟩ := windowEvents_filter h maxEvents
  have hobjective := congrArg Prod.snd (objective_filter host "" hP)
  rw [← hfilter] at hobjective
  rw [← foldEvents_hash host "", ← foldEvents_hash host ""]
  exact hobjective

end Window

/-! ### One fold -/

/-- A truncated fold has the contract revision of the complete one exactly when its cut
counts the same. -/
theorem contractRevision_truncated_iff (events : List TaskStateEvent) (ids : TaskIds)
    (revision maxEvents : Int) :
    (foldTaskState host events ids revision maxEvents).projection.contractRevision =
        changes none (orderedEvents host events) ↔
      (truncates maxEvents (orderedEvents host events) = true →
        SameCount (olderEvents maxEvents (orderedEvents host events))
          (newestEvents maxEvents (orderedEvents host events))) := by
  have hfold : (foldTaskState host events ids revision maxEvents).projection.contractRevision =
      changes none (retainedEvents host maxEvents events) := foldEvents_contractRevision host _ _
  rw [hfold, Nat.cast_inj, retainedEvents]
  cases htruncates : truncates maxEvents (orderedEvents host events) with
  | false => simp
  | true =>
    simp only [if_true, forall_const]
    exact changes_window_iff (arranged_orderedEvents host events)

/-! ### Runs of writes -/

/-- The cut a write folds across counts the same: that of the grown log where the write
truncates, and else that of what it loads. -/
def WriteKeepsCount (store : TaskStore) (new : List TaskStateEvent) : Prop :=
  if maxTaskStateEventsPerFold < (orderedEvents host (foldedEvents store new)).length then
    SameCount (olderEvents maxTaskStateEventsPerFold (grownLog store new))
      (newestEvents maxTaskStateEventsPerFold (grownLog store new))
  else SameCount (olderEvents maxTaskStateEventsPerFold store.events)
    (newestEvents maxTaskStateEventsPerFold store.events)

section Runs
variable {host} {store after : TaskStore}

theorem storeWindow_eq {log : List TaskStateEvent} (h : Arranged sortKey (dedupeKey host) log) :
    storeWindow host log = windowEvents host maxTaskStateEventsPerFold log := (windowEvents_eq h).symm

/-- A write stores the log's revision exactly when its cut counts the same. -/
theorem stored_contractRevision_iff {request : WriteRequest} (hkept : Kept store)
    (hok : applyTaskStateEvents host store request = .ok after) :
    after.row.projection.contractRevision = changes none after.events ↔
      WriteKeepsCount host store request.newEvents := by
  have hstored : after.row.projection.contractRevision = changes none
      (retainedEvents host maxTaskStateEventsPerFold (foldedEvents store request.newEvents)) := by
    rw [(stored_eq hok).1]
    exact foldEvents_contractRevision host _ _
  have hlog : after.events = grownLog store request.newEvents :=
    (hkept.applyTaskStateEvents host hok).2.1
  have hgrown := (hkept.grown request.newEvents).arranged host
  have hbefore := hkept.numbered.arranged host
  rw [hstored, Nat.cast_inj, retainedEvents_folded hkept, hlog, WriteKeepsCount]
  split_ifs
  · rw [storeWindow_eq hgrown]
    exact changes_window_iff hgrown
  · rw [storeWindow_eq hbefore, grownLog, changes_append, changes_append, hash_window hbefore,
      Nat.add_right_cancel_iff]
    exact changes_window_iff hbefore

/-- While every write counts the same, the stored revision is the log's, and grows. -/
theorem contractRevision_runWrites {requests : List WriteRequest} (hkept : Kept store)
    (hcount : store.row.projection.contractRevision = changes none store.events)
    (hevery : EveryWrite host (WriteKeepsCount host) store requests)
    (hrun : runWrites host store requests = .ok after) :
    after.row.projection.contractRevision = changes none after.events ∧
      store.row.projection.contractRevision ≤ after.row.projection.contractRevision := by
  induction requests generalizing store with
  | nil =>
    cases hrun
    exact ⟨hcount, le_refl _⟩
  | cons request rest ih =>
    obtain ⟨next, hstep, hrest⟩ := runWrites_cons host hrun
    obtain ⟨hnext, hlog, _⟩ := hkept.applyTaskStateEvents host hstep
    have hstored := (stored_contractRevision_iff hkept hstep).mpr hevery.1
    obtain ⟨hafter, hle⟩ := ih hnext hstored (hevery.2 next hstep) hrest
    refine ⟨hafter, le_trans ?_ hle⟩
    rw [hstored, hlog, hcount, changes_append]
    push_cast
    omega

end Runs

/-- The contract revision under truncation. A fold has that of the complete log exactly
when its cut counts the same, and so does the row after every write; and over a run
whose writes all do, the stored revision is always the log's, never falls, and
leaves no older stamp to come back. -/
theorem contractRevision_stable :
    (∀ (events : List TaskStateEvent) (ids : TaskIds) (revision maxEvents : Int),
      (completeFold host events ids revision).contractRevision =
          changes none (orderedEvents host events) ∧
        ((foldTaskState host events ids revision maxEvents).projection.contractRevision =
            (completeFold host events ids revision).contractRevision ↔
          (truncates maxEvents (orderedEvents host events) = true →
            SameCount (olderEvents maxEvents (orderedEvents host events))
              (newestEvents maxEvents (orderedEvents host events))))) ∧
    (∀ (ids : TaskIds) (requests : List WriteRequest) (last : WriteRequest) (before after : TaskStore),
      runWrites host (ensureTaskState ids) requests = .ok before →
      applyTaskStateEvents host before last = .ok after →
        (after.row.projection.contractRevision = changes none after.events ↔
          WriteKeepsCount host before last.newEvents)) ∧
    ∀ (ids : TaskIds) (requests more : List WriteRequest) (before after : TaskStore),
      runWrites host (ensureTaskState ids) requests = .ok before →
      runWrites host before more = .ok after →
      EveryWrite host (WriteKeepsCount host) (ensureTaskState ids) (requests ++ more) →
        after.row.projection.contractRevision = changes none after.events ∧
        before.row.projection.contractRevision ≤ after.row.projection.contractRevision ∧
        ∀ stamp < before.row.projection.contractRevision,
          stamp ≠ after.row.projection.contractRevision := by
  refine ⟨fun events ids revision maxEvents => ?_, fun ids requests last before after hrun hlast => ?_,
    fun ids requests more before after hrun hmore hevery => ?_⟩
  · have hcomplete : (completeFold host events ids revision).contractRevision =
        changes none (orderedEvents host events) := by
      rw [completeFold_eq]
      exact foldEvents_contractRevision host _ _
    refine ⟨hcomplete, ?_⟩
    rw [hcomplete]
    exact contractRevision_truncated_iff host events ids revision maxEvents
  · exact stored_contractRevision_iff ((kept_ensureTaskState ids).runWrites host hrun) hlast
  · have hkept := (kept_ensureTaskState ids).runWrites host hrun
    obtain ⟨hfirst, hrest⟩ := hevery.append host hrun
    obtain ⟨hbefore, _⟩ := contractRevision_runWrites (kept_ensureTaskState ids) rfl hfirst hrun
    obtain ⟨hafter, hle⟩ := contractRevision_runWrites hkept hbefore hrest hmore
    exact ⟨hafter, hle, fun stamp hstamp => ne_of_lt (lt_of_lt_of_le hstamp hle)⟩

theorem contractRevision_stable_first :
    ∃ after, runWrites (asciiHost [] []) (ensureTaskState exampleIds) [{sessionId := "s", newEvents := [firstSet]}] =
        .ok after ∧ after.row.projection.contractRevision = changes none after.events :=
  ⟨_, rfl, ((contractRevision_stable (asciiHost [] [])).2.2 exampleIds [] [{sessionId := "s", newEvents := [firstSet]}]
    (ensureTaskState exampleIds) _ rfl rfl ⟨Or.inl rfl, fun _ _ => trivial⟩).1⟩

/-- Two changes of objective, the first one cut off: the truncated fold counts one. -/
theorem contractRevision_lost :
    (foldTaskState (asciiHost [] []) (cutLog droppedChange "done") exampleIds 6 5).projection.contractRevision =
        1 ∧
      (completeFold (asciiHost [] []) (cutLog droppedChange "done") exampleIds 6).contractRevision = 2 := by
  decide

end OpenTimeline.TaskState
