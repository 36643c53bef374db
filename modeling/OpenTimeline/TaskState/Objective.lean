import OpenTimeline.TaskState.Contract

/-! The objective and the cancellation, read off a log.

Both are written by pinned kinds alone, so the fold's objective is the one the
latest objective event left (`foldEvents_objective`, `foldEvents_setPlace`), and a
cancellation is on record when no later objective is dated after it
(`cancelPlace_iff`). A selection
of a log that keeps its latest pinned events therefore shows the same objective,
and every cancellation the log shows. -/
namespace OpenTimeline.TaskState
open Library

variable (host : Host) (taskId : String)

/-! ### The objective -/

/-- `OBJECTIVE_SET` or `OBJECTIVE_CLEARED`. -/
def writesObjective (event : TaskStateEvent) : Bool :=
  event.kind ∈ [EventKind.known .objectiveSet, .known .objectiveCleared]

def FoldState.objective (st : FoldState) : String × Option String := (st.objectiveText, st.objectiveHash)

/-- The text and hash an objective event leaves. -/
def objectiveAfter (event : TaskStateEvent) : String × Option String :=
  if event.kind = .known .objectiveSet then
    (text (event.payload.get "objective_text") "", setHash event)
  else ("", none)

theorem pinnedStep_objective (st : FoldState) (event : TaskStateEvent) :
    (pinnedStep st event).objective =
      if writesObjective event then objectiveAfter event else st.objective := by
  unfold pinnedStep writesObjective objectiveAfter
  split
  case h_1 hk => simp [hk, FoldState.objectiveSet, FoldState.objective, setHash]
  case h_2 hk => simp [hk, FoldState.objective]
  case h_3 hk => simp [hk, FoldState.cancellationRequested, FoldState.objective]
  case h_4 hset hcleared _ =>
    rw [if_neg]
    simpa using ⟨hset, hcleared⟩

/-- When and where the objective was set. -/
def FoldState.setPlace (st : FoldState) : Option Instant × Int := (st.objectiveSetAt, st.objectiveSetSeq)

theorem pinnedStep_setPlace (st : FoldState) (event : TaskStateEvent) :
    (pinnedStep st event).setPlace =
      if event.kind = .known .objectiveSet then (some event.occurredAt, event.seq) else st.setPlace := by
  unfold pinnedStep
  split
  case h_1 hk => simp [hk, FoldState.objectiveSet, FoldState.setPlace]
  case h_2 hk => simp [hk, FoldState.setPlace]
  case h_3 hk => simp [hk, FoldState.cancellationRequested, FoldState.setPlace]
  case h_4 hset _ _ => rw [if_neg hset]

/-- The fold's objective is the one the latest objective event left. -/
theorem foldEvents_objective (log : List TaskStateEvent) :
    (foldEvents host taskId log).objective =
      ((latest writesObjective true log).map objectiveAfter).getD ("", none) := by
  induction log using List.reverseRecOn with
  | nil => rfl
  | append_singleton log event ih =>
    have hstep : (foldEvents host taskId (log ++ [event])).objective =
        if writesObjective event then objectiveAfter event
        else (foldEvents host taskId log).objective := by
      have h := congrArg FoldState.objective
        (foldStep_pinned host taskId (foldEvents host taskId log) event)
      rw [pinnedStep_objective, ← foldEvents_snoc] at h
      exact h
    rw [hstep, latest_append]
    cases hwrites : writesObjective event with
    | true => simp [latest, hwrites]
    | false => simpa [latest, hwrites] using ih

theorem foldEvents_setPlace (log : List TaskStateEvent) :
    (foldEvents host taskId log).setPlace =
      ((latest TaskStateEvent.kind (.known .objectiveSet) log).map
        fun event => (some event.occurredAt, event.seq)).getD (none, 0) := by
  induction log using List.reverseRecOn with
  | nil => rfl
  | append_singleton log event ih =>
    have hstep : (foldEvents host taskId (log ++ [event])).setPlace =
        if event.kind = .known .objectiveSet then (some event.occurredAt, event.seq)
        else (foldEvents host taskId log).setPlace := by
      have h := congrArg FoldState.setPlace
        (foldStep_pinned host taskId (foldEvents host taskId log) event)
      rw [pinnedStep_setPlace, ← foldEvents_snoc] at h
      exact h
    rw [hstep, latest_append]
    by_cases hset : event.kind = .known .objectiveSet
    · simp [latest, hset]
    · simpa [latest, hset] using ih

/-! ### The cancellation -/

/-- `cancel` stands over what follows it: no later cancel, and no objective set at a
later time. -/
def Stands (cancel : TaskStateEvent) (rest : List TaskStateEvent) : Prop :=
  ∀ event ∈ rest, event.kind ≠ .known .cancellationRequested ∧
    (event.kind = .known .objectiveSet →
      ¬ Later (event.occurredAt, event.seq) (cancel.occurredAt, cancel.seq))

/-- The cancellation on record. -/
def FoldState.cancelPlace (st : FoldState) : Option (Instant × Int) :=
  st.cancelledAt.map fun at' => (at', st.cancelledSeq)

theorem pinnedStep_cancelPlace (st : FoldState) (event : TaskStateEvent) :
    (pinnedStep st event).cancelPlace =
      if event.kind = .known .cancellationRequested then some (event.occurredAt, event.seq)
      else if event.kind = .known .objectiveSet then
        st.cancelPlace.filter fun place => ¬ Later (event.occurredAt, event.seq) place
      else st.cancelPlace := by
  unfold pinnedStep
  split
  case h_1 hk =>
    simp only [hk, FoldState.objectiveSet, FoldState.cancelPlace]
    cases st.cancelledAt with
    | none => rfl
    | some at' => by_cases h : Later (event.occurredAt, event.seq) (at', st.cancelledSeq) <;>
      simp [h, Option.filter_some]
  case h_2 hk => simp [hk, FoldState.cancelPlace]
  case h_3 hk => simp [hk, FoldState.cancellationRequested, FoldState.cancelPlace]
  case h_4 hset _ hcancel => rw [if_neg hcancel, if_neg hset]

theorem foldStep_cancelPlace (st : FoldState) (event : TaskStateEvent) :
    (foldStep host taskId st event).cancelPlace = (pinnedStep st event).cancelPlace := by
  have h := congrArg FoldState.cancelPlace (foldStep_pinned host taskId st event)
  rw [pinnedStep_cancelPlace] at h ⊢
  exact h

/-- The cancellation on record is the log's latest, and stands. -/
theorem cancelPlace_iff (log : List TaskStateEvent) (place : Instant × Int) :
    (foldEvents host taskId log).cancelPlace = some place ↔
      ∃ pre cancel suf, log = pre ++ cancel :: suf ∧ cancel.kind = .known .cancellationRequested ∧
        Stands cancel suf ∧ place = (cancel.occurredAt, cancel.seq) := by
  induction log using List.reverseRecOn with
  | nil => simp [foldEvents, FoldState.cancelPlace]
  | append_singleton log event ih =>
    rw [foldEvents_snoc, foldStep_cancelPlace, pinnedStep_cancelPlace]
    by_cases hcancel : event.kind = .known .cancellationRequested
    · rw [if_pos hcancel, Option.some.injEq]
      constructor
      · rintro rfl
        exact ⟨log, event, [], rfl, hcancel, by simp [Stands], rfl⟩
      · rintro ⟨pre, cancel, suf, hsplit, hk, hstands, rfl⟩
        rcases snoc_eq_split_iff.mp hsplit with ⟨_, _, rfl⟩ | ⟨suf', rfl, _⟩
        · rfl
        · exact absurd hcancel (hstands event (by simp)).1
    · rw [if_neg hcancel]
      have hstep : (∃ pre cancel suf, log ++ [event] = pre ++ cancel :: suf ∧
          cancel.kind = .known .cancellationRequested ∧ Stands cancel suf ∧
            place = (cancel.occurredAt, cancel.seq)) ↔
          (foldEvents host taskId log).cancelPlace = some place ∧
            (event.kind = .known .objectiveSet → ¬ Later (event.occurredAt, event.seq) place) := by
        rw [ih]
        constructor
        · rintro ⟨pre, cancel, suf, hsplit, hk, hstands, rfl⟩
          rcases snoc_eq_split_iff.mp hsplit with ⟨_, _, rfl⟩ | ⟨suf', rfl, hlog⟩
          · exact absurd hk hcancel
          · exact ⟨⟨pre, cancel, suf', hlog, hk, fun e he => hstands e (by simp [he]), rfl⟩,
              (hstands event (by simp)).2⟩
        · rintro ⟨⟨pre, cancel, suf, rfl, hk, hstands, rfl⟩, hset⟩
          refine ⟨pre, cancel, suf ++ [event], by simp, hk, fun e he => ?_, rfl⟩
          rcases List.mem_append.mp he with he | he
          · exact hstands e he
          · rw [List.mem_singleton.mp he]
            exact ⟨hcancel, hset⟩
      rw [hstep]
      by_cases hset : event.kind = .known .objectiveSet
      · simp [hset, Option.filter_eq_some_iff]
      · simp [hset]

theorem cancelled_iff (st : FoldState) : st.parts.cancelled = true ↔
    ∃ place, st.cancelPlace = some place ∧ Later place (st.setPlace.1.getD 0, st.setPlace.2) := by
  unfold StatusInputs.cancelled FoldState.cancelPlace FoldState.parts
  cases st.cancelledAt with
  | none => simp
  | some at' => simp [FoldState.setPlace]

/-! ### Selections that keep the pinned events -/

/-- `P` keeps the latest event of every pinned kind. -/
def KeepsPinned (P : TaskStateEvent → Bool) (log : List TaskStateEvent) : Prop :=
  ∀ kind ∈ pinnedKinds, ∀ event, latest TaskStateEvent.kind kind log = some event → P event = true

section KeepsPinned
variable {P : TaskStateEvent → Bool} {log : List TaskStateEvent}

theorem setPlace_filter (hP : KeepsPinned P log) :
    (foldEvents host taskId (log.filter P)).setPlace = (foldEvents host taskId log).setPlace := by
  rw [foldEvents_setPlace, foldEvents_setPlace, latest_filter (hP _ (by decide))]

theorem objective_filter (hP : KeepsPinned P log) :
    (foldEvents host taskId (log.filter P)).objective = (foldEvents host taskId log).objective := by
  rw [foldEvents_objective, foldEvents_objective, latest_filter]
  intro last hlast
  obtain ⟨pre, suf, rfl, hwrites, hsuf⟩ := exists_split_of_latest hlast
  have hkind : last.kind = .known .objectiveSet ∨ last.kind = .known .objectiveCleared := by
    simpa [writesObjective] using hwrites
  -- the last objective event is also the latest of its own kind
  refine hP last.kind ?_ last (latest_split rfl fun event he hsame => ?_)
  · rcases hkind with h | h <;> rw [h] <;> decide
  · refine hsuf event he ?_
    rw [writesObjective, hsame]
    exact hwrites

theorem cancelled_filter (hP : KeepsPinned P log)
    (h : (foldEvents host taskId log).parts.cancelled = true) :
    (foldEvents host taskId (log.filter P)).parts.cancelled = true := by
  rw [cancelled_iff] at h ⊢
  obtain ⟨place, hplace, hlater⟩ := h
  refine ⟨place, ?_, by rwa [setPlace_filter host taskId hP]⟩
  rw [cancelPlace_iff] at hplace ⊢
  obtain ⟨pre, cancel, suf, rfl, hk, hstands, rfl⟩ := hplace
  have hkept : P cancel = true :=
    hP _ (by decide) cancel (latest_split hk fun event he => (hstands event he).1)
  refine ⟨pre.filter P, cancel, suf.filter P, ?_, hk, ?_, rfl⟩
  · rw [List.filter_append, List.filter_cons_of_pos hkept]
  · exact fun event he => hstands event (List.mem_of_mem_filter he)

end KeepsPinned
end OpenTimeline.TaskState
