import OpenTimeline.TaskState.Accumulators

/-! The contract revision counts objective changes.

A change is an `OBJECTIVE_SET` event with a hash that differs from the one in
force (`Effective`). `changes` counts them along a log, and the fold's contract
revision is that count (`foldEvents_contractRevision`): it depends on the
objective events alone, and never decreases along a log. -/
namespace OpenTimeline.TaskState
open Library

variable (host : Host) (taskId : String)

/-- The hash an `OBJECTIVE_SET` event carries. -/
def setHash (event : TaskStateEvent) : Option String := optText (event.payload.get "objective_hash")

theorem setHash_ne_empty (event : TaskStateEvent) : setHash event ≠ some "" := by
  unfold setHash optText
  split_ifs with h
  · simp
  · simpa using h

/-- An objective change, under the hash in force. -/
def Effective (current : Option String) (event : TaskStateEvent) : Prop :=
  event.kind = .known .objectiveSet ∧ setHash event ≠ none ∧ setHash event ≠ current

instance (current : Option String) (event : TaskStateEvent) : Decidable (Effective current event) :=
  inferInstanceAs (Decidable (_ ∧ _))

/-- The hash in force after an event. -/
def hashAfter (current : Option String) (event : TaskStateEvent) : Option String :=
  if event.kind = .known .objectiveSet then setHash event
  else if event.kind = .known .objectiveCleared then none
  else current

/-- The number of objective changes along a log. -/
def changes (current : Option String) : List TaskStateEvent → Nat
  | [] => 0
  | event :: rest => (if Effective current event then 1 else 0) + changes (hashAfter current event) rest

@[simp] theorem changes_nil (current : Option String) : changes current [] = 0 := rfl

theorem changes_append (current : Option String) (a b : List TaskStateEvent) :
    changes current (a ++ b) = changes current a + changes (a.foldl hashAfter current) b := by
  induction a generalizing current with
  | nil => simp
  | cons event rest ih =>
    rw [List.cons_append, List.foldl_cons, changes, changes, ih]
    omega

theorem changes_of_no_set {events : List TaskStateEvent}
    (h : ∀ event ∈ events, event.kind ≠ .known .objectiveSet) (current : Option String) :
    changes current events = 0 := by
  induction events generalizing current with
  | nil => rfl
  | cons event rest ih =>
    rw [changes, if_neg fun heffective => h event List.mem_cons_self heffective.1,
      ih fun e he => h e (List.mem_cons_of_mem _ he)]

/-- Without a change no hash comes into force. -/
theorem hash_of_no_change {events : List TaskStateEvent} (h : changes none events = 0) :
    events.foldl hashAfter none = none := by
  induction events with
  | nil => rfl
  | cons event rest ih =>
    simp only [changes, Nat.add_eq_zero_iff] at h
    have hafter : hashAfter none event = none := by
      unfold hashAfter
      split_ifs with hset
      · by_contra hhash
        rw [if_pos ⟨hset, hhash, hhash⟩] at h
        exact absurd h.1 (by decide)
      · rfl
      · rfl
    rw [List.foldl_cons, hafter]
    rw [hafter] at h
    exact ih h.2

theorem pinnedStep_hash (st : FoldState) (event : TaskStateEvent) :
    (pinnedStep st event).objectiveHash = hashAfter st.objectiveHash event := by
  unfold pinnedStep hashAfter
  split
  case h_1 hk => rw [if_pos hk]; rfl
  case h_2 hk => rw [hk]; rfl
  case h_3 hk => rw [hk]; rfl
  case h_4 hset hcleared _ => rw [if_neg hset, if_neg hcleared]

theorem objectiveContractRevision_eq (current : Int) (inForce : Option String) (event : TaskStateEvent)
    (hk : event.kind = .known .objectiveSet) : objectiveContractRevision current inForce (setHash event) =
      current + if Effective inForce event then 1 else 0 := by
  unfold objectiveContractRevision Effective
  by_cases hnone : setHash event = none
  · simp [hnone]
  · by_cases hsame : setHash event = inForce
    · simp [hsame]
    · simp [hk, hnone, hsame, setHash_ne_empty event]

theorem pinnedStep_contractRevision (st : FoldState) (event : TaskStateEvent) :
    (pinnedStep st event).contractRevision =
      st.contractRevision + if Effective st.objectiveHash event then 1 else 0 := by
  unfold pinnedStep
  split
  case h_1 hk => exact objectiveContractRevision_eq _ _ event hk
  case h_2 hk => simp [Effective, hk]
  case h_3 hk => simp [Effective, hk, FoldState.cancellationRequested]
  case h_4 hset _ _ =>
    rw [if_neg (fun h => hset h.1)]
    simp

theorem foldl_hash (st : FoldState) (events : List TaskStateEvent) :
    (events.foldl (foldStep host taskId) st).objectiveHash = events.foldl hashAfter st.objectiveHash := by
  induction events generalizing st with
  | nil => rfl
  | cons event rest ih =>
    have hstep : (foldStep host taskId st event).objectiveHash = hashAfter st.objectiveHash event := by
      have h := congrArg FoldState.objectiveHash (foldStep_pinned host taskId st event)
      rwa [pinnedStep_hash] at h
    rw [List.foldl_cons, ih, hstep, List.foldl_cons]

/-- Folding on counts on. -/
theorem foldl_contractRevision (st : FoldState) (events : List TaskStateEvent) :
    (events.foldl (foldStep host taskId) st).contractRevision =
      st.contractRevision + changes st.objectiveHash events := by
  induction events generalizing st with
  | nil => simp
  | cons event rest ih =>
    have hrevision : (foldStep host taskId st event).contractRevision =
        st.contractRevision + if Effective st.objectiveHash event then 1 else 0 := by
      have h := congrArg FoldState.contractRevision (foldStep_pinned host taskId st event)
      rwa [pinnedStep_contractRevision] at h
    have hhash := foldl_hash host taskId st [event]
    rw [List.foldl_cons, List.foldl_nil, List.foldl_cons, List.foldl_nil] at hhash
    rw [List.foldl_cons, ih, hrevision, hhash, changes]
    push_cast
    split_ifs <;> omega

theorem foldEvents_hash (events : List TaskStateEvent) :
    (foldEvents host taskId events).objectiveHash = events.foldl hashAfter none :=
  foldl_hash host taskId {} events

/-- The contract revision is the number of objective changes in the log. -/
theorem foldEvents_contractRevision (events : List TaskStateEvent) :
    (foldEvents host taskId events).contractRevision = changes none events := by
  have h := foldl_contractRevision host taskId {} events
  rw [Int.zero_add] at h
  exact h

/-- A longer log has a revision at least as high. -/
theorem contractRevision_append (a b : List TaskStateEvent) :
    (foldEvents host taskId (a ++ b)).contractRevision =
      (foldEvents host taskId a).contractRevision +
        changes (foldEvents host taskId a).objectiveHash b := by
  rw [foldEvents_append, foldl_contractRevision]

theorem contractRevision_le_append (a b : List TaskStateEvent) :
    (foldEvents host taskId a).contractRevision ≤ (foldEvents host taskId (a ++ b)).contractRevision := by
  rw [contractRevision_append]
  omega

/-- An effective `OBJECTIVE_SET` starts the next revision. -/
theorem contractRevision_effective (pre suf : List TaskStateEvent) (event : TaskStateEvent)
    (h : Effective (foldEvents host taskId pre).objectiveHash event) :
    (foldEvents host taskId (pre ++ event :: suf)).contractRevision =
      (foldEvents host taskId pre).contractRevision + 1 + changes (setHash event) suf := by
  have hafter : hashAfter (foldEvents host taskId pre).objectiveHash event = setHash event := by
    unfold hashAfter
    rw [if_pos h.1]
  rw [contractRevision_append, changes, if_pos h, hafter]
  push_cast
  omega

end OpenTimeline.TaskState
