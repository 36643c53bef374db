import OpenTimeline.TaskState.Truncation

/-! What a replay depends on, and what every window shows.

A log says everything once it is known which events are in it: where an event is told by its seq, the order a log
is read in and how often it holds an event change nothing (`foldTaskState_congr`). The objective and the
cancellation are written by pinned kinds only, and where no event is dated before an earlier one, the latest event
of each is enough to tell them, so every window shows the complete fold's (`foldTaskState_identity`). -/
namespace OpenTimeline.TaskState
open Library

variable (host : Host) (taskId : String)

/-! ### The set of events -/

/-- Events of one seq are one event. -/
def ToldBySeq (events : List TaskStateEvent) : Prop := ∀ a ∈ events, ∀ b ∈ events, a.seq = b.seq → a = b

theorem mem_orderedEvents {events : List TaskStateEvent} (h : ToldBySeq events) (event : TaskStateEvent) :
    event ∈ orderedEvents host events ↔ event ∈ events := by
  refine ⟨mem_of_mem_arrange, fun hm => ?_⟩
  obtain ⟨kept, hkept, hkey⟩ := List.mem_map.mp
    ((key_mem_arrange sortKey (dedupeKey host) events _).mpr (List.mem_map_of_mem hm))
  obtain rfl := h kept (mem_of_mem_arrange hkept) event hm (congrArg Prod.fst hkey)
  exact hkept

theorem orderedEvents_congr {events events' : List TaskStateEvent} (h : ToldBySeq events)
    (hsame : ∀ event, event ∈ events ↔ event ∈ events') :
    orderedEvents host events = orderedEvents host events' := by
  have h' : ToldBySeq events' := fun a ha b hb => h a ((hsame a).mpr ha) b ((hsame b).mpr hb)
  refine (arranged_orderedEvents host events).ext (arranged_orderedEvents host events') fun event => ?_
  rw [mem_orderedEvents host h, mem_orderedEvents host h', hsame]

/-- The fold of a log whose events are told by their seqs depends on which events are in it only: not on their
order, and not on how often each is there. -/
theorem foldTaskState_congr (events events' : List TaskStateEvent) (ids : TaskIds) (revision maxEvents : Int)
    (h : ToldBySeq events) (hsame : ∀ event, event ∈ events ↔ event ∈ events') :
    foldTaskState host events ids revision maxEvents = foldTaskState host events' ids revision maxEvents := by
  simp only [foldTaskState, retainedEvents, orderedEvents_congr host h hsame]

theorem toldBySeq_doneLog : ToldBySeq doneLog := by
  unfold ToldBySeq doneLog
  intro a ha b hb hseq
  simp only [List.mem_cons, List.not_mem_nil, or_false] at ha hb
  rcases ha with rfl | rfl | rfl <;> rcases hb with rfl | rfl | rfl <;> first | rfl | cases hseq

theorem foldTaskState_congr_doneLog :
    foldTaskState (asciiHost [] []) doneLog exampleIds 3 2000 =
      foldTaskState (asciiHost [] []) (doneLog.reverse ++ doneLog) exampleIds 3 2000 :=
  foldTaskState_congr (asciiHost [] []) doneLog (doneLog.reverse ++ doneLog) exampleIds 3 2000 toldBySeq_doneLog
    fun event => by rw [List.mem_append, List.mem_reverse, or_self]

/-! ### The cancellation -/

/-- When and where the task was cancelled, and why. -/
def FoldState.cancellation (st : FoldState) : Option Instant × Int × String := (st.cancelledAt, st.cancelledSeq, st.cancelReason)

/-- An objective set that takes the cancellation back. -/
def Revives (cancel event : TaskStateEvent) : Prop :=
  event.kind = .known .objectiveSet ∧ Later (event.occurredAt, event.seq) (cancel.occurredAt, cancel.seq)

instance (cancel event : TaskStateEvent) : Decidable (Revives cancel event) := inferInstanceAs (Decidable (_ ∧ _))

def cancellationOf (cancel : TaskStateEvent) : Option Instant × Int × String :=
  (({} : FoldState).cancellationRequested cancel).cancellation

/-- The cancellation that stands after the events that follow a cancel. -/
def cancellationAfter (cancel : TaskStateEvent) (rest : List TaskStateEvent) : Option Instant × Int × String :=
  if ∃ event ∈ rest, Revives cancel event then (none, 0, "") else cancellationOf cancel

theorem foldStep_cancellation (st : FoldState) (event : TaskStateEvent) :
    (foldStep host taskId st event).cancellation = (pinnedStep st event).cancellation := by
  have hpinned : ∀ st : FoldState, st.pinned.cancellation = st.cancellation := fun _ => rfl
  have hread : (pinnedStep st.pinned event).cancellation = (pinnedStep st event).cancellation := by
    unfold pinnedStep
    split <;> rfl
  rw [← hpinned (foldStep host taskId st event), foldStep_pinned, hread]

theorem pinnedStep_cancellation_none {st : FoldState} {event : TaskStateEvent}
    (hk : event.kind ≠ .known .cancellationRequested) (h : st.cancellation = (none, 0, "")) :
    (pinnedStep st event).cancellation = (none, 0, "") := by
  simp only [FoldState.cancellation, Prod.mk.injEq] at h
  unfold pinnedStep
  split
  case h_1 => simp [FoldState.objectiveSet, FoldState.cancellation, h]
  case h_2 => simp [FoldState.cancellation, h]
  case h_3 hcancel => exact absurd hcancel hk
  case h_4 => simp [FoldState.cancellation, h]

theorem pinnedStep_cancellation_some {st : FoldState} {cancel event : TaskStateEvent}
    (hk : event.kind ≠ .known .cancellationRequested) (h : st.cancellation = cancellationOf cancel) :
    (pinnedStep st event).cancellation = if Revives cancel event then (none, 0, "") else cancellationOf cancel := by
  have hplace : st.cancelledAt = some cancel.occurredAt ∧ st.cancelledSeq = cancel.seq :=
    ⟨congrArg Prod.fst h, congrArg (fun c => c.2.1) h⟩
  unfold pinnedStep
  split
  case h_1 hset =>
    by_cases hlater : Later (event.occurredAt, event.seq) (cancel.occurredAt, cancel.seq)
    · rw [if_pos ⟨hset, hlater⟩]
      simp [FoldState.objectiveSet, FoldState.cancellation, hplace, hlater]
    · rw [if_neg fun hrevives => hlater hrevives.2, ← h]
      simp [FoldState.objectiveSet, FoldState.cancellation, hplace, hlater]
  case h_2 hcleared =>
    rw [if_neg fun hrevives => absurd (hcleared.symm.trans hrevives.1) (by decide), ← h]
    rfl
  case h_3 hcancel => exact absurd hcancel hk
  case h_4 hset _ _ => rw [if_neg fun hrevives => hset hrevives.1, h]

theorem foldl_cancellation_none {st : FoldState} {rest : List TaskStateEvent}
    (hrest : ∀ event ∈ rest, event.kind ≠ .known .cancellationRequested) (h : st.cancellation = (none, 0, "")) :
    (rest.foldl (foldStep host taskId) st).cancellation = (none, 0, "") := by
  induction rest generalizing st with
  | nil => exact h
  | cons event rest ih =>
    refine ih (fun e he => hrest e (List.mem_cons_of_mem _ he)) ?_
    rw [foldStep_cancellation]
    exact pinnedStep_cancellation_none (hrest event List.mem_cons_self) h

theorem foldl_cancellation_some {st : FoldState} {cancel : TaskStateEvent} {rest : List TaskStateEvent}
    (hrest : ∀ event ∈ rest, event.kind ≠ .known .cancellationRequested) (h : st.cancellation = cancellationOf cancel) :
    (rest.foldl (foldStep host taskId) st).cancellation = cancellationAfter cancel rest := by
  induction rest generalizing st with
  | nil => simpa [cancellationAfter] using h
  | cons event rest ih =>
    have hevent := hrest event List.mem_cons_self
    have hafter := fun e he => hrest e (List.mem_cons_of_mem _ he)
    have hstep := pinnedStep_cancellation_some hevent h
    rw [← foldStep_cancellation host taskId] at hstep
    by_cases hrevives : Revives cancel event
    · rw [if_pos hrevives] at hstep
      rw [List.foldl_cons, foldl_cancellation_none host taskId hafter hstep, cancellationAfter,
        if_pos ⟨event, List.mem_cons_self, hrevives⟩]
    · rw [if_neg hrevives] at hstep
      rw [List.foldl_cons, ih hafter hstep]
      simp only [cancellationAfter, List.exists_mem_cons_iff, hrevives, false_or]

/-- The fold's cancellation is the latest cancel's, unless an objective set after it revives the task. -/
theorem foldEvents_cancellation (pre suf : List TaskStateEvent) {cancel : TaskStateEvent}
    (hk : cancel.kind = .known .cancellationRequested)
    (hsuf : ∀ event ∈ suf, event.kind ≠ .known .cancellationRequested) :
    (foldEvents host taskId (pre ++ cancel :: suf)).cancellation = cancellationAfter cancel suf := by
  rw [← List.singleton_append, ← List.append_assoc, foldEvents_append]
  refine foldl_cancellation_some host taskId hsuf ?_
  rw [foldEvents_snoc, foldStep_cancellation, pinnedStep, hk]
  rfl

/-! ### Windows -/

/-- No event is dated before an event of a lower seq. -/
def Dated (events : List TaskStateEvent) : Prop :=
  ∀ a ∈ events, ∀ b ∈ events, a.seq ≤ b.seq → a.occurredAt ≤ b.occurredAt

theorem seq_le_of_sortKey {a b : TaskStateEvent} (h : sortKey a < sortKey b) : a.seq ≤ b.seq := by
  obtain hseq | ⟨hseq, -⟩ := Prod.Lex.lt_iff.mp h
  · exact le_of_lt hseq
  · exact le_of_eq hseq

theorem later_of_le {cancel event last : TaskStateEvent} (hseq : event.seq ≤ last.seq)
    (hdate : event.occurredAt ≤ last.occurredAt)
    (h : Later (event.occurredAt, event.seq) (cancel.occurredAt, cancel.seq)) :
    Later (last.occurredAt, last.seq) (cancel.occurredAt, cancel.seq) := by
  unfold Later at h ⊢
  dsimp only at h ⊢
  obtain h | ⟨hsame, h⟩ := h
  · exact Or.inl (lt_of_lt_of_le h hdate)
  · obtain hlt | heq := lt_or_eq_of_le (hsame ▸ hdate)
    · exact Or.inl hlt
    · exact Or.inr ⟨heq.symm, lt_of_lt_of_le h hseq⟩

section Window
variable {host} {P : TaskStateEvent → Bool} {log : List TaskStateEvent}

/-- The latest objective revives the task if any objective does. -/
theorem revives_filter (hP : KeepsPinned P log) (h : Arranged sortKey (dedupeKey host) log) (hdated : Dated log)
    {pre suf : List TaskStateEvent} {cancel : TaskStateEvent} (hlog : log = pre ++ cancel :: suf) :
    (∃ event ∈ suf.filter P, Revives cancel event) ↔ ∃ event ∈ suf, Revives cancel event := by
  constructor
  · rintro ⟨event, hm, hrevives⟩
    exact ⟨event, List.mem_of_mem_filter hm, hrevives⟩
  · rintro ⟨event, hm, hset, hlater⟩
    obtain ⟨last, hlast⟩ := Option.ne_none_iff_exists'.mp
      fun hnone => latest_eq_none_iff.mp hnone event hm hset
    obtain ⟨before, after, rfl, hkind, hafter⟩ := exists_split_of_latest hlast
    have hsplit : log = (pre ++ cancel :: before) ++ last :: after := by simp [hlog]
    have hkept : P last = true := hP _ (by decide) last (hsplit ▸ latest_split hkind hafter)
    refine ⟨last, List.mem_filter.mpr ⟨by simp, hkept⟩, hkind, ?_⟩
    obtain hbefore | rfl | hafter' := by simpa using hm
    · have hlt : sortKey event < sortKey last :=
        (List.pairwise_append.mp (hsplit ▸ h.sorted)).2.2 event (by simp [hbefore]) last List.mem_cons_self
      have hseq := seq_le_of_sortKey hlt
      exact later_of_le hseq (hdated event (by simp [hsplit, hbefore]) last (by simp [hsplit]) hseq) hlater
    · exact hlater
    · exact absurd hset (hafter event hafter')

theorem cancellation_filter (hP : KeepsPinned P log) (h : Arranged sortKey (dedupeKey host) log) (hdated : Dated log) :
    (foldEvents host taskId (log.filter P)).cancellation = (foldEvents host taskId log).cancellation := by
  cases hlatest : latest TaskStateEvent.kind (.known .cancellationRequested) log with
  | none =>
    have hnone := latest_eq_none_iff.mp hlatest
    rw [foldEvents, foldEvents, foldl_cancellation_none host taskId hnone rfl,
      foldl_cancellation_none host taskId (fun event hm => hnone event (List.mem_of_mem_filter hm)) rfl]
  | some cancel =>
    obtain ⟨pre, suf, hlog, hk, hsuf⟩ := exists_split_of_latest hlatest
    have hkept : P cancel = true := hP _ (by decide) cancel hlatest
    have hrevives := revives_filter hP h hdated hlog
    rw [hlog, List.filter_append, List.filter_cons_of_pos hkept, foldEvents_cancellation host taskId pre suf hk hsuf,
      foldEvents_cancellation host taskId _ _ hk fun event hm => hsuf event (List.mem_of_mem_filter hm)]
    simp only [cancellationAfter, hrevives]

end Window

/-- Every window shows the complete fold's objective and cancellation, where no event is dated before an event of a
lower seq. -/
theorem foldTaskState_identity (events : List TaskStateEvent) (ids : TaskIds) (revision maxEvents : Int)
    (hdated : Dated events) :
    let window := (foldTaskState host events ids revision maxEvents).projection
    let complete := completeFold host events ids revision
    (window.objectiveText = complete.objectiveText ∧ window.objectiveHash = complete.objectiveHash ∧
      window.objectiveSetAt = complete.objectiveSetAt ∧ window.objectiveSetSeq = complete.objectiveSetSeq) ∧
    window.cancelledAt = complete.cancelledAt ∧ window.cancelledSeq = complete.cancelledSeq ∧
      window.cancelReason = complete.cancelReason := by
  intro window complete
  let log := orderedEvents host events
  have harranged : Arranged sortKey (dedupeKey host) log := arranged_orderedEvents host events
  have hdated' : Dated log := fun a ha b hb => hdated a (mem_of_mem_arrange ha) b (mem_of_mem_arrange hb)
  obtain ⟨P, hretained, hP⟩ : ∃ P, retainedEvents host maxEvents events = log.filter P ∧ KeepsPinned P log := by
    simp only [retainedEvents]
    split_ifs
    · exact windowEvents_filter harranged maxEvents
    · exact ⟨fun _ => true, (List.filter_true _).symm, fun _ _ _ _ => rfl⟩
  have hobjective := objective_filter host ids.taskId hP
  have hplace := setPlace_filter host ids.taskId hP
  have hcancellation := cancellation_filter ids.taskId hP harranged hdated'
  rw [← hretained] at hobjective hplace hcancellation
  have hcomplete : complete = _ := completeFold_eq host events ids revision
  rw [hcomplete]
  exact ⟨⟨congrArg Prod.fst hobjective, congrArg Prod.snd hobjective, congrArg Prod.fst hplace, congrArg Prod.snd hplace⟩,
    congrArg Prod.fst hcancellation, congrArg (fun c => c.2.1) hcancellation, congrArg (fun c => c.2.2) hcancellation⟩

/-- Of three events a window of two keeps the objective only. -/
theorem foldTaskState_identity_doneLog :
    (foldTaskState (asciiHost [] []) doneLog exampleIds 3 2).projection.objectiveText =
      (completeFold (asciiHost [] []) doneLog exampleIds 3).objectiveText :=
  (foldTaskState_identity (asciiHost [] []) doneLog exampleIds 3 2 (by unfold Dated; decide)).1.1

end OpenTimeline.TaskState
