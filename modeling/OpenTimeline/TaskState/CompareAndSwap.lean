import OpenTimeline.Library.Transition
import OpenTimeline.TaskState.Store

/-! The compare-and-swap protocol.

Any number of writers read the row and its window, prepare a write and swap it in,
in any interleaving. A writer runs its section as `run_cas_section` does: a
retryable `OperationalError` inside it is retried once from the top, one from
`BEGIN IMMEDIATE` itself is not; a revision conflict is retried once where the
caller asked for it and the fresh row passes its revalidation. The write lock that
`BEGIN IMMEDIATE` takes is not modelled: the guard proved here is the revision in
the WHERE clause and the unique seqs.

What carries the result is that a writer's snapshot is never ahead of the row, and
is the row itself as long as the revision is the same (`Writer.Fresh`). -/
namespace OpenTimeline.TaskState
open Library

variable (host : Host)

/-! ### Writers -/

inductive Phase
  | idle
  | opened
  | loaded (row : TaskStateRow) (prior : List TaskStateEvent)
  | prepared (write : TaskStateWrite) (priorHighestSeq : Int)
  | done
  | failed (error : StoreError)

structure Writer where
  /-- What the section runs, each time from the top. -/
  request : WriteRequest
  /-- The arguments of the call in progress. -/
  current : WriteRequest
  attempts : Nat
  phase : Phase

def Writer.start (request : WriteRequest) : Writer := ⟨request, request, 0, .idle⟩

inductive WriterAction
  | begin
  /-- `BEGIN IMMEDIATE` raises. -/
  | busy
  | load
  | prepare
  | commit
  /-- A statement of the section raises. -/
  | raises (retryable : Bool)
deriving DecidableEq, Repr

/-- The arguments `_revalidated_retry` recurses with. -/
def WriteRequest.retried (request : WriteRequest) : WriteRequest :=
  {request with expectedRevision := none, retryOnce := false, revalidate := none}

/-- A conflict, on the row as it stands. -/
def Writer.conflict (w : Writer) (row : TaskStateRow) (error : StoreError) : Writer :=
  if w.current.retryOnce then
    match w.current.revalidated row with
    | .error e => {w with phase := .failed e}
    | .ok () => {w with current := w.current.retried, phase := .opened}
  else {w with phase := .failed error}

/-- The section is rolled back, and run again at most once. -/
def Writer.rollback (w : Writer) (retryable : Bool) : Writer :=
  if retryable && w.attempts ≤ 1 then {w with current := w.request, phase := .idle}
  else {w with phase := .failed .operational}

/-- A writer's next step, with the store it commits. -/
def Writer.act (store : TaskStore) (w : Writer) (action : WriterAction) :
    Option (Writer × Option TaskStore) :=
  match action, w.phase with
  | .begin, .idle => some ({w with attempts := w.attempts + 1, phase := .opened}, none)
  | .busy, .idle => some ({w with phase := .failed .operational}, none)
  | .load, .opened =>
    if w.current.stale store.row then
      some (w.conflict store.row
        (.revisionConflict (w.current.expectedRevision.getD 0) store.row.revision), none)
    else
      let prior := loadTaskStateEvents maxTaskStateEventsPerFold store.events
      some ({w with phase := .loaded store.row prior}, none)
  | .prepare, .loaded row prior =>
    some ({w with phase := .prepared (w.current.prepare host row prior) row.highestSeq}, none)
  | .commit, .prepared write priorHighestSeq =>
    match commitWrite store write priorHighestSeq with
    | .ok after => some ({w with phase := .done}, some after)
    | .error (.revisionConflict expected actual) =>
      some (w.conflict store.row (.revisionConflict expected actual), none)
    | .error e => some ({w with phase := .failed e}, none)
  | .raises retryable, .opened => some (w.rollback retryable, none)
  | .raises retryable, .loaded _ _ => some (w.rollback retryable, none)
  | .raises retryable, .prepared _ _ => some (w.rollback retryable, none)
  | _, _ => none

/-! ### The protocol -/

structure CasState (ι : Type) where
  store : TaskStore
  writers : ι → Writer
  /-- The writers that committed, oldest first, with the rows each inserted. -/
  commits : List (ι × List TaskStateEvent)

variable {ι : Type} [DecidableEq ι]

def CasState.next (s : CasState ι) (a : ι × WriterAction) : Option (CasState ι) :=
  match (s.writers a.1).act host s.store a.2 with
  | none => none
  | some (writer, none) => some {s with writers := Function.update s.writers a.1 writer}
  | some (writer, some store) =>
    some {
      store
      writers := Function.update s.writers a.1 writer
      commits := s.commits ++ [(a.1, store.events.drop s.store.events.length)] }

/-- Writers at work on one task. -/
def casSystem (ids : TaskIds) (requests : ι → WriteRequest) : System (CasState ι) (ι × WriterAction) where
  init s := s = ⟨ensureTaskState ids, fun id => .start (requests id), []⟩
  next := CasState.next host

/-! ### One step -/

/-- A snapshot is never ahead of the row, and of the same revision it is the row. -/
def Writer.Fresh (store : TaskStore) (w : Writer) : Prop :=
  match w.phase with
  | .loaded row _ => row.revision ≤ store.row.revision ∧
      (row.revision = store.row.revision → row.highestSeq = store.row.highestSeq)
  | .prepared write priorHighestSeq =>
    write.events = stamp priorHighestSeq w.request.newEvents ∧
      write.nextRevision = write.expectedRevision + 1 ∧
      write.expectedRevision ≤ store.row.revision ∧
      (write.expectedRevision = store.row.revision → priorHighestSeq = store.row.highestSeq)
  | _ => True

/-- Between its sections, and before it reads, a writer holds no snapshot. -/
def Phase.Bare : Phase → Prop
  | .idle | .opened | .failed _ => True
  | _ => False

theorem Writer.fresh_of_bare {w : Writer} (h : w.phase.Bare) (store : TaskStore) :
    w.Fresh store ∧ w.phase ≠ .done := by
  unfold Fresh
  cases hphase : w.phase <;> rw [hphase] at h <;> simp [Phase.Bare] at h ⊢

theorem Writer.conflict_spec (w : Writer) (row : TaskStateRow) (error : StoreError) :
    (w.conflict row error).request = w.request ∧
      (w.conflict row error).current.newEvents = w.current.newEvents ∧
      (w.conflict row error).phase.Bare := by
  unfold conflict
  split_ifs
  · cases w.current.revalidated row with
    | error e => exact ⟨rfl, rfl, trivial⟩
    | ok => exact ⟨rfl, rfl, trivial⟩
  · exact ⟨rfl, rfl, trivial⟩

theorem Writer.rollback_spec (w : Writer) (retryable : Bool)
    (hcurrent : w.current.newEvents = w.request.newEvents) :
    (w.rollback retryable).request = w.request ∧
      (w.rollback retryable).current.newEvents = w.request.newEvents ∧
      (w.rollback retryable).phase.Bare := by
  unfold rollback
  split_ifs
  · exact ⟨rfl, rfl, trivial⟩
  · exact ⟨rfl, hcurrent, trivial⟩

/-- A step that commits nothing. -/
structure Writer.Keeps (store : TaskStore) (w w' : Writer) : Prop where
  request : w'.request = w.request
  current : w'.current.newEvents = w.request.newEvents
  fresh : w'.Fresh store
  notDone : w'.phase ≠ .done

theorem Writer.keeps_of_bare {store : TaskStore} {w w' : Writer} (hrequest : w'.request = w.request)
    (hcurrent : w'.current.newEvents = w.request.newEvents) (hbare : w'.phase.Bare) :
    w.Keeps store w' :=
  ⟨hrequest, hcurrent, (fresh_of_bare hbare store).1, (fresh_of_bare hbare store).2⟩

/-- What a writer's step does: it commits the write it prepared, or leaves the store. -/
theorem Writer.act_cases {store : TaskStore} {w : Writer} {action : WriterAction} {w' : Writer}
    {committed : Option TaskStore} (h : w.act host store action = some (w', committed))
    (hcurrent : w.current.newEvents = w.request.newEvents) (hfresh : w.Fresh store) :
    w.phase ≠ .done ∧ ((committed = none ∧ w.Keeps store w') ∨
      ∃ write priorHighestSeq after, w.phase = .prepared write priorHighestSeq ∧
        commitWrite store write priorHighestSeq = .ok after ∧ committed = some after ∧
        w' = {w with phase := .done}) := by
  unfold act at h
  split at h
  case h_1 hphase =>
    cases h
    exact ⟨by simp [hphase], Or.inl ⟨rfl, keeps_of_bare rfl hcurrent trivial⟩⟩
  case h_2 hphase =>
    cases h
    exact ⟨by simp [hphase], Or.inl ⟨rfl, keeps_of_bare rfl hcurrent trivial⟩⟩
  case h_3 hphase =>
    refine ⟨by simp [hphase], Or.inl ?_⟩
    split_ifs at h
    · cases h
      obtain ⟨hrequest, hevents, hbare⟩ := w.conflict_spec store.row
        (.revisionConflict (w.current.expectedRevision.getD 0) store.row.revision)
      exact ⟨rfl, keeps_of_bare hrequest (hevents.trans hcurrent) hbare⟩
    · cases h
      exact ⟨rfl, rfl, hcurrent, ⟨le_refl _, fun _ => rfl⟩, by simp⟩
  case h_4 row prior hphase =>
    cases h
    rw [Fresh, hphase] at hfresh
    refine ⟨by simp [hphase], Or.inl ⟨rfl, rfl, hcurrent, ⟨?_, rfl, hfresh.1, hfresh.2⟩, by simp⟩⟩
    exact congrArg (stamp row.highestSeq) hcurrent
  case h_5 write priorHighestSeq hphase =>
    refine ⟨by simp [hphase], ?_⟩
    split at h
    case h_1 after hcommit =>
      cases h
      exact Or.inr ⟨write, priorHighestSeq, after, hphase, hcommit, rfl, rfl⟩
    case h_2 expected actual _ =>
      cases h
      obtain ⟨hrequest, hevents, hbare⟩ := w.conflict_spec store.row (.revisionConflict expected actual)
      exact Or.inl ⟨rfl, keeps_of_bare hrequest (hevents.trans hcurrent) hbare⟩
    case h_3 =>
      cases h
      exact Or.inl ⟨rfl, keeps_of_bare rfl hcurrent trivial⟩
  case h_6 retryable hphase =>
    cases h
    obtain ⟨hrequest, hevents, hbare⟩ := w.rollback_spec retryable hcurrent
    exact ⟨by simp [hphase], Or.inl ⟨rfl, keeps_of_bare hrequest hevents hbare⟩⟩
  case h_7 retryable _ _ hphase =>
    cases h
    obtain ⟨hrequest, hevents, hbare⟩ := w.rollback_spec retryable hcurrent
    exact ⟨by simp [hphase], Or.inl ⟨rfl, keeps_of_bare hrequest hevents hbare⟩⟩
  case h_8 retryable _ _ hphase =>
    cases h
    obtain ⟨hrequest, hevents, hbare⟩ := w.rollback_spec retryable hcurrent
    exact ⟨by simp [hphase], Or.inl ⟨rfl, keeps_of_bare hrequest hevents hbare⟩⟩
  case h_9 => cases h

/-! ### Every reachable state -/

structure CasInv (requests : ι → WriteRequest) (s : CasState ι) : Prop where
  kept : Kept s.store
  revision : s.store.row.revision = s.commits.length
  events : s.store.events = s.commits.flatMap Prod.snd
  once : (s.commits.map Prod.fst).Nodup
  committed : ∀ id, id ∈ s.commits.map Prod.fst ↔ (s.writers id).phase = .done
  batches : ∀ entry ∈ s.commits, ∃ seq, entry.2 = stamp seq (requests entry.1).newEvents
  request : ∀ id, (s.writers id).request = requests id
  current : ∀ id, (s.writers id).current.newEvents = (s.writers id).request.newEvents
  fresh : ∀ id, (s.writers id).Fresh s.store

variable {host} {ids : TaskIds} {requests : ι → WriteRequest}

theorem casInv_init {s : CasState ι} (h : (casSystem host ids requests).init s) : CasInv requests s := by
  cases (show s = _ from h)
  exact {
    kept := kept_ensureTaskState ids
    revision := rfl
    events := rfl
    once := List.nodup_nil
    committed := fun id => by simp [Writer.start]
    batches := by simp
    request := fun id => rfl
    current := fun id => rfl
    fresh := fun id => trivial }

/-- A step that commits nothing keeps the invariant. -/
theorem CasInv.keeps {s : CasState ι} (h : CasInv requests s) {id : ι} {w' : Writer}
    (hphase : (s.writers id).phase ≠ .done) (hkeeps : (s.writers id).Keeps s.store w') :
    CasInv requests {s with writers := Function.update s.writers id w'} where
  kept := h.kept
  revision := h.revision
  events := h.events
  once := h.once
  committed other := by
    by_cases hother : other = id
    · subst hother
      simp only [Function.update_self, h.committed, hphase, hkeeps.notDone]
    · simp only [Function.update_of_ne hother, h.committed]
  batches := h.batches
  request other := by
    by_cases hother : other = id
    · subst hother
      simp only [Function.update_self, hkeeps.request, h.request]
    · simp only [Function.update_of_ne hother, h.request]
  current other := by
    by_cases hother : other = id
    · subst hother
      simp only [Function.update_self, hkeeps.current, hkeeps.request]
    · simp only [Function.update_of_ne hother, h.current]
  fresh other := by
    by_cases hother : other = id
    · subst hother
      simp only [Function.update_self]
      exact hkeeps.fresh
    · simp only [Function.update_of_ne hother]
      exact h.fresh other

/-- A snapshot stays behind a row that moves on. -/
theorem Writer.Fresh.advance {store after : TaskStore} {w : Writer} (h : w.Fresh store)
    (hrevision : after.row.revision = store.row.revision + 1) : w.Fresh after := by
  unfold Writer.Fresh at h ⊢
  cases hphase : w.phase with
  | loaded row prior =>
    rw [hphase] at h
    exact ⟨by have := h.1; omega, fun hsame => by have := h.1; omega⟩
  | prepared write priorHighestSeq =>
    rw [hphase] at h
    obtain ⟨hevents, hnext, hle, _⟩ := h
    exact ⟨hevents, hnext, by omega, fun hsame => by omega⟩
  | idle => trivial
  | opened => trivial
  | done => trivial
  | failed => trivial

/-- A writer that swaps its write in appends its own events, numbered on, once. -/
theorem CasInv.commits {s : CasState ι} (h : CasInv requests s) {id : ι} {write : TaskStateWrite}
    {priorHighestSeq : Int} {after : TaskStore}
    (hphase : (s.writers id).phase = .prepared write priorHighestSeq)
    (hcommit : commitWrite s.store write priorHighestSeq = .ok after) :
    CasInv requests
      { store := after
        writers := Function.update s.writers id {s.writers id with phase := .done}
        commits := s.commits ++ [(id, after.events.drop s.store.events.length)] } := by
  have hfresh := h.fresh id
  rw [Writer.Fresh, hphase] at hfresh
  obtain ⟨hstamped, hnext, _, hsnapshot⟩ := hfresh
  obtain ⟨hevents, hcas, _⟩ := commitWrite_ok hcommit
  obtain ⟨hrevision, hprojection, _, _⟩ := casUpdate_some hcas
  -- the row is the one read, so the events are numbered on from its highest seq
  have hprior : priorHighestSeq = s.store.row.highestSeq := hsnapshot hrevision.symm
  have hafter : after.row.revision = s.store.row.revision + 1 := by
    rw [hrevision, ← hnext]
    exact congrArg TaskStateProjection.revision hprojection
  have hbatch : after.events.drop s.store.events.length = write.events := by
    rw [hevents, List.drop_left]
  have hnew : id ∉ s.commits.map Prod.fst := by
    rw [h.committed, hphase]
    exact fun hdone => nomatch hdone
  rw [hbatch]
  exact {
    kept := by
      rw [hprior] at hcommit
      exact h.kept.of_commitWrite (hstamped ▸ hprior ▸ numbered_stamp _ _) hcommit
    revision := by
      simp only [List.length_append, List.length_singleton, hafter, h.revision]
      push_cast
      rfl
    events := by
      simp only [List.flatMap_append, List.flatMap_singleton, hevents, h.events]
    once := by
      rw [List.map_append, List.nodup_append]
      refine ⟨h.once, List.nodup_singleton _, fun a ha b hb => ?_⟩
      rw [List.map_singleton, List.mem_singleton] at hb
      have hid : a ≠ id := fun hid => hnew (hid ▸ ha)
      exact hb ▸ hid
    committed := fun other => by
      by_cases hother : other = id
      · subst hother
        simp
      · simp only [Function.update_of_ne hother, List.map_append, List.map_singleton,
          List.mem_append, List.mem_singleton, hother, or_false, h.committed]
    batches := fun entry hentry => by
      rcases List.mem_append.mp hentry with hold | hnow
      · exact h.batches entry hold
      · rw [List.mem_singleton] at hnow
        subst hnow
        exact ⟨priorHighestSeq, by rw [hstamped, h.request]⟩
    request := fun other => by
      by_cases hother : other = id
      · subst hother
        simp only [Function.update_self, h.request]
      · simp only [Function.update_of_ne hother, h.request]
    current := fun other => by
      by_cases hother : other = id
      · subst hother
        simp only [Function.update_self, h.current]
      · simp only [Function.update_of_ne hother, h.current]
    fresh := fun other => by
      by_cases hother : other = id
      · subst hother
        simp only [Function.update_self]
        trivial
      · simp only [Function.update_of_ne hother]
        exact (h.fresh other).advance hafter }

/-- What a step of the protocol is. -/
theorem next_cases {s s' : CasState ι} {id : ι} {action : WriterAction} (h : CasInv requests s)
    (hnext : s.next host (id, action) = some s') :
    (s.writers id).phase ≠ .done ∧
      ((∃ w', s' = {s with writers := Function.update s.writers id w'} ∧ (s.writers id).Keeps s.store w') ∨
        ∃ write priorHighestSeq after, (s.writers id).phase = .prepared write priorHighestSeq ∧
          commitWrite s.store write priorHighestSeq = .ok after ∧
          s' = {
            store := after
            writers := Function.update s.writers id {s.writers id with phase := .done}
            commits := s.commits ++ [(id, after.events.drop s.store.events.length)] }) := by
  unfold CasState.next at hnext
  split at hnext
  case h_1 => cases hnext
  case h_2 w' hact =>
    cases hnext
    obtain ⟨hphase, ⟨_, hkeeps⟩ | ⟨_, _, _, _, _, hsome, _⟩⟩ :=
      Writer.act_cases host hact (h.current id) (h.fresh id)
    · exact ⟨hphase, Or.inl ⟨w', rfl, hkeeps⟩⟩
    · cases hsome
  case h_3 w' store hact =>
    cases hnext
    obtain ⟨hphase, ⟨hnone, _⟩ | ⟨write, priorHighestSeq, after, hprepared, hcommit, hsome, hw'⟩⟩ :=
      Writer.act_cases host hact (h.current id) (h.fresh id)
    · cases hnone
    · cases hsome
      exact ⟨hphase, Or.inr ⟨write, priorHighestSeq, store, hprepared, hcommit, by rw [hw']⟩⟩

theorem casInv_reachable {s : CasState ι} (h : (casSystem host ids requests).Reachable s) :
    CasInv requests s := by
  refine h.invariant (fun s => casInv_init) fun s a s' _ hinv hnext => ?_
  obtain ⟨id, action⟩ := a
  obtain ⟨hphase, ⟨w', rfl, hkeeps⟩ | ⟨write, priorHighestSeq, after, hprepared, hcommit, rfl⟩⟩ :=
    next_cases hinv hnext
  · exact hinv.keeps hphase hkeeps
  · exact hinv.commits hprepared hcommit

/-- In every reachable state of the writers' protocol: the revision counts the writes that
succeeded, each of them once; the seqs are 1 to the highest, each once; the table is the
batches of those writes, numbered, and every event of a batch is in it exactly once; and a
step that does not complete its writer's write leaves the row and the table as they were. -/
theorem cas_protocol {s : CasState ι} (h : (casSystem host ids requests).Reachable s) :
    s.store.row.revision = s.commits.length ∧
      (s.commits.map Prod.fst).Nodup ∧
      (∀ id, id ∈ s.commits.map Prod.fst ↔ (s.writers id).phase = .done) ∧
      s.store.events.map (·.seq) =
        (List.range s.store.row.highestSeq.toNat).map (fun i : Nat => (i : Int) + 1) ∧
      s.store.events = s.commits.flatMap Prod.snd ∧
      (∀ entry ∈ s.commits, (∃ seq, entry.2 = stamp seq (requests entry.1).newEvents) ∧
        ∀ event ∈ entry.2, s.store.events.filter (fun other => other.seq = event.seq) = [event]) ∧
      ∀ id action s', (casSystem host ids requests).next s (id, action) = some s' →
        (s'.writers id).phase ≠ .done → s'.store = s.store ∧ s'.commits = s.commits := by
  have hinv := casInv_reachable h
  refine ⟨hinv.revision, hinv.once, hinv.committed, ?_, hinv.events, fun entry hentry => ?_, ?_⟩
  · rw [hinv.kept.numbered.map_seq, hinv.kept.highest, Int.toNat_natCast]
    refine List.map_congr_left fun i _ => ?_
    ring
  · refine ⟨hinv.batches entry hentry, fun event hevent => hinv.kept.numbered.filter_seq ?_⟩
    rw [hinv.events]
    exact List.mem_flatMap_of_mem hentry hevent
  · intro id action s' hnext hphase
    obtain ⟨_, ⟨w', rfl, _⟩ | ⟨write, priorHighestSeq, after, _, _, rfl⟩⟩ := next_cases hinv hnext
    · exact ⟨rfl, rfl⟩
    · exact absurd (by simp) hphase

def raceRequest : WriteRequest where
  sessionId := "s"
  newEvents :=
    [{seq := 0, kind := .known .constraintGranted, contractRevision := 0, occurredAt := epoch,
        payload := [("constraint_id", .str "c1")]}]

/-- Two writers read the first row; `true` swaps its write in before `false` tries to. -/
def race : Option (CasState Bool) :=
  (casSystem (asciiHost [] []) exampleIds fun _ => raceRequest).run
    ⟨ensureTaskState exampleIds, fun _ => .start raceRequest, []⟩
    [(false, .begin), (false, .load), (true, .begin), (true, .load), (true, .prepare), (true, .commit),
      (false, .prepare), (false, .commit)]

theorem cas_protocol_race : ∃ s, race = some s ∧ s.commits.map Prod.fst = [true] ∧
    s.store.row.revision = s.commits.length := by
  obtain ⟨s, hs⟩ := Option.isSome_iff_exists.mp (show race.isSome by decide)
  have hreachable : (casSystem (asciiHost [] []) exampleIds fun _ : Bool => raceRequest).Reachable s :=
    (System.Reachable.init rfl).run hs
  have hcommits : race.map (fun s => s.commits.map Prod.fst) = some [true] := by decide
  rw [hs] at hcommits
  exact ⟨s, hs, Option.some.inj hcommits, (cas_protocol hreachable).1⟩

end OpenTimeline.TaskState
