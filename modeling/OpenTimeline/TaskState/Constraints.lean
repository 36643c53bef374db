import OpenTimeline.TaskState.Blocked
import OpenTimeline.TaskState.Rebuild

/-! The constraints of a task, and the permits they come from.

Permits are reconciled with a task by a diff: a permit the projection has no constraint of is granted, and one that
is revoked revokes its constraint (`reconcileConstraintEvents`). The events of a diff touch one constraint each, so
what they leave is known permit by permit (`lookup_reconciled`), and a second diff finds nothing, as long as the log
is folded whole (`reconcile_converges`). Constraints of other permits stay as they are, and so do the terms of a
constraint that is held already. -/
namespace OpenTimeline.TaskState
open Library

variable (host : Host) (taskId : String)

/-! ### The constraints of a fold -/

def constraintsStep (constraints : Dict String ApprovedConstraint) (event : TaskStateEvent) : Dict String ApprovedConstraint :=
  match event.kind with
  | .known .constraintGranted =>
    match constraintFromJson host event.payload with
    | none => constraints
    | some constraint => constraints.insert constraint.constraintId constraint
  | .known .constraintRevoked => (({constraints} : FoldState).constraintRevoked host event).constraints
  | _ => constraints

theorem cites_constraints (st : FoldState) (values : List String) :
    (values.foldl (FoldState.cite host) st).constraints = st.constraints := by
  induction values generalizing st with
  | nil => rfl
  | cons value rest ih => rw [List.foldl_cons, ih, cite_constraints]

theorem stepEvent_constraints (st : FoldState) (kind : TaskStateEventKind) (event : TaskStateEvent) :
    (st.stepEvent host kind event).constraints = st.constraints := by
  simp only [FoldState.stepEvent]
  cases st.steps.lookup (integer host (event.payload.get "step_index") (-1)) with
  | none => rfl
  | some step =>
    dsimp only
    cases stepAfter host kind event step <;> rfl

theorem applyKind_constraints (st : FoldState) (kind : TaskStateEventKind) (event : TaskStateEvent)
    (hk : event.kind = .known kind) :
    (applyKind host taskId st kind event).constraints = constraintsStep host st.constraints event := by
  unfold constraintsStep
  rw [hk]
  cases kind
  case constraintGranted =>
    simp only [applyKind]
    cases constraintFromJson host event.payload <;> rfl
  case constraintRevoked =>
    simp only [applyKind, FoldState.constraintRevoked]
    cases st.constraints.lookup (text (event.payload.get "constraint_id") "") <;> rfl
  case decisionOpened =>
    simp only [applyKind]
    cases decisionFromJson host event.payload <;> rfl
  case decisionResolved =>
    simp only [applyKind, FoldState.decisionResolved]
    cases st.decisions.lookup (text (event.payload.get "decision_id") "") <;> rfl
  case planRequested =>
    simp only [applyKind, FoldState.planRequested]
    split_ifs <;> rfl
  case effectRecorded =>
    simp only [applyKind]
    cases effectFromJson host event.payload <;> rfl
  case verificationRecorded =>
    simp only [applyKind, FoldState.verificationRecorded]
    cases verificationFromJson host event.payload with
    | none => rfl
    | some ref => exact cites_constraints host _ _
  case stepStarted => exact stepEvent_constraints host st .stepStarted event
  case stepCompleted => exact stepEvent_constraints host st .stepCompleted event
  case stepBlocked => exact stepEvent_constraints host st .stepBlocked event
  case stepDropped => exact stepEvent_constraints host st .stepDropped event
  all_goals rfl

theorem foldStep_constraints (st : FoldState) (event : TaskStateEvent) :
    (foldStep host taskId st event).constraints =
      if superseded st.contractRevision event then st.constraints else constraintsStep host st.constraints event := by
  have hcite := cite_constraints host st (event.sourceEventId.getD "")
  have hrevision := contractRevision_of_core (cite_core host st (event.sourceEventId.getD ""))
  simp only [foldStep, hrevision]
  cases hk : event.kind with
  | unknown name =>
    have hnone : constraintsStep host st.constraints event = st.constraints := by simp only [constraintsStep, hk]
    rw [hnone, ite_self]
    exact hcite
  | known kind =>
    dsimp only
    split_ifs
    · exact hcite
    · rw [applyKind_constraints host taskId _ kind event hk, hcite]

/-- Every constraint sits under its own id. -/
theorem constraintsStep_keyed {constraints : Dict String ApprovedConstraint}
    (h : Dict.Keyed ApprovedConstraint.constraintId constraints) (event : TaskStateEvent) :
    Dict.Keyed ApprovedConstraint.constraintId (constraintsStep host constraints event) := by
  unfold constraintsStep
  split
  · cases constraintFromJson host event.payload with
    | none => exact h
    | some constraint => exact h.insert constraint
  · simp only [FoldState.constraintRevoked]
    cases hheld : constraints.lookup (text (event.payload.get "constraint_id") "") with
    | none => exact h
    | some existing =>
      dsimp only
      rw [← h _ _ hheld]
      exact h.insert { existing with
        revokedAt := some ((dtFromJson host (event.payload.get "revoked_at")).getD event.occurredAt)
        reason := orElse (text (event.payload.get "reason") existing.reason) existing.reason }
  · exact h

theorem foldEvents_constraints_keyed (events : List TaskStateEvent) :
    Dict.Keyed ApprovedConstraint.constraintId (foldEvents host taskId events).constraints := by
  induction events using List.reverseRecOn with
  | nil => exact Dict.keyed_empty
  | append_singleton events event ih =>
    rw [foldEvents_snoc, foldStep_constraints]
    split_ifs
    · exact ih
    · exact constraintsStep_keyed host ih event

/-! ### Permits -/

section Permits
variable (isoformat : Instant → String)

/-- `_text(row.get("id") or row.get("constraint_id"))` -/
def permitConstraintId (row : Payload) : String := text ((row.get "id").or (row.get "constraint_id")) ""

/-- `_dt_to_json` -/
def dtToJson (at' : Option Instant) : Json :=
  match at' with
  | none => .null
  | some at' => .str (isoformat at')

/-- The constraint of a permit under a contract, granted by `now` at the latest. -/
def permitConstraint (contractRevision : Int) (now : Instant) (row : Payload) : ApprovedConstraint where
  constraintId := permitConstraintId row
  kind := orElse (text (row.get "kind") "permit") "permit"
  scopeDigest := text (row.get "scope_digest") ""
  contractRevision
  grantedAt := (dtFromJson host ((row.get "granted_at").or (row.get "created_at"))).getD now
  expiresAt := dtFromJson host (row.get "expires_at")
  revokedAt := dtFromJson host (row.get "revoked_at")
  reason := text (row.get "reason") ""

/-- The payload a permit is granted with. -/
def ApprovedConstraint.toPayload (constraint : ApprovedConstraint) : Payload :=
  [("constraint_id", .str constraint.constraintId), ("kind", .str constraint.kind),
    ("scope_digest", .str constraint.scopeDigest), ("contract_revision", .int constraint.contractRevision),
    ("granted_at", dtToJson isoformat (some constraint.grantedAt)), ("expires_at", dtToJson isoformat constraint.expiresAt),
    ("revoked_at", dtToJson isoformat constraint.revokedAt), ("reason", .str constraint.reason)]

/-- The reason a constraint is revoked with. -/
def revocationReason (existing : ApprovedConstraint) (row : Payload) : String :=
  orElse (text (row.get "reason") existing.reason) existing.reason

/-- The event one permit calls for, by the constraints that are known. -/
def reconcileRow (contractRevision : Int) (known : Dict String ApprovedConstraint) (now : Instant) (row : Payload) :
    Option TaskStateEvent :=
  let constraintId := permitConstraintId row
  if constraintId = "" then none
  else match known.lookup constraintId with
  | none =>
    some {
      seq := 0
      kind := .known .constraintGranted
      contractRevision
      payload := (permitConstraint host contractRevision now row).toPayload isoformat
      occurredAt := now
      actor := "system" }
  | some existing =>
    match dtFromJson host (row.get "revoked_at"), existing.revokedAt with
    | some revokedAt, none =>
      some {
        seq := 0
        kind := .known .constraintRevoked
        contractRevision
        payload := [("constraint_id", .str constraintId), ("revoked_at", dtToJson isoformat (some revokedAt)),
          ("reason", .str (revocationReason existing row))]
        occurredAt := now
        actor := "system" }
    | _, _ => none

/-- `reconcile_constraint_events`, for permit rows whose times are given by their ISO texts. -/
def reconcileConstraintEvents (projection : TaskStateProjection) (permitRows : List Payload) (now : Instant) :
    List TaskStateEvent :=
  let known := Dict.ofList ApprovedConstraint.constraintId projection.constraints
  permitRows.filterMap (reconcileRow host isoformat projection.contractRevision known now)

end Permits

/-! ### What a diff leaves -/

/-- A constraint after a permit of its id: revoked if only the permit is. -/
def ApprovedConstraint.revokedBy (existing : ApprovedConstraint) (row : Payload) : ApprovedConstraint :=
  match dtFromJson host (row.get "revoked_at"), existing.revokedAt with
  | some revokedAt, none => {existing with revokedAt := some revokedAt, reason := revocationReason existing row}
  | _, _ => existing

/-- What a permit makes of what is held under its id. -/
def reconciled (contractRevision : Int) (now : Instant) (row : Payload) (held : Option ApprovedConstraint) :
    Option ApprovedConstraint :=
  if permitConstraintId row = "" then held
  else match held with
  | none => some (permitConstraint host contractRevision now row)
  | some existing => some (existing.revokedBy host row)

section Diff
variable {host} {isoformat : Instant → String} (hiso : ∀ t, dtFromJson host (.str (isoformat t)) = some t)

omit hiso in
theorem dtFromJson_dtToJson {at' : Option Instant} (h : ∀ t ∈ at', dtFromJson host (.str (isoformat t)) = some t) :
    dtFromJson host (dtToJson isoformat at') = at' := by
  cases at' with
  | none => rfl
  | some at' => exact h at' rfl

include hiso in
/-- A constraint with an id and a kind is read back as it was written. -/
theorem constraintFromJson_toPayload {constraint : ApprovedConstraint} (hid : constraint.constraintId ≠ "")
    (hkind : constraint.kind ≠ "") : constraintFromJson host (constraint.toPayload isoformat) = some constraint := by
  simp [constraintFromJson, ApprovedConstraint.toPayload, Payload.get, List.lookup, text, integer, orElse, hid, hkind,
    dtFromJson_dtToJson (fun t _ => hiso t)]

include hiso in
/-- What the event of one permit does to a fold's constraints, where those known are the fold's. -/
theorem lookup_constraintsStep_reconcileRow {contractRevision : Int} {known constraints : Dict String ApprovedConstraint}
    {now : Instant} {row : Payload} {event : TaskStateEvent} (seq : Int)
    (hknown : known.lookup (permitConstraintId row) = constraints.lookup (permitConstraintId row))
    (h : reconcileRow host isoformat contractRevision known now row = some event) (id : String) :
    (constraintsStep host constraints {event with seq := seq}).lookup id =
      if id = permitConstraintId row then reconciled host contractRevision now row (constraints.lookup (permitConstraintId row))
      else constraints.lookup id := by
  simp only [reconcileRow, hknown] at h
  split_ifs at h with hid
  cases hheld : constraints.lookup (permitConstraintId row) with
  | none =>
    simp only [hheld, Option.some.injEq] at h
    subst h
    have hkind : (permitConstraint host contractRevision now row).kind ≠ "" := by
      simp only [permitConstraint, orElse]
      split_ifs with hempty
      · decide
      · exact hempty
    simp only [constraintsStep, 
      @constraintFromJson_toPayload host isoformat hiso (permitConstraint host contractRevision now row) hid hkind]
    by_cases hself : id = permitConstraintId row
    · subst hself
      rw [if_pos rfl]
      simp only [reconciled, if_neg hid]
      exact AList.lookup_insert _
    · rw [if_neg hself]
      exact AList.lookup_insert_ne hself
  | some existing =>
    simp only [hheld] at h
    cases hrevoked : dtFromJson host (row.get "revoked_at") with
    | none => simp [hrevoked] at h
    | some revokedAt =>
      cases hopen : existing.revokedAt with
      | some earlier => simp [hrevoked, hopen] at h
      | none =>
        simp only [hrevoked, hopen, Option.some.injEq] at h
        subst h
        have hreason : orElse (revocationReason existing row) existing.reason = revocationReason existing row := by
          simp only [revocationReason, orElse]
          split_ifs <;> rfl
        have hafter : constraintsStep host constraints
            { seq := seq, kind := .known .constraintRevoked, contractRevision := contractRevision,
              payload := [("constraint_id", .str (permitConstraintId row)), ("revoked_at", dtToJson isoformat (some revokedAt)),
                ("reason", .str (revocationReason existing row))], occurredAt := now, actor := "system" } =
            constraints.insert (permitConstraintId row) (existing.revokedBy host row) := by
          simp only [ApprovedConstraint.revokedBy, hrevoked, hopen]
          simp [constraintsStep, FoldState.constraintRevoked, Payload.get, List.lookup, text, hheld,
            dtFromJson_dtToJson (fun t _ => hiso t), hreason]
        rw [hafter]
        by_cases hself : id = permitConstraintId row
        · subst hself
          rw [if_pos rfl]
          simp only [reconciled, if_neg hid]
          exact AList.lookup_insert _
        · rw [if_neg hself]
          exact AList.lookup_insert_ne hself

/-- A permit that calls for no event changes nothing. -/
theorem reconciled_of_no_event {contractRevision : Int} {known : Dict String ApprovedConstraint} {now : Instant} {row : Payload}
    (h : reconcileRow host isoformat contractRevision known now row = none) (contractRevision' : Int) (now' : Instant) :
    reconciled host contractRevision' now' row (known.lookup (permitConstraintId row)) = known.lookup (permitConstraintId row) := by
  simp only [reconcileRow] at h
  unfold reconciled
  split_ifs at h ⊢ with hid
  · rfl
  · cases hheld : known.lookup (permitConstraintId row) with
    | none => simp [hheld] at h
    | some existing =>
      simp only [hheld] at h
      simp only [ApprovedConstraint.revokedBy]
      cases hrevoked : dtFromJson host (row.get "revoked_at") <;> cases hopen : existing.revokedAt <;>
        simp [hrevoked, hopen] at h ⊢

/-- Reconciled once, a permit calls for no event. -/
theorem reconcileRow_reconciled {contractRevision contractRevision' : Int} {known : Dict String ApprovedConstraint}
    {held : Option ApprovedConstraint} {now now' : Instant} {row : Payload}
    (h : known.lookup (permitConstraintId row) = reconciled host contractRevision now row held) :
    reconcileRow host isoformat contractRevision' known now' row = none := by
  unfold reconciled at h
  simp only [reconcileRow]
  split_ifs at h ⊢ with hid
  · rfl
  · cases held with
    | none =>
      dsimp only at h
      simp only [h]
      cases hrevoked : dtFromJson host (row.get "revoked_at") <;> simp [permitConstraint, hrevoked]
    | some existing =>
      dsimp only at h
      simp only [h, ApprovedConstraint.revokedBy]
      cases dtFromJson host (row.get "revoked_at") <;> cases hopen : existing.revokedAt <;> simp [hopen]

/-- The event of a permit is one of the two kinds, under the projection's contract. -/
theorem reconcileRow_kind {contractRevision : Int} {known : Dict String ApprovedConstraint} {now : Instant} {row : Payload}
    {event : TaskStateEvent} (h : reconcileRow host isoformat contractRevision known now row = some event) :
    event.kind ∈ [EventKind.known .constraintGranted, .known .constraintRevoked] ∧ event.contractRevision = contractRevision := by
  simp only [reconcileRow] at h
  split_ifs at h
  split at h
  · cases h
    exact ⟨List.mem_cons_self, rfl⟩
  · split at h
    · cases h
      exact ⟨List.mem_cons_of_mem _ List.mem_cons_self, rfl⟩
    · cases h

theorem contractRevision_constraint {st : FoldState} {event : TaskStateEvent}
    (h : event.kind ∈ [EventKind.known .constraintGranted, .known .constraintRevoked]) :
    (foldStep host taskId st event).contractRevision = st.contractRevision := by
  have hpinned := foldStep_pinned host taskId st event
  rw [pinnedStep_of_not_mem] at hpinned
  · exact (congrArg (·.contractRevision) hpinned : (foldStep host taskId st event).pinned.contractRevision = _)
  · simp only [List.mem_cons, List.not_mem_nil, or_false] at h
    rcases h with h | h <;> rw [h] <;> decide

include hiso in
/-- What the events of a diff leave, permit by permit. -/
theorem lookup_reconciled {known : Dict String ApprovedConstraint} {now : Instant} (rows : List Payload)
    (hrows : (rows.map permitConstraintId).Nodup) {st : FoldState} (seq : Int)
    (hknown : ∀ row ∈ rows, known.lookup (permitConstraintId row) = st.constraints.lookup (permitConstraintId row)) :
    let after := (stamp seq (rows.filterMap (reconcileRow host isoformat st.contractRevision known now))).foldl
      (foldStep host taskId) st
    (∀ row ∈ rows, after.constraints.lookup (permitConstraintId row) =
      reconciled host st.contractRevision now row (st.constraints.lookup (permitConstraintId row))) ∧
    ∀ id ∉ rows.map permitConstraintId, after.constraints.lookup id = st.constraints.lookup id := by
  induction rows generalizing st seq with
  | nil => exact ⟨fun row hrow => absurd hrow List.not_mem_nil, fun id _ => rfl⟩
  | cons row rest ih =>
    rw [List.map_cons, List.nodup_cons] at hrows
    have hrest := fun r hr => hknown r (List.mem_cons_of_mem _ hr)
    cases hevent : reconcileRow host isoformat st.contractRevision known now row with
    | none =>
      obtain ⟨hnamed, hother⟩ := ih hrows.2 seq hrest
      simp only [List.filterMap_cons_none hevent]
      refine ⟨List.forall_mem_cons.mpr ⟨?_, hnamed⟩, fun id hid => hother id fun h => hid (List.mem_cons_of_mem _ h)⟩
      rw [hother _ hrows.1, ← hknown row List.mem_cons_self]
      exact (reconciled_of_no_event hevent st.contractRevision now).symm
    | some event =>
      obtain ⟨hkind, hrevision⟩ := reconcileRow_kind hevent
      simp only [List.filterMap_cons_some hevent, stamp, List.foldl_cons]
      let next := foldStep host taskId st {event with seq := seq + 1}
      have hcurrent : next.contractRevision = st.contractRevision := contractRevision_constraint taskId hkind
      have hstep : next.constraints = constraintsStep host st.constraints {event with seq := seq + 1} := by
        have hstamped : superseded st.contractRevision {event with seq := seq + 1} = false := by
          simp [superseded, hrevision]
        rw [foldStep_constraints, hstamped]
        rfl
      have hlookup := fun id => hstep ▸ lookup_constraintsStep_reconcileRow hiso (seq + 1) (hknown row List.mem_cons_self) hevent id
      have hne : ∀ r ∈ rest, permitConstraintId r ≠ permitConstraintId row :=
        fun r hr hsame => hrows.1 (hsame ▸ List.mem_map_of_mem hr)
      obtain ⟨hnamed, hother⟩ := @ih hrows.2 next (seq + 1) fun r hr => by rw [hrest r hr, hlookup, if_neg (hne r hr)]
      rw [hcurrent] at hnamed hother
      refine ⟨List.forall_mem_cons.mpr ⟨?_, fun r hr => ?_⟩, fun id hid => ?_⟩
      · rw [hother _ hrows.1, hlookup, if_pos rfl]
      · rw [hnamed r hr, hlookup, if_neg (hne r hr)]
      · rw [hother id fun h => hid (List.mem_cons_of_mem _ h), hlookup, if_neg fun h => hid (List.mem_cons.mpr (Or.inl h))]

end Diff

/-! ### Reconciled twice -/

/-- What is held under an id after a diff: what the permit of that id makes of what was held. -/
def impliedConstraint (before : TaskStateProjection) (rows : List Payload) (now : Instant) (id : String) :
    Option ApprovedConstraint :=
  let held := before.constraints.find? fun constraint => constraint.constraintId = id
  match rows.find? fun row => permitConstraintId row = id with
  | none => held
  | some row => reconciled host before.contractRevision now row held

theorem find?_of_nodup {rows : List Payload} (hrows : (rows.map permitConstraintId).Nodup) {row : Payload} (hrow : row ∈ rows) :
    rows.find? (fun r => permitConstraintId r = permitConstraintId row) = some row := by
  induction rows with
  | nil => cases hrow
  | cons first rest ih =>
    rw [List.map_cons, List.nodup_cons] at hrows
    rcases List.mem_cons.mp hrow with rfl | hrest
    · exact List.find?_cons_of_pos (decide_eq_true rfl)
    · have hne : permitConstraintId first ≠ permitConstraintId row := fun hsame => hrows.1 (hsame ▸ List.mem_map_of_mem hrest)
      rw [List.find?_cons_of_neg (by simpa using hne), ih hrows.2 hrest]

/-- A log that is folded whole after a diff: the diff holds of it, and another finds nothing. -/
theorem reconcile_fitting {isoformat : Instant → String} (hiso : ∀ t, dtFromJson host (.str (isoformat t)) = some t)
    {ids : TaskIds} {events : List TaskStateEvent} {rows : List Payload} (hrows : (rows.map permitConstraintId).Nodup)
    {revision revision' highest : Int} (hhighest : ∀ event ∈ events, event.seq ≤ highest) {now now' : Instant}
    {before after : TaskStateProjection} {log : List TaskStateEvent}
    (hbefore : before = (foldEvents host ids.taskId (orderedEvents host events)).projection host ids revision)
    (hlog : log = events ++ stamp highest (reconcileConstraintEvents host isoformat before rows now))
    (hafter : after = (foldEvents host ids.taskId (orderedEvents host log)).projection host ids revision') :
    reconcileConstraintEvents host isoformat after rows now' = [] ∧
      ∀ constraint, constraint ∈ after.constraints ↔
        impliedConstraint host before rows now constraint.constraintId = some constraint := by
  subst hbefore hlog
  let st := foldEvents host ids.taskId (orderedEvents host events)
  have hkeyed : Dict.Keyed ApprovedConstraint.constraintId st.constraints := foldEvents_constraints_keyed host ids.taskId _
  let known := Dict.ofList ApprovedConstraint.constraintId st.constraints.sortedValues
  have hknown : ∀ id, known.lookup id = st.constraints.lookup id := fun id => hkeyed.lookup_ofList_sortedValues id
  let written := rows.filterMap (reconcileRow host isoformat st.contractRevision known now)
  have hlog : orderedEvents host (events ++ stamp highest written) = orderedEvents host events ++ stamp highest written := by
    have hnumbered := numbered_stamp highest written
    have hlater : ∀ a ∈ events, ∀ b ∈ stamp highest written, a.seq < b.seq :=
      fun a ha b hb => lt_of_le_of_lt (hhighest a ha) (hnumbered.lt_seq b hb)
    have hstamped : orderedEvents host (stamp highest written) = stamp highest written :=
      (hnumbered.arranged host).arrange_eq_of_sublist (List.Sublist.refl _) fun _ => Iff.rfl
    rw [orderedEvents_append hlater, hstamped]
  let final := (stamp highest written).foldl (foldStep host ids.taskId) st
  replace hafter : after = final.projection host ids revision' := by
    rw [hafter]
    show (foldEvents host ids.taskId (orderedEvents host (events ++ stamp highest written))).projection host ids revision' = _
    rw [hlog, foldEvents_append]
  have hkeyed' : Dict.Keyed ApprovedConstraint.constraintId final.constraints := by
    have h := foldEvents_constraints_keyed host ids.taskId (orderedEvents host events ++ stamp highest written)
    rwa [foldEvents_append] at h
  obtain ⟨hnamed, hother⟩ :=
    @lookup_reconciled host ids.taskId isoformat hiso known now rows hrows st highest fun row _ => hknown _
  rw [hafter]
  constructor
  · refine List.filterMap_eq_nil_iff.mpr fun row hrow => ?_
    have hlookup := (hkeyed'.lookup_ofList_sortedValues (permitConstraintId row)).trans (hnamed row hrow)
    exact reconcileRow_reconciled hlookup
  · intro constraint
    have hmem : constraint ∈ (final.projection host ids revision').constraints ↔
        final.constraints.lookup constraint.constraintId = some constraint := by
      rw [← hkeyed'.mem_sortedValues_iff]
      exact (and_iff_left rfl).symm
    have hheld : ∀ id, st.constraints.sortedValues.find? (fun c => c.constraintId = id) = st.constraints.lookup id :=
      fun id => hkeyed.find?_sortedValues id
    rw [hmem, impliedConstraint, projection_constraints, hheld]
    cases hrow : rows.find? (fun row => permitConstraintId row = constraint.constraintId) with
    | none =>
      rw [hother]
      intro hm
      obtain ⟨row, hrow', hid⟩ := List.mem_map.mp hm
      simpa [hid] using List.find?_eq_none.mp hrow row hrow'
    | some row =>
      have hid : permitConstraintId row = constraint.constraintId := by simpa using List.find?_some hrow
      rw [← hid, hnamed row (List.mem_of_find?_eq_some hrow)]
      rfl

variable {host} in
/-- Where nothing was held, a diff leaves the constraints of the permits. -/
theorem impliedConstraint_of_none {before : TaskStateProjection} {rows : List Payload}
    (hrows : (rows.map permitConstraintId).Nodup) (hnone : before.constraints = []) {now : Instant} {constraint : ApprovedConstraint} :
    impliedConstraint host before rows now constraint.constraintId = some constraint ↔
      ∃ row ∈ rows, permitConstraintId row ≠ "" ∧ constraint = permitConstraint host before.contractRevision now row := by
  simp only [impliedConstraint, hnone, List.find?_nil]
  constructor
  · intro h
    cases hrow : rows.find? (fun row => permitConstraintId row = constraint.constraintId) with
    | none => simp [hrow] at h
    | some row =>
      simp only [hrow, reconciled] at h
      split_ifs at h with hid
      exact ⟨row, List.mem_of_find?_eq_some hrow, hid, (Option.some.inj h).symm⟩
  · rintro ⟨row, hrow, hid, rfl⟩
    have hfound : rows.find? (fun r => permitConstraintId r =
        (permitConstraint host before.contractRevision now row).constraintId) = some row := find?_of_nodup hrows hrow
    simp only [hfound, reconciled, if_neg hid]

/-- Reconciling the permits of a task again returns no event, as long as the log with the events of the first time
still fits. The task then holds, under each id, what the permit of that id makes of what it held, and nothing else;
where it held nothing, that is exactly the permits' constraints. -/
theorem reconcile_converges (host : Host) (isoformat : Instant → String)
    (hiso : ∀ t, dtFromJson host (.str (isoformat t)) = some t) (ids : TaskIds) (events : List TaskStateEvent)
    (rows : List Payload) (hrows : (rows.map permitConstraintId).Nodup) (revision revision' maxEvents highest : Int)
    (hhighest : ∀ event ∈ events, event.seq ≤ highest) (now now' : Instant) :
    let before := (foldTaskState host events ids revision maxEvents).projection
    let log := events ++ stamp highest (reconcileConstraintEvents host isoformat before rows now)
    let after := (foldTaskState host log ids revision' maxEvents).projection
    truncates maxEvents (orderedEvents host log) = true ∨
      reconcileConstraintEvents host isoformat after rows now' = [] ∧
      (∀ constraint, constraint ∈ after.constraints ↔
        impliedConstraint host before rows now constraint.constraintId = some constraint) ∧
      (before.constraints = [] → ∀ constraint, constraint ∈ after.constraints ↔
        ∃ row ∈ rows, permitConstraintId row ≠ "" ∧ constraint = permitConstraint host before.contractRevision now row) := by
  intro before log after
  cases hfits : truncates maxEvents (orderedEvents host log) with
  | true => exact Or.inl rfl
  | false =>
    right
    have hlength : (orderedEvents host events).length ≤ (orderedEvents host log).length := by
      have hlater : ∀ a ∈ events, ∀ b ∈ stamp highest (reconcileConstraintEvents host isoformat before rows now), a.seq < b.seq :=
        fun a ha b hb => lt_of_le_of_lt (hhighest a ha) ((numbered_stamp highest _).lt_seq b hb)
      rw [show orderedEvents host log = _ from orderedEvents_append hlater, List.length_append]
      exact Nat.le_add_right _ _
    have hfits' : truncates maxEvents (orderedEvents host events) = false := by
      simp only [truncates, decide_eq_false_iff_not, not_lt] at hfits ⊢
      exact (Int.ofNat_le.mpr hlength).trans hfits
    have hbefore : before = (foldEvents host ids.taskId (orderedEvents host events)).projection host ids revision := by
      simp only [before, foldTaskState, retainedEvents, hfits', Bool.false_eq_true, if_false]
    have hafter : after = (foldEvents host ids.taskId (orderedEvents host log)).projection host ids revision' := by
      simp only [after, foldTaskState, retainedEvents, hfits, Bool.false_eq_true, if_false]
    obtain ⟨hconverges, himplied⟩ :=
      @reconcile_fitting host isoformat hiso ids events rows hrows revision revision' highest hhighest now now' before after log
        hbefore rfl hafter
    refine ⟨hconverges, himplied, fun hnone constraint => ?_⟩
    rw [himplied, impliedConstraint_of_none hrows hnone]

/-! ### Runs

The clock of the runs below prints the epoch as `isoformat` does, and every other time so that it can be told from
the text. -/

def tally (n : Nat) : String := String.ofList (List.replicate (n + 1) 'T')

theorem strip_tally (n : Nat) : strip (tally n) ≠ "" := by
  have hspace : ¬ isSpace 'T' := by decide
  have hdrop : (List.replicate (n + 1) 'T').dropWhile isSpace = List.replicate n 'T' ++ ['T'] := by
    rw [← List.replicate_succ', List.replicate_succ, List.dropWhile_cons_of_neg hspace]
  rw [tally, strip, String.toList_ofList, stripChars, hdrop, List.rdropWhile_concat_neg _ _ _ hspace]
  intro h
  simpa using congrArg String.toList h

def epochText : String := "1970-01-01T00:00:00+00:00"

def clockText (t : Instant) : String := if t = epoch then epochText else tally t

def clockHost : Host :=
  { asciiHost [] [] with
    fromIsoFormat := fun s =>
      if s = epochText then some ⟨epoch, true⟩
      else if s.toList.all (· = 'T') then some ⟨s.length - 1, true⟩
      else none }

theorem clockHost_clockText (t : Instant) : dtFromJson clockHost (.str (clockText t)) = some t := by
  by_cases hepoch : t = epoch
  · subst hepoch
    decide
  · have hall : (tally t).toList.all (· = 'T') := by simp [tally]
    have hother : tally t ≠ epochText := by
      intro h
      rw [h] at hall
      revert hall
      decide
    have hparse : clockHost.fromIsoFormat (tally t) = some ⟨(tally t).length - 1, true⟩ := by
      simp only [clockHost, if_neg hother, if_pos hall]
    rw [clockText, if_neg hepoch, dtFromJson, if_neg (strip_tally t), hparse]
    simp [tally, ← String.length_toList]

/-- A permit with an id and nothing else. -/
def permitRow (id : String) : Payload := [("id", .str id)]

theorem reconcile_converges_once :
    let before := (foldTaskState clockHost doneLog exampleIds 1 2000).projection
    let log := doneLog ++ stamp 3 (reconcileConstraintEvents clockHost clockText before [permitRow "p"] epoch)
    reconcileConstraintEvents clockHost clockText (foldTaskState clockHost log exampleIds 2 2000).projection
      [permitRow "p"] epoch = [] := by
  obtain hcut | ⟨hnone, -⟩ := reconcile_converges clockHost clockText clockHost_clockText exampleIds doneLog [permitRow "p"]
    (by decide) 1 2 2000 3 (by decide) epoch epoch
  · exact absurd hcut (by decide)
  · exact hnone

/-- A window too small for the permits is written to for ever, and a constraint without a permit stays. -/
theorem reconcile_diverges :
    (¬ ∀ (host : Host) (isoformat : Instant → String), (∀ t, dtFromJson host (.str (isoformat t)) = some t) →
      ∀ (ids : TaskIds) (events : List TaskStateEvent) (rows : List Payload), (rows.map permitConstraintId).Nodup →
      ∀ revision revision' maxEvents highest : Int, (∀ event ∈ events, event.seq ≤ highest) → ∀ now now' : Instant,
        let before := (foldTaskState host events ids revision maxEvents).projection
        let log := events ++ stamp highest (reconcileConstraintEvents host isoformat before rows now)
        reconcileConstraintEvents host isoformat (foldTaskState host log ids revision' maxEvents).projection rows now' = []) ∧
    ¬ ∀ (host : Host) (isoformat : Instant → String), (∀ t, dtFromJson host (.str (isoformat t)) = some t) →
      ∀ (ids : TaskIds) (events : List TaskStateEvent) (rows : List Payload), (rows.map permitConstraintId).Nodup →
      ∀ revision revision' maxEvents highest : Int, (∀ event ∈ events, event.seq ≤ highest) → ∀ now : Instant,
        let before := (foldTaskState host events ids revision maxEvents).projection
        let log := events ++ stamp highest (reconcileConstraintEvents host isoformat before rows now)
        ∀ constraint ∈ (foldTaskState host log ids revision' maxEvents).projection.constraints,
          ∃ row ∈ rows, permitConstraintId row = constraint.constraintId := by
  constructor
  · intro h
    have hnone := h clockHost clockText clockHost_clockText exampleIds doneLog [permitRow "p", permitRow "q"] (by decide)
      1 2 4 3 (by decide) epoch epoch
    revert hnone
    decide
  · intro h
    have hheld := h clockHost clockText clockHost_clockText exampleIds (blockedLog ++ laterGrants) [] (by decide)
      1 2 2000 6 (by decide) epoch
    revert hheld
    decide

end OpenTimeline.TaskState
