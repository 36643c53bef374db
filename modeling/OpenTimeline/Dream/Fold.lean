import OpenTimeline.TaskState.Fold
import OpenTimeline.Dream.Records

/-! The dream fold: a proposal's event log replayed into its projection.

`foldStep` is one turn of the loop of `fold_dream_proposal`. Past `max_events` the log is
cut to the latest event of every kind and the newest of the rest, as the task-state fold
cuts its own, but for the list of pinned kinds. -/
namespace OpenTimeline.Dream
open Library
open TaskState (text optText integer flag mappings dtFromJson orElse payloadDigest digest32)

variable (host : Host)

/-! ### Order and truncation -/

/-- `_sort_key` -/
def sortKey (event : DreamProposalEvent) : ℤ ×ₗ String ×ₗ String :=
  toLex (event.seq, toLex (event.kind.str, canonicalJson (.obj event.payload)))

/-- The key `_dedupe` compares. -/
def dedupeKey (event : DreamProposalEvent) : ℤ × String × String :=
  (event.seq, event.kind.str, payloadDigest host event.payload)

/-- `_dedupe(sorted(events, key=_sort_key))` -/
def orderedEvents (events : List DreamProposalEvent) : List DreamProposalEvent :=
  arrange sortKey (dedupeKey host) events

/-- `max(0, max_events - len(PINNED_DREAM_KINDS))` -/
def tailSize (maxEvents : Int) : Nat := (maxEvents - pinnedDreamKinds.length).toNat

/-- The latest event of each kind and the newest `tailSize` events. -/
def windowEvents (maxEvents : Int) (ordered : List DreamProposalEvent) : List DreamProposalEvent :=
  orderedEvents host
    (pins DreamProposalEvent.kind pinnedDreamKinds ordered ++ newest (tailSize maxEvents) ordered)

def truncates (maxEvents : Int) (ordered : List DreamProposalEvent) : Bool := maxEvents < ordered.length

/-- The events the loop runs over. -/
def retainedEvents (maxEvents : Int) (events : List DreamProposalEvent) : List DreamProposalEvent :=
  let ordered := orderedEvents host events
  if truncates maxEvents ordered then windowEvents host maxEvents ordered else ordered

/-- Events in the order of their seqs are in the fold's own order, no two alike. -/
theorem arranged_of_sorted {log : List DreamProposalEvent} (h : log.Pairwise fun a b => a.seq < b.seq) :
    Arranged sortKey (dedupeKey host) log := by
  refine ⟨h.imp fun hlt => Prod.Lex.toLex_lt_toLex.mpr (Or.inl hlt), ?_⟩
  refine List.pairwise_map.mpr (h.imp fun hlt hsame => ?_)
  exact absurd (congrArg Prod.fst hsame) (ne_of_lt hlt)

theorem orderedEvents_of_sorted {log : List DreamProposalEvent} (h : log.Pairwise fun a b => a.seq < b.seq) :
    orderedEvents host log = log :=
  (arranged_of_sorted host h).arrange_eq_of_sublist (List.Sublist.refl log) fun _ => Iff.rfl

/-- The newest event of a log is the last the loop takes. -/
theorem retainedEvents_snoc {log : List DreamProposalEvent} {event : DreamProposalEvent}
    (h : (log ++ [event]).Pairwise fun a b => a.seq < b.seq) {maxEvents : Int}
    (hmax : pinnedDreamKinds.length < maxEvents) :
    ∃ before, retainedEvents host maxEvents (log ++ [event]) = before ++ [event] := by
  unfold retainedEvents
  rw [orderedEvents_of_sorted host h]
  dsimp only
  split_ifs
  · have htail : 0 < tailSize maxEvents := by
      unfold tailSize
      omega
    rw [windowEvents, orderedEvents, (arranged_of_sorted host h).window_eq, newest_snoc htail, ← List.append_assoc]
    exact ⟨_, rfl⟩
  · exact ⟨log, rfl⟩

/-! ### One event -/

/-- What the loop accumulates for the projection. -/
@[ext] structure DreamFields where
  status : DreamProposalStatus := .proposed
  projectId : Option String := none
  scopeKind : String := scopeKindProject
  surfacedCount : Int := 0
  surfacedAttested : Bool := false
  firstSurfacedAt : Option Instant := none
  lastSurfacedAt : Option Instant := none
  title : String := ""
  connectionText : String := ""
  benefitText : String := ""
  firstStep : String := ""
  citations : List DreamCitation := []
  themeTokens : List String := []
  evidenceBasis : String := evidenceBasisTrusted
  evidenceRevision : String := ""
  evidenceCutoffAt : Option Instant := none
  supersedesProposalId : Option String := none
  reproposeDepth : Int := 0
  snoozeUntil : Option Instant := none
  expiresAt : Option Instant := none
  acceptedAt : Option Instant := none
  rejectedAt : Option Instant := none
  rejectionReason : String := ""
  taskId : Option String := none
  objectiveHash : Option String := none
  planRootGoalId : Option String := none
  pursuitStartedAt : Option Instant := none
  completedAt : Option Instant := none
  abandonedAt : Option Instant := none
  abandonReason : String := ""
  withdrawnReason : String := ""
deriving DecidableEq, Repr

/-- `_text(payload.get("reason"))[:400]` -/
def reasonOf (payload : Payload) : String := String.ofList ((text (payload.get "reason") "").toList.take 400)

/-- `payload.get("theme_tokens")`, or the tokens of the title and the first step. -/
def themeTokensOf (payload : Payload) (title firstStep : String) : List String :=
  match payload.get "theme_tokens" with
  | .arr items => (items.map fun token => text token "").filter (· ≠ "")
  | _ => themeTokensFor host title firstStep

def DreamFields.proposed (st : DreamFields) (payload : Payload) : DreamFields :=
  let title := text (payload.get "title") ""
  let firstStep := text (payload.get "first_step") ""
  { st with
    title
    connectionText := text (payload.get "connection_text") ""
    benefitText := text (payload.get "benefit_text") ""
    firstStep
    citations := citationsFromJson host (payload.get "citations")
    themeTokens := themeTokensOf host payload title firstStep
    evidenceBasis := orElse (text (payload.get "evidence_basis") evidenceBasisTrusted) evidenceBasisTrusted
    evidenceRevision := text (payload.get "evidence_revision") ""
    evidenceCutoffAt := dtFromJson host (payload.get "evidence_cutoff_at")
    projectId := optText (payload.get "project_id")
    scopeKind := orElse (text (payload.get "scope_kind") scopeKindProject) scopeKindProject
    supersedesProposalId := optText (payload.get "supersedes_proposal_id")
    reproposeDepth := integer host (payload.get "repropose_depth") 0
    expiresAt := dtFromJson host (payload.get "expires_at")
    status := .proposed }

def DreamFields.surfaced (st : DreamFields) (payload : Payload) (occurredAt : Instant) : DreamFields :=
  { st with
    surfacedCount := max st.surfacedCount (integer host (payload.get "ordinal") (st.surfacedCount + 1))
    firstSurfacedAt :=
      some (((dtFromJson host (payload.get "first_surfaced_at")).or st.firstSurfacedAt).getD occurredAt)
    surfacedAttested := st.surfacedAttested || flag host (payload.get "attested_ever") false
    lastSurfacedAt := some occurredAt
    status := if st.status = .proposed then .surfaced else st.status }

/-- Binding an objective moves the proposal nowhere. -/
def DreamFields.objectiveBound (st : DreamFields) (payload : Payload) : DreamFields :=
  { st with
    taskId := optText (payload.get "task_id")
    objectiveHash := optText (payload.get "objective_hash")
    planRootGoalId := (optText (payload.get "plan_root_goal_id")).or st.planRootGoalId }

def DreamFields.pursuitStarted (st : DreamFields) (payload : Payload) (occurredAt : Instant) : DreamFields :=
  { st with
    pursuitStartedAt := some ((dtFromJson host (payload.get "pursuit_started_at")).getD occurredAt)
    planRootGoalId := (optText (payload.get "plan_root_goal_id")).or st.planRootGoalId
    status := .pursued }

def DreamFields.evidenceRevalidated (st : DreamFields) (payload : Payload) : DreamFields :=
  { st with
    citations := citationsFromJson host (payload.get "citations")
    evidenceBasis := orElse (text (payload.get "evidence_basis") st.evidenceBasis) st.evidenceBasis
    evidenceRevision := text (payload.get "evidence_revision") st.evidenceRevision
    evidenceCutoffAt := (dtFromJson host (payload.get "evidence_cutoff_at")).or st.evidenceCutoffAt }

/-- The branches of the loop, one per kind. -/
def applyKind (st : DreamFields) (kind : DreamProposalEventKind) (payload : Payload) (occurredAt : Instant) :
    DreamFields :=
  match kind with
  | .proposed => st.proposed host payload
  | .surfaced => st.surfaced host payload occurredAt
  | .accepted =>
    { st with
      acceptedAt := some ((dtFromJson host (payload.get "accepted_at")).getD occurredAt)
      status := .accepted }
  | .rejected =>
    { st with
      rejectedAt := some ((dtFromJson host (payload.get "rejected_at")).getD occurredAt)
      rejectionReason := reasonOf payload
      status := .rejected }
  | .snoozed => {st with snoozeUntil := dtFromJson host (payload.get "snooze_until"), status := .snoozed}
  | .unsnoozed =>
    { st with
      snoozeUntil := none
      expiresAt := (dtFromJson host (payload.get "expires_at")).or st.expiresAt
      status := .proposed }
  | .objectiveBound => st.objectiveBound payload
  | .pursuitStarted => st.pursuitStarted host payload occurredAt
  | .pursuitAbandoned =>
    { st with
      abandonedAt := some ((dtFromJson host (payload.get "abandoned_at")).getD occurredAt)
      abandonReason := reasonOf payload
      status := .abandoned }
  | .completed =>
    { st with
      completedAt := some ((dtFromJson host (payload.get "completed_at")).getD occurredAt)
      status := .completed }
  | .withdrawn => {st with withdrawnReason := reasonOf payload, status := .withdrawn}
  | .superseded => {st with withdrawnReason := "superseded", status := .withdrawn}
  | .expired => {st with status := .expired}
  | .evidenceRevalidated => st.evidenceRevalidated host payload

/-- One turn of the loop: an unknown kind is collected and ignored. -/
def foldStep (st : DreamFields) (event : DreamProposalEvent) : DreamFields :=
  match event.kind with
  | .unknown _ => st
  | .known kind => applyKind host st kind event.payload event.occurredAt

def foldEvents (events : List DreamProposalEvent) : DreamFields := events.foldl (foldStep host) {}

def unknownKinds (events : List DreamProposalEvent) : List String :=
  events.filterMap fun event => match event.kind with
    | .unknown name => some name
    | .known _ => none

/-! ### The projection -/

/-- The identifiers a fold is called with. -/
structure DreamIds where
  proposalId : String
  workspaceId : String
  ownerId : String
  subjectUserId : String
  sessionId : String
deriving DecidableEq, Repr

structure DreamProposalProjection extends DreamFields where
  ids : DreamIds
  revision : Int
  nonresponse : NonresponseState
deriving DecidableEq, Repr

structure DreamFoldResult where
  projection : DreamProposalProjection
  sourceRevision : String
  unknownKinds : List String
  truncated : Bool
deriving DecidableEq, Repr

def DreamFields.projection (st : DreamFields) (ids : DreamIds) (revision afterSurfaces : Int) :
    DreamProposalProjection where
  toDreamFields := st
  ids := ids
  revision := revision
  nonresponse := nonresponseState st.surfacedCount afterSurfaces

/-- The text `_source_revision` digests: `seq:kind:payload_digest`, joined by `|`. -/
def sourceText (events : List DreamProposalEvent) : String :=
  "|".intercalate (events.map fun event =>
    toString event.seq ++ ":" ++ event.kind.str ++ ":" ++ payloadDigest host event.payload)

/-- `_source_revision` -/
def sourceRevision (events : List DreamProposalEvent) : String :=
  if events.isEmpty then "empty" else digest32 host (sourceText host events)

/-- `fold_dream_proposal` -/
def foldDreamProposal (events : List DreamProposalEvent) (ids : DreamIds)
    (revision afterSurfaces maxEvents : Int) : DreamFoldResult :=
  let retained := retainedEvents host maxEvents events
  { projection := (foldEvents host retained).projection ids revision afterSurfaces
    sourceRevision := sourceRevision host retained
    unknownKinds := unknownKinds retained
    truncated := truncates maxEvents (orderedEvents host events) }

end OpenTimeline.Dream
