import OpenTimeline.Library.Table
import OpenTimeline.Library.Transition
import OpenTimeline.Pilot.Allocation

/-! Enrolment into the pilot, in any interleaving.

An enrolment is one serialised section: it finds the episode of its key, or takes the next
slot of the stratum and inserts one. So the randomised episodes of a stratum are, in the
order of their rows, the allocations of its slots (`Allocated`), and an election changes
neither. -/
namespace OpenTimeline.Pilot
open Library

variable (host : PilotHost) (allocationSalt : String)

/-! ### Rows -/

/-- A row of `pilot_strata`. -/
structure StratumRow where
  stratumId : String
  workspaceId : String
  subjectUserId : String
  projectId : Option String
  decisionFamily : String
  armSetSha : String
  allocationSaltSha256 : String
  nextSlot : Nat
  createdAt : Instant
  updatedAt : Instant

/-- A row of `pilot_episodes`. -/
structure EpisodeRow where
  id : String
  workspaceId : String
  ownerId : String
  subjectUserId : String
  projectId : Option String
  decisionFamily : String
  sessionId : String
  objectiveHash : String
  cancelEpoch : Int
  episodeKey : String
  taskId : Option String
  /-- what `_allocation_from_row` reads -/
  allocation : ArmAllocation
  agentPrincipal : String
  allocatedAt : Instant
  revealedAt : Option Instant
  enrolledBeforeExecution : Bool
  thresholdsSha : String

/-- The columns of `uq_pilot_episodes_episode`. -/
def EpisodeRow.identity (row : EpisodeRow) : String × String × String :=
  (row.workspaceId, row.subjectUserId, row.episodeKey)

def EpisodeRow.reveal (now : Instant) (row : EpisodeRow) : EpisodeRow := {row with revealedAt := some now}

theorem EpisodeRow.reveal_id (now : Instant) (row : EpisodeRow) : (row.reveal now).id = row.id := rfl

theorem EpisodeRow.reveal_identity (now : Instant) (row : EpisodeRow) : (row.reveal now).identity = row.identity := rfl

structure PilotDatabase where
  strata : Table StratumRow.stratumId
  episodes : Table EpisodeRow.id
  unique : (episodes.rows.map EpisodeRow.identity).Nodup

namespace PilotDatabase

def empty : PilotDatabase := ⟨⟨[], List.nodup_nil⟩, ⟨[], List.nodup_nil⟩, List.nodup_nil⟩

variable (db : PilotDatabase)

/-- `_load_episode_by_key` -/
def loadEpisodeByKey (identity : String × String × String) : Option EpisodeRow :=
  db.episodes.rows.find? fun row => row.identity = identity

theorem nodup_snoc {β : Type} {f : EpisodeRow → β} {rows : List EpisodeRow} {row : EpisodeRow}
    (h : (rows.map f).Nodup) (hnew : f row ∉ rows.map f) : ((rows ++ [row]).map f).Nodup := by
  rw [List.map_append, List.map_singleton, ← List.concat_eq_append]
  exact h.concat hnew

/-- `INSERT OR IGNORE` -/
def insertOrIgnore (row : EpisodeRow) : PilotDatabase :=
  if h : row.id ∈ db.episodes.rows.map (·.id) ∨ ∃ other ∈ db.episodes.rows, other.identity = row.identity then db
  else {
    strata := db.strata
    episodes := ⟨db.episodes.rows ++ [row], nodup_snoc db.episodes.nodup (not_or.mp h).1⟩
    unique := nodup_snoc db.unique fun hmem => (not_or.mp h).2 (List.mem_map.mp hmem) }

/-- The one UPDATE of the episodes, in `mark_revealed`. -/
def markRevealed (episodeIds : List String) (now : Instant) : PilotDatabase where
  strata := db.strata
  episodes := db.episodes.updateWhere (fun row => row.id ∈ episodeIds && row.revealedAt.isNone)
    (EpisodeRow.reveal now) (EpisodeRow.reveal_id now)
  unique := by
    rw [Table.map_updateWhere db.episodes (EpisodeRow.reveal_identity now)]
    exact db.unique

end PilotDatabase

/-! ### Calls -/

/-- The arguments of `enroll_episode`, but for the salt. -/
structure EnrolCall where
  workspaceId : String
  ownerId : String
  subjectUserId : String
  agentPrincipal : String
  projectId : Option String
  decisionFamily : String
  sessionId : String
  objectiveHash : String
  taskId : Option String
  electArm : Option PilotArm
  humanBaselineEnabled : Bool
  thresholdsSha : String
  now : Instant
  /-- what `_cancel_epoch_for` has read, before the section -/
  cancelEpoch : Int
  /-- `str(uuid.uuid4())` -/
  newId : String

namespace EnrolCall
variable (call : EnrolCall)

/-- `objective_hash or None` -/
def objective : Option String := if call.objectiveHash = "" then none else some call.objectiveHash

def episodeKey : String :=
  computeEpisodeKey host call.workspaceId call.subjectUserId call.projectId call.sessionId call.objective
    call.cancelEpoch

/-- The episode a call is about. -/
def identity : String × String × String := (call.workspaceId, call.subjectUserId, call.episodeKey host)

def request (family : String) : EnrolmentRequest where
  workspaceId := call.workspaceId
  subjectUserId := call.subjectUserId
  projectId := call.projectId
  decisionFamily := family
  sessionId := call.sessionId
  objectiveHash := call.objective
  cancelEpoch := call.cancelEpoch
  electArm := call.electArm

/-- The row `_insert_episode` writes. -/
def row (family : String) (outcome : EnrolmentOutcome) : EpisodeRow where
  id := call.newId
  workspaceId := call.workspaceId
  ownerId := call.ownerId
  subjectUserId := call.subjectUserId
  projectId := call.projectId
  decisionFamily := family
  sessionId := call.sessionId
  objectiveHash := call.objectiveHash
  cancelEpoch := call.cancelEpoch
  episodeKey := outcome.episodeKey
  taskId := call.taskId
  allocation := outcome.allocation
  agentPrincipal := call.agentPrincipal
  allocatedAt := call.now
  revealedAt := none
  enrolledBeforeExecution := true
  thresholdsSha := call.thresholdsSha

def stratumId (family : String) : String := stratumIdFor host call.workspaceId call.subjectUserId call.projectId family

/-- The row `take_stratum_slot` inserts. -/
def stratumRow (family : String) : StratumRow where
  stratumId := call.stratumId host family
  workspaceId := call.workspaceId
  subjectUserId := call.subjectUserId
  projectId := call.projectId
  decisionFamily := family
  armSetSha := armSetSha host
  allocationSaltSha256 := allocationSaltSha256 host allocationSalt
  nextSlot := 1
  createdAt := call.now
  updatedAt := call.now

end EnrolCall

/-- `take_stratum_slot`: the row inserted, or counted up, and the slot before the count. -/
def takeStratumSlot (strata : Table StratumRow.stratumId) (row : StratumRow) :
    Except Failure (Table StratumRow.stratumId × Nat) :=
  let strata := match strata.insert row with
    | some inserted => inserted
    | none => strata.updateWhere (fun old => old.stratumId = row.stratumId)
      (fun old => {old with nextSlot := old.nextSlot + 1, updatedAt := row.updatedAt}) fun _ => rfl
  match strata.find row.stratumId with
  | none => .error (.runtimeError "pilot_strata slot was not returned")
  | some taken => .ok (strata, taken.nextSlot - 1)

/-- The slot of a call that elects no arm. -/
def takeSlot (call : EnrolCall) (family : String) (db : PilotDatabase) : Except Failure (PilotDatabase × Option Nat) :=
  match call.electArm with
  | some _ => .ok (db, none)
  | none => do
    let (strata, slot) ← takeStratumSlot db.strata (call.stratumRow host allocationSalt family)
    return ({db with strata}, some slot)

/-- The section of `enroll_episode`. -/
def enrollSection (call : EnrolCall) (family : String) (db : PilotDatabase) :
    Except Failure (PilotDatabase × EpisodeRow × Bool) :=
  match db.loadEpisodeByKey (call.identity host) with
  | some existing => do
    let outcome ← passing (resolveEnrolment host (call.request family) (some existing.allocation) none allocationSalt
      call.humanBaselineEnabled)
    return (db, existing, outcome.reused)
  | none => do
    let (db, nextSlot) ← takeSlot host allocationSalt call family db
    let outcome ← passing (resolveEnrolment host (call.request family) none nextSlot allocationSalt
      call.humanBaselineEnabled)
    let db := db.insertOrIgnore (call.row family outcome)
    match db.loadEpisodeByKey (call.identity host) with
    | none => .error (.runtimeError "pilot episode was not persisted")
    | some written => .ok (db, written, false)

/-- `enroll_episode` -/
def enrollEpisode (call : EnrolCall) (db : PilotDatabase) : PilotDatabase × Except Failure (EpisodeRow × Bool) :=
  match validateDecisionFamily call.decisionFamily with
  | .error e => (db, .error (.raised e))
  | .ok family => runCasSection (enrollSection host allocationSalt call family) db

inductive PilotAction
  | enroll (call : EnrolCall)
  | reveal (episodeIds : List String) (now : Instant)

/-- Calls of any parties under one salt, from empty tables. -/
def pilotSystem : System PilotDatabase PilotAction where
  init db := db.strata.rows = [] ∧ db.episodes.rows = []
  next db
    | .enroll call => some (enrollEpisode host allocationSalt call db).1
    | .reveal episodeIds now => some (db.markRevealed episodeIds now)

end OpenTimeline.Pilot
