import OpenTimeline.Library.Blocks
import OpenTimeline.Service

/-! The allocator of the pilot.

A slot of a stratum has its arm from the block it is in: a shuffle of the randomised arms,
seeded by the stratum, the ordinal of the block and the salt (`blocked_slotArm`). An arm the
owner elects has no slot. -/
namespace OpenTimeline.Pilot
open Library

/-! ### Vocabulary -/

inductive PilotArm
  | existingRuntime | markdownHandoff | tceAssisted | ownerUnassisted
deriving DecidableEq, Repr

def PilotArm.value : PilotArm → String
  | existingRuntime => "existing_runtime"
  | markdownHandoff => "markdown_handoff"
  | tceAssisted => "tce_assisted"
  | ownerUnassisted => "owner_unassisted"

/-- `ARM_CLASS` -/
def PilotArm.armClass : PilotArm → String
  | ownerUnassisted => "human_workflow"
  | _ => "runtime"

/-- `RANDOMIZED_ARMS` -/
def randomizedArms : List PilotArm := [.existingRuntime, .markdownHandoff, .tceAssisted]

inductive AllocationKind
  | randomized | elected
deriving DecidableEq, Repr

/-- `PILOT_FAMILIES` -/
def pilotFamilies : List String :=
  ["safety_confirmation", "needs_human", "operator_action", "next_objective", "policy_abstention", "unclassified"]

/-- The library calls of the pilot, beside those of a `Host`. -/
structure PilotHost extends Host where
  /-- `hmac.new(key, message, hashlib.sha256).hexdigest()` -/
  hmacHex : String → String → String

variable (host : PilotHost)

/-- `hashlib.sha256(text.encode("utf-8")).hexdigest()[:32]` -/
def digest32 (text : String) : String := String.ofList ((host.sha256Hex text).toList.take 32)

/-- `ARM_SET_SHA` -/
def armSetSha : String := digest32 host ("|".intercalate (randomizedArms.map (·.value)))

/-- `validate_decision_family` -/
def validateDecisionFamily (value : String) : Except PyError String :=
  if strip value ∈ pilotFamilies then .ok (strip value) else .error .valueError

/-! ### The allocator -/

/-- `stratum_id_for` -/
def stratumIdFor (workspaceId subjectUserId : String) (projectId : Option String) (decisionFamily : String) : String :=
  digest32 host (workspaceId ++ "|" ++ subjectUserId ++ "|" ++ projectId.getD "" ++ "|" ++ decisionFamily)

/-- `allocation_salt_sha256` -/
def allocationSaltSha256 (salt : String) : String := digest32 host salt

/-- `compute_episode_key` -/
def computeEpisodeKey (workspaceId subjectUserId : String) (projectId : Option String) (sessionId : String)
    (objectiveHash : Option String) (cancelEpoch : Int) : String :=
  digest32 host ("|".intercalate [workspaceId, subjectUserId, projectId.getD "", sessionId, objectiveHash.getD "",
    toString cancelEpoch])

/-- The loop of `_fisher_yates`, from an index down: a 64-bit generator draws each exchange. -/
def fisherYatesFrom {α : Type} (pool : List α) (state : UInt64) : Nat → List α
  | 0 => pool
  | index + 1 =>
    let state := state * 6364136223846793005 + 1442695040888963407
    let pick := (state >>> 16).toNat % (index + 2)
    fisherYatesFrom (swapAt pool (index + 1) pick) state index

/-- `_fisher_yates` -/
def fisherYates {α : Type} (items : List α) (seed : Nat) : List α :=
  fisherYatesFrom items (UInt64.ofNat seed) (items.length - 1)

def hexDigit (c : Char) : Nat := if c.isDigit then c.toNat - '0'.toNat else c.toLower.toNat - 'a'.toNat + 10

/-- `int(digits, 16)` -/
def hexInt (digits : List Char) : Nat := digits.foldl (fun n c => 16 * n + hexDigit c) 0

/-- `block_permutation` -/
def blockPermutation (stratumId : String) (blockOrdinal : Nat) (salt : String) : List PilotArm :=
  let digest := host.hmacHex salt (stratumId ++ "|" ++ toString blockOrdinal)
  fisherYates randomizedArms (hexInt (digest.toList.take 8))

structure ArmAllocation where
  armId : PilotArm
  armClass : String
  allocationKind : AllocationKind
  stratumId : String
  /-- −1 for an election, as its block -/
  slot : Int
  blockOrdinal : Int
  blockPosition : Int
  armSetSha : String
  allocationSaltSha256 : String
deriving DecidableEq, Repr

/-- The arm of a slot. -/
def slotArm (stratumId salt : String) (slot : Nat) : PilotArm :=
  (blockPermutation host stratumId (slot / randomizedArms.length) salt).getD (slot % randomizedArms.length)
    .ownerUnassisted

/-- `allocate_arm` -/
def allocateArm (stratumId : String) (slot : Nat) (salt : String) : ArmAllocation where
  armId := slotArm host stratumId salt slot
  armClass := (slotArm host stratumId salt slot).armClass
  allocationKind := .randomized
  stratumId
  slot
  blockOrdinal := (slot / randomizedArms.length : Nat)
  blockPosition := (slot % randomizedArms.length : Nat)
  armSetSha := armSetSha host
  allocationSaltSha256 := allocationSaltSha256 host salt

/-- `elect_arm` -/
def electArm (stratumId : String) (arm : PilotArm) (salt : String) : Except PyError ArmAllocation :=
  if arm ∈ randomizedArms then .error .valueError
  else .ok {
    armId := arm
    armClass := arm.armClass
    allocationKind := .elected
    stratumId
    slot := -1
    blockOrdinal := -1
    blockPosition := -1
    armSetSha := armSetSha host
    allocationSaltSha256 := allocationSaltSha256 host salt }

/-! ### Enrolment -/

structure EnrolmentRequest where
  workspaceId : String
  subjectUserId : String
  projectId : Option String
  decisionFamily : String
  sessionId : String
  objectiveHash : Option String
  cancelEpoch : Int
  electArm : Option PilotArm

structure EnrolmentOutcome where
  episodeKey : String
  stratumId : String
  allocation : ArmAllocation
  reused : Bool
  slotConsumed : Bool

/-- `resolve_enrolment` -/
def resolveEnrolment (request : EnrolmentRequest) (existing : Option ArmAllocation) (nextSlot : Option Nat)
    (salt : String) (humanBaselineEnabled : Bool) : Except PyError EnrolmentOutcome := do
  let key := computeEpisodeKey host request.workspaceId request.subjectUserId request.projectId request.sessionId
    request.objectiveHash request.cancelEpoch
  let family ← validateDecisionFamily request.decisionFamily
  let stratum := stratumIdFor host request.workspaceId request.subjectUserId request.projectId family
  match existing with
  | some existing => .ok ⟨key, existing.stratumId, existing, true, false⟩
  | none => match request.electArm with
    | some arm =>
      if !humanBaselineEnabled then .error .valueError
      else do
        let allocation ← electArm host stratum arm salt
        return ⟨key, stratum, allocation, false, false⟩
    | none => match nextSlot with
      | none => .error .valueError
      | some slot => .ok ⟨key, stratum, allocateArm host stratum slot salt, false, true⟩

/-! ### Blocks -/

variable {host}

theorem fisherYatesFrom_perm {α : Type} (index : Nat) (pool : List α) (state : UInt64) :
    (fisherYatesFrom pool state index).Perm pool := by
  induction index generalizing pool state with
  | zero => exact .refl _
  | succ index ih => exact (ih _ _).trans (swapAt_perm pool _ _)

/-- A block has every arm once. -/
theorem blockPermutation_perm (stratumId : String) (blockOrdinal : Nat) (salt : String) :
    (blockPermutation host stratumId blockOrdinal salt).Perm randomizedArms := fisherYatesFrom_perm _ _ _

theorem block_slotArm (stratumId salt : String) (ordinal : Nat) :
    block randomizedArms.length (slotArm host stratumId salt) ordinal =
      blockPermutation host stratumId ordinal salt := by
  have hlength := (@blockPermutation_perm host stratumId ordinal salt).length_eq
  refine List.ext_getElem (by simp [block, hlength]) fun position hposition _ => ?_
  replace hposition : position < randomizedArms.length := by simpa [block] using hposition
  have hordinal : (ordinal * randomizedArms.length + position) / randomizedArms.length = ordinal := by
    rw [Nat.mul_comm, Nat.mul_add_div (by decide), Nat.div_eq_of_lt hposition, Nat.add_zero]
  have hwithin : (ordinal * randomizedArms.length + position) % randomizedArms.length = position := by
    rw [Nat.mul_comm, Nat.mul_add_mod, Nat.mod_eq_of_lt hposition]
  simp only [block, List.getElem_map, List.getElem_range, slotArm, hordinal, hwithin]
  rw [List.getD_eq_getElem]

/-- The arms of a stratum's slots come in blocks. -/
theorem blocked_slotArm (stratumId salt : String) : Blocked randomizedArms (slotArm host stratumId salt) := by
  intro ordinal
  rw [block_slotArm]
  exact blockPermutation_perm stratumId ordinal salt

end OpenTimeline.Pilot
