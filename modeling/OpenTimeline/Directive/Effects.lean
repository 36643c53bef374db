import OpenTimeline.Library.Table
import OpenTimeline.Directive.Endpoints

/-! The effect journal.

A row is opened before its effect and only its state and its resolution change after
that. A resolution is fenced on the directive's lease, reached by a subquery, and not on
the copy of it in the row. Rows are as `record_from_row` reads them, less the evidence,
which nothing here reads. -/
namespace OpenTimeline.Directive
open Library

variable (host : Host)

/-! ### Vocabulary -/

inductive EffectState
  | prepared | running | confirmed | failed | unknown
deriving DecidableEq, Repr

namespace EffectState

def value : EffectState → String
  | prepared => "prepared"
  | running => "running"
  | confirmed => "confirmed"
  | failed => "failed"
  | unknown => "unknown"

def parse (text : String) : Option EffectState :=
  [prepared, running, confirmed, failed, unknown].find? fun state => state.value = text

/-- `EFFECT_TERMINAL_STATES` -/
def isTerminal (state : EffectState) : Bool := state = confirmed || state = failed

/-- Opened and not resolved at all. -/
def isUnresolved (state : EffectState) : Bool := state = prepared || state = running

/-- `state IN ('prepared', 'running', 'unknown')` -/
def isOpen (state : EffectState) : Bool := state = prepared || state = running || state = unknown

theorem isOpen_iff (state : EffectState) : state.isOpen ↔ ¬ state.isTerminal := by
  cases state <;> decide

end EffectState

inductive Reversibility
  | reversible | irreversible | unknown
deriving DecidableEq, Repr

def Reversibility.value : Reversibility → String
  | reversible => "reversible"
  | irreversible => "irreversible"
  | unknown => "unknown"

/-- `EFFECT_ACTOR_RECONCILER` -/
def effectActorReconciler : String := "system:reconciler"

/-- `_SYSTEM_ONLY_SOURCES` -/
def systemOnlySources : List String := [effectActorReconciler, "system:verifier", "system:owner"]

/-- `EFFECT_TRANSITIONS` -/
def effectTransitions : List (EffectState × EffectState) :=
  [(.prepared, .running), (.prepared, .failed), (.prepared, .unknown), (.running, .confirmed),
    (.running, .failed), (.running, .unknown), (.unknown, .confirmed), (.unknown, .failed)]

/-- `EFFECT_REOPENABLE_TRANSITIONS` -/
def effectReopenableTransitions : List (EffectState × EffectState) := [(.failed, .unknown)]

structure EffectIntent where
  kind : String
  capability : String
  resource : String
  argv : List String
  reversibility : Reversibility
  description : String := ""
deriving DecidableEq, Repr

/-- `effect_intent_digest`: the description is not part of it. -/
def effectIntentDigest (intent : EffectIntent) : String :=
  host.sha256Hex (canonicalJson (.obj [("kind", .str intent.kind), ("capability", .str intent.capability),
    ("resource", .str intent.resource), ("argv", .arr (intent.argv.map .str)),
    ("reversibility", .str intent.reversibility.value)]))

/-! ### The rule -/

/-- The reason `validate_effect_transition` rejects a move for. -/
def validateEffectTransition (current : EffectState) (target : String) (actor : String)
    (reversibility : Reversibility) : Except String EffectState :=
  match EffectState.parse target with
  | none => .error "unknown_state"
  | some target =>
    if current.isTerminal ∧ (current, target) ∉ effectReopenableTransitions then .error "terminal"
    else if (current, target) ∉ effectTransitions ++ effectReopenableTransitions then
      .error "invalid_transition"
    else if (current = .unknown ∨ (current, target) ∈ effectReopenableTransitions) ∧
        actor ∉ systemOnlySources then .error "system_only"
    else if reversibility = .irreversible ∧ target.isTerminal ∧ actor ∉ systemOnlySources then
      .error "irreversible_actor"
    else .ok target

/-- The reconciler may close any unresolved effect, as failed or as unknown. -/
theorem validateEffectTransition_reconciler {current : EffectState} (hcurrent : current.isUnresolved)
    {target : EffectState} (htarget : target = .failed ∨ target = .unknown) (reversibility : Reversibility) :
    validateEffectTransition current target.value effectActorReconciler reversibility = .ok target := by
  obtain rfl | rfl := htarget <;> cases current <;> cases reversibility <;>
    first | rfl | simp [EffectState.isUnresolved] at hcurrent

/-! ### The journal -/

/-- A row of `effect_journal`. -/
structure EffectRow where
  effectId : String
  workspaceId : String
  ownerId : String
  sessionId : String
  directiveId : String
  seq : Int
  state : EffectState
  intent : EffectIntent
  intentDigest : String
  leaseGeneration : Nat
  claimedExecutor : String
  providerRunId : Option String
  openedAt : Datetime
  resolvedAt : Option Datetime
  resolutionSource : Option String
  resolvedByActor : Option String
deriving DecidableEq, Repr

/-- The two tables the fence joins. -/
structure Database where
  directives : Table DirectiveExecution.directiveId
  effects : Table EffectRow.effectId

/-- The directive an effect is of. -/
def Database.directiveOf (db : Database) (effect : EffectRow) : Option DirectiveExecution :=
  db.directives.find effect.directiveId

structure ResolveRequest where
  effectId : String
  targetState : String
  actor : String
  resolutionSource : String
  expectedLease : Nat
  now : Datetime

/-- The executor an actor names. -/
def executorOf (actor : String) : String :=
  if startsWith actor "executor:" then String.ofList (actor.toList.drop 9) else actor

/-- `EXISTS (SELECT 1 FROM directive_executions …)` -/
def ResolveRequest.fenced (request : ResolveRequest) (db : Database) (effect : EffectRow) : Bool :=
  match db.directiveOf effect with
  | none => false
  | some d => d.leaseGeneration = request.expectedLease &&
    (d.claimedExecutor = some (executorOf request.actor) || request.actor ∈ systemOnlySources)

/-- `resolve_effect` of Lite: whether the fenced UPDATE hit its row, or why the move is
rejected. -/
def resolveEffect (db : Database) (request : ResolveRequest) : Except String (Database × Bool) :=
  match db.effects.find request.effectId with
  | none => .ok (db, false)
  | some row =>
    match validateEffectTransition row.state request.targetState request.actor row.intent.reversibility with
    | .error reason => .error reason
    | .ok target =>
      let hit := fun effect : EffectRow =>
        effect.effectId = request.effectId && effect.state = row.state && request.fenced db effect
      .ok ({db with effects := db.effects.updateWhere hit (fun effect => {effect with
        state := target
        resolvedAt := some request.now
        resolutionSource := some request.resolutionSource
        resolvedByActor := some request.actor }) fun _ => rfl}, hit row)

/-! ### Opening an effect -/

structure OpenRequest where
  workspaceId : String
  ownerId : String
  sessionId : String
  directiveId : String
  intent : EffectIntent
  leaseGeneration : Nat
  /-- `auth.consumer` -/
  claimedExecutor : String
  providerRunId : Option String
  now : Datetime
  /-- `str(uuid.uuid4())` -/
  newId : String

/-- The caller holds the directive on the lease it names. -/
def OpenRequest.fenced (request : OpenRequest) (db : Database) : Bool :=
  match db.directives.find request.directiveId with
  | none => false
  | some d => d.leaseGeneration = request.leaseGeneration &&
    (d.claimedExecutor = some request.claimedExecutor || request.claimedExecutor ∈ systemOnlySources)

/-- The row of an intent of a directive. -/
def Database.effectOf (db : Database) (directiveId digest : String) : Option EffectRow :=
  db.effects.rows.find? fun effect => effect.directiveId = directiveId && effect.intentDigest = digest

/-- `COALESCE(MAX(seq), 0) + 1` -/
def Database.nextSeq (db : Database) (directiveId : String) : Int :=
  ((db.effects.rows.filter fun effect => effect.directiveId = directiveId).map (·.seq)).max?.getD 0 + 1

/-- The row an INSERT prepares. -/
def OpenRequest.row (request : OpenRequest) (db : Database) : EffectRow where
  effectId := request.newId
  workspaceId := request.workspaceId
  ownerId := request.ownerId
  sessionId := request.sessionId
  directiveId := request.directiveId
  seq := db.nextSeq request.directiveId
  state := .prepared
  intent := request.intent
  intentDigest := effectIntentDigest host request.intent
  leaseGeneration := request.leaseGeneration
  claimedExecutor := request.claimedExecutor
  providerRunId := request.providerRunId
  openedAt := request.now
  resolvedAt := none
  resolutionSource := none
  resolvedByActor := none

/-- `open_effect` of Lite: the id of the row of the intent, there before or inserted. -/
def openEffect (db : Database) (request : OpenRequest) : Except String (Database × String) :=
  match db.effectOf request.directiveId (effectIntentDigest host request.intent) with
  | some existing => .ok (db, existing.effectId)
  | none =>
    if !request.fenced db then .error "stale_lease"
    else match db.effects.insert (request.row host db) with
      | none => .error "integrity"
      | some effects => .ok ({db with effects}, request.newId)

end OpenTimeline.Directive
