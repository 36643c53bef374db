import OpenTimeline.Library.Statements
import OpenTimeline.Supervisor.Runtime

/-! The app server's contract.

By the pinned contract a turn that ends is told by `turn/completed`, whose parameters are a
thread id and the turn, and the turn has the status; there is no `turn/failed`. The fold reads
a status beside the turn, where the contract has none. So its outcome is the contract's only
where the last turn says its status a second time there, or completed (`follows_iff`). -/
namespace OpenTimeline.Supervisor
open Library

variable (host : Host)

/-! ### The contract -/

/-- `TurnStatus` -/
inductive TurnStatus
  | completed | interrupted | failed | inProgress
deriving DecidableEq, Repr

def TurnStatus.value : TurnStatus → String
  | completed => "completed"
  | interrupted => "interrupted"
  | failed => "failed"
  | inProgress => "inProgress"

def isTurnCompleted (payload : Payload) : Bool :=
  match payload.get "method" with
  | .str method => method = "turn/completed"
  | _ => false

/-- `params.turn` -/
def turnOf (payload : Payload) : Payload := mapping ((mapping (payload.get "params")).get "turn")

/-- `params.turn.status` -/
def turnStatus (payload : Payload) : Option TurnStatus :=
  match (turnOf payload).get "status" with
  | .str status => [TurnStatus.completed, .interrupted, .failed, .inProgress].find? (·.value = status)
  | _ => none

/-- A notification as the contract has it; further members are allowed. -/
structure Conforms (payload : Payload) : Prop where
  method : ∃ method, payload.get "method" = .str method ∧ method ≠ "turn/failed"
  turnCompleted : isTurnCompleted payload → ∃ params turn threadId id items status,
    payload.get "params" = .obj params ∧ Payload.get params "threadId" = .str threadId ∧
      Payload.get params "turn" = .obj turn ∧ Payload.get turn "id" = .str id ∧ Payload.get turn "items" = .arr items ∧
      Payload.get turn "status" = .str (TurnStatus.value status)

/-- The last notification of a turn's end. -/
def lastTurnCompleted (payloads : List Payload) : Option Payload :=
  lastStated (fun payload => if isTurnCompleted payload then some payload else none) payloads

/-- The status of the last turn that ended. -/
def lastTurnStatus (payloads : List Payload) : Option TurnStatus := (lastTurnCompleted payloads).bind turnStatus

/-- The outcome the contract gives a stream. -/
structure Follows (payloads : List Payload) (outcome : Outcome) : Prop where
  succeeded : outcome = .succeeded ↔ lastTurnStatus payloads = some .completed
  failed : lastTurnStatus payloads = some .failed → outcome = .failed
  interrupted : lastTurnStatus payloads = some .interrupted → outcome = .interrupted
  unknown : lastTurnCompleted payloads = none → outcome = .unknown

/-! ### The fold -/

namespace CodexAppServer

/-- A status beside the turn that says the same of it. -/
def Repeats (status : TurnStatus) (beside : String) : Prop :=
  match status with
  | .completed => beside ≠ "failed" ∧ beside ≠ "interrupted"
  | .failed => beside = "failed"
  | .interrupted => beside = "interrupted"
  | .inProgress => beside = "failed" ∨ beside = "interrupted"

/-- The last turn that ended, if any did, has its status beside it too, or completed. -/
def LastRepeats (payloads : List Payload) : Prop :=
  ∀ payload, lastTurnCompleted payloads = some payload →
    ∀ status, turnStatus payload = some status → Repeats status (completedStatus host payload)

variable {host}

theorem itemKind_ne_completed (item : Json) : itemKind host item ≠ .completed := by
  unfold itemKind
  generalize textOf host ((mapping item).get "type") = type
  cases hlookup : itemTypeKinds.lookup type with
  | none => simp
  | some kind =>
    obtain ⟨l, l', hkinds, -⟩ := List.lookup_eq_some_iff.mp hlookup
    have hmem : (type, kind) ∈ itemTypeKinds := by simp [hkinds]
    rintro rfl
    simp [itemTypeKinds] at hmem

theorem methodKinds_completed_iff {method : String} (hfailed : method ≠ "turn/failed") :
    methodKinds.lookup method = some .completed ↔ method = "turn/completed" := by
  constructor
  · intro hlookup
    obtain ⟨l, l', hkinds, -⟩ := List.lookup_eq_some_iff.mp hlookup
    have hmem : (method, EventKind.completed) ∈ methodKinds := by simp [hkinds]
    simpa [methodKinds, hfailed] using hmem
  · rintro rfl
    decide

/-- What the next notification of the contract makes of the outcome. -/
theorem foldEvent_decodeEvent {payload : Payload} (h : Conforms payload) (seq : Nat) (state : Folding) :
    (((decodeEvent host seq payload).map (foldEvent host state)).getD state).outcome =
      ((if isTurnCompleted payload then some (completedOutcome host payload) else none)).getD state.outcome := by
  obtain ⟨method, hmethod, hfailed⟩ := h.method
  have htext : textOf host (payload.get "method") = method := by
    rw [hmethod]
    by_cases hempty : method = "" <;> simp [textOf, truthy, pyStr, hempty]
  have hcompleted : isTurnCompleted payload = decide (methodKinds.lookup method = some .completed) := by
    rw [isTurnCompleted, hmethod, decide_eq_decide.mpr (methodKinds_completed_iff hfailed)]
  rw [decodeEvent, htext, hcompleted]
  cases hlookup : methodKinds.lookup method with
  | none => simp
  | some kind =>
    rw [Option.map_some, Option.map_some, Option.getD_some, foldEvent_outcome]
    by_cases hitem : kind = .item
    · subst hitem
      simp [itemKind_ne_completed]
    · by_cases hkind : kind = .completed <;> simp [hitem, hkind]

/-- The outcome is the one of the last turn that ended. -/
theorem outcome_decodeStream {payloads : List Payload} (h : ∀ payload ∈ payloads, Conforms payload)
    (providerRunId : String) (providerTurnId : Option String) :
    (decodeResult host (decodeStream host payloads) providerRunId providerTurnId none none).outcome =
      ((lastTurnCompleted payloads).map (completedOutcome host)).getD .unknown := by
  let states : Payload → Option Outcome := fun payload =>
    if isTurnCompleted payload then some (completedOutcome host payload) else none
  have hstates : states = fun payload => (if isTurnCompleted payload then some payload else none).map
      (completedOutcome host) := by
    funext payload
    dsimp only [states]
    split_ifs <;> rfl
  have hfold : (decodeStream host payloads).foldl (foldEvent host) {} = payloads.zipIdx.foldl (fun state entry =>
      ((decodeEvent host (entry.2 + 1) entry.1).map (foldEvent host state)).getD state) {} := by
    rw [decodeStream, List.foldl_filterMap]
    congr
    funext state entry
    cases decodeEvent host (entry.2 + 1) entry.1 <;> rfl
  have hlast : lastStated (fun entry => states entry.1) payloads.zipIdx = lastStated states payloads := by
    rw [lastStated, lastStated]
    conv_rhs => rw [← List.zipIdx_map_fst 0 payloads, List.filterMap_map]
    rfl
  show ((decodeStream host payloads).foldl (foldEvent host) {}).outcome = _
  rw [hfold, foldl_lastStated fun state entry hentry =>
    foldEvent_decodeEvent (h entry.1 (List.fst_mem_of_mem_zipIdx hentry)) (entry.2 + 1) state, hlast, hstates,
    lastStated_map]
  rfl

theorem turnStatus_of_conforms {payload : Payload} (h : Conforms payload) (hcompleted : isTurnCompleted payload = true) :
    ∃ status, turnStatus payload = some status := by
  obtain ⟨params, turn, _, _, _, status, hparams, -, hturn, -, -, hstatus⟩ := h.turnCompleted hcompleted
  refine ⟨status, ?_⟩
  have hturnOf : turnOf payload = turn := by
    rw [turnOf, hparams]
    show mapping (Payload.get params "turn") = turn
    rw [hturn]
    rfl
  rw [turnStatus, hturnOf, hstatus]
  cases status <;> decide

theorem mem_of_lastTurnCompleted {payloads : List Payload} {payload : Payload}
    (h : lastTurnCompleted payloads = some payload) : payload ∈ payloads ∧ isTurnCompleted payload = true := by
  obtain ⟨before, last, after, rfl, hstates, -⟩ := exists_split_of_lastStated h
  split_ifs at hstates with hcompleted
  obtain rfl := Option.some.inj hstates
  exact ⟨by simp, hcompleted⟩

/-- There is no `turn/failed`, so the status beside the turn decides. -/
theorem completedOutcome_eq {payload : Payload} (h : Conforms payload) : completedOutcome host payload =
    if completedStatus host payload = "failed" then .failed
    else if completedStatus host payload = "interrupted" then .interrupted
    else .succeeded := by
  obtain ⟨method, hmethod, hfailed⟩ := h.method
  simp [completedOutcome, hmethod, pyStr, hfailed]

theorem follows_iff_of_status {payloads : List Payload} {payload : Payload} {status : TurnStatus} {outcome : Outcome}
    (hlast : lastTurnCompleted payloads = some payload) (hstatus : lastTurnStatus payloads = some status) :
    Follows payloads outcome ↔ (outcome = .succeeded ↔ status = .completed) ∧ (status = .failed → outcome = .failed) ∧
      (status = .interrupted → outcome = .interrupted) := by
  constructor
  · rintro ⟨hsucceeded, hfailed, hinterrupted, -⟩
    simp only [hstatus, Option.some.injEq] at hsucceeded hfailed hinterrupted
    exact ⟨hsucceeded, hfailed, hinterrupted⟩
  · rintro ⟨hsucceeded, hfailed, hinterrupted⟩
    refine ⟨?_, ?_, ?_, ?_⟩ <;> simp only [hstatus, hlast, Option.some.injEq]
    · exact hsucceeded
    · exact hfailed
    · exact hinterrupted
    · exact nofun

/-- The outcome is the contract's just where the last turn that ended has its status beside it too,
or completed. -/
theorem follows_iff {payloads : List Payload} (h : ∀ payload ∈ payloads, Conforms payload) (providerRunId : String)
    (providerTurnId : Option String) :
    Follows payloads (decodeResult host (decodeStream host payloads) providerRunId providerTurnId none none).outcome ↔
      LastRepeats host payloads := by
  rw [outcome_decodeStream h]
  cases hlast : lastTurnCompleted payloads with
  | none =>
    have hstatus : lastTurnStatus payloads = none := by rw [lastTurnStatus, hlast, Option.bind_none]
    refine iff_of_true ⟨?_, ?_, ?_, fun _ => rfl⟩ ?_
    · simp [hstatus]
    · simp [hstatus]
    · simp [hstatus]
    · intro payload hpayload
      rw [hlast] at hpayload
      cases hpayload
  | some payload =>
    obtain ⟨hmem, hcompleted⟩ := mem_of_lastTurnCompleted hlast
    obtain ⟨status, hstatus⟩ := turnStatus_of_conforms (h payload hmem) hcompleted
    have hlastStatus : lastTurnStatus payloads = some status := by rw [lastTurnStatus, hlast, Option.bind_some, hstatus]
    have hrepeats : LastRepeats host payloads ↔ Repeats status (completedStatus host payload) := by
      simp [LastRepeats, hlast, hstatus]
    rw [hrepeats, Option.map_some, Option.getD_some, completedOutcome_eq (h payload hmem)]
    generalize completedStatus host payload = beside
    rw [follows_iff_of_status hlast hlastStatus]
    by_cases hfailed : beside = "failed"
    · subst hfailed
      cases status <;> simp [Repeats]
    · by_cases hinterrupted : beside = "interrupted"
      · subst hinterrupted
        cases status <;> simp [Repeats]
      · cases status <;> simp [Repeats, hfailed, hinterrupted]

/-- The end of a turn, as the contract tells it. -/
def turnEnd (status : TurnStatus) : Payload :=
  [("method", .str "turn/completed"), ("params", .obj [("threadId", .str "thread"),
    ("turn", .obj [("id", .str "turn"), ("items", .arr []), ("status", .str status.value)])])]

theorem conforms_turnEnd (status : TurnStatus) : ∀ payload ∈ [turnEnd status], Conforms payload := by
  rw [List.forall_mem_singleton]
  refine ⟨⟨"turn/completed", rfl, by decide⟩, fun _ => ⟨_, _, "thread", "turn", [], status, rfl, rfl, rfl, rfl, rfl, rfl⟩⟩

theorem follows_iff_completed :
    Follows [turnEnd .completed] (decodeResult (asciiHost [] []) (decodeStream (asciiHost [] []) [turnEnd .completed])
      "run" none none none).outcome ↔ LastRepeats (asciiHost [] []) [turnEnd .completed] :=
  follows_iff (conforms_turnEnd .completed) "run" none

/-- A turn that failed, and one that was interrupted, decode to a success. -/
theorem failed_turn_succeeds :
    (∀ payload ∈ [turnEnd .failed], Conforms payload) ∧
      ¬ Follows [turnEnd .failed] (decodeResult (asciiHost [] []) (decodeStream (asciiHost [] []) [turnEnd .failed])
        "run" none none none).outcome ∧
      ¬ Follows [turnEnd .interrupted] (decodeResult (asciiHost [] [])
        (decodeStream (asciiHost [] []) [turnEnd .interrupted]) "run" none none none).outcome := by
  refine ⟨conforms_turnEnd .failed, fun h => ?_, fun h => ?_⟩
  · have houtcome := h.failed (by decide)
    rw [outcome_decodeStream (conforms_turnEnd .failed)] at houtcome
    revert houtcome
    decide
  · have houtcome := h.interrupted (by decide)
    rw [outcome_decodeStream (conforms_turnEnd .interrupted)] at houtcome
    revert houtcome
    decide

end CodexAppServer
end OpenTimeline.Supervisor
