import OpenTimeline.Host
import OpenTimeline.Library.Statements

/-! The runtimes a supervisor drives.

A runtime writes messages, one JSON object a line. An adapter decodes a message to an event, or
to none where it knows nothing of it, and folds the events of a run to its result. There is one
adapter for each surface; what they share is the shape of events and results. -/
namespace OpenTimeline.Supervisor
open Library

variable (host : Host)

/-! ### Events and results -/

inductive EventKind
  | started | item | command | fileChange | approval | usage | completed | error
deriving DecidableEq, Repr

structure RuntimeEvent where
  seq : Nat
  kind : EventKind
  raw : Payload
  providerRunId : Option String
  providerTurnId : Option String

inductive Outcome
  | succeeded | failed | interrupted | unknown
deriving DecidableEq, Repr

structure Tokens where
  input : Int := 0
  output : Int := 0
  cachedInput : Int := 0
  reasoning : Int := 0
deriving DecidableEq, Repr

structure RuntimeResult where
  outcome : Outcome
  terminalReason : String
  isError : Bool
  text : String
  providerRunId : Option String
  providerTurnId : Option String
  tokens : Tokens
  costMinorUnits : Option Int
  costSource : String
  permissionDenials : List Payload

/-! ### Messages -/

/-- `value if isinstance(value, Mapping) else {}` -/
def mapping : Json → Payload
  | .obj fields => fields
  | _ => []

/-- `str(value or "")` -/
def textOf (value : Json) : String := if truthy value then pyStr host value else ""

/-- `str(value) if value else None` -/
def textOrNone (value : Json) : Option String := if truthy value then some (pyStr host value) else none

/-- The mappings right below a mapping. -/
def submappings (payload : Payload) : List Payload := payload.filterMap fun
  | (_, .obj fields) => some fields
  | _ => none

mutual

/-- The mappings in a value. -/
def mappingsIn : Json → Nat
  | .obj fields => 1 + mappingsInFields fields
  | _ => 0

def mappingsInFields : List (String × Json) → Nat
  | [] => 0
  | (_, value) :: rest => mappingsIn value + mappingsInFields rest

end

theorem sum_submappings (payload : Payload) :
    ((submappings payload).map fun fields => 1 + mappingsInFields fields).sum = mappingsInFields payload := by
  induction payload with
  | nil => rfl
  | cons field rest ih =>
    obtain ⟨key, value⟩ := field
    cases value <;> simp_all [submappings, mappingsInFields, mappingsIn]

def tokenKeyNames : List String :=
  ["input_tokens", "inputTokens", "output_tokens", "outputTokens", "cached_input_tokens", "cachedInputTokens",
    "reasoning_output_tokens", "reasoningOutputTokens"]

/-- `_find_usage`, from its queue on. -/
def findUsage : List Payload → Option Payload
  | [] => none
  | current :: queue =>
    if current.any fun field => tokenKeyNames.contains field.1 then some current
    else findUsage (queue ++ submappings current)
termination_by queue => (queue.map fun fields => 1 + mappingsInFields fields).sum
decreasing_by
  rw [List.map_append, List.sum_append, sum_submappings, List.map_cons, List.sum_cons]
  omega

/-- `int(value)` of a number -/
def number : Json → Option Int
  | .int n => some n
  | .bool b => some (if b then 1 else 0)
  | .float x => some x.trunc
  | _ => none

/-- The first of these names that has a number. -/
def readNumber (fields : Payload) (names : List String) : Int :=
  (names.findSome? fun name => number (fields.get name)).getD 0

/-- `decode_usage`, over the counters there are. -/
def Tokens.update (tokens : Tokens) (payload : Payload) : Tokens :=
  match findUsage [payload] with
  | none => tokens
  | some usage =>
    let count := fun names held => if readNumber usage names = 0 then held else readNumber usage names
    { input := count ["input_tokens", "inputTokens"] tokens.input
      output := count ["output_tokens", "outputTokens"] tokens.output
      cachedInput := count ["cached_input_tokens", "cachedInputTokens"] tokens.cachedInput
      reasoning := count ["reasoning_output_tokens", "reasoningOutputTokens"] tokens.reasoning }

/-- `"\n".join(part for part in text_parts if part)` -/
def joinText (parts : List String) : String := "\n".intercalate (parts.filter (· ≠ ""))

/-- What an agent says in an item. -/
def agentMessage (item : Json) : Option String :=
  match (mapping item).get "type" with
  | .str "agent_message" => some (textOf host ((mapping item).get "text"))
  | _ => none

/-! ### The app server -/

namespace CodexAppServer

/-- `_METHOD_KINDS` -/
def methodKinds : List (String × EventKind) :=
  [("thread/started", .started), ("item/started", .item), ("item/completed", .item),
    ("item/commandExecution/outputDelta", .command), ("item/fileChange/patchUpdated", .fileChange),
    ("item/commandExecution/requestApproval", .approval), ("item/fileChange/requestApproval", .approval),
    ("item/tool/requestUserInput", .approval), ("thread/tokenUsage/updated", .usage),
    ("account/rateLimits/updated", .usage), ("turn/completed", .completed), ("turn/failed", .completed),
    ("error", .error), ("guardianWarning", .error)]

/-- `_ITEM_TYPE_KINDS` -/
def itemTypeKinds : List (String × EventKind) := [("command_execution", .command), ("file_change", .fileChange)]

/-- The kind of an item by its type. -/
def itemKind (item : Json) : EventKind :=
  (itemTypeKinds.lookup (textOf host ((mapping item).get "type"))).getD .item

/-- `decode_event` -/
def decodeEvent (seq : Nat) (payload : Payload) : Option RuntimeEvent :=
  (methodKinds.lookup (textOf host (payload.get "method"))).map fun kind =>
    let params := mapping (payload.get "params")
    { seq
      kind := if kind = .item then itemKind host (params.get "item") else kind
      raw := payload
      providerRunId := none
      providerTurnId := textOrNone host ((params.get "threadId").or (params.get "thread_id")) }

/-- What the fold of `decode_result` keeps. -/
structure Folding where
  tokens : Tokens := {}
  textParts : List String := []
  outcome : Outcome := .unknown
  terminalReason : String := "no_terminal_event"
  isError : Bool := false

/-- The status a completed event is judged by. -/
def completedStatus (raw : Payload) : String := textOf host ((mapping (raw.get "params")).get "status")

/-- What a completed event makes the outcome. -/
def completedOutcome (raw : Payload) : Outcome :=
  if pyStr host (raw.get "method") = "turn/failed" ∨ completedStatus host raw = "failed" then .failed
  else if completedStatus host raw = "interrupted" then .interrupted
  else .succeeded

/-- The reason a completed event gives. -/
def completedReason (raw : Payload) : String :=
  match completedOutcome host raw with
  | .interrupted => "turn_interrupted"
  | .failed => if completedStatus host raw = "" then "turn_failed" else completedStatus host raw
  | _ => if completedStatus host raw = "" then "turn_completed" else completedStatus host raw

/-- The loop body of `decode_result`; an event is of one kind. -/
def foldEvent (state : Folding) (event : RuntimeEvent) : Folding :=
  match event.kind with
  | .usage => {state with tokens := state.tokens.update event.raw}
  | .item =>
    match agentMessage host ((mapping (event.raw.get "params")).get "item") with
    | some text => {state with textParts := state.textParts ++ [text]}
    | none => state
  | .error => {state with
      isError := true
      terminalReason := if truthy (event.raw.get "method") then pyStr host (event.raw.get "method") else "error"}
  | .completed => {state with
      tokens := state.tokens.update event.raw
      outcome := completedOutcome host event.raw
      terminalReason := completedReason host event.raw
      isError := state.isError || completedOutcome host event.raw = .failed}
  | _ => state

theorem foldEvent_outcome (state : Folding) (event : RuntimeEvent) :
    (foldEvent host state event).outcome =
      if event.kind = .completed then completedOutcome host event.raw else state.outcome := by
  unfold foldEvent
  cases event.kind with
  | item => cases agentMessage host ((mapping (event.raw.get "params")).get "item") <;> rfl
  | _ => rfl

/-- The last event that ends a turn. -/
def lastEnd (events : List RuntimeEvent) : Option RuntimeEvent :=
  lastStated (fun event => if event.kind = .completed then some event else none) events

theorem foldl_foldEvent_outcome (events : List RuntimeEvent) :
    (events.foldl (foldEvent host) {}).outcome =
      ((lastEnd events).map fun event => completedOutcome host event.raw).getD .unknown := by
  have hstep : ∀ state : Folding, ∀ event ∈ events, (foldEvent host state event).outcome =
      ((if event.kind = .completed then some event else none).map fun event =>
        completedOutcome host event.raw).getD state.outcome := by
    intro state event _
    rw [foldEvent_outcome]
    split_ifs <;> rfl
  rw [foldl_lastStated hstep, lastStated_map]
  rfl

/-- `decode_result` -/
def decodeResult (events : List RuntimeEvent) (providerRunId : String) (providerTurnId : Option String)
    (killedReason interruptedReason : Option String) : RuntimeResult :=
  let folded := events.foldl (foldEvent host) {}
  let (outcome, terminalReason) :=
    match killedReason, interruptedReason with
    -- a kill is never a failure
    | some reason, _ => (.unknown, reason)
    | none, some reason => (.interrupted, reason)
    | none, none => (folded.outcome, folded.terminalReason)
  { outcome
    terminalReason
    isError := folded.isError
    text := joinText folded.textParts
    providerRunId := some providerRunId
    providerTurnId
    tokens := folded.tokens
    costMinorUnits := none
    costSource := "unavailable"
    permissionDenials := [] }

/-- The events of a stream of messages. -/
def decodeStream (payloads : List Payload) : List RuntimeEvent :=
  payloads.zipIdx.filterMap fun entry => decodeEvent host (entry.2 + 1) entry.1

end CodexAppServer

/-! ### `codex exec` -/

namespace CodexExec

/-- `_TYPE_KINDS` -/
def typeKinds : List (String × EventKind) :=
  [("thread.started", .started), ("turn.started", .item), ("item.started", .item), ("item.completed", .item),
    ("turn.completed", .completed), ("turn.failed", .completed), ("error", .error)]

/-- `decode_event` -/
def decodeEvent (seq : Nat) (payload : Payload) : Option RuntimeEvent :=
  (typeKinds.lookup (textOf host (payload.get "type"))).map fun kind =>
    { seq
      kind := if kind = .item then CodexAppServer.itemKind host (payload.get "item") else kind
      raw := payload
      providerRunId := none
      providerTurnId := textOrNone host ((payload.get "thread_id").or (payload.get "threadId")) }

/-- The loop body of `decode_result`. -/
def foldEvent (state : CodexAppServer.Folding) (event : RuntimeEvent) : CodexAppServer.Folding :=
  let failed := pyStr host (event.raw.get "type") = "turn.failed"
  let state := match event.kind with
    | .completed => {state with
        tokens := state.tokens.update event.raw
        outcome := if failed then .failed else .succeeded
        terminalReason := if failed then "turn_failed" else "turn_completed"
        isError := state.isError || failed}
    | .error => {state with
        isError := true
        terminalReason := if truthy (event.raw.get "message") then pyStr host (event.raw.get "message") else "error"}
    | _ => state
  match agentMessage host (event.raw.get "item") with
  | some text => {state with textParts := state.textParts ++ [text]}
  | none => state

/-- `decode_result` -/
def decodeResult (events : List RuntimeEvent) (providerRunId : String) (providerTurnId : Option String)
    (killedReason : Option String) : RuntimeResult :=
  let folded := events.foldl (foldEvent host) {}
  { outcome := if killedReason.isSome then .unknown else folded.outcome
    terminalReason := killedReason.getD folded.terminalReason
    isError := folded.isError
    text := joinText folded.textParts
    providerRunId := some providerRunId
    providerTurnId
    tokens := folded.tokens
    costMinorUnits := none
    costSource := "unavailable"
    permissionDenials := [] }

end CodexExec

/-! ### Claude -/

namespace ClaudeStream

/-- `decode_event` -/
def decodeEvent (seq : Nat) (payload : Payload) : Option RuntimeEvent :=
  let kind : Option EventKind := match textOf host (payload.get "type") with
    | "system" => if textOf host (payload.get "subtype") = "init" then some .started else some .item
    | "assistant" => some .item
    | "user" => some .item
    | "result" => some .completed
    | "error" => some .error
    | _ => none
  kind.map fun kind =>
    { seq
      kind
      raw := payload
      providerRunId := textOrNone host (payload.get "session_id")
      providerTurnId := none }

/-- `int(round(float(value) * 100))` of a number -/
def cents (round : PyFloat → Int) : Json → Option Int
  | .int n => some (n * 100)
  | .bool b => some (if b then 100 else 0)
  | .float x => some (round x)
  | _ => none

/-- `decode_result` -/
def decodeResult (round : PyFloat → Int) (payload : Payload) (providerRunId : String) (killedReason : Option String) :
    RuntimeResult :=
  let usage := mapping (payload.get "usage")
  let subtype := textOf host (payload.get "subtype")
  let overBudget := subtype = "error_max_budget_usd"
  let reason := if truthy (payload.get "terminal_reason") then pyStr host (payload.get "terminal_reason")
    else if subtype = "" then "result" else subtype
  { outcome :=
      if killedReason.isSome then .unknown
      else if overBudget ∨ truthy (payload.get "is_error") then .failed else .succeeded
    terminalReason := killedReason.getD (if overBudget then "error_max_budget_usd" else reason)
    isError := truthy (payload.get "is_error")
    text := textOf host (payload.get "result")
    providerRunId := some (if truthy (payload.get "session_id") then pyStr host (payload.get "session_id") else providerRunId)
    providerTurnId := none
    tokens := {
      input := readNumber usage ["input_tokens"]
      output := readNumber usage ["output_tokens"]
      cachedInput := readNumber usage ["cache_read_input_tokens", "cached_input_tokens"]
      reasoning := readNumber usage ["reasoning_output_tokens"] }
    costMinorUnits := cents round (payload.get "total_cost_usd")
    costSource := if (cents round (payload.get "total_cost_usd")).isSome then "estimated" else "unavailable"
    permissionDenials := match payload.get "permission_denials" with
      | .arr items => items.filterMap fun
        | .obj fields => some fields
        | _ => none
      | _ => [] }

/-- `read_result`, of a run with or without a terminal message. -/
def readResult (round : PyFloat → Int) (terminal : Option Payload) (providerRunId : String)
    (killedReason : Option String) : RuntimeResult :=
  match terminal with
  | some payload => decodeResult host round payload providerRunId killedReason
  | none =>
    let killed := killedReason.any (· ≠ "")
    { outcome := if killed then .unknown else .failed
      terminalReason := if killed then killedReason.getD "" else "no_terminal_result"
      isError := !killed
      text := ""
      providerRunId := some providerRunId
      providerTurnId := none
      tokens := {}
      costMinorUnits := none
      costSource := "unavailable"
      permissionDenials := [] }

end ClaudeStream

/-! ### Surfaces -/

inductive Surface
  | codexAppServer | codexExec | claudeStream | claudeOneshot
deriving DecidableEq, Repr

/-- What a supervisor holds of a child: the events seen so far, and why it was stopped. -/
structure Child where
  providerRunId : String
  threadId : Option String := none
  events : List RuntimeEvent := []
  killedReason : Option String := none
  interruptedReason : Option String := none

namespace Surface

/-- `decode_event` of the adapter -/
def decodeEvent : Surface → Nat → Payload → Option RuntimeEvent
  | codexAppServer => CodexAppServer.decodeEvent host
  | codexExec => CodexExec.decodeEvent host
  | claudeStream => ClaudeStream.decodeEvent host
  | claudeOneshot => ClaudeStream.decodeEvent host

/-- The message a run ended with. -/
def terminal (events : List RuntimeEvent) : Option Payload :=
  (events.reverse.find? fun event => event.kind = .completed).map (·.raw)

/-- `read_result` of the adapter -/
def readResult (round : PyFloat → Int) (child : Child) : Surface → RuntimeResult
  | codexAppServer => CodexAppServer.decodeResult host child.events child.providerRunId child.threadId
      child.killedReason child.interruptedReason
  | codexExec => CodexExec.decodeResult host child.events child.providerRunId child.threadId child.killedReason
  | claudeStream => ClaudeStream.readResult host round (terminal child.events) child.providerRunId child.killedReason
  | claudeOneshot => ClaudeStream.readResult host round (terminal child.events) child.providerRunId child.killedReason

/-- The adapter has a protocol interrupt. -/
def interruptible : Surface → Bool
  | codexAppServer => true
  | claudeStream => true
  | _ => false

end Surface

end OpenTimeline.Supervisor
