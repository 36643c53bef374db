import OpenTimeline.Directive.Effects
import OpenTimeline.Supervisor.Runtime

/-! What a supervisor writes down of a run.

A dispatch resolves its root effect from the result it reads, and a reconcile after a crash
resolves what is open from the provider's record. The dispatch calls an outcome it does not
know, or an interrupted one, unknown; the reconcile calls every outcome but success a failure.
And a result of Claude is a failure where no terminal message was seen.

`saysNoMore_iff` has the resolutions that say no more than the provider did. -/
namespace OpenTimeline.Supervisor
open Library Directive

variable (host : Host)

/-! ### A dispatch -/

/-- Why a dispatch stopped its child, and how. -/
inductive Stop
  | killed (reason : String)
  | interrupted (reason : String)

def Stop.reason : Stop → String
  | killed reason => reason
  | interrupted reason => reason

/-- The child after it was stopped, if it was. -/
def Child.stopped (child : Child) : Option Stop → Child
  | none => child
  | some (.killed reason) => {child with killedReason := some reason}
  | some (.interrupted reason) => {child with interruptedReason := some reason}

/-- The state and the source `dispatch_once` resolves the root effect with. -/
def rootState (override : Option String) (outcome : Outcome) : EffectState × String :=
  if override.isSome then (.unknown, "reaper")
  else match outcome with
    | .succeeded => (.confirmed, "runtime_result")
    | .unknown => (.unknown, "runtime_result")
    | .interrupted => (.unknown, "runtime_result")
    | .failed => (.failed, "runtime_result")

/-! ### A reconcile -/

/-- `payload.get("id") == 2` -/
def isThreadReply (payload : Payload) : Bool :=
  match payload.get "id" with
  | .int n => n = 2
  | .float x => x.repr = "2.0"
  | _ => false

/-- The messages of a process that was asked for a thread, each with its line. -/
def messages (lines : List Json) : List (Payload × Nat) :=
  lines.zipIdx.filterMap fun
    | (.obj fields, i) => some (fields, i)
    | _ => none

/-- The events of the messages that are not the reply. -/
def recordEvents (lines : List Json) : List RuntimeEvent :=
  ((messages lines).filter (!isThreadReply ·.1)).filterMap fun message =>
    CodexAppServer.decodeEvent host (message.2 + 1) message.1

/-- `read_provider_record` of the app server, from what the process printed; `none` where it could
not be run. -/
def CodexAppServer.readProviderRecord (printed : Option (List Json)) (providerRunId : String) : Option RuntimeResult :=
  if providerRunId = "" then none
  else match printed with
    | none => none
    | some lines =>
      let replies := (messages lines).filter (isThreadReply ·.1)
      if replies.any fun reply => (reply.1.lookup "error").isSome then none
      else if replies.isEmpty then none
      else some (decodeResult host (recordEvents host lines) providerRunId (some providerRunId) none none)

/-- `read_provider_record` of the adapter of a surface. -/
def Surface.readProviderRecord (printed : Option (List Json)) (providerRunId : String) :
    Surface → Option RuntimeResult
  | codexAppServer => CodexAppServer.readProviderRecord host printed providerRunId
  | codexExec => CodexAppServer.readProviderRecord host printed providerRunId
  | claudeStream => none
  | claudeOneshot => none

/-- The state and the source `startup_reconcile` resolves an open effect with. -/
def reconcileState (record : Option RuntimeResult) : EffectState × String :=
  match record with
  | some record => (if record.outcome = .succeeded then .confirmed else .failed, "provider_read")
  | none => (.unknown, "reaper")

/-! ### What may be written down -/

/-- What the provider's outcome says of an effect. -/
def saidState (outcome : Option Outcome) : EffectState :=
  match outcome with
  | some .succeeded => .confirmed
  | some .failed => .failed
  | _ => .unknown

/-- The end of the run is among its events. -/
def sawEnd (events : List RuntimeEvent) : Bool := events.any fun event => event.kind = .completed

inductive Resolution
  /-- of an open effect, from what the provider printed -/
  | reconcile (surface : Surface) (printed : Option (List Json)) (providerRunId : String)
  /-- of the root effect of a dispatch -/
  | dispatch (surface : Surface) (providerRunId : String) (threadId : Option String) (events : List RuntimeEvent)
      (stop : Option Stop)

def Surface.isCodex : Surface → Bool
  | codexAppServer => true
  | codexExec => true
  | _ => false

/-- A reconcile writes what the record says, a dispatch no failure of a run that was killed or
whose end was not seen. -/
def Resolution.SaysNoMore (round : PyFloat → Int) : Resolution → Prop
  | .reconcile surface printed providerRunId =>
    let record := surface.readProviderRecord host printed providerRunId
    (reconcileState record).1 = saidState (record.map (·.outcome))
  | .dispatch surface providerRunId threadId events stop =>
    let child : Child := { providerRunId, threadId, events }
    let result := surface.readResult host round (child.stopped stop)
    let state := (rootState (stop.map Stop.reason) result.outcome).1
    (stop = none → state = saidState (some result.outcome)) ∧ (stop.isSome ∨ !sawEnd events → state ≠ .failed)

/-- The last event that ends a turn does not say that it was interrupted. -/
def EndsDecided (events : List RuntimeEvent) : Prop :=
  ∃ event, CodexAppServer.lastEnd events = some event ∧ CodexAppServer.completedOutcome host event.raw ≠ .interrupted

/-- There is no record, or the end of its last turn is in it and was not an interruption; and a run
of Claude was stopped or its end was seen. -/
def Resolution.Decided : Resolution → Prop
  | .reconcile surface printed providerRunId =>
    surface.readProviderRecord host printed providerRunId = none ∨
      ∃ lines, printed = some lines ∧ EndsDecided host (recordEvents host lines)
  | .dispatch surface _ _ events stop => surface.isCodex ∨ stop.isSome ∨ sawEnd events

/-! ### The map -/

variable {host}

/-- Success and failure are the outcomes the reconcile tells apart. -/
theorem reconcileState_iff (record : RuntimeResult) :
    (reconcileState (some record)).1 = saidState (some record.outcome) ↔
      record.outcome = .succeeded ∨ record.outcome = .failed := by
  cases houtcome : record.outcome <;> simp [reconcileState, saidState, houtcome]

theorem rootState_said (outcome : Outcome) : (rootState none outcome).1 = saidState (some outcome) := by
  cases outcome <;> rfl

namespace CodexAppServer

variable (host) in
theorem completedOutcome_ne_unknown (raw : Payload) : completedOutcome host raw ≠ .unknown := by
  unfold completedOutcome
  split_ifs <;> simp

/-- The fold tells success or failure where the end was seen and was no interruption. -/
theorem endsDecided_iff (events : List RuntimeEvent) :
    (events.foldl (foldEvent host) {}).outcome = .succeeded ∨ (events.foldl (foldEvent host) {}).outcome = .failed ↔
      EndsDecided host events := by
  rw [foldl_foldEvent_outcome, EndsDecided]
  cases lastEnd events with
  | none => simp
  | some event =>
    have hknown := completedOutcome_ne_unknown host event.raw
    cases houtcome : completedOutcome host event.raw <;> simp_all

theorem readProviderRecord_eq_some {printed : Option (List Json)} {providerRunId : String} {record : RuntimeResult}
    (h : readProviderRecord host printed providerRunId = some record) :
    ∃ lines, printed = some lines ∧ record.outcome = ((recordEvents host lines).foldl (foldEvent host) {}).outcome := by
  unfold readProviderRecord at h
  split_ifs at h
  cases printed with
  | none => cases h
  | some lines =>
    dsimp only at h
    split_ifs at h
    exact ⟨lines, rfl, Option.some.inj h ▸ rfl⟩

theorem outcome_of_not_sawEnd {events : List RuntimeEvent} (h : sawEnd events = false) :
    (events.foldl (foldEvent host) {}).outcome = .unknown := by
  have hkind : ∀ event ∈ events, event.kind ≠ .completed := by simpa [sawEnd] using h
  refine List.foldlRecOn (motive := fun state : Folding => state.outcome = .unknown) events _ rfl ?_
  intro state hstate event hevent
  rw [foldEvent_outcome, if_neg (hkind event hevent), hstate]

end CodexAppServer

namespace CodexExec

/-- Only the end of a turn moves the outcome. -/
theorem foldEvent_outcome (state : CodexAppServer.Folding) (event : RuntimeEvent) (h : event.kind ≠ .completed) :
    (foldEvent host state event).outcome = state.outcome := by
  unfold foldEvent
  cases hkind : event.kind with
  | completed => exact absurd hkind h
  | _ => cases agentMessage host (event.raw.get "item") <;> rfl

theorem outcome_of_not_sawEnd {events : List RuntimeEvent} (h : sawEnd events = false) :
    (events.foldl (foldEvent host) {}).outcome = .unknown := by
  have hkind : ∀ event ∈ events, event.kind ≠ .completed := by simpa [sawEnd] using h
  refine List.foldlRecOn (motive := fun state : CodexAppServer.Folding => state.outcome = .unknown) events _ rfl ?_
  intro state hstate event hevent
  rw [foldEvent_outcome state event (hkind event hevent), hstate]

end CodexExec

theorem terminal_isSome (events : List RuntimeEvent) : (Surface.terminal events).isSome = sawEnd events := by
  rw [Bool.eq_iff_iff]
  simp [Surface.terminal, sawEnd, List.find?_isSome]

variable (host) in
/-- The outcome of a run that nobody stopped and whose end was not seen. -/
theorem outcome_of_not_sawEnd (surface : Surface) (round : PyFloat → Int) (child : Child)
    (hkilled : child.killedReason = none) (hinterrupted : child.interruptedReason = none)
    (h : sawEnd child.events = false) :
    (surface.readResult host round child).outcome = if surface.isCodex then .unknown else .failed := by
  have hterminal : Surface.terminal child.events = none := by
    rw [← Option.not_isSome_iff_eq_none, terminal_isSome, h]
    exact Bool.false_ne_true
  cases surface with
  | codexAppServer =>
    simpa [Surface.readResult, CodexAppServer.decodeResult, hkilled, hinterrupted, Surface.isCodex] using
      CodexAppServer.outcome_of_not_sawEnd h
  | codexExec =>
    simpa [Surface.readResult, CodexExec.decodeResult, hkilled, Surface.isCodex] using CodexExec.outcome_of_not_sawEnd h
  | claudeStream =>
    simp [Surface.readResult, ClaudeStream.readResult, hterminal, hkilled, Surface.isCodex]
  | claudeOneshot =>
    simp [Surface.readResult, ClaudeStream.readResult, hterminal, hkilled, Surface.isCodex]

/-! ### Which resolutions say no more -/

theorem reconcile_iff (round : PyFloat → Int) (surface : Surface) (printed : Option (List Json)) (providerRunId : String) :
    (Resolution.reconcile surface printed providerRunId).SaysNoMore host round ↔
      (Resolution.reconcile surface printed providerRunId).Decided host := by
  simp only [Resolution.SaysNoMore, Resolution.Decided]
  cases hrecord : surface.readProviderRecord host printed providerRunId with
  | none => simp [reconcileState, saidState]
  | some record =>
    have hread : CodexAppServer.readProviderRecord host printed providerRunId = some record := by
      cases surface with
      | codexAppServer => exact hrecord
      | codexExec => exact hrecord
      | claudeStream => cases hrecord
      | claudeOneshot => cases hrecord
    obtain ⟨lines, rfl, houtcome⟩ := CodexAppServer.readProviderRecord_eq_some hread
    rw [Option.map_some, reconcileState_iff, houtcome, CodexAppServer.endsDecided_iff]
    simp

theorem dispatch_iff (round : PyFloat → Int) (surface : Surface) (providerRunId : String) (threadId : Option String)
    (events : List RuntimeEvent) (stop : Option Stop) :
    (Resolution.dispatch surface providerRunId threadId events stop).SaysNoMore host round ↔
      (Resolution.dispatch surface providerRunId threadId events stop).Decided host := by
  simp only [Resolution.SaysNoMore, Resolution.Decided]
  cases stop with
  | some stop => simp [rootState]
  | none =>
    simp only [Option.map_none, rootState_said, Child.stopped, Option.isSome_none, Bool.false_eq_true, false_or, forall_const,
      true_and]
    cases hend : sawEnd events with
    | true => simp
    | false =>
      have houtcome := outcome_of_not_sawEnd host surface round { providerRunId, threadId, events } rfl rfl hend
      rw [houtcome]
      cases hcodex : surface.isCodex <;> simp [saidState]

variable (host) in
/-- A resolution says no more than the provider did exactly where the provider has no record or has
decided the last turn, and, of a run of Claude nobody stopped, where its end was seen. -/
theorem saysNoMore_iff (round : PyFloat → Int) (r : Resolution) : r.SaysNoMore host round ↔ r.Decided host := by
  cases r with
  | reconcile surface printed providerRunId => exact reconcile_iff round surface printed providerRunId
  | dispatch surface providerRunId threadId events stop =>
    exact dispatch_iff round surface providerRunId threadId events stop

/-- The provider knows the thread and saw no turn end: the reconcile calls that a failure. And so
does the dispatch of a run of Claude that said nothing. -/
theorem unended_failed : ¬ ((Resolution.reconcile .codexAppServer (some [.obj [("id", .int 2), ("result", .obj [])]])
      "thread").SaysNoMore (asciiHost [] []) fun _ => 0) ∧
    ¬ ((Resolution.dispatch .claudeStream "run" none [] none).SaysNoMore (asciiHost [] []) fun _ => 0) := by
  refine ⟨fun h => ?_, fun h => ?_⟩
  · have hstate : EffectState.failed = .unknown := h
    cases hstate
  · exact h.2 (Or.inr rfl) rfl

end OpenTimeline.Supervisor
