import Mathlib.Data.Rat.Defs
import OpenTimeline.Supervisor.Reconcile

/-! A dispatch watching its child.

The adapter reads the child's lines until its own deadline, which it counts from the spawn, and
hands the dispatcher an event at a time. The dispatcher has a second deadline, counted from after
the handshake, and looks at it after each event and only then; it is the one that kills.

`Watch` is a child, the clock and the answers of the API as they come; `Watch.watch` is the loop. -/
namespace OpenTimeline.Supervisor
open Library Directive

variable (host : Host)

/-! ### What comes -/

/-- What the API says when the charter is read again. -/
inductive CharterReading
  | stands | gone | refused
deriving DecidableEq, Repr

/-- The dispatcher's turn with an event: the clock it compares with its deadline, the clock it
compares with the last look at the charter, the clock of a look, what it is told there, and
whether an interrupt raises. -/
structure Handling where
  pastAt : ℚ
  dueAt : ℚ
  checkedAt : ℚ
  charter : CharterReading := .stands
  interruptRaises : Bool := false

/-- A line of the child that is a JSON object, and when it was written. -/
structure OutputLine where
  producedAt : ℚ
  payload : Payload

/-- What the queue of a child's lines gives. -/
inductive Got
  /-- a line, `none` where it is no JSON object -/
  | line (message : Option OutputLine) (handling : Handling)
  | empty
  | eof

/-- A turn of `observe`: a message the handshake left over, or the clock at a poll and its yield. -/
inductive Turn
  | pending (message : OutputLine) (handling : Handling)
  | poll (time : ℚ) (got : Got)

structure Poll where
  time : ℚ
  got : Got

/-- A started child and what comes to its dispatcher. -/
structure Watch where
  surface : Surface
  wallSeconds : Int
  /-- `child.started_at` -/
  startedAt : ℚ
  /-- the clock the dispatcher's deadline counts from -/
  observedAt : ℚ
  /-- the first `last_charter_check` -/
  checkedAt : ℚ
  providerRunId : String
  /-- the thread the handshake told of -/
  threadId : Option String
  /-- messages before the answers of the handshake -/
  pending : List (OutputLine × Handling)
  polls : List Poll
  /-- messages nobody reads -/
  left : List OutputLine

namespace Watch

/-- The deadline of the adapter. -/
def adapterDeadline (w : Watch) : ℚ := w.startedAt + w.wallSeconds

/-- The deadline of the dispatcher. -/
def deadline (w : Watch) : ℚ := w.observedAt + w.wallSeconds

/-- The child as it was started. -/
def child (w : Watch) : Child := { providerRunId := w.providerRunId, threadId := w.threadId }

/-- Only the app server has a handshake. -/
def turns (w : Watch) : List Turn :=
  (if w.surface = .codexAppServer then w.pending.map fun message => .pending message.1 message.2 else []) ++
    w.polls.map fun poll => .poll poll.time poll.got

end Watch

/-! ### The loop -/

/-- `emit`: the event of a message, and the child with it. -/
def Surface.emit (surface : Surface) (child : Child) (payload : Payload) : Option (RuntimeEvent × Child) :=
  (surface.decodeEvent host (child.events.length + 1) payload).map fun event =>
    (event, {child with events := child.events ++ [event], threadId := child.threadId.or event.providerTurnId})

/-- What a turn of `observe` comes to. -/
inductive Heard
  | done
  | quiet
  /-- an event is handed over; `last` where `observe` returns after it -/
  | event (child : Child) (handling : Handling) (last : Bool)

/-- What the dispatcher does after an event. -/
inductive Verdict
  | goesOn (lastCheck : ℚ)
  | stops (stop : Stop)
  | raises

/-- How a loop ended: the adapter had no more, the dispatcher stopped it, or a call raised. -/
inductive Ended
  | done
  | stopped (stop : Stop)
  | raised

/-- The end a verdict puts to the loop. -/
def Verdict.ended : Verdict → Option Ended
  | goesOn _ => none
  | stops stop => some (.stopped stop)
  | raises => some .raised

structure Watched where
  child : Child
  ended : Ended

/-- `_CHARTER_RECHECK_SECONDS` -/
def charterRecheckSeconds : ℚ := 5

namespace Watch
variable (w : Watch)

/-- A turn of `observe`; the messages of the handshake are not polled for. -/
def hear (child : Child) : Turn → Heard
  | .pending message handling =>
    match w.surface.emit host child message.payload with
    | none => .quiet
    | some (_, child) => .event child handling false
  | .poll time got =>
    if w.adapterDeadline ≤ time then .done
    else match got with
      | .eof => .done
      | .empty => .quiet
      | .line none _ => .quiet
      | .line (some message) handling =>
        match w.surface.emit host child message.payload with
        | none => .quiet
        | some (event, child) => .event child handling (event.kind = .completed)

/-- The dispatcher's loop body, after an event. -/
def handle (lastCheck : ℚ) (handling : Handling) : Verdict :=
  if w.deadline < handling.pastAt then .stops (.killed "wall_clock_exceeded")
  else if charterRecheckSeconds ≤ handling.dueAt - lastCheck then
    match handling.charter with
    | .stands => .goesOn handling.checkedAt
    | .refused => .raises
    | .gone =>
      -- a surface without an interrupt raises
      if w.surface.interruptible && !handling.interruptRaises then .stops (.interrupted "charter_revoked")
      else .stops (.killed "charter_revoked")
  else .goesOn lastCheck

/-- The loop of `dispatch_once` over `observe`. When there are no more turns the deadline of the
adapter passes. -/
def watch (lastCheck : ℚ) (child : Child) : List Turn → Watched
  | [] => ⟨child, .done⟩
  | turn :: rest =>
    match w.hear host child turn with
    | .done => ⟨child, .done⟩
    | .quiet => watch lastCheck child rest
    | .event child handling last =>
      match w.handle lastCheck handling with
      | .stops stop => ⟨child, .stopped stop⟩
      | .raises => ⟨child, .raised⟩
      | .goesOn lastCheck => if last then ⟨child, .done⟩ else watch lastCheck child rest

def watched : Watched := w.watch host w.checkedAt w.child w.turns

/-! ### Getting to an event -/

/-- A message that ends a run. -/
def ends (payload : Payload) : Bool := (w.surface.decodeEvent host 0 payload).any (·.kind = .completed)

/-- The dispatcher's turn with the event of a turn of `observe`, if it has one. -/
def hands : Turn → Option Handling
  | .pending message handling => (w.surface.decodeEvent host 0 message.payload).map fun _ => handling
  | .poll time (.line (some message) handling) =>
    if w.adapterDeadline ≤ time then none else (w.surface.decodeEvent host 0 message.payload).map fun _ => handling
  | .poll _ _ => none

/-- `observe` returns at this turn, or after its event. -/
def closes : Turn → Bool
  | .pending _ _ => false
  | .poll _ .eof => true
  | .poll time (.line (some message) _) => w.adapterDeadline ≤ time || w.ends host message.payload
  | .poll time _ => w.adapterDeadline ≤ time

/-- The charter is looked at. -/
def Looks (lastCheck : ℚ) (handling : Handling) : Prop := charterRecheckSeconds ≤ handling.dueAt - lastCheck

/-- The dispatcher's deadline is past, or the charter is found gone and there is no interrupt. -/
def Kills (lastCheck : ℚ) (handling : Handling) : Prop :=
  w.deadline < handling.pastAt ∨ (Looks lastCheck handling ∧ handling.charter = .gone ∧
    (w.surface.interruptible = false ∨ handling.interruptRaises = true))

/-- The charter cannot be read. -/
def Refuses (lastCheck : ℚ) (handling : Handling) : Prop :=
  handling.pastAt ≤ w.deadline ∧ Looks lastCheck handling ∧ handling.charter = .refused

/-- The dispatcher's deadline is not past, and the charter is not looked at or stands. -/
def GoesOn (lastCheck : ℚ) (handling : Handling) : Prop :=
  handling.pastAt ≤ w.deadline ∧ (Looks lastCheck handling → handling.charter = .stands)

instance (lastCheck : ℚ) (handling : Handling) : Decidable (Looks lastCheck handling) :=
  inferInstanceAs (Decidable (_ ≤ _))

/-- The last look at the charter after these turns. -/
def lastLook (lastCheck : ℚ) : List Turn → ℚ
  | [] => lastCheck
  | turn :: rest =>
    match w.hands host turn with
    | none => lastLook lastCheck rest
    | some handling => lastLook (if Looks lastCheck handling then handling.checkedAt else lastCheck) rest

/-- There is an event of this kind, and before it `observe` does not return and the dispatcher goes on. -/
def GetsTo (P : ℚ → Handling → Prop) (lastCheck : ℚ) (turns : List Turn) : Prop :=
  ∃ before turn after handling, turns = before ++ turn :: after ∧ w.hands host turn = some handling ∧
    P (w.lastLook host lastCheck before) handling ∧
      ∀ first next rest, before = first ++ next :: rest → w.closes host next = false ∧
        ∀ earlier ∈ w.hands host next, w.GoesOn (w.lastLook host lastCheck first) earlier

/-- There is an event at which the dispatcher kills. -/
def Overtaken : Prop := w.GetsTo host w.Kills w.checkedAt w.turns

/-- There is an event at which the charter cannot be read. -/
def CutOff : Prop := w.GetsTo host w.Refuses w.checkedAt w.turns

variable {w host} {P : ℚ → Handling → Prop}

theorem not_getsTo_nil {lastCheck : ℚ} : ¬ w.GetsTo host P lastCheck [] := by
  rintro ⟨before, turn, after, handling, hturns, -⟩
  exact absurd hturns (by simp)

/-- It is the event of the first turn, or the first turn is passed and it comes later. -/
theorem getsTo_cons {lastCheck : ℚ} {turn : Turn} {rest : List Turn} :
    w.GetsTo host P lastCheck (turn :: rest) ↔
      (∃ handling, w.hands host turn = some handling ∧ P lastCheck handling) ∨
      (w.closes host turn = false ∧ (∀ handling ∈ w.hands host turn, w.GoesOn lastCheck handling) ∧
        w.GetsTo host P (w.lastLook host lastCheck [turn]) rest) := by
  have hlook : ∀ first : List Turn, w.lastLook host lastCheck (turn :: first) =
      w.lastLook host (w.lastLook host lastCheck [turn]) first := by
    intro first
    simp only [lastLook]
    cases w.hands host turn <;> rfl
  constructor
  · rintro ⟨before, turn', after, handling, hturns, hhands, hevent, hbefore⟩
    cases before with
    | nil =>
      obtain ⟨rfl, rfl⟩ := List.cons.inj hturns
      exact Or.inl ⟨handling, hhands, hevent⟩
    | cons first before =>
      obtain ⟨rfl, rfl⟩ := List.cons.inj hturns
      obtain ⟨hcloses, hgoes⟩ := hbefore [] turn before rfl
      refine Or.inr ⟨hcloses, hgoes, before, turn', after, handling, rfl, hhands, hlook before ▸ hevent, ?_⟩
      intro first next rest hsplit
      have hnext := hbefore (turn :: first) next rest (by rw [hsplit]; rfl)
      rwa [hlook] at hnext
  · rintro (⟨handling, hhands, hevent⟩ | ⟨hcloses, hgoes, before, turn', after, handling, rfl, hhands, hevent, hbefore⟩)
    · refine ⟨[], turn, rest, handling, rfl, hhands, hevent, ?_⟩
      intro first next rest hsplit
      exact absurd hsplit (by simp)
    · refine ⟨turn :: before, turn', after, handling, rfl, hhands, (hlook before).symm ▸ hevent, ?_⟩
      intro first next rest hsplit
      cases first with
      | nil =>
        obtain ⟨rfl, -⟩ := List.cons.inj hsplit
        exact ⟨hcloses, hgoes⟩
      | cons first firsts =>
        obtain ⟨rfl, htail⟩ := List.cons.inj hsplit
        rw [hlook]
        exact hbefore firsts next rest htail

/-! ### One turn -/

variable (host) in
/-- Which event a message is does not hang on its number. -/
theorem decodeEvent_kind (surface : Surface) (seq : Nat) (payload : Payload) :
    (surface.decodeEvent host seq payload).map (·.kind) = (surface.decodeEvent host 0 payload).map (·.kind) := by
  cases surface <;>
    simp [Surface.decodeEvent, CodexAppServer.decodeEvent, CodexExec.decodeEvent, ClaudeStream.decodeEvent, Function.comp_def]

theorem emit_eq_none_iff (child : Child) (payload : Payload) :
    w.surface.emit host child payload = none ↔ w.surface.decodeEvent host 0 payload = none := by
  have hkind := decodeEvent_kind host w.surface (child.events.length + 1) payload
  simp only [Surface.emit, Option.map_eq_none_iff]
  rw [← Option.map_eq_none_iff (f := fun event : RuntimeEvent => event.kind), hkind, Option.map_eq_none_iff]

theorem ends_of_emit {child next : Child} {payload : Payload} {event : RuntimeEvent}
    (h : w.surface.emit host child payload = some (event, next)) : w.ends host payload = (event.kind = .completed : Bool) := by
  obtain ⟨event, hevent, heq⟩ := Option.map_eq_some_iff.mp h
  cases heq
  have hkind := decodeEvent_kind host w.surface (child.events.length + 1) payload
  rw [hevent, Option.map_some] at hkind
  obtain ⟨event', hevent', hkind'⟩ := Option.map_eq_some_iff.mp hkind.symm
  rw [ends, hevent', Option.any_some, hkind']

/-- A turn hands an event over or does not; `observe` returns where the turn closes it. -/
theorem hear_spec (host : Host) (w : Watch) (child : Child) (turn : Turn) :
    (w.hands host turn = none ∧ w.hear host child turn = if w.closes host turn then .done else .quiet) ∨
      ∃ handling next, w.hands host turn = some handling ∧
        w.hear host child turn = .event next handling (w.closes host turn) := by
  cases turn with
  | pending message handling =>
    cases hemit : w.surface.emit host child message.payload with
    | none => simp [hands, hear, closes, hemit, (emit_eq_none_iff child message.payload).mp hemit]
    | some emitted =>
      have hdecode : w.surface.decodeEvent host 0 message.payload ≠ none := by
        rw [ne_eq, ← emit_eq_none_iff child, hemit]
        simp
      obtain ⟨event, hevent⟩ := Option.ne_none_iff_exists'.mp hdecode
      exact Or.inr ⟨handling, emitted.2, by simp [hands, hevent], by simp [hear, closes, hemit]⟩
  | poll time got =>
    by_cases hdeadline : w.adapterDeadline ≤ time
    · refine Or.inl ?_
      cases got with
      | line message handling => cases message <;> simp [hands, hear, closes, hdeadline]
      | empty => simp [hands, hear, closes, hdeadline]
      | eof => simp [hands, hear, closes, hdeadline]
    · cases got with
      | empty => simp [hands, hear, closes, hdeadline]
      | eof => simp [hands, hear, closes, hdeadline]
      | line message handling =>
        cases message with
        | none => simp [hands, hear, closes, hdeadline]
        | some message =>
          cases hemit : w.surface.emit host child message.payload with
          | none =>
            have hdecode := (emit_eq_none_iff child message.payload).mp hemit
            simp [hands, hear, closes, ends, hdeadline, hemit, hdecode]
          | some emitted =>
            have hdecode : w.surface.decodeEvent host 0 message.payload ≠ none := by
              rw [ne_eq, ← emit_eq_none_iff child, hemit]
              simp
            obtain ⟨event, hevent⟩ := Option.ne_none_iff_exists'.mp hdecode
            refine Or.inr ⟨handling, emitted.2, by simp [hands, hdeadline, hevent], ?_⟩
            simp [hear, closes, hdeadline, hemit, ends_of_emit hemit]

theorem handle_goesOn {lastCheck : ℚ} {handling : Handling} (h : w.GoesOn lastCheck handling) :
    w.handle lastCheck handling = .goesOn (if Looks lastCheck handling then handling.checkedAt else lastCheck) := by
  obtain ⟨hpast, hstands⟩ := h
  rw [handle, if_neg (not_lt.mpr hpast)]
  by_cases hlooks : Looks lastCheck handling
  · rw [if_pos (show charterRecheckSeconds ≤ _ from hlooks), if_pos hlooks, hstands hlooks]
  · rw [if_neg (show ¬ charterRecheckSeconds ≤ _ from hlooks), if_neg hlooks]

variable (w) in
/-- Why the dispatcher puts an end to the loop. -/
theorem ended_handle (lastCheck : ℚ) (handling : Handling) :
    ((w.handle lastCheck handling).ended = none ↔ w.GoesOn lastCheck handling) ∧
      ((∃ reason, (w.handle lastCheck handling).ended = some (.stopped (.killed reason))) ↔ w.Kills lastCheck handling) ∧
      ((w.handle lastCheck handling).ended = some .raised ↔ w.Refuses lastCheck handling) := by
  unfold handle GoesOn Kills Refuses Looks
  by_cases hpast : w.deadline < handling.pastAt
  · simp [hpast, Verdict.ended]
  · by_cases hlooks : charterRecheckSeconds ≤ handling.dueAt - lastCheck
    · cases hcharter : handling.charter with
      | stands => simp [hpast, hlooks, Verdict.ended, not_lt.mp hpast]
      | refused => simp [hpast, hlooks, Verdict.ended, not_lt.mp hpast]
      | gone =>
        cases hinterrupt : w.surface.interruptible <;> cases hraises : handling.interruptRaises <;>
          simp [hpast, hlooks, Verdict.ended]
    · simp [hpast, hlooks, Verdict.ended, not_lt.mp hpast]

/-! ### The loop -/

/-- The loop ends as `Q` has it exactly where it gets to an event at which the dispatcher ends it so. -/
theorem watch_iff {Q : Ended → Prop} (hdone : ¬ Q .done)
    (hP : ∀ lastCheck handling, (∃ ended ∈ (w.handle lastCheck handling).ended, Q ended) ↔ P lastCheck handling)
    (lastCheck : ℚ) (child : Child) (turns : List Turn) :
    Q (w.watch host lastCheck child turns).ended ↔ w.GetsTo host P lastCheck turns := by
  induction turns generalizing lastCheck child with
  | nil => simp [watch, not_getsTo_nil, hdone]
  | cons turn rest ih =>
    rw [getsTo_cons, watch]
    obtain ⟨hhands, hheard⟩ | ⟨handling, next, hhands, hheard⟩ := hear_spec host w child turn
    · rw [hheard]
      cases hcloses : w.closes host turn with
      | true => simp [hhands, hdone]
      | false => simp [hhands, ih, lastLook]
    · rw [hheard]
      have hevent := hP lastCheck handling
      have hgoes := (w.ended_handle lastCheck handling).1
      by_cases hon : w.GoesOn lastCheck handling
      · have hnot : ¬ P lastCheck handling := by simp [← hevent, hgoes.mpr hon]
        simp only [handle_goesOn hon, hhands]
        cases hcloses : w.closes host turn with
        | true => simp [hnot, hdone]
        | false => simp [hnot, hon, ih, lastLook, hhands]
      · cases hverdict : w.handle lastCheck handling with
        | goesOn _ => exact absurd (hgoes.mp (by simp [hverdict, Verdict.ended])) hon
        | stops stop => simp [hhands, hon, ← hevent, hverdict, Verdict.ended]
        | raises => simp [hhands, hon, ← hevent, hverdict, Verdict.ended]

theorem watched_killed_iff : (∃ reason, (w.watched host).ended = .stopped (.killed reason)) ↔ w.Overtaken host := by
  refine watch_iff (Q := fun ended => ∃ reason, ended = .stopped (.killed reason)) (by simp) ?_ w.checkedAt w.child w.turns
  intro lastCheck handling
  rw [← (w.ended_handle lastCheck handling).2.1]
  simp [Option.mem_def]

theorem watched_raised_iff : (w.watched host).ended = .raised ↔ w.CutOff host := by
  refine watch_iff (Q := fun ended => ended = .raised) (by simp) ?_ w.checkedAt w.child w.turns
  intro lastCheck handling
  rw [← (w.ended_handle lastCheck handling).2.2]
  simp [Option.mem_def]

end Watch
end OpenTimeline.Supervisor
