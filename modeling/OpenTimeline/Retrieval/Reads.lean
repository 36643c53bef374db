import OpenTimeline.Charter.Charter
import OpenTimeline.Retrieval.Deadline

/-! The reads of a turn of Lite.

A read of the retrieval is bounded by a progress handler, which aborts the statement once its slice is over. The
connection is also the one of the turn's writes, so the handler has to be gone by the next of them. It is
(`writes_unguarded`): every way out of a read removes it but one, an exception that is none of the database's, and
that one ends the turn.

A statement may be tried again, and slept on in between. All attempts together have the one slice, and a sleep is
never longer than what is left of the deadline; so a bounded read ends with its deadline however often it is tried
(`bounded_read_ends`). The first query of a turn is not bounded. Until one has returned none is skipped and none
runs out of time, so retrieval that is degraded has at least its first result. -/
namespace OpenTimeline.Retrieval
open Library Charter

/-! ### The ledger -/

structure ExecutedQuery where
  name : String
  ms : Nat
  rows : Nat
deriving DecidableEq

structure TimedOutQuery where
  name : String
  budgetMs : Nat
deriving DecidableEq

structure SkippedQuery where
  name : String
  remainingMs : Nat
  reason : String
deriving DecidableEq

structure CachedQuery where
  name : String
  key : String
deriving DecidableEq

structure RetrievalLedger where
  executed : List ExecutedQuery := []
  timedOut : List TimedOutQuery := []
  skipped : List SkippedQuery := []
  cached : List CachedQuery := []
deriving DecidableEq

namespace RetrievalLedger

def recordExecuted (l : RetrievalLedger) (name : String) (ms rows : Nat) : RetrievalLedger :=
  { l with executed := l.executed ++ [⟨name, ms, rows⟩] }

def recordTimeout (l : RetrievalLedger) (name : String) (budgetMs : Nat) : RetrievalLedger :=
  { l with timedOut := l.timedOut ++ [⟨name, budgetMs⟩] }

def recordSkip (l : RetrievalLedger) (name : String) (remainingMs : Nat) (reason : String) : RetrievalLedger :=
  { l with skipped := l.skipped ++ [⟨name, remainingMs, reason⟩] }

def isFirstQuery (l : RetrievalLedger) : Bool := l.executed.isEmpty && l.timedOut.isEmpty

def degraded (l : RetrievalLedger) : Bool := !(l.timedOut.isEmpty && l.skipped.isEmpty)

end RetrievalLedger

/-- What the ledger and the deadline tell the caller. -/
structure RetrievalMeta where
  deadlinePolicyRevision : String
  deadlineBudgetMs : Nat
  deadlineBackendBudgetMs : Nat
  deadlineRemainingMs : Nat
  deadlineExpired : Bool
  queriesExecuted : List ExecutedQuery
  queriesTimedOut : List TimedOutQuery
  queriesSkipped : List SkippedQuery
  queriesCached : List CachedQuery
  retrievalDegraded : Bool

def RetrievalLedger.toMeta (l : RetrievalLedger) (deadline : Option Deadline) (now : ℚ) : RetrievalMeta where
  deadlinePolicyRevision := "p2-2026-09"
  deadlineBudgetMs := deadline.elim 0 (·.own.budgetMs)
  deadlineBackendBudgetMs := deadline.elim 0 (·.own.backendBudgetMs)
  deadlineRemainingMs := deadline.elim 0 (·.remainingMs now)
  deadlineExpired := deadline.elim false (·.expired now)
  queriesExecuted := l.executed
  queriesTimedOut := l.timedOut
  queriesSkipped := l.skipped
  queriesCached := l.cached
  retrievalDegraded := l.degraded

/-! ### Statements -/

/-- An exception, with its text where it is the database's. -/
inductive Raised
  | operational (text : String)
  | database (text : String)
  | other
deriving DecidableEq

structure Attempt (R : Type) where
  seconds : ℚ
  reply : Except Raised R

structure RetrySettings where
  enabled : Bool
  maxAttempts : Int
  backoffMs : Int
  budgetMs : Int
  floorMs : Int

section Statement
variable (host : Host)

/-- The marker of an abort is in the text. -/
def isInterrupted (text : String) : Bool := contains (host.lower text) "interrupted"

def retryableDbTokens : List String :=
  ["database is locked", "database is busy", "locked", "busy", "timeout", "temporarily unavailable"]

/-- `_is_retryable_db_error`; no token is in an empty text. -/
def isRetryableDbError (text : String) : Bool :=
  !isInterrupted host text && retryableDbTokens.any (contains (host.lower text))

/-- How long to sleep before the next attempt, `none` where the error is raised instead. -/
def retryDelayMs (retry : RetrySettings) (deadline : Option Deadline) (attempt : Nat) (started now : ℚ) : Option Int :=
  let backoff := max 1 retry.backoffMs * 2 ^ attempt
  let remaining := max 0 retry.budgetMs - ⌊(now - started) * 1000⌋
  if remaining ≤ 0 then none
  else match deadline with
    | none => some (min remaining backoff)
    | some d =>
      if !d.allows retry.floorMs now then none
      else if min remaining (d.remainingMs now) ≤ 0 then none
      else some (min (min remaining (d.remainingMs now)) backoff)

/-- The attempts from one on, `left` more after it. -/
def retryFrom {R : Type} (tries : Nat → ℚ → Attempt R) (retry : RetrySettings) (deadline : Option Deadline)
    (started : ℚ) : Nat → Nat → ℚ → Except Raised R × ℚ
  | 0, attempt, now => ((tries attempt now).reply, now + (tries attempt now).seconds)
  | left + 1, attempt, now =>
    let ended := now + (tries attempt now).seconds
    match (tries attempt now).reply with
    | .error (.operational text) =>
      if !isRetryableDbError host text then (.error (.operational text), ended)
      else match retryDelayMs retry deadline attempt started ended with
        | none => (.error (.operational text), ended)
        | some delay => retryFrom tries retry deadline started left (attempt + 1) (ended + delay / 1000)
    | reply => (reply, ended)

/-- `_run_sql_retry`, and when it is done. -/
def runSqlRetry {R : Type} (tries : Nat → ℚ → Attempt R) (retry : RetrySettings) (deadline : Option Deadline)
    (now : ℚ) : Except Raised R × ℚ :=
  retryFrom host tries retry deadline now (if retry.enabled then (max 1 retry.maxAttempts).toNat - 1 else 0) 0 now

end Statement

/-! ### Guarded reads -/

/-- What the guard of a read does: nothing, leave the read out, or abort it when its time is over. -/
inductive Admission
  | unbounded
  | skip (remainingMs : Nat)
  | bounded (budgetMs : Nat)
deriving DecidableEq

/-- The cases of `begin_sqlite_deadline`, which are those of `begin_pg_deadline`. -/
def admission (deadline : Option Deadline) (ledger : Option RetrievalLedger) (requestedMs floorMs : Int) (now : ℚ) :
    Admission :=
  match deadline with
  | none => .unbounded
  | some d =>
    if 10 ^ 8 ≤ d.remainingMs now then .unbounded
    else if ledger.any (·.isFirstQuery) then .unbounded
    else if !d.allows floorMs now then .skip (d.remainingMs now)
    else .bounded (max 1 (d.sliceMs requestedMs now))

/-- A connection: when its progress handler aborts, if it has one. -/
structure LiteTurn where
  now : ℚ
  handler : Option ℚ
  ledger : Option RetrievalLedger

/-- How the attempts of a statement go, by the handler, the attempt's number and the time. A handler aborts them, at
most `late` after its time: SQLite asks it every so many instructions. -/
structure Statement (R : Type) (late : ℚ) where
  tries : Option ℚ → Nat → ℚ → Attempt R
  aborted : ∀ abortAt attempt now, now + (tries (some abortAt) attempt now).seconds ≤ max now abortAt + late

structure Read (R : Type) (late : ℚ) where
  name : String
  deadline : Option Deadline
  requestedMs : Int
  floorMs : Int
  retry : RetrySettings
  statement : Statement R late
  empty : R

section Guarded
variable (host : Host) {R : Type} {late : ℚ}

/-- `finish_sqlite_deadline` -/
def LiteTurn.finish (s : LiteTurn) (name : String) (started : ℚ) : LiteTurn :=
  { s with
    handler := none
    ledger := s.ledger.map (·.recordExecuted name ⌊(s.now - started) * 1000⌋₊ 0) }

/-- `absorb_sqlite_deadline` for a bounded read: the abort is the guard's own or not. -/
def LiteTurn.absorb (s : LiteTurn) (name : String) (budgetMs : Nat) (text : String) : Bool × LiteTurn :=
  if isInterrupted host text then
    (true, { s with handler := none, ledger := s.ledger.map (·.recordTimeout name budgetMs) })
  else (false, { s with handler := none })

/-- The end of a read that is not bounded, whatever its attempts came to. -/
def LiteTurn.settlePlain (s : LiteTurn) (name : String) (started : ℚ) : Except Raised R → LiteTurn
  | .ok _ => { s with ledger := s.ledger.map (·.recordExecuted name ⌊(s.now - started) * 1000⌋₊ 0) }
  | .error _ => s

/-- The end of a bounded read. An exception that is none of the database's passes by the guard. -/
def LiteTurn.settleBounded (s : LiteTurn) (name : String) (empty : R) (budgetMs : Nat) (started : ℚ) :
    Except Raised R → Except Raised R × LiteTurn
  | .ok result => (.ok result, s.finish name started)
  | .error (.operational text) =>
    let absorbed := s.absorb host name budgetMs text
    (if absorbed.1 then .ok empty else .error (.operational text), absorbed.2)
  | .error (.database text) =>
    let absorbed := s.absorb host name budgetMs text
    (if absorbed.1 then .ok empty else .error (.database text), absorbed.2)
  | .error .other => (.error .other, s)

/-- `_guarded_read` -/
def LiteTurn.guardedRead (s : LiteTurn) (read : Read R late) : Except Raised R × LiteTurn :=
  let run := fun handler => runSqlRetry host (read.statement.tries handler) read.retry read.deadline s.now
  match admission read.deadline s.ledger read.requestedMs read.floorMs s.now with
  | .skip remaining =>
    (.ok read.empty, { s with ledger := s.ledger.map (·.recordSkip read.name remaining "deadline_expired_skip") })
  | .unbounded =>
    let done := run s.handler
    (done.1, { s with now := done.2 }.settlePlain read.name s.now done.1)
  | .bounded budget =>
    let abortAt := s.now + budget / 1000
    let done := run (some abortAt)
    { s with now := done.2, handler := some abortAt }.settleBounded host read.name read.empty budget s.now done.1

/-! ### A turn -/

/-- A bounded read, and when it began and ended. -/
structure BoundedRead where
  under : Deadline
  start : ℚ
  stop : ℚ

structure LiteRun where
  turn : LiteTurn
  /-- an exception has left the turn -/
  left : Bool := false
  /-- the handler that each write found -/
  writes : List (Option ℚ) := []
  bounded : List BoundedRead := []
  /-- reads that the caller has had an answer of -/
  answered : Nat := 0

inductive LiteMove (R : Type) (late : ℚ)
  | wait (seconds : ℚ)
  | write
  /-- the caller may go on after an error of the database that is no abort -/
  | read (read : Read R late) (goesOn : Bool)

/-- What a read adds to the bounded reads. -/
def LiteTurn.boundedRead (s : LiteTurn) (read : Read R late) (stop : ℚ) : List BoundedRead :=
  match read.deadline, admission read.deadline s.ledger read.requestedMs read.floorMs s.now with
  | some d, .bounded _ => [⟨d, s.now, stop⟩]
  | _, _ => []

/-- An exception that the caller does not go on after. -/
def endsTurn (goesOn : Bool) : Except Raised R → Bool
  | .ok _ => false
  | .error (.operational text) => !(goesOn && !isInterrupted host text)
  | .error _ => true

/-- One if there was an answer. -/
def answers (reply : Except Raised R) : Nat := if reply.isOk then 1 else 0

@[simp] theorem answers_ok (result : R) : answers (.ok result : Except Raised R) = 1 := rfl
@[simp] theorem answers_error (raised : Raised) : answers (.error raised : Except Raised R) = 0 := rfl

def LiteRun.next (s : LiteRun) (move : LiteMove R late) : Option LiteRun :=
  if s.left then none
  else match move with
    | .wait seconds => if 0 ≤ seconds then some { s with turn.now := s.turn.now + seconds } else none
    | .write => some { s with writes := s.turn.handler :: s.writes }
    | .read read goesOn =>
      let done := s.turn.guardedRead host read
      some { s with
        turn := done.2
        left := endsTurn host goesOn done.1
        bounded := s.turn.boundedRead read done.2.now ++ s.bounded
        answered := s.answered + answers done.1 }

/-- A turn begins with a new ledger and no handler. -/
def liteTurns (R : Type) (late : ℚ) : System LiteRun (LiteMove R late) where
  init s := ∃ now, s = { turn := ⟨now, none, some {}⟩ }
  next := LiteRun.next host

end Guarded

/-! ### The handler and the ledger -/

section Kept
variable (host : Host) {R : Type} {late : ℚ}

/-- A guard that leaves a read out or bounds it has seen a query return or run out of time. -/
theorem not_first_of_admit {deadline : Option Deadline} {l : RetrievalLedger} {requestedMs floorMs : Int} {now : ℚ}
    (h : admission deadline (some l) requestedMs floorMs now ≠ .unbounded) : l.isFirstQuery = false := by
  cases deadline with
  | none => exact absurd rfl h
  | some d =>
    cases hfirst : l.isFirstQuery with
    | false => rfl
    | true =>
      refine absurd ?_ h
      simp [admission, hfirst]

/-- Once a query has returned or run out of time, one has returned. -/
theorem executed_of_not_first {l : RetrievalLedger} (hkept : l.degraded → l.executed ≠ [])
    (hfirst : l.isFirstQuery = false) : l.executed ≠ [] := by
  rcases l with ⟨executed, timedOut, skipped, cached⟩
  cases executed with
  | cons => simp
  | nil =>
    refine hkept ?_
    cases timedOut with
    | nil => simp [RetrievalLedger.isFirstQuery] at hfirst
    | cons => simp [RetrievalLedger.degraded]

/-- What the ledger of a turn keeps: what is degraded has a result, and each answer is written down once. -/
def Accounts (l : RetrievalLedger) (answered : Nat) : Prop :=
  (l.degraded → l.executed ≠ []) ∧ l.executed.length + l.timedOut.length + l.skipped.length = answered

theorem Accounts.executed {l : RetrievalLedger} {answered : Nat} (h : Accounts l answered) (name : String)
    (ms rows : Nat) : Accounts (l.recordExecuted name ms rows) (answered + 1) := by
  refine ⟨fun _ => by simp [RetrievalLedger.recordExecuted], ?_⟩
  rw [← h.2]
  simp only [RetrievalLedger.recordExecuted, List.length_append, List.length_singleton]
  omega

theorem Accounts.timedOut {l : RetrievalLedger} {answered : Nat} (h : Accounts l answered)
    (hfirst : l.isFirstQuery = false) (name : String) (budgetMs : Nat) :
    Accounts (l.recordTimeout name budgetMs) (answered + 1) := by
  have hexecuted : l.executed ≠ [] := executed_of_not_first h.1 hfirst
  refine ⟨fun _ => hexecuted, ?_⟩
  rw [← h.2]
  simp only [RetrievalLedger.recordTimeout, List.length_append, List.length_singleton]
  omega

theorem Accounts.skipped {l : RetrievalLedger} {answered : Nat} (h : Accounts l answered)
    (hfirst : l.isFirstQuery = false) (name : String) (remainingMs : Nat) (reason : String) :
    Accounts (l.recordSkip name remainingMs reason) (answered + 1) := by
  have hexecuted : l.executed ≠ [] := executed_of_not_first h.1 hfirst
  refine ⟨fun _ => hexecuted, ?_⟩
  rw [← h.2]
  simp only [RetrievalLedger.recordSkip, List.length_append, List.length_singleton]
  omega

section Settle
variable {s : LiteTurn} {l : RetrievalLedger} {answered : Nat}

theorem settlePlain_spec (hledger : s.ledger = some l) (h : Accounts l answered) (name : String) (started : ℚ)
    (reply : Except Raised R) :
    (s.settlePlain name started reply).handler = s.handler ∧
    ∃ l', (s.settlePlain name started reply).ledger = some l' ∧ Accounts l' (answered + answers reply) := by
  cases reply with
  | ok result =>
    refine ⟨rfl, _, ?_, h.executed name ⌊(s.now - started) * 1000⌋₊ 0⟩
    rw [LiteTurn.settlePlain, hledger]
    rfl
  | error raised => exact ⟨rfl, l, hledger, h⟩

theorem absorb_spec (hledger : s.ledger = some l) (h : Accounts l answered) (hfirst : l.isFirstQuery = false)
    (name text : String) (empty : R) (budgetMs : Nat) (raised : Raised) :
    (s.absorb host name budgetMs text).2.handler = none ∧
    ∃ l', (s.absorb host name budgetMs text).2.ledger = some l' ∧
      Accounts l' (answered +
        answers (if (s.absorb host name budgetMs text).1 then .ok empty else .error raised)) := by
  cases hinterrupted : isInterrupted host text with
  | true =>
    rw [LiteTurn.absorb, hinterrupted]
    exact ⟨rfl, l.recordTimeout name budgetMs, by simp [hledger], h.timedOut hfirst name budgetMs⟩
  | false =>
    rw [LiteTurn.absorb, hinterrupted]
    exact ⟨rfl, l, hledger, h⟩

theorem settleBounded_spec (hledger : s.ledger = some l) (h : Accounts l answered) (hfirst : l.isFirstQuery = false)
    (name : String) (empty : R) (budgetMs : Nat) (started : ℚ) (reply : Except Raised R) :
    let done := s.settleBounded host name empty budgetMs started reply
    (done.1 ≠ .error .other → done.2.handler = none) ∧
    ∃ l', done.2.ledger = some l' ∧ Accounts l' (answered + answers done.1) := by
  cases reply with
  | ok result =>
    refine ⟨fun _ => rfl, _, ?_, h.executed name ⌊(s.now - started) * 1000⌋₊ 0⟩
    rw [LiteTurn.settleBounded, LiteTurn.finish, hledger]
    rfl
  | error raised =>
    cases raised with
    | operational text =>
      obtain ⟨hhandler, hled⟩ := absorb_spec host hledger h hfirst name text empty budgetMs (.operational text)
      exact ⟨fun _ => hhandler, hled⟩
    | database text =>
      obtain ⟨hhandler, hled⟩ := absorb_spec host hledger h hfirst name text empty budgetMs (.database text)
      exact ⟨fun _ => hhandler, hled⟩
    | other => exact ⟨fun hne => absurd rfl hne, l, hledger, h⟩

/-- How a read leaves the connection and the ledger. -/
theorem guardedRead_spec (hledger : s.ledger = some l) (h : Accounts l answered) (hhandler : s.handler = none)
    (read : Read R late) :
    let done := s.guardedRead host read
    (done.1 ≠ .error .other → done.2.handler = none) ∧
    ∃ l', done.2.ledger = some l' ∧ Accounts l' (answered + answers done.1) := by
  have hfirst : admission read.deadline s.ledger read.requestedMs read.floorMs s.now ≠ .unbounded →
      l.isFirstQuery = false := hledger ▸ not_first_of_admit
  rw [LiteTurn.guardedRead]
  cases hcase : admission read.deadline s.ledger read.requestedMs read.floorMs s.now with
  | skip remaining =>
    refine ⟨fun _ => hhandler, _, ?_, h.skipped (hfirst (by simp [hcase])) read.name remaining "deadline_expired_skip"⟩
    simp [hledger]
  | unbounded =>
    dsimp only
    generalize runSqlRetry host (read.statement.tries s.handler) read.retry read.deadline s.now = done
    have hsettled := settlePlain_spec (s := { s with now := done.2 }) hledger h read.name s.now done.1
    exact ⟨fun _ => hsettled.1.trans hhandler, hsettled.2⟩
  | bounded budget =>
    dsimp only
    generalize runSqlRetry host (read.statement.tries (some (s.now + budget / 1000))) read.retry read.deadline s.now = done
    exact settleBounded_spec host (s := { s with now := done.2, handler := some (s.now + budget / 1000) }) hledger h
      (hfirst (by simp [hcase])) read.name read.empty budget s.now done.1

end Settle

structure LiteRun.Kept (s : LiteRun) : Prop where
  handler : s.left = false → s.turn.handler = none
  writes : ∀ handler ∈ s.writes, handler = none
  ledger : ∃ l, s.turn.ledger = some l ∧ Accounts l s.answered

theorem LiteRun.Kept.next {s s' : LiteRun} {move : LiteMove R late} (h : s.Kept) (hnext : s.next host move = some s') :
    s'.Kept := by
  unfold LiteRun.next at hnext
  cases hleft : s.left with
  | true => simp [hleft] at hnext
  | false =>
    rw [hleft, if_neg (by simp)] at hnext
    have hhandler := h.handler hleft
    obtain ⟨l, hledger, haccounts⟩ := h.ledger
    cases move with
    | wait seconds =>
      simp only at hnext
      split_ifs at hnext
      cases hnext
      exact ⟨fun _ => hhandler, h.writes, l, hledger, haccounts⟩
    | write =>
      cases hnext
      refine ⟨fun _ => hhandler, fun handler hmem => ?_, l, hledger, haccounts⟩
      rcases List.mem_cons.mp hmem with rfl | hmem
      · exact hhandler
      · exact h.writes handler hmem
    | read read goesOn =>
      cases hnext
      obtain ⟨hkeeps, hled⟩ := guardedRead_spec host hledger haccounts hhandler read
      refine ⟨fun hstays => hkeeps fun hother => ?_, h.writes, hled⟩
      simp [hother, endsTurn] at hstays

/-- No write of a turn runs under a handler, whatever the reads before it came to. A turn that leaves a query out, or
gives one up, has had an answer first; and each answer is in the ledger once. -/
theorem writes_unguarded {s : LiteRun} (h : (liteTurns host R late).Reachable s) :
    (∀ handler ∈ s.writes, handler = none) ∧ (s.left = false → s.turn.handler = none) ∧
    ∃ l, s.turn.ledger = some l ∧ (l.degraded → l.executed ≠ []) ∧
      l.executed.length + l.timedOut.length + l.skipped.length = s.answered := by
  have hkept : s.Kept := by
    refine h.invariant ?_ (fun _ _ _ _ hkept hnext => hkept.next host hnext)
    rintro s ⟨now, rfl⟩
    exact ⟨fun _ => rfl, by simp, {}, rfl, by simp [RetrievalLedger.degraded], rfl⟩
  obtain ⟨l, hledger, haccounts⟩ := hkept.ledger
  exact ⟨hkept.writes, hkept.handler, l, hledger, haccounts⟩

/-! ### Time -/

section Time
variable {d : Deadline} {stop : ℚ}

/-- A sleep ends before the deadline. -/
theorem retryDelayMs_ends {retry : RetrySettings} {attempt : Nat} {started now : ℚ} {delay : Int} {own : Frame}
    (hown : own ∈ d.lineage) (h : retryDelayMs retry (some d) attempt started now = some delay) :
    now + delay / 1000 < own.endsBy := by
  simp only [retryDelayMs] at h
  split_ifs at h with hspent hallowed hleft
  obtain rfl := Option.some.inj h
  set remaining := min (max 0 retry.budgetMs - ⌊(now - started) * 1000⌋) (d.remainingMs now : Int) with hremaining
  have hbackoff : 0 < max 1 retry.backoffMs * 2 ^ attempt := by positivity
  have hpos : 0 < min remaining (max 1 retry.backoffMs * 2 ^ attempt) := lt_min (by omega) hbackoff
  have hle : min remaining (max 1 retry.backoffMs * 2 ^ attempt) ≤ d.remainingMs now :=
    (min_le_left _ _).trans (min_le_right _ _)
  exact Deadline.lt_endsBy hown (by exact_mod_cast hle) (by exact_mod_cast hpos)

/-- Attempt after attempt, as long as each starts in time. -/
theorem retryFrom_ends {tries : Nat → ℚ → Attempt R} {retry : RetrySettings} {abortAt started : ℚ}
    (haborted : ∀ attempt now, now + (tries attempt now).seconds ≤ max now abortAt + late) (hstop : abortAt ≤ stop)
    (hsleep : ∀ attempt now delay, retryDelayMs retry (some d) attempt started now = some delay →
      now + (delay : ℚ) / 1000 ≤ stop) (left attempt : Nat) (now : ℚ) (hnow : now ≤ stop) :
    (retryFrom host tries retry (some d) started left attempt now).2 ≤ stop + late := by
  have hends : ∀ attempt now, now ≤ stop → now + (tries attempt now).seconds ≤ stop + late := fun attempt now hnow =>
    (haborted attempt now).trans (by simpa using max_le hnow hstop)
  induction left generalizing attempt now with
  | zero => exact hends attempt now hnow
  | succ left ih =>
    rw [retryFrom]
    cases hreply : (tries attempt now).reply with
    | ok result => exact hends attempt now hnow
    | error raised =>
      cases raised with
      | operational text =>
        simp only
        split_ifs
        · exact hends attempt now hnow
        · cases hdelay : retryDelayMs retry (some d) attempt started (now + (tries attempt now).seconds) with
          | none => exact hends attempt now hnow
          | some delay => exact ih _ _ (hsleep attempt _ delay hdelay)
      | database text => exact hends attempt now hnow
      | other => exact hends attempt now hnow

/-- The slice of a bounded read ends with the deadline, or within a millisecond. -/
theorem abortAt_le {own : Frame} {now : ℚ} (hown : own ∈ d.lineage) (requestedMs : Int) :
    now + (max 1 (d.sliceMs requestedMs now) : Nat) / 1000 ≤ max own.endsBy (now + 1 / 1000) := by
  rcases Nat.eq_zero_or_pos (d.sliceMs requestedMs now) with hzero | hpos
  · rw [hzero]
    exact (le_max_right _ _).trans' (by norm_num)
  · rw [max_eq_right (by omega)]
    have hle : (d.sliceMs requestedMs now : ℚ) ≤ d.remainingMs now := by
      exact_mod_cast Deadline.sliceMs_le_remainingMs requestedMs
    exact (Deadline.lt_endsBy hown hle (by exact_mod_cast hpos)).le.trans (le_max_left _ _)

theorem settleBounded_now (s : LiteTurn) (name : String) (empty : R) (budgetMs : Nat) (started : ℚ)
    (reply : Except Raised R) : (s.settleBounded host name empty budgetMs started reply).2.now = s.now := by
  cases reply with
  | ok result => rfl
  | error raised =>
    cases raised <;> simp only [LiteTurn.settleBounded, LiteTurn.absorb] <;> split_ifs <;> rfl

/-- When a bounded read has ended, with all its attempts. -/
theorem guardedRead_ends {s : LiteTurn} {read : Read R late} {own : Frame} (hdeadline : read.deadline = some d)
    (hbounded : ∃ budget, admission read.deadline s.ledger read.requestedMs read.floorMs s.now = .bounded budget)
    (hown : own ∈ d.lineage) : (s.guardedRead host read).2.now ≤ max own.endsBy (s.now + 1 / 1000) + late := by
  obtain ⟨budget, hbudget⟩ := hbounded
  have hslice : budget = max 1 (d.sliceMs read.requestedMs s.now) := by
    rw [hdeadline] at hbudget
    simp only [admission] at hbudget
    split_ifs at hbudget
    exact (Admission.bounded.inj hbudget).symm
  rw [LiteTurn.guardedRead, hbudget]
  simp only [settleBounded_now]
  rw [hdeadline, runSqlRetry]
  refine retryFrom_ends host (read.statement.aborted _) ?_ ?_ _ _ _ ?_
  · rw [hslice]
    exact abortAt_le hown read.requestedMs
  · intro attempt now delay hdelay
    exact (retryDelayMs_ends hown hdelay).le.trans (le_max_left _ _)
  · exact (le_max_right _ _).trans' (by norm_num)

def BoundedRead.InTime (late : ℚ) (read : BoundedRead) : Prop :=
  ∀ own ∈ read.under.lineage, read.stop ≤ max own.endsBy (read.start + 1 / 1000) + late

theorem inTime_of_boundedRead {s : LiteTurn} {read : Read R late} {added : BoundedRead}
    (h : added ∈ s.boundedRead read (s.guardedRead host read).2.now) : added.InTime late := by
  rw [LiteTurn.boundedRead] at h
  cases hdeadline : read.deadline with
  | none => simp [hdeadline] at h
  | some d =>
    cases hadmitted : admission read.deadline s.ledger read.requestedMs read.floorMs s.now with
    | bounded budget =>
      rw [hadmitted, hdeadline] at h
      obtain rfl := List.mem_singleton.mp h
      exact fun own hown => guardedRead_ends host hdeadline ⟨budget, hadmitted⟩ hown
    | unbounded => rw [hadmitted, hdeadline] at h; cases h
    | skip remaining => rw [hadmitted, hdeadline] at h; cases h

theorem inTime_next {s s' : LiteRun} {move : LiteMove R late} (h : ∀ read ∈ s.bounded, read.InTime late)
    (hnext : s.next host move = some s') : ∀ read ∈ s'.bounded, read.InTime late := by
  unfold LiteRun.next at hnext
  split_ifs at hnext
  cases move with
  | wait seconds =>
    simp only at hnext
    split_ifs at hnext
    cases hnext
    exact h
  | write =>
    cases hnext
    exact h
  | read read goesOn =>
    cases hnext
    intro added hadded
    rcases List.mem_append.mp hadded with hadded | hadded
    · exact inTime_of_boundedRead host hadded
    · exact h added hadded

/-- A bounded read ends with its deadline and with each one above it, or a millisecond after it began, up to what the
handler is late by. -/
theorem bounded_read_ends {s : LiteRun} (h : (liteTurns host R late).Reachable s)
    {read : BoundedRead} (hread : read ∈ s.bounded) {own : Frame} (hown : own ∈ read.under.lineage) :
    read.stop ≤ max own.endsBy (read.start + 1 / 1000) + late := by
  have hall : ∀ read ∈ s.bounded, read.InTime late := by
    refine h.invariant (I := fun s => ∀ read ∈ s.bounded, read.InTime late) ?_
      (fun _ _ _ _ hall hnext => inTime_next host hall hnext)
    rintro s ⟨now, rfl⟩
    simp
  exact hall read hread own hown

end Time
end Kept

/-! ### An example -/

/-- A statement of 20 ms. -/
def exampleStatement : Statement Nat 0 where
  tries handler _ now :=
    match handler with
    | none => ⟨1 / 50, .ok 3⟩
    | some abortAt =>
      if now + 1 / 50 ≤ abortAt then ⟨1 / 50, .ok 3⟩ else ⟨max 0 (abortAt - now), .error (.operational "interrupted")⟩
  aborted abortAt _ now := by
    dsimp only
    split_ifs with hdone
    · simpa using Or.inr hdone
    · rw [← max_add_add_left]
      simp

def exampleRead (name : String) : Read Nat 0 where
  name := name
  deadline := some (Deadline.start 0 50 25 5 "retrieval")
  requestedMs := 60
  floorMs := 10
  retry := ⟨true, 2, 8, 40, 10⟩
  statement := exampleStatement
  empty := 0

def exampleReads : List (LiteMove Nat 0) :=
  [.read (exampleRead "fts") true, .read (exampleRead "lexical") false, .wait (1 / 1000),
    .read (exampleRead "subquery") false, .write]

/-- The third read finds less than its floor left and is left out; the write after it finds no handler. -/
theorem writes_unguarded_example : ∃ s, (liteTurns (asciiHost [] []) Nat 0).run
      { turn := ⟨0, none, some {}⟩ } exampleReads = some s ∧
    s.answered = 3 ∧ s.writes = [none] ∧ ∀ handler ∈ s.writes, handler = none := by
  have hrun : (((liteTurns (asciiHost [] []) Nat 0).run { turn := ⟨0, none, some {}⟩ } exampleReads).map fun s =>
      (s.answered, s.writes)) = some (3, [none]) := by decide +kernel
  obtain ⟨s, hs, hseen⟩ := Option.map_eq_some_iff.mp hrun
  obtain ⟨hanswered, hwrites⟩ := Prod.mk.inj hseen
  have hinit : (liteTurns (asciiHost [] []) Nat 0).init { turn := ⟨0, none, some {}⟩ } := ⟨0, rfl⟩
  exact ⟨s, hs, hanswered, hwrites, (writes_unguarded (asciiHost [] []) ((System.Reachable.init hinit).run hs)).1⟩

/-- The second read ends after 40 of the 50 ms. -/
theorem bounded_read_ends_example : ∃ s, (liteTurns (asciiHost [] []) Nat 0).run
      { turn := ⟨0, none, some {}⟩ } exampleReads = some s ∧
    ∃ read ∈ s.bounded, read.stop = 1 / 25 ∧
      read.stop ≤ max (⟨0, 50, 25, 5, "retrieval"⟩ : Frame).endsBy (read.start + 1 / 1000) + 0 := by
  have hrun : (((liteTurns (asciiHost [] []) Nat 0).run { turn := ⟨0, none, some {}⟩ } exampleReads).map fun s =>
      (s.bounded.map fun read => (read.under, read.stop))) =
        some [(Deadline.start 0 50 25 5 "retrieval", 1 / 25)] := by decide +kernel
  obtain ⟨s, hs, hseen⟩ := Option.map_eq_some_iff.mp hrun
  obtain ⟨read, hread, hpair⟩ : ∃ read ∈ s.bounded,
      (read.under, read.stop) = (Deadline.start 0 50 25 5 "retrieval", (1 / 25 : ℚ)) := by
    rw [← List.mem_map, hseen]
    exact List.mem_singleton.mpr rfl
  obtain ⟨hunder, hstop⟩ := Prod.mk.inj hpair
  have hinit : (liteTurns (asciiHost [] []) Nat 0).init { turn := ⟨0, none, some {}⟩ } := ⟨0, rfl⟩
  refine ⟨s, hs, read, hread, hstop, ?_⟩
  refine bounded_read_ends (asciiHost [] []) ((System.Reachable.init hinit).run hs) hread ?_
  rw [hunder]
  decide +kernel

end OpenTimeline.Retrieval
