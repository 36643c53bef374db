import OpenTimeline.Library.Savepoints
import OpenTimeline.Retrieval.Reads

/-! The reads of a turn of Full.

A read of the retrieval is bounded by the transaction's `statement_timeout`, set inside a savepoint. The transaction
is also the one of the turn's writes. A guard leaves it as it was, for a read that returns and for one that the
database cancels or refuses. What is left besides depends on the caller. A caller that goes on after any exception,
without a rollback, goes on in a transaction that refuses every statement where the read had no guard; and with a
timeout of some milliseconds in force where it had one and the exception was none of the database's. These two apart
every write of a turn finds the transaction as the turn began it (`clean_throughout_iff`). -/
namespace OpenTimeline.Retrieval
open Library

/-- An exception of a read. -/
inductive PgRaised
  /-- `query_canceled`: the statement ran out of time -/
  | cancelled
  /-- the server refused the statement -/
  | refused
  /-- a `DBAPIError` of the client: the server has not seen the statement -/
  | client
  | other
deriving DecidableEq

/-- What a caller of a guarded read does about an exception. -/
inductive Caller
  | passesOn
  /-- `db.rollback()`, after one of the database or after any -/
  | rollsBack (afterAny : Bool)
  /-- goes on without what was asked for -/
  | swallows
  /-- `query_similar_observations`, with a handler of its own in place of that of `_guarded_rows` -/
  | observations
deriving DecidableEq

structure PgRead (R : Type) where
  name : String
  deadline : Option Deadline
  requestedMs : Int
  floorMs : Int
  seconds : ℚ
  reply : Except PgRaised (List R)
  caller : Caller

structure FullTurn where
  now : ℚ
  statementTimeout : LocalSetting String
  /-- `db.info`: the timeout that was in force before the first guard -/
  priorTimeout : Option String := none
  ledger : Option RetrievalLedger
  /-- what the transaction has written -/
  pending : List String := []

section Read
variable {R : Type}

/-- A statement in a transaction. -/
def execute (s : LocalSetting String) (reply : Except PgRaised (List R)) :
    Except PgRaised (List R) × LocalSetting String :=
  if s.failed then (.error .refused, s)
  else match reply with
    | .error .cancelled => (reply, s.refuse)
    | .error .refused => (reply, s.refuse)
    | _ => (reply, s)

/-- `_restore_timeout`; what it raises is swallowed. -/
def restoreTimeout (s : LocalSetting String) (prior : String) : LocalSetting String :=
  (s.set (if prior = "" then "0" else String.ofList (prior.toList.filter (· ≠ '\'')))).getD s

/-- The third case of `begin_pg_deadline`: with the prior timeout, `none` where it raises. -/
def FullTurn.beginPgDeadline (s : FullTurn) (budgetMs : Nat) : Option (String × FullTurn) := do
  let opened ← s.statementTimeout.savepoint
  let prior := s.priorTimeout.getD opened.current
  let inForce ← opened.set (toString budgetMs)
  return (prior, { s with statementTimeout := inForce, priorTimeout := some prior })

/-- `finish_pg_deadline` for a bounded read -/
def FullTurn.finishPgDeadline (s : FullTurn) (prior name : String) (started : ℚ) (rows : Nat) : FullTurn :=
  { s with
    statementTimeout := restoreTimeout (s.statementTimeout.release.getD s.statementTimeout) prior
    ledger := s.ledger.map (·.recordExecuted name ⌊(s.now - started) * 1000⌋₊ rows) }

/-- `absorb_pg_deadline` for a bounded read -/
def FullTurn.absorbPgDeadline (s : FullTurn) (prior name : String) (budgetMs : Nat) (cancelled : Bool) : FullTurn :=
  { s with
    statementTimeout := restoreTimeout (s.statementTimeout.rollbackTo.getD s.statementTimeout) prior
    ledger := if cancelled then s.ledger.map (·.recordTimeout name budgetMs) else s.ledger }

/-- What a read comes to. -/
inductive Answer (R : Type)
  | rows (rows : List R)
  | raised (atBegin : Bool) (raised : PgRaised)

/-- The exceptions that the read's handler gives to the guard. -/
def Caller.handles (caller : Caller) (raised : PgRaised) : Bool := caller = .observations || raised ≠ .other

/-- `_guarded_rows`, and the statement of `query_similar_observations` -/
def FullTurn.guardedRows (s : FullTurn) (read : PgRead R) : Answer R × FullTurn :=
  match admission read.deadline s.ledger read.requestedMs read.floorMs s.now with
  | .skip remaining =>
    (.rows [], { s with ledger := s.ledger.map (·.recordSkip read.name remaining "deadline_expired_skip") })
  | .unbounded =>
    let done := execute s.statementTimeout read.reply
    let after : FullTurn := { s with now := s.now + read.seconds, statementTimeout := done.2 }
    match done.1 with
    | .ok rows => (.rows rows, { after with
        ledger := s.ledger.map (·.recordExecuted read.name ⌊read.seconds * 1000⌋₊ rows.length) })
    | .error raised => (.raised false raised, after)
  | .bounded budget =>
    match s.beginPgDeadline budget with
    | none => (.raised true .refused, s)
    | some (prior, began) =>
      let done := execute began.statementTimeout read.reply
      let after : FullTurn := { began with now := s.now + read.seconds, statementTimeout := done.2 }
      match done.1 with
      | .ok rows => (.rows rows, after.finishPgDeadline prior read.name s.now rows.length)
      | .error raised =>
        if read.caller.handles raised then
          let absorbed := after.absorbPgDeadline prior read.name budget (raised = .cancelled)
          (if raised = .cancelled then .rows [] else .raised false raised, absorbed)
        else (.raised false raised, after)

/-- The caller goes on after an exception. -/
def Caller.goesOn : Caller → (atBegin : Bool) → PgRaised → Bool
  | .passesOn, _, _ => false
  | .rollsBack afterAny, _, raised => afterAny || raised ≠ .other
  | .swallows, _, _ => true
  | .observations, atBegin, _ => !atBegin

def FullTurn.rollback (s : FullTurn) : FullTurn :=
  { s with statementTimeout := s.statementTimeout.rollback, pending := [] }

/-! ### A turn -/

structure FullRun where
  turn : FullTurn
  /-- an exception has left the turn -/
  left : Bool := false

inductive FullMove (R : Type)
  | wait (seconds : ℚ)
  | write (row : String)
  | read (read : PgRead R)

/-- A read and what its caller does about it. -/
def FullRun.afterRead (s : FullRun) (read : PgRead R) : FullRun :=
  let done := s.turn.guardedRows read
  match done.1 with
  | .rows _ => { s with turn := done.2 }
  | .raised atBegin raised =>
    if read.caller.goesOn atBegin raised then
      match read.caller with
      | .rollsBack _ => { s with turn := done.2.rollback }
      | _ => { s with turn := done.2 }
    else { turn := done.2, left := true }

/-- A write in a transaction that refuses statements raises, and ends the turn. -/
def FullRun.next (s : FullRun) (move : FullMove R) : Option FullRun :=
  if s.left then none
  else match move with
    | .wait seconds => if 0 ≤ seconds then some { s with turn.now := s.turn.now + seconds } else none
    | .write row =>
      if s.turn.statementTimeout.failed then some { s with left := true }
      else some { s with turn.pending := s.turn.pending ++ [row] }
    | .read read => some (s.afterRead read)

/-- A turn begins with a new ledger, in a transaction whose timeout is the session's. -/
def fullTurns (R : Type) : System FullRun (FullMove R) where
  init s := ∃ now session, session ≠ "" ∧ '\'' ∉ session.toList ∧
    s = { turn := { now := now, statementTimeout := ⟨session, session, [], false⟩, ledger := some {} } }
  next := FullRun.next

/-- What a guard puts back is the session's timeout. -/
structure FullTurn.Sound (s : FullTurn) : Prop where
  prior : ∀ prior ∈ s.priorTimeout, prior = s.statementTimeout.session
  session : s.statementTimeout.session ≠ "" ∧ '\'' ∉ s.statementTimeout.session.toList

/-- The transaction is as the turn has begun it. -/
structure FullTurn.Clean (s : FullTurn) : Prop extends FullTurn.Sound s where
  timeout : s.statementTimeout.Clean

/-- A read spoils the transaction: it had no guard and the server stopped it, or its guard has not seen the
exception. -/
def FullTurn.spoiledBy (s : FullTurn) (read : PgRead R) : Bool :=
  match admission read.deadline s.ledger read.requestedMs read.floorMs s.now, read.reply with
  | .unbounded, .error raised => raised = .cancelled || raised = .refused
  | .bounded _, .error raised => !read.caller.handles raised
  | _, _ => false

/-- The caller goes on, without a rollback, in a transaction that the read has spoiled. -/
def spoils (s : FullRun) : FullMove R → Bool
  | .read read => s.turn.spoiledBy read && (read.caller = .swallows || read.caller = .observations)
  | _ => false

/-! ### What a read leaves -/

namespace FullTurn
variable {s : FullTurn} {read : PgRead R}

theorem restoreTimeout_eq (setting : LocalSetting String) {session : String}
    (hsession : session ≠ "" ∧ '\'' ∉ session.toList) (hfailed : setting.failed = false) :
    restoreTimeout setting session = { setting with current := session } := by
  have hfilter : session.toList.filter (· ≠ '\'') = session.toList := by
    rw [List.filter_eq_self]
    intro c hc
    exact decide_eq_true fun hquote => hsession.2 (hquote ▸ hc)
  rw [restoreTimeout, if_neg hsession.1, hfilter, String.ofList_toList, LocalSetting.set, if_neg (by simp [hfailed])]
  rfl

theorem Clean.timeout_eq (h : s.Clean) : s.statementTimeout =
    ⟨s.statementTimeout.session, s.statementTimeout.session, [], false⟩ := LocalSetting.clean_iff.mp h.timeout

/-- A guard begins with the timeout that it is to put back. -/
theorem Clean.beginPgDeadline (h : s.Clean) (budgetMs : Nat) :
    s.beginPgDeadline budgetMs = some (s.statementTimeout.session, { s with
      statementTimeout := ⟨s.statementTimeout.session, toString budgetMs, [s.statementTimeout.session], false⟩
      priorTimeout := some s.statementTimeout.session }) := by
  have hprior : s.priorTimeout.getD s.statementTimeout.session = s.statementTimeout.session := by
    cases hcase : s.priorTimeout with
    | none => rfl
    | some prior => exact h.prior prior hcase
  rw [FullTurn.beginPgDeadline, h.timeout_eq]
  simp only [LocalSetting.savepoint, LocalSetting.set, Option.bind_eq_bind, Option.bind_some, if_neg,
    Bool.false_eq_true, not_false_eq_true, hprior]
  rfl

/-- The session's timeout, which a guard has put back or has noted. -/
theorem sound_of_noted {session : String} (hsession : session ≠ "" ∧ '\'' ∉ session.toList) {after : FullTurn}
    (htimeout : after.statementTimeout.session = session) (hprior : after.priorTimeout = some session) :
    after.Sound where
  prior prior hmem := by
    rw [hprior] at hmem
    rw [htimeout]
    exact (Option.some.inj hmem).symm
  session := htimeout ▸ hsession

theorem clean_of_restored {session : String} (hsession : session ≠ "" ∧ '\'' ∉ session.toList) {after : FullTurn}
    (htimeout : after.statementTimeout = ⟨session, session, [], false⟩) (hprior : after.priorTimeout = some session) :
    after.Clean where
  toSound := sound_of_noted hsession (by rw [htimeout]) hprior
  timeout := by
    rw [htimeout]
    exact ⟨rfl, rfl, rfl⟩

theorem finish_clean {session value : String} (hsession : session ≠ "" ∧ '\'' ∉ session.toList) {after : FullTurn}
    (htimeout : after.statementTimeout = ⟨session, value, [session], false⟩) (hprior : after.priorTimeout = some session)
    (name : String) (started : ℚ) (rows : Nat) : (after.finishPgDeadline session name started rows).Clean := by
  refine clean_of_restored hsession ?_ hprior
  rw [finishPgDeadline, htimeout]
  exact restoreTimeout_eq ⟨session, value, [], false⟩ hsession rfl

/-- The guard's own handler, for any exception it is given. -/
theorem absorb_clean {session value : String} {failed : Bool} (hsession : session ≠ "" ∧ '\'' ∉ session.toList)
    {after : FullTurn} (htimeout : after.statementTimeout = ⟨session, value, [session], failed⟩)
    (hprior : after.priorTimeout = some session) (name : String) (budgetMs : Nat) (cancelled : Bool) :
    (after.absorbPgDeadline session name budgetMs cancelled).Clean := by
  refine clean_of_restored hsession ?_ hprior
  rw [absorbPgDeadline, htimeout]
  exact restoreTimeout_eq ⟨session, session, [], false⟩ hsession rfl

theorem Sound.rollback (h : s.Sound) : s.rollback.Clean where
  prior := h.prior
  session := h.session
  timeout := LocalSetting.rollback_clean

/-- What a read has left, said of the exception or the rows alone. -/
structure Leaves (s : FullTurn) (read : PgRead R) (done : Answer R × FullTurn) : Prop where
  sound : done.2.Sound
  clean : done.2.Clean ↔ s.spoiledBy read = false
  ofRows : ∀ rows, done.1 = .rows rows → s.spoiledBy read = false
  ofRaised : ∀ atBegin raised, done.1 = .raised atBegin raised → atBegin = false

theorem leaves_clean {answer : Answer R} {after : FullTurn} (hclean : after.Clean)
    (hspoiled : s.spoiledBy read = false) (hbegin : ∀ atBegin raised, answer = .raised atBegin raised → atBegin = false) :
    s.Leaves read (answer, after) where
  sound := hclean.toSound
  clean := iff_of_true hclean hspoiled
  ofRows _ _ := hspoiled
  ofRaised := hbegin

theorem leaves_spoiled {raised : PgRaised} {after : FullTurn} (hsound : after.Sound) (hunclean : ¬ after.Clean)
    (hspoiled : s.spoiledBy read = true) : s.Leaves read (.raised false raised, after) where
  sound := hsound
  clean := iff_of_false hunclean (by simp [hspoiled])
  ofRows _ hrows := by cases hrows
  ofRaised _ _ hraised := by
    cases hraised
    rfl

theorem Clean.guardedRows (h : s.Clean) : s.Leaves read (s.guardedRows read) := by
  have htimeout := h.timeout_eq
  rw [FullTurn.guardedRows]
  cases hadmit : admission read.deadline s.ledger read.requestedMs read.floorMs s.now with
  | skip remaining =>
    exact leaves_clean ⟨⟨h.prior, h.session⟩, h.timeout⟩ (by simp [spoiledBy, hadmit]) (fun _ _ hraised => by cases hraised)
  | unbounded =>
    have hopen : s.statementTimeout.failed = false := h.timeout.2.2
    simp only [execute, if_neg, hopen, Bool.false_eq_true, not_false_eq_true]
    cases hreply : read.reply with
    | ok rows =>
      exact leaves_clean ⟨⟨h.prior, h.session⟩, h.timeout⟩ (by simp [spoiledBy, hadmit, hreply])
        (fun _ _ hraised => by cases hraised)
    | error raised =>
      cases raised with
      | cancelled | refused =>
        exact leaves_spoiled ⟨h.prior, h.session⟩ (fun hclean => LocalSetting.not_clean_refuse hclean.timeout)
          (by simp [spoiledBy, hadmit, hreply])
      | client | other =>
        refine leaves_clean ⟨⟨h.prior, h.session⟩, h.timeout⟩ (by simp [spoiledBy, hadmit, hreply]) (fun _ _ hraised => ?_)
        cases hraised
        rfl
  | bounded budget =>
    simp only [h.beginPgDeadline, execute, if_neg, Bool.false_eq_true, not_false_eq_true]
    cases hreply : read.reply with
    | ok rows =>
      exact leaves_clean (finish_clean h.session rfl rfl _ _ _) (by simp [spoiledBy, hadmit, hreply])
        (fun _ _ hraised => by cases hraised)
    | error raised =>
      cases hhandles : read.caller.handles raised with
      | true =>
        have hspoiled : s.spoiledBy read = false := by simp [spoiledBy, hadmit, hreply, hhandles]
        cases raised with
        | cancelled =>
          simp only [if_pos hhandles]
          exact leaves_clean (absorb_clean h.session rfl rfl _ _ _) hspoiled (fun _ _ h => by cases h)
        | refused | client | other =>
          simp only [if_pos hhandles]
          refine leaves_clean (absorb_clean h.session rfl rfl _ _ _) hspoiled (fun _ _ hraised => ?_)
          cases hraised
          rfl
      | false =>
        -- the exception is none of the database's: the savepoint stays open
        obtain ⟨-, rfl⟩ : read.caller ≠ .observations ∧ raised = .other := by simpa [Caller.handles] using hhandles
        simp only [hhandles, Bool.false_eq_true, if_false]
        exact leaves_spoiled (sound_of_noted h.session rfl rfl) (fun hclean => by cases hclean.timeout.2.1)
          (by simp [spoiledBy, hadmit, hreply, hhandles])

end FullTurn

/-- One step leaves the transaction as it was, or the turn, exactly where the caller of a read does not go on in what
the read has spoiled. -/
theorem next_clean_iff {s s' : FullRun} {move : FullMove R} (hkept : s.left = false → s.turn.Clean)
    (hnext : s.next move = some s') : (s'.left = false → s'.turn.Clean) ↔ spoils s move = false := by
  unfold FullRun.next at hnext
  cases hleft : s.left with
  | true => simp [hleft] at hnext
  | false =>
    rw [hleft, if_neg (by simp)] at hnext
    have hclean := hkept hleft
    cases move with
    | wait seconds =>
      simp only at hnext
      split_ifs at hnext
      cases hnext
      exact iff_of_true (fun _ => ⟨⟨hclean.prior, hclean.session⟩, hclean.timeout⟩) rfl
    | write row =>
      simp only [hclean.timeout.2.2, Bool.false_eq_true, if_false] at hnext
      cases hnext
      exact iff_of_true (fun _ => ⟨⟨hclean.prior, hclean.session⟩, hclean.timeout⟩) rfl
    | read read =>
      cases hnext
      have hleaves : s.turn.Leaves read (s.turn.guardedRows read) := hclean.guardedRows
      rw [spoils, FullRun.afterRead]
      cases hanswer : (s.turn.guardedRows read).1 with
      | rows rows =>
        have hunspoiled := hleaves.ofRows rows hanswer
        exact iff_of_true (fun _ => hleaves.clean.mpr hunspoiled) (by simp [hunspoiled])
      | raised atBegin raised =>
        obtain rfl := hleaves.ofRaised atBegin raised hanswer
        cases hcaller : read.caller with
        | passesOn => simp [Caller.goesOn]
        | rollsBack afterAny =>
          refine iff_of_true ?_ (by simp)
          simp only
          split_ifs
          · exact fun _ => hleaves.sound.rollback
          · intro hleft'
            cases hleft'
        | swallows => simp [Caller.goesOn, hleft, hleaves.clean]
        | observations => simp [Caller.goesOn, hleft, hleaves.clean]

/-- A turn keeps its transaction throughout exactly where, after each of its reads, no caller goes on in what the
read has spoiled. -/
theorem clean_throughout_iff {start last : FullRun} {moves : List (FullMove R)} (hstart : (fullTurns R).init start)
    (hrun : (fullTurns R).run start moves = some last) :
    (∀ before after mid, moves = before ++ after → (fullTurns R).run start before = some mid →
      (mid.left = false → mid.turn.Clean)) ↔
    ∀ before move after mid, moves = before ++ move :: after → (fullTurns R).run start before = some mid →
      spoils mid move = false := by
  refine System.run_always_iff (I := fun s => s.left = false → s.turn.Clean) (C := fun s move => spoils s move = false)
    (fun s move s' _ hkept hnext => next_clean_iff hkept hnext) (.init hstart) ?_ hrun
  obtain ⟨now, session, hne, hquote, rfl⟩ := hstart
  exact fun _ => ⟨⟨by simp, hne, hquote⟩, rfl, rfl, rfl⟩

end Read

def exampleFullRun : FullRun := { turn := { now := 0, statementTimeout := ⟨"3s", "3s", [], false⟩, ledger := some {} } }

/-- The statement is refused, and `_read_feedback_signals` goes on without the signals. -/
def exampleSwallowed : PgRead Nat where
  name := "feedback_signals"
  deadline := none
  requestedMs := 60
  floorMs := 10
  seconds := 1 / 100
  reply := .error .refused
  caller := .swallows

/-- Without a deadline no read has a guard. The write after one that was refused is refused as well. -/
theorem swallowed_read_spoils : ∃ last, (fullTurns Nat).run exampleFullRun [.read exampleSwallowed, .write "permit"] =
      some last ∧ last.left = true ∧
    ¬ ∀ before after mid, [FullMove.read exampleSwallowed, .write "permit"] = before ++ after →
      (fullTurns Nat).run exampleFullRun before = some mid → mid.left = false → mid.turn.Clean := by
  have hinit : (fullTurns Nat).init exampleFullRun := ⟨0, "3s", by decide, by decide, rfl⟩
  refine ⟨_, rfl, rfl, fun hclean => ?_⟩
  have hrun : (fullTurns Nat).run exampleFullRun [.read exampleSwallowed, .write "permit"] = some _ := rfl
  have hunspoiled := (clean_throughout_iff hinit hrun).mp hclean [] _ _ _ rfl rfl
  cases hunspoiled

end OpenTimeline.Retrieval
