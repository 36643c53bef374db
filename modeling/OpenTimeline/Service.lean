import OpenTimeline.Host

/-! What a request to the service comes to.

A handler returns, refuses with a status and a detail, or lets an exception of the language
or of the database through. A write-locked section keeps what its body wrote only where the
body returns (`runCasSection_error`). -/
namespace OpenTimeline

/-- Who calls. -/
structure AuthContext where
  workspaceId : String
  userId : String
  behaviorSubjectId : String
  consumer : String
deriving DecidableEq, Repr

inductive Failure
  /-- `HTTPException(status_code, detail)` -/
  | http (statusCode : Nat) (detail : Payload)
  | raised (error : PyError)
  | keyError
  | assertionError
  | runtimeError (message : String)
  | integrityError

/-- `raise HTTPException(…)`, with the error's name first in the detail. -/
def refuse {α : Type} (statusCode : Nat) (error : String) (rest : Payload := []) : Except Failure α :=
  .error (.http statusCode (("error", .str error) :: rest))

/-- The language's own exceptions pass through. -/
def passing {α : Type} : Except PyError α → Except Failure α
  | .ok a => .ok a
  | .error e => .error (.raised e)

/-- `run_cas_section`: what the body wrote is rolled back where it raises. -/
def runCasSection {σ α : Type} (body : σ → Except Failure (σ × α)) (db : σ) : σ × Except Failure α :=
  match body db with
  | .ok (db', a) => (db', .ok a)
  | .error e => (db, .error e)

theorem runCasSection_ok {σ α : Type} {body : σ → Except Failure (σ × α)} {db db' : σ} {a : α}
    (h : runCasSection body db = (db', .ok a)) : body db = .ok (db', a) := by
  unfold runCasSection at h
  cases hbody : body db with
  | error e =>
    rw [hbody] at h
    cases h
  | ok result =>
    rw [hbody] at h
    cases h
    rfl

theorem runCasSection_error {σ α : Type} {body : σ → Except Failure (σ × α)} {db db' : σ} {e : Failure}
    (h : runCasSection body db = (db', .error e)) : db' = db := by
  unfold runCasSection at h
  cases hbody : body db with
  | error e =>
    rw [hbody] at h
    cases h
    rfl
  | ok result =>
    rw [hbody] at h
    cases h

end OpenTimeline
