import OpenTimeline.Host
import OpenTimeline.Library.OrderedDict
import OpenTimeline.TaskState.Records

/-! The health of the routes to advisors.

Every answer of a provider, good or bad, is one update of the health of its route. A circuit opens after so many
failures in a row, and is to be half open for a while before it closes again; but the update that would half open it
is one that has just moved the end of its pause, or closed it. With settings that stay as they are a circuit is open
exactly while the failures since the last success are enough, and never half open (`circuit_open_iff`). -/
namespace OpenTimeline.Advisor
open Library
open TaskState (orElse)

inductive CircuitState
  | closed | opened | halfOpen
deriving DecidableEq, Repr

/-- An entry of the health of routes; its times are in microseconds. -/
structure HealthEntry where
  successEwma : ℚ
  latencyEwmaMs : ℚ
  consecutiveFailures : Int
  circuitState : CircuitState
  halfOpenSuccesses : Int
  lastError : Option String
  lastUpdated : Int
  openUntil : Option Int
deriving DecidableEq, Repr

/-- The circuit's settings. -/
structure CircuitSettings where
  openFailures : Int
  halfOpenSeconds : Int
  closeSuccesses : Int
deriving DecidableEq, Repr

/-- What an attempt at a route came to. -/
structure Attempt where
  providerId : String
  model : String
  ok : Bool
  latencyMs : Int
  errorCode : Option String
  now : Int
deriving DecidableEq, Repr

variable (host : Host) (settings : CircuitSettings)

/-- `route_key` -/
def routeKey (providerId model : String) : String := host.lower (strip providerId) ++ "::" ++ host.lower (strip model)

def Attempt.key (attempt : Attempt) : String := routeKey host attempt.providerId attempt.model

/-- `_default_health_entry` -/
def defaultHealthEntry (now : Int) : HealthEntry := ⟨4 / 5, 350, 0, .closed, 0, none, now, none⟩

def alpha : ℚ := 1 / 4

/-- The averages and the time, whatever the attempt came to. -/
def HealthEntry.measured (entry : HealthEntry) (attempt : Attempt) : HealthEntry :=
  {entry with
    successEwma := alpha * (if attempt.ok then 1 else 0) + (1 - alpha) * entry.successEwma
    latencyEwmaMs := alpha * max 1 (attempt.latencyMs : ℚ) + (1 - alpha) * entry.latencyEwmaMs
    lastUpdated := attempt.now }

def HealthEntry.succeeded (entry : HealthEntry) : HealthEntry :=
  if entry.circuitState = .halfOpen then
    if max 1 settings.closeSuccesses ≤ entry.halfOpenSuccesses + 1 then
      {entry with consecutiveFailures := 0, circuitState := .closed, halfOpenSuccesses := 0, lastError := none}
    else {entry with consecutiveFailures := 0, halfOpenSuccesses := entry.halfOpenSuccesses + 1, lastError := none}
  else {entry with consecutiveFailures := 0, circuitState := .closed, halfOpenSuccesses := 0, lastError := none}

def HealthEntry.failed (entry : HealthEntry) (attempt : Attempt) : HealthEntry :=
  let failures := entry.consecutiveFailures + 1
  let counted := {entry with
    consecutiveFailures := failures
    halfOpenSuccesses := 0
    lastError := some (orElse (attempt.errorCode.getD "") "provider_error") }
  if max 1 settings.openFailures ≤ failures then
    {counted with
      circuitState := .opened
      openUntil := some (attempt.now + max 5 settings.halfOpenSeconds * 1000000) }
  else counted

/-- An open circuit whose pause is over is half open. -/
def HealthEntry.paused (entry : HealthEntry) (now : Int) : HealthEntry :=
  if entry.circuitState = .opened ∧ entry.openUntil.any (· ≤ now) then
    {entry with circuitState := .halfOpen, halfOpenSuccesses := 0}
  else entry

def HealthEntry.updated (entry : HealthEntry) (attempt : Attempt) : HealthEntry :=
  let measured := entry.measured attempt
  (if attempt.ok then measured.succeeded settings else measured.failed settings attempt).paused attempt.now

/-- `update_health_state` -/
def updateHealthState (health : List (String × HealthEntry)) (attempt : Attempt) : List (String × HealthEntry) :=
  let key := attempt.key host
  assign key (((health.lookup key).getD (defaultHealthEntry attempt.now)).updated settings attempt) health

/-! ### The circuit of a route -/

/-- The failures since the last success. -/
def failuresSince (results : List Bool) : Nat := (results.reverse.takeWhile fun ok => !ok).length

theorem failuresSince_concat (results : List Bool) (ok : Bool) :
    failuresSince (results ++ [ok]) = if ok then 0 else failuresSince results + 1 := by
  cases ok <;> simp [failuresSince]

/-- The circuit of a route whose attempts came to `results`. -/
structure HealthEntry.Follows (settings : CircuitSettings) (results : List Bool) (entry : HealthEntry) : Prop where
  failures : entry.consecutiveFailures = failuresSince results
  state : entry.circuitState = if max 1 settings.openFailures ≤ failuresSince results then .opened else .closed
  halfOpen : entry.halfOpenSuccesses = 0
  success : 0 ≤ entry.successEwma ∧ entry.successEwma ≤ 1
  latency : 1 ≤ entry.latencyEwmaMs

variable {host settings} {results : List Bool} {entry : HealthEntry}

theorem follows_default (now : Int) : (defaultHealthEntry now).Follows settings [] where
  failures := rfl
  state := by
    have hpositive : ¬ max 1 settings.openFailures ≤ ((failuresSince []) : Int) := by
      have hzero : failuresSince [] = 0 := rfl
      rw [hzero]
      omega
    rw [if_neg hpositive]
    rfl
  halfOpen := rfl
  success := by norm_num [defaultHealthEntry]
  latency := by norm_num [defaultHealthEntry]

theorem Follows.measured (h : entry.Follows settings results) (attempt : Attempt) :
    (entry.measured attempt).Follows settings results where
  failures := h.failures
  state := h.state
  halfOpen := h.halfOpen
  success := by
    obtain ⟨hlow, hhigh⟩ := h.success
    simp only [HealthEntry.measured, alpha]
    cases attempt.ok
    · simp only [Bool.false_eq_true, if_false]
      constructor <;> linarith
    · simp only [if_true]
      constructor <;> linarith
  latency := by
    have hlatency := h.latency
    have hone := le_max_left 1 (attempt.latencyMs : ℚ)
    simp only [HealthEntry.measured, alpha]
    linarith

/-- A closed circuit is not paused. -/
theorem paused_closed (h : entry.circuitState = .closed) (now : Int) : entry.paused now = entry := by
  rw [HealthEntry.paused, if_neg]
  rintro ⟨hopened, -⟩
  rw [h] at hopened
  cases hopened

/-- One attempt: a success closes the circuit, and a failure that leaves it open has moved the end of its pause. -/
theorem Follows.updated (h : entry.Follows settings results) (attempt : Attempt) :
    (entry.updated settings attempt).Follows settings (results ++ [attempt.ok]) := by
  have hmeasured := Follows.measured h attempt
  cases hok : attempt.ok with
  | true =>
    have hnever : (entry.measured attempt).circuitState ≠ .halfOpen := by
      rw [hmeasured.state]
      split_ifs <;> decide
    have hresults : failuresSince (results ++ [true]) = 0 := failuresSince_concat results true
    have hclosed : (entry.updated settings attempt) = {entry.measured attempt with
        consecutiveFailures := 0, circuitState := .closed, halfOpenSuccesses := 0, lastError := none} := by
      simp only [HealthEntry.updated, hok, if_true, HealthEntry.succeeded, if_neg hnever]
      exact paused_closed rfl attempt.now
    rw [hclosed]
    refine ⟨by rw [hresults]; rfl, ?_, rfl, hmeasured.success, hmeasured.latency⟩
    rw [hresults, if_neg]
    omega
  | false =>
    have hresults : failuresSince (results ++ [false]) = failuresSince results + 1 := failuresSince_concat results false
    have hfailures : (entry.measured attempt).consecutiveFailures + 1 = (failuresSince (results ++ [false]) : Int) := by
      rw [hmeasured.failures, hresults]
      rfl
    simp only [HealthEntry.updated, hok, Bool.false_eq_true, if_false, HealthEntry.failed]
    split_ifs with henough
    · rw [HealthEntry.paused, if_neg]
      · refine ⟨hfailures, ?_, rfl, hmeasured.success, hmeasured.latency⟩
        rw [if_pos (hfailures ▸ henough)]
      · rintro ⟨-, hover⟩
        simp only [Option.any_some, decide_eq_true_eq] at hover
        omega
    · have hstate : (entry.measured attempt).circuitState = .closed := by
        rw [hmeasured.state, if_neg]
        rw [hmeasured.failures] at henough
        omega
      rw [paused_closed (by exact hstate)]
      refine ⟨hfailures, ?_, rfl, hmeasured.success, hmeasured.latency⟩
      rw [if_neg (hfailures ▸ henough)]
      exact hstate

/-- What the attempts at a route came to. -/
def resultsOf (host : Host) (attempts : List Attempt) (key : String) : List Bool :=
  (attempts.filter fun attempt => attempt.key host = key).map (·.ok)

theorem resultsOf_concat (attempts : List Attempt) (attempt : Attempt) (key : String) :
    resultsOf host (attempts ++ [attempt]) key =
      resultsOf host attempts key ++ if attempt.key host = key then [attempt.ok] else [] := by
  rw [resultsOf, List.filter_append, List.map_append, ← resultsOf]
  by_cases hkey : attempt.key host = key <;> simp [hkey]

/-- The health of a route that was tried follows what its attempts came to. -/
theorem health_follows (host : Host) (settings : CircuitSettings) (attempts : List Attempt) (key : String) :
    ((attempts.foldl (updateHealthState host settings) []).lookup key).elim (resultsOf host attempts key = [])
      fun entry => resultsOf host attempts key ≠ [] ∧ entry.Follows settings (resultsOf host attempts key) := by
  induction attempts using List.reverseRecOn with
  | nil => rfl
  | append_singleton attempts attempt ih =>
    rw [List.foldl_concat, updateHealthState, lookup_assign, resultsOf_concat]
    split_ifs with hkey hother hother
    · subst hkey
      refine ⟨by simp, Follows.updated ?_ attempt⟩
      cases hentry : (attempts.foldl (updateHealthState host settings) []).lookup (attempt.key host) with
      | none =>
        rw [hentry] at ih
        rw [show resultsOf host attempts (attempt.key host) = [] from ih]
        exact follows_default attempt.now
      | some entry =>
        rw [hentry] at ih
        exact ih.2
    · exact absurd hkey.symm hother
    · exact absurd hother.symm hkey
    · rwa [List.append_nil]

/-- **The circuit of a route.** After any attempts at any routes, at whatever times, a route that was tried has the
failures since its last success and is open exactly where they are enough; no circuit is ever half open. -/
theorem circuit_open_iff (host : Host) (settings : CircuitSettings) (attempts : List Attempt) (key : String) :
    (((attempts.foldl (updateHealthState host settings) []).lookup key).isSome ↔ resultsOf host attempts key ≠ []) ∧
      ∀ entry, (attempts.foldl (updateHealthState host settings) []).lookup key = some entry →
        entry.consecutiveFailures = failuresSince (resultsOf host attempts key) ∧
        (entry.circuitState = .opened ↔
          max 1 settings.openFailures ≤ (failuresSince (resultsOf host attempts key) : Int)) ∧
        entry.circuitState ≠ .halfOpen ∧ entry.halfOpenSuccesses = 0 ∧
        0 ≤ entry.successEwma ∧ entry.successEwma ≤ 1 ∧ 1 ≤ entry.latencyEwmaMs := by
  have hfollows := health_follows host settings attempts key
  cases hentry : (attempts.foldl (updateHealthState host settings) []).lookup key with
  | none =>
    rw [hentry] at hfollows
    refine ⟨⟨fun hsome => absurd hsome (by decide), fun hne => absurd hfollows hne⟩, fun entry hsome => ?_⟩
    cases hsome
  | some entry =>
    rw [hentry] at hfollows
    obtain ⟨hne, h⟩ := hfollows
    refine ⟨⟨fun _ => hne, fun _ => rfl⟩, fun other hother => ?_⟩
    obtain rfl := Option.some.inj hother
    refine ⟨h.failures, ?_, ?_, h.halfOpen, h.success.1, h.success.2, h.latency⟩
    · rw [h.state]
      split_ifs with henough
      · exact ⟨fun _ => henough, fun _ => rfl⟩
      · exact ⟨fun heq => absurd heq (by decide), fun hle => absurd hle henough⟩
    · rw [h.state]
      split_ifs <;> decide

end OpenTimeline.Advisor
