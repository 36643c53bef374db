import OpenTimeline.Supervisor.Observe

/-! The wall clock of a run.

`dispatch_once` from the start of a child on, as the calls it makes. A run is to be killed when
its child has not told its end by the deadline. The kill is in the loop's body, and so it
needs an event: a child that says nothing is left running while its run is written down, reported
and verified. `stoppedBy_iff` has the runs that are stopped as they should be. -/
namespace OpenTimeline.Supervisor
open Library Directive

variable (host : Host) (round : PyFloat → Int)

/-! ### The calls of a run -/

/-- What `dispatch_once` does once its dispatch is open. -/
inductive Act
  | claim
  | openRoot
  | start
  | markRunning
  | kill (reason : String)
  | interrupt (reason : String)
  | readCharter
  | readResult
  | resolveRoot (state : EffectState) (source : String)
  | report (state : String)
  | verifyProfile
  | verify
  | reconcile
deriving DecidableEq

/-- The calls made until one raises. -/
def performed : List (Act × Bool) → List Act
  | [] => []
  | (act, passes) :: rest => act :: if passes then performed rest else []

/-- Which calls of a run do not raise; a verification is passed over where there is no verifier. -/
structure Answers where
  markRunning : Bool := true
  resolveRoot : Bool := true
  report : Bool := true
  verifyProfile : Bool := true
  verify : Bool := true
  reconcile : Bool := true

/-- What the loop does when it ends. -/
def Ended.acts : Ended → List (Act × Bool)
  | .done => []
  | .stopped (.killed reason) => [(.kill reason, true)]
  | .stopped (.interrupted reason) => [(.interrupt reason, true)]
  | .raised => [(.readCharter, false)]

def Ended.stop : Ended → Option Stop
  | .stopped stop => some stop
  | _ => none

namespace Watch
variable (w : Watch) (answers : Answers)

/-- The result `dispatch_once` reads. -/
def result : RuntimeResult :=
  w.surface.readResult host round ((w.watched host).child.stopped (w.watched host).ended.stop)

/-- The override of the outcome. -/
def override : Option String := (w.watched host).ended.stop.map Stop.reason

/-- `report_state` -/
def reportState : String :=
  if (w.result host round).outcome = .succeeded ∧ w.override host = none then "succeeded" else "failed"

/-- The steps of `dispatch_once` after the loop. -/
def settling : List (Act × Bool) :=
  let (state, source) := rootState (w.override host) (w.result host round).outcome
  [(.readResult, true), (.resolveRoot state source, answers.resolveRoot),
    (.report (w.reportState host round), answers.report), (.verifyProfile, answers.verifyProfile),
    (.verify, answers.verify), (.reconcile, answers.reconcile)]

/-- The calls of a run, from the start of its child on. -/
def calls : List (Act × Bool) :=
  (.markRunning, answers.markRunning) :: ((w.watched host).ended.acts ++ w.settling host round answers)

/-- The calls a run makes. -/
def acts : List Act := performed (w.calls host round answers)

/-! ### The wall clock -/

/-- What the child says, read or not. -/
def said : List OutputLine :=
  w.turns.filterMap (fun
    | .pending message _ => some message
    | .poll _ (.line message _) => message
    | .poll _ _ => none) ++ w.left

/-- The child tells its end by this time. -/
def ToldBy (time : ℚ) : Prop := ∃ message ∈ w.said, message.producedAt ≤ time ∧ w.ends host message.payload

/-- A run that was stopped: it was killed before its result was read, its effect is unknown and
nothing else, and nothing was reported or verified while its child ran on. -/
structure Stopped (exited : Prop) (acts : List Act) : Prop where
  killed : ∃ before reason after, acts = before ++ .kill reason :: after ∧ .readResult ∉ before
  unknown : ∃ source, .resolveRoot .unknown source ∈ acts
  never : ∀ state source, .resolveRoot state source ∈ acts → state = .unknown
  atRest : ∀ before act after, acts = before ++ act :: after → ((∃ state, act = .report state) ∨ act = .verify) →
    exited ∨ ∃ reason, .kill reason ∈ before

/-- If the end was not told by this time, the run was stopped. -/
def StoppedBy (exited : Prop) (time : ℚ) : Prop :=
  ¬ w.ToldBy host time → Stopped exited (w.acts host round answers)

/-- The clock as it is read. -/
def readings : List ℚ :=
  w.startedAt :: w.observedAt :: w.checkedAt :: w.turns.flatMap fun
    | .pending _ handling => [handling.pastAt, handling.dueAt, handling.checkedAt]
    | .poll time (.line _ handling) => [time, handling.pastAt, handling.dueAt, handling.checkedAt]
    | .poll time _ => [time]

end Watch

theorem mem_of_mem_performed {steps : List (Act × Bool)} {act : Act} (h : act ∈ performed steps) :
    act ∈ steps.map (·.1) := by
  induction steps with
  | nil => exact h
  | cons step steps ih =>
    simp only [performed, List.mem_cons] at h
    rw [List.map_cons, List.mem_cons]
    refine h.imp_right fun h => ?_
    split_ifs at h
    · exact ih h
    · cases h

namespace Watch
variable {w : Watch} {answers : Answers}

/-! ### Stopped runs -/

variable {host round}

/-- Only the loop kills. -/
theorem killed_of_mem_acts {reason : String} (h : .kill reason ∈ w.acts host round answers) :
    answers.markRunning = true ∧ (w.watched host).ended = .stopped (.killed reason) := by
  rw [acts, calls, performed, List.mem_cons] at h
  obtain h | h := h
  · cases h
  · split_ifs at h with hrunning
    · refine ⟨hrunning, ?_⟩
      have hmem := mem_of_mem_performed h
      rw [List.map_append, List.mem_append] at hmem
      obtain hmem | hmem := hmem
      · cases hended : (w.watched host).ended with
        | done => simp [hended, Ended.acts] at hmem
        | raised => simp [hended, Ended.acts] at hmem
        | stopped stop =>
          cases stop with
          | killed _ => simp_all [Ended.acts]
          | interrupted _ => simp [hended, Ended.acts] at hmem
      · simp [settling] at hmem
    · cases h

/-- The calls of a killed run. -/
theorem acts_of_killed {reason : String} (hrunning : answers.markRunning = true)
    (hended : (w.watched host).ended = .stopped (.killed reason)) :
    w.acts host round answers = .markRunning :: .kill reason :: .readResult :: .resolveRoot .unknown "reaper" ::
      if answers.resolveRoot then
        performed [(.report (w.reportState host round), answers.report), (.verifyProfile, answers.verifyProfile),
          (.verify, answers.verify), (.reconcile, answers.reconcile)]
      else [] := by
  simp [acts, calls, settling, override, rootState, hended, Ended.acts, Ended.stop, performed, hrunning]

theorem stopped_of_killed {exited : Prop} {reason : String} (hrunning : answers.markRunning = true)
    (hended : (w.watched host).ended = .stopped (.killed reason)) :
    Stopped exited (w.acts host round answers) := by
  rw [acts_of_killed hrunning hended]
  refine ⟨⟨[.markRunning], reason, _, rfl, by simp⟩, ⟨"reaper", by simp⟩, ?_, ?_⟩
  · intro state source h
    simp only [List.mem_cons, reduceCtorEq, false_or, Act.resolveRoot.injEq] at h
    obtain ⟨hstate, -⟩ | h := h
    · exact hstate
    · split_ifs at h
      · have hmem := mem_of_mem_performed h
        simp at hmem
      · cases h
  · -- whatever comes third or later has the kill before it
    intro before act after h hact
    match before, h with
    | [], h =>
      cases h
      simp at hact
    | [_], h =>
      cases h
      simp at hact
    | _ :: second :: before, h =>
      injection h with _ h
      injection h with hsecond _
      exact Or.inr ⟨reason, hsecond ▸ by simp⟩

variable (host round) in
/-- A run is stopped when its end was not told in time exactly where it was told in time, or an event
that is handed over before `observe` returns is still being handled at the dispatcher's deadline, or
finds the charter gone where there is no interrupt. -/
theorem stoppedBy_iff (w : Watch) (answers : Answers) (exited : Prop) (time : ℚ) :
    w.StoppedBy host round answers exited time ↔
      w.ToldBy host time ∨ (answers.markRunning = true ∧ w.Overtaken host) := by
  constructor
  · intro h
    by_cases htold : w.ToldBy host time
    · exact Or.inl htold
    · obtain ⟨before, reason, after, hacts, -⟩ := (h htold).killed
      have hkill : .kill reason ∈ w.acts host round answers := by rw [hacts]; simp
      obtain ⟨hrunning, hended⟩ := killed_of_mem_acts hkill
      exact Or.inr ⟨hrunning, watched_killed_iff.mp ⟨reason, hended⟩⟩
  · rintro (htold | ⟨hrunning, hovertaken⟩)
    · exact fun h => absurd htold h
    · obtain ⟨reason, hended⟩ := watched_killed_iff.mpr hovertaken
      exact fun _ => stopped_of_killed hrunning hended

/-! ### Silence -/

/-- A child that says nothing is not killed, however long it runs. -/
theorem not_overtaken_of_silent (h : ∀ turn ∈ w.turns, w.hands host turn = none) : ¬ w.Overtaken host := by
  rintro ⟨before, turn, after, handling, hturns, hhands, -⟩
  have hmem : turn ∈ w.turns := by simp [hturns]
  exact absurd (h turn hmem) (by simp [hhands])

/-- A child that says nothing, whose clock runs to its deadline and past it. -/
def silent (surface : Surface) : Watch where
  surface
  wallSeconds := 1
  startedAt := 0
  observedAt := 0
  checkedAt := 0
  providerRunId := "run"
  threadId := none
  pending := []
  polls := [⟨0, .empty⟩, ⟨1 / 2, .empty⟩, ⟨1, .empty⟩]
  left := []

/-- A silent child is not killed; of Claude its run is a failure, which is reported while it runs. -/
theorem silent_left_running :
    (silent .claudeStream).readings.Pairwise (· ≤ ·) ∧
      ¬ (silent .claudeStream).StoppedBy (asciiHost [] []) (fun _ => 0) {} False 1 ∧
      (silent .claudeStream).acts (asciiHost [] []) (fun _ => 0) {} =
        [.markRunning, .readResult, .resolveRoot .failed "runtime_result", .report "failed", .verifyProfile, .verify,
          .reconcile] := by
  have hacts : (silent .claudeStream).acts (asciiHost [] []) (fun _ => 0) {} =
      [.markRunning, .readResult, .resolveRoot .failed "runtime_result", .report "failed", .verifyProfile, .verify,
        .reconcile] := by decide +kernel
  refine ⟨by decide +kernel, fun h => ?_, hacts⟩
  have htold : ¬ (silent .claudeStream).ToldBy (asciiHost [] []) 1 := by
    rintro ⟨message, hmessage, -⟩
    exact absurd hmessage (by simp [said, turns, silent])
  exact absurd ((h htold).never .failed "runtime_result" (by simp [hacts])) (by decide)

end Watch
end OpenTimeline.Supervisor
