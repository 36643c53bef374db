import OpenTimeline.Library.Transition
import OpenTimeline.Verification.Store

/-! Criteria are frozen once.

The store of criteria only grows, and a freeze looks for a row of its directive first. So
whatever is written after the first freeze of a directive, its criteria are the ones loaded
(`loadAcceptanceCriteria_run`), and a second freeze is refused, with a conflict where there
is nothing else to refuse it for (`freezeAcceptanceCriteria_frozen`). -/
namespace OpenTimeline.Verification
open Library TaskState Directive

variable (host : Host) (settings : VerificationSettings)
  (projectGraded : DirectiveRow → VerificationOutcome → List TaskRow → Except Failure (List TaskRow))

inductive VerificationAction
  | freeze (call : FreezeCall)
  | record (call : RecordCall)
  /-- the directive store writes -/
  | directives (rows : Table DirectiveRow.directiveId)
  /-- the task store writes -/
  | tasks (rows : List TaskRow)

/-- A freeze, kept where it succeeds. -/
def freezeSection (call : FreezeCall) (db : VerificationDatabase) : VerificationDatabase :=
  match freezeAcceptanceCriteria host settings call db with
  | .ok (db, _) => db
  | .error _ => db

/-- Calls of any parties, in any order. -/
def verificationSystem : System VerificationDatabase VerificationAction where
  init db := db.criteria = [] ∧ db.results.rows = []
  next db
    | .freeze call => some (freezeSection host settings call db)
    | .record call => some (recordVerification host settings projectGraded call db).1
    | .directives rows => some {db with directives := rows}
    | .tasks rows => some {db with tasks := rows}

variable {host settings projectGraded} {db db' : VerificationDatabase}

/-! ### The store of criteria -/

theorem recordVerification_criteria (call : RecordCall) :
    (recordVerification host settings projectGraded call db).1.criteria = db.criteria := by
  cases hrecord : recordVerification host settings projectGraded call db with
  | mk after reply =>
    cases reply with
    | error e => exact congrArg VerificationDatabase.criteria (recordVerification_error hrecord)
    | ok outcome =>
      obtain ⟨_, _, _, _, _, _, hcriteria⟩ := recordVerification_ok hrecord
      exact hcriteria

/-- What a freeze that succeeds has checked and writes. -/
theorem freezeAcceptanceCriteria_ok {call : FreezeCall} {criteria : AcceptanceCriteria}
    (h : freezeAcceptanceCriteria host settings call db = .ok (db', criteria)) :
    loadAcceptanceCriteria db call.directiveId = none ∧ ∃ normalised,
      validateChecks host call.checks settings.verificationMaxChecks settings.verificationCheckTimeoutSeconds =
        .ok normalised ∧
      criteria = (call.row host normalised).criteria ∧ db'.criteria = db.criteria ++ [call.row host normalised] := by
  unfold freezeAcceptanceCriteria at h
  split at h
  · cases h
  · rename_i normalised hchecks
    split_ifs at h with hcovered hfrozen hid
    cases h
    exact ⟨by simpa using hfrozen, normalised, hchecks, rfl, rfl⟩

theorem criteria_next {action : VerificationAction}
    (h : (verificationSystem host settings projectGraded).next db action = some db') :
    db.criteria <+: db'.criteria := by
  cases action with
  | freeze call =>
    cases h
    unfold freezeSection
    split
    · rename_i after criteria hfreeze
      obtain ⟨_, normalised, _, _, hrows⟩ := freezeAcceptanceCriteria_ok hfreeze
      rw [hrows]
      exact List.prefix_append _ _
    · exact List.prefix_refl _
  | record call =>
    cases h
    rw [recordVerification_criteria]
  | directives rows =>
    cases h
    exact List.prefix_refl _
  | tasks rows =>
    cases h
    exact List.prefix_refl _

theorem criteria_run {actions : List VerificationAction}
    (h : (verificationSystem host settings projectGraded).run db actions = some db') :
    db.criteria <+: db'.criteria := by
  refine System.run_keeps (I := fun t => db.criteria <+: t.criteria) (fun t action t' hkept hnext => ?_) h
    (List.prefix_refl _)
  exact hkept.trans (criteria_next hnext)

theorem loadAcceptanceCriteria_of_prefix (h : db.criteria <+: db'.criteria) {directiveId : String}
    {criteria : AcceptanceCriteria} (hload : loadAcceptanceCriteria db directiveId = some criteria) :
    loadAcceptanceCriteria db' directiveId = some criteria := by
  obtain ⟨later, hlater⟩ := h
  obtain ⟨row, hrow, hcriteria⟩ := Option.map_eq_some_iff.mp hload
  rw [loadAcceptanceCriteria, ← hlater, List.find?_append, hrow]
  exact congrArg some hcriteria

theorem loadAcceptanceCriteria_run {actions : List VerificationAction} {directiveId : String}
    {criteria : AcceptanceCriteria} (h : loadAcceptanceCriteria db directiveId = some criteria)
    (hrun : (verificationSystem host settings projectGraded).run db actions = some db') :
    loadAcceptanceCriteria db' directiveId = some criteria :=
  loadAcceptanceCriteria_of_prefix (criteria_run hrun) h

theorem loadAcceptanceCriteria_freeze {call : FreezeCall} {criteria : AcceptanceCriteria}
    (h : freezeAcceptanceCriteria host settings call db = .ok (db', criteria)) :
    loadAcceptanceCriteria db' call.directiveId = some criteria := by
  obtain ⟨hnone, normalised, _, rfl, hrows⟩ := freezeAcceptanceCriteria_ok h
  rw [loadAcceptanceCriteria, Option.map_eq_none_iff] at hnone
  rw [loadAcceptanceCriteria, hrows, List.find?_append, hnone]
  simp [FreezeCall.row]

/-- A freeze of a directive that has criteria is refused. -/
theorem freezeAcceptanceCriteria_frozen {call : FreezeCall} {criteria : AcceptanceCriteria}
    (h : loadAcceptanceCriteria db call.directiveId = some criteria) :
    (∃ e, freezeAcceptanceCriteria host settings call db = .error e) ∧
    ∀ normalised, validateChecks host call.checks settings.verificationMaxChecks
        settings.verificationCheckTimeoutSeconds = .ok normalised →
      (call.corpusManifest.any fun entry => entry.1 ∈ decidingFilePaths) = true →
      freezeAcceptanceCriteria host settings call db = .error (.criteriaFrozen call.directiveId) := by
  refine ⟨?_, fun normalised hchecks hcovered => ?_⟩
  · unfold freezeAcceptanceCriteria
    split
    · exact ⟨_, rfl⟩
    · split_ifs
      · exact ⟨_, rfl⟩
      · exact ⟨_, rfl⟩
      · rename_i hfrozen _
        simp [h] at hfrozen
      · rename_i hfrozen _
        simp [h] at hfrozen
  · simp only [freezeAcceptanceCriteria, hchecks, hcovered, h]
    rfl

variable (host settings projectGraded) in
/-- Whatever is done after the first freeze of a directive that succeeds, its criteria are the
ones loaded, as that freeze had them, and every other freeze of the directive is refused. -/
theorem frozen_once {call : FreezeCall} {criteria : AcceptanceCriteria} {actions : List VerificationAction}
    (hfreeze : freezeAcceptanceCriteria host settings call db = .ok (db', criteria))
    {after : VerificationDatabase} (hrun : (verificationSystem host settings projectGraded).run db' actions = some after) :
    loadAcceptanceCriteria after call.directiveId = some criteria ∧
    (criteria.frozenBy = call.frozenBy ∧ criteria.criteriaDigest = criteriaDigest host criteria.checks ∧
      criteria.corpusDigest = corpusDigest host call.corpusManifest ∧
      validateChecks host call.checks settings.verificationMaxChecks settings.verificationCheckTimeoutSeconds =
        .ok criteria.checks) ∧
    ∀ later : FreezeCall, later.directiveId = call.directiveId →
      (∃ e, freezeAcceptanceCriteria host settings later after = .error e) ∧
      freezeSection host settings later after = after ∧
      ∀ normalised, validateChecks host later.checks settings.verificationMaxChecks
          settings.verificationCheckTimeoutSeconds = .ok normalised →
        (later.corpusManifest.any fun entry => entry.1 ∈ decidingFilePaths) = true →
        freezeAcceptanceCriteria host settings later after = .error (.criteriaFrozen call.directiveId) := by
  have hload := loadAcceptanceCriteria_run (loadAcceptanceCriteria_freeze hfreeze) hrun
  refine ⟨hload, ?_, fun later hlater => ?_⟩
  · obtain ⟨_, normalised, hchecks, rfl, _⟩ := freezeAcceptanceCriteria_ok hfreeze
    exact ⟨rfl, rfl, rfl, hchecks⟩
  · rw [← hlater] at hload ⊢
    obtain ⟨⟨e, he⟩, hfrozen⟩ := @freezeAcceptanceCriteria_frozen host settings after later criteria hload
    refine ⟨⟨e, he⟩, ?_, hfrozen⟩
    rw [freezeSection, he]

def exampleSettings : VerificationSettings := ⟨true, "v", false, 8, 60⟩

/-- A freeze of the directive `d`. -/
def exampleFreeze (frozenBy newId : String) : FreezeCall where
  workspaceId := "w"
  ownerId := "o"
  taskId := none
  directiveId := "d"
  charterId := none
  checks := [⟨"c", ["/c"], ".", 0, 1⟩]
  corpusManifest := [("tox.ini", "0")]
  frozenBy
  now := epoch
  newId

def exampleDatabase : VerificationDatabase := ⟨⟨[], List.nodup_nil⟩, [], ⟨[], List.nodup_nil⟩, []⟩

/-- The second of two freezes is refused, and reports no criteria. -/
theorem second_freeze_refused : ¬ ∀ (call later : FreezeCall) (db db' after : VerificationDatabase) criteria actions,
    freezeAcceptanceCriteria (asciiHost [] []) exampleSettings call db = .ok (db', criteria) →
    (verificationSystem (asciiHost [] []) exampleSettings fun _ _ tasks => .ok tasks).run db' actions = some after →
    later.directiveId = call.directiveId →
      freezeAcceptanceCriteria (asciiHost [] []) exampleSettings later after = .ok (after, criteria) := by
  intro hall
  have hfirst : (freezeAcceptanceCriteria (asciiHost [] []) exampleSettings (exampleFreeze "a" "k")
      exampleDatabase).toOption.isSome := by decide +kernel
  obtain ⟨⟨db', criteria⟩, hfirst⟩ := Option.isSome_iff_exists.mp hfirst
  rw [toOption_eq_some_iff] at hfirst
  have hsecond := hall _ (exampleFreeze "b" "l") _ _ _ _ [] hfirst rfl rfl
  have hload : loadAcceptanceCriteria db' "d" = some criteria := loadAcceptanceCriteria_freeze hfirst
  obtain ⟨⟨e, he⟩, _⟩ := @freezeAcceptanceCriteria_frozen (asciiHost [] []) exampleSettings db'
    (exampleFreeze "b" "l") criteria hload
  rw [he] at hsecond
  cases hsecond

theorem frozen_once_second : ∃ db' criteria,
    freezeAcceptanceCriteria (asciiHost [] []) exampleSettings (exampleFreeze "a" "k") exampleDatabase =
      .ok (db', criteria) ∧
    loadAcceptanceCriteria db' "d" = some criteria ∧ criteria.frozenBy = "a" ∧
    ∃ e, freezeAcceptanceCriteria (asciiHost [] []) exampleSettings (exampleFreeze "b" "l") db' = .error e := by
  have hfirst : (freezeAcceptanceCriteria (asciiHost [] []) exampleSettings (exampleFreeze "a" "k")
      exampleDatabase).toOption.isSome := by decide +kernel
  obtain ⟨⟨db', criteria⟩, hfirst⟩ := Option.isSome_iff_exists.mp hfirst
  rw [toOption_eq_some_iff] at hfirst
  have hrun : (verificationSystem (asciiHost [] []) exampleSettings fun _ _ tasks => .ok tasks).run db' [] = some db' :=
    rfl
  obtain ⟨hload, hfields, hlater⟩ := frozen_once (asciiHost [] []) exampleSettings (fun _ _ tasks => .ok tasks) hfirst hrun
  exact ⟨db', criteria, hfirst, hload, hfields.1, (hlater (exampleFreeze "b" "l") rfl).1⟩

end OpenTimeline.Verification
