import OpenTimeline.Decision.Support

/-! The two readers of the qualification attempts.

The attempts of a family stand in one table, passed and failed. The lookup takes the newest
that passed, the gate the newest of all: they differ where a failure came after a pass that
is still alive (`lookup_gated_iff`). -/
namespace OpenTimeline.Decision
open Library

/-- A row of `policy_qualifications`, with its times as `_parse_ts` reads them. -/
structure QualificationRow where
  id : String
  workspaceId : String
  subjectUserId : String
  projectId : Option String
  decisionFamily : String
  state : QualificationState
  decisionPolicyRevision : String
  modelId : String
  runtimeVersion : String
  promptSha256 : String
  retrievalVersion : String
  thresholdsSha : String
  tuningSha : String
  evidenceCutoffAt : Option Instant
  learningEligibleAtQualification : Int
  createdAt : String
  expiresAt : Option Instant

namespace QualificationRow

/-- `WHERE workspace_id = ? AND subject_user_id = ?` -/
def ofSubject (workspaceId subjectUserId : String) (row : QualificationRow) : Bool :=
  row.workspaceId = workspaceId && row.subjectUserId = subjectUserId

/-- It expires after `at`. -/
def liveAt (now : Instant) (row : QualificationRow) : Bool := row.expiresAt.any (now < ·)

/-- The state the gate reports. -/
def stateAt (now : Instant) (row : QualificationRow) : QualificationState :=
  if row.state = .qualified ∧ row.liveAt now = false then .expired else row.state

theorem stateAt_eq_qualified_iff {now : Instant} {row : QualificationRow} :
    row.stateAt now = .qualified ↔ row.state = .qualified ∧ row.liveAt now = true := by
  unfold stateAt
  cases row.liveAt now with
  | true => simp
  | false => by_cases hstate : row.state = .qualified <;> simp [hstate]

end QualificationRow

/-- `ORDER BY created_at DESC` -/
def newestFirst (rows : List QualificationRow) : List QualificationRow :=
  rows.insertionSort fun a b => b.createdAt ≤ a.createdAt

section Lookup
variable {R : Type} [Floats R]

variable (R) in
/-- The evidence has outgrown what the record was measured on. -/
def drifted (learningEligibleTotal : Int) (row : QualificationRow) : Prop :=
  let baseline := row.learningEligibleAtQualification
  0 < baseline ∧ (evidenceDriftMaxGrowth : R) < Floats.near (((learningEligibleTotal - baseline : Int) : ℚ) / baseline)

instance (learningEligibleTotal : Int) (row : QualificationRow) : Decidable (drifted R learningEligibleTotal row) :=
  inferInstanceAs (Decidable (_ ∧ _))

/-- The newest attempt of the family that passed. -/
def newestPass (rows : List QualificationRow) (workspaceId subjectUserId family : String) : Option QualificationRow :=
  (newestFirst rows).find? fun row =>
    row.ofSubject workspaceId subjectUserId && row.decisionFamily = family && row.state = .qualified

variable (R) in
/-- `lookup_qualification` -/
def lookupQualification (rows : List QualificationRow) (workspaceId subjectUserId family : String) (decisionAt : Instant)
    (learningEligibleTotal : Int) : Option Qualification := do
  let row ← newestPass rows workspaceId subjectUserId family
  let expiresAt ← row.expiresAt
  if expiresAt ≤ decisionAt then none
  else if drifted R learningEligibleTotal row then none
  else some {
    qualificationId := row.id
    state := row.state
    projectId := row.projectId.filter (· ≠ "")
    decisionFamily := row.decisionFamily
    decisionPolicyRevision := row.decisionPolicyRevision
    modelId := row.modelId
    runtimeVersion := row.runtimeVersion
    promptSha256 := row.promptSha256
    retrievalVersion := row.retrievalVersion
    thresholdsSha := row.thresholdsSha
    tuningSha := row.tuningSha
    evidenceCutoffAt := row.evidenceCutoffAt
    learningEligibleAtQualification := row.learningEligibleAtQualification
    expiresAt }

/-- It returns a record just where the newest pass is alive and measured on the corpus in use. -/
theorem lookupQualification_isSome_iff {rows : List QualificationRow} {workspaceId subjectUserId family : String}
    {decisionAt : Instant} {total : Int} :
    (lookupQualification R rows workspaceId subjectUserId family decisionAt total).isSome ↔
      ∃ pass, newestPass rows workspaceId subjectUserId family = some pass ∧ pass.liveAt decisionAt = true ∧
        ¬ drifted R total pass := by
  unfold lookupQualification
  cases newestPass rows workspaceId subjectUserId family with
  | none => simp
  | some pass =>
    have hbind {α β : Type} (a : α) (f : α → Option β) : (some a >>= f) = f a := rfl
    simp only [hbind, Option.some.injEq, exists_eq_left', QualificationRow.liveAt]
    cases hexpires : pass.expiresAt with
    | none => simp
    | some expiresAt =>
      rw [hbind]
      split_ifs with hdead hdrift
      · simp [hdead]
      · simp [hdrift]
      · simpa [hdrift] using hdead

end Lookup

/-! ### The gate -/

/-- What the gate has collected of the rows it has seen. -/
structure GateFamilies where
  states : List (String × QualificationState)
  liveAt : Option String

/-- Of the rows of a family the first is taken up. -/
def GateFamilies.take (now : Instant) (seen : GateFamilies) (row : QualificationRow) : GateFamilies :=
  if (seen.states.lookup row.decisionFamily).isSome then seen
  else
    let state := row.stateAt now
    { states := seen.states ++ [(row.decisionFamily, state)]
      liveAt := if state = .qualified ∧ seen.liveAt = none then some row.createdAt else seen.liveAt }

structure QualificationGate where
  passed : Bool
  reason : String
  families : List (String × QualificationState)
  evaluatedAt : Option String

/-- `qualification_gate` -/
def qualificationGate (rows : List QualificationRow) (workspaceId subjectUserId : String) (now : Instant) :
    QualificationGate :=
  let seen := ((newestFirst rows).filter (·.ofSubject workspaceId subjectUserId)).foldl (GateFamilies.take now) ⟨[], none⟩
  if seen.states.any (·.2 = .qualified) then ⟨true, "qualified", seen.states, seen.liveAt⟩
  else ⟨false, "no_qualification_recorded", seen.states, none⟩

/-- The newest attempt of the family, passed or failed. -/
def newestAttempt (rows : List QualificationRow) (workspaceId subjectUserId family : String) : Option QualificationRow :=
  (newestFirst rows).find? fun row => row.ofSubject workspaceId subjectUserId && row.decisionFamily = family

theorem lookup_take (now : Instant) (seen : GateFamilies) (row : QualificationRow) (family : String) :
    (seen.take now row).states.lookup family =
      (seen.states.lookup family).or (if row.decisionFamily = family then some (row.stateAt now) else none) := by
  unfold GateFamilies.take
  by_cases hfamily : row.decisionFamily = family
  · subst hfamily
    cases hthere : seen.states.lookup row.decisionFamily <;> simp [hthere, List.lookup_append]
  · have hne : (family == row.decisionFamily) = false := by simpa using fun h : family = _ => hfamily h.symm
    split_ifs
    · simp
    · simp [List.lookup_append, List.lookup, hne]

/-- After all rows, a family has the state of its first row. -/
theorem lookup_foldl_take (now : Instant) (rows : List QualificationRow) (family : String) (seen : GateFamilies) :
    (rows.foldl (GateFamilies.take now) seen).states.lookup family =
      (seen.states.lookup family).or ((rows.find? (·.decisionFamily = family)).map (·.stateAt now)) := by
  induction rows generalizing seen with
  | nil => simp
  | cons row rows ih =>
    rw [List.foldl_cons, ih, lookup_take, Option.or_assoc]
    by_cases hfamily : row.decisionFamily = family <;> simp [hfamily]

/-- Of a family the gate reports the state of its newest attempt. -/
theorem lookup_qualificationGate (rows : List QualificationRow) (workspaceId subjectUserId family : String)
    (now : Instant) :
    (qualificationGate rows workspaceId subjectUserId now).families.lookup family =
      (newestAttempt rows workspaceId subjectUserId family).map (·.stateAt now) := by
  have hfamilies : (qualificationGate rows workspaceId subjectUserId now).families =
      (((newestFirst rows).filter (·.ofSubject workspaceId subjectUserId)).foldl (GateFamilies.take now)
        ⟨[], none⟩).states := by
    unfold qualificationGate
    dsimp only
    split <;> rfl
  rw [hfamilies, lookup_foldl_take, newestAttempt, List.find?_filter]
  simp

/-! ### The two compared -/

/-- Where the newest attempt is a pass, it is the newest pass. -/
theorem newestPass_of_newestAttempt {rows : List QualificationRow} {workspaceId subjectUserId family : String}
    {row : QualificationRow} (h : newestAttempt rows workspaceId subjectUserId family = some row)
    (hpass : row.state = .qualified) : newestPass rows workspaceId subjectUserId family = some row := by
  obtain ⟨hrow, pre, post, hsplit, hpre⟩ := List.find?_eq_some_iff_append.mp h
  refine List.find?_eq_some_iff_append.mpr ⟨by simpa [hpass] using hrow, pre, post, hsplit, fun other hother => ?_⟩
  have hnot := hpre other hother
  rw [Bool.not_eq_true'] at hnot
  rw [hnot]
  rfl

/-- No failed attempt of the family is newer than its newest pass, as far as that pass counts:
it is alive, and measured on the corpus in use. -/
def NotWithdrawn (R : Type) [Floats R] (rows : List QualificationRow) (workspaceId subjectUserId family : String)
    (now : Instant) (learningEligibleTotal : Int) : Prop :=
  ∀ pass, newestPass rows workspaceId subjectUserId family = some pass → pass.liveAt now = true →
    ¬ drifted R learningEligibleTotal pass →
    ∃ newest, newestAttempt rows workspaceId subjectUserId family = some newest ∧ newest.state = .qualified

/-- The lookup returns a record only of a family the gate reports as qualified just where no
failed attempt came after the pass. -/
theorem lookup_gated_iff {R : Type} [Floats R] (rows : List QualificationRow)
    (workspaceId subjectUserId family : String) (now : Instant) (learningEligibleTotal : Int) :
    (∀ record, lookupQualification R rows workspaceId subjectUserId family now learningEligibleTotal = some record →
      (qualificationGate rows workspaceId subjectUserId now).families.lookup family = some .qualified) ↔
      NotWithdrawn R rows workspaceId subjectUserId family now learningEligibleTotal := by
  rw [lookup_qualificationGate]
  constructor
  · intro h pass hpass hlive hdrift
    obtain ⟨record, hrecord⟩ := Option.isSome_iff_exists.mp
      ((lookupQualification_isSome_iff (R := R)).mpr ⟨pass, hpass, hlive, hdrift⟩)
    obtain ⟨newest, hnewest, hstate⟩ := Option.map_eq_some_iff.mp (h record hrecord)
    exact ⟨newest, hnewest, (QualificationRow.stateAt_eq_qualified_iff.mp hstate).1⟩
  · intro h record hrecord
    obtain ⟨pass, hpass, hlive, hdrift⟩ := lookupQualification_isSome_iff.mp
      (Option.isSome_iff_exists.mpr ⟨record, hrecord⟩)
    obtain ⟨newest, hnewest, hstate⟩ := h pass hpass hlive hdrift
    have hsame : newest = pass :=
      Option.some.inj ((newestPass_of_newestAttempt hnewest hstate).symm.trans hpass)
    rw [hnewest, Option.map_some, QualificationRow.stateAt_eq_qualified_iff.mpr ⟨hstate, hsame ▸ hlive⟩]

/-- An attempt of one family, which expires at the instant 9. -/
def exampleAttempt (id createdAt : String) (state : QualificationState) : QualificationRow :=
  { id, workspaceId := "w", subjectUserId := "u", projectId := none, decisionFamily := "release", state
    decisionPolicyRevision := "", modelId := "", runtimeVersion := "", promptSha256 := "", retrievalVersion := ""
    thresholdsSha := "", tuningSha := "", evidenceCutoffAt := none, learningEligibleAtQualification := 0
    createdAt, expiresAt := some 9 }

/-- A pass, and a failed attempt a day later: the lookup still returns the pass. -/
theorem lookup_after_failure : ¬ ∀ (R : Type) (_ : Floats R) rows workspaceId subjectUserId family now total record,
    lookupQualification R rows workspaceId subjectUserId family now total = some record →
      (qualificationGate rows workspaceId subjectUserId now).families.lookup family = some .qualified := by
  intro h
  let rows := [exampleAttempt "pass" "2026-09-09" .qualified, exampleAttempt "failure" "2026-09-10" .notQualified]
  have hlookup : (lookupQualification ℚ rows "w" "u" "release" 5 0).isSome = true := by decide +kernel
  obtain ⟨record, hrecord⟩ := Option.isSome_iff_exists.mp hlookup
  have hgate : (qualificationGate rows "w" "u" 5).families.lookup "release" ≠ some .qualified := by decide +kernel
  exact hgate (h ℚ exactFloats rows "w" "u" "release" 5 0 record hrecord)

end OpenTimeline.Decision
