import OpenTimeline.Library.Yields
import OpenTimeline.Decision.Support

/-! What a decision does not depend on.

The evidence is filtered by lookups under ids and ranked by a key that ends in the id, so rows in
another order come to the same neighbours, and from there on to the same decision (`decide_perm`).
The qualification is read where a result is filled in and by no stage before, so it moves the
exposure alone (`decide_unexposed`). -/
namespace OpenTimeline.Decision
open Library

variable {host : PolicyHost} {R : Type} [Floats R]

/-! ### Lookups under ids -/

variable (host) in
/-- The row is kept under the id. -/
def IsUnder (id : String) (row : EvidenceRow) : Bool := (row.get "id").truthy && (row.get "id").str host = id

/-- Of the rows of an id the last one is kept. -/
theorem lookup_rowsById (rows : List EvidenceRow) (id : String) :
    (rowsById host rows).lookup id = rows.reverse.find? (IsUnder host id) := by
  unfold rowsById
  induction rows using List.reverseRecOn with
  | nil => rfl
  | append_singleton rows row ih =>
    rw [List.filter_append, List.foldl_append, List.reverse_append, List.reverse_singleton, List.singleton_append,
      List.find?_cons, ← ih]
    cases htruthy : (row.get "id").truthy with
    | false => simp [htruthy, IsUnder]
    | true =>
      simp only [htruthy, IsUnder, List.filter_cons_of_pos, List.filter_nil, List.foldl_cons, List.foldl_nil,
        Bool.true_and, lookup_assign]
      by_cases hid : (row.get "id").str host = id
      · simp [hid]
      · simp [hid, Ne.symm hid]

/-- A row that is kept under an id has it. -/
theorem id_of_isUnder {id : String} {row : EvidenceRow} (h : IsUnder host id row) : row.id host = id := by
  simp only [IsUnder, Bool.and_eq_true, decide_eq_true_eq] at h
  rw [EvidenceRow.id, Value.text, Value.or, if_pos h.1, h.2]

/-- Where the ids are distinct one row at most is kept under an id. -/
theorem lookup_rowsById_perm {rows rows' : List EvidenceRow} (hperm : rows.Perm rows')
    (hids : (rows.map (EvidenceRow.id host)).Nodup) (id : String) :
    (rowsById host rows').lookup id = (rowsById host rows).lookup id := by
  have hunique (row : EvidenceRow) (hrow : row ∈ rows) (other : EvidenceRow) (hother : other ∈ rows)
      (hunder : IsUnder host id row) (hunder' : IsUnder host id other) : row = other :=
    List.inj_on_of_nodup_map hids hrow hother ((id_of_isUnder hunder).trans (id_of_isUnder hunder').symm)
  rw [lookup_rowsById, lookup_rowsById]
  cases hfound : rows.reverse.find? (IsUnder host id) with
  | none =>
    rw [List.find?_eq_none] at hfound ⊢
    intro row hrow
    exact hfound row (List.mem_reverse.mpr (hperm.mem_iff.mpr (List.mem_reverse.mp hrow)))
  | some row =>
    have hrow : row ∈ rows := List.mem_reverse.mp (List.mem_of_find?_eq_some hfound)
    have hunder := List.find?_some hfound
    cases hfound' : rows'.reverse.find? (IsUnder host id) with
    | none => exact absurd hunder (List.find?_eq_none.mp hfound' row (List.mem_reverse.mpr (hperm.mem_iff.mp hrow)))
    | some other =>
      have hother : other ∈ rows := hperm.mem_iff.mpr (List.mem_reverse.mp (List.mem_of_find?_eq_some hfound'))
      rw [hunique other hother row hrow (List.find?_some hfound') hunder]

/-! ### Eligible rows -/

variable (host) in
/-- When a row takes the place of another. -/
def effectiveAt (successor : EvidenceRow) : Instant :=
  asDatetime host ((successor.get "valid_from").or (successor.get "ts"))

/-- A row is judged by when what is kept under the id of its successor takes its place. -/
theorem activeEvidence_congr {current : Instant} {historical : Bool} {d d' : List (String × EvidenceRow)}
    {item : EvidenceRow} (h : strip ((item.get "superseded_by").text host) ≠ "" →
      (d.lookup (strip ((item.get "superseded_by").text host))).all (current < effectiveAt host ·) =
        (d'.lookup (strip ((item.get "superseded_by").text host))).all (current < effectiveAt host ·)) :
    activeEvidence host current historical d item = activeEvidence host current historical d' item := by
  unfold effectiveAt at h
  unfold activeEvidence
  by_cases hsuperseded : strip ((item.get "superseded_by").text host) = ""
  · simp only [hsuperseded, ne_eq, not_true_eq_false, if_false]
  · simp only [h hsuperseded]

variable (host) in
/-- The ids a row contradicts, none where they cannot be read. -/
def contradictedIds (row : EvidenceRow) : List String := (contradictedBy host row).toOption.getD []

theorem yields_contradictedBy (row : EvidenceRow) :
    Yields (contradictedBy host row) ((contradictedBy host row).isOk = true) (contradictedIds host row) := by
  unfold contradictedIds
  cases hread : contradictedBy host row with
  | error e => exact Yields.error (by simp [Except.isOk, Except.toBool])
  | ok ids => exact (Yields.ok ids).congr (by simp [Except.isOk, Except.toBool])

variable (host) in
/-- The rows that are active among all of them. -/
def activeRows (current : Instant) (historical : Bool) (rows : List EvidenceRow) : List EvidenceRow :=
  rows.filter (activeEvidence host current historical (rowsById host rows))

variable (host) in
/-- The rows no active row contradicts. -/
def uncontradicted (active : List EvidenceRow) : List EvidenceRow :=
  active.filter fun row => row.id host ∉ active.flatMap (contradictedIds host)

theorem yields_eligible (rows : List EvidenceRow) (current : Instant) (historical : Bool) :
    Yields (eligibleBehaviorEvidence host rows current historical)
      (∀ row ∈ activeRows host current historical rows, (contradictedBy host row).isOk = true)
      (uncontradicted host (activeRows host current historical rows)) :=
  (Yields.mapM yields_contradictedBy (activeRows host current historical rows)).map
    fun contradicted => (activeRows host current historical rows).filter fun row : EvidenceRow =>
      row.id host ∉ contradicted.flatten

theorem typeError_of_contradictedBy {row : EvidenceRow} {e : PyError} (h : contradictedBy host row = .error e) :
    e = .typeError := by
  unfold contradictedBy at h
  split_ifs at h
  · cases hitems : (row.get "contradicts_observation_ids").items with
    | ok items =>
      rw [hitems] at h
      cases h
    | error e' =>
      rw [hitems] at h
      cases h
      unfold Value.items at hitems
      split at hitems <;> cases hitems
      rfl
  · cases h

theorem mapM_error {ε α β : Type} {f : α → Except ε β} {e : ε} (h : ∀ a e', f a = .error e' → e' = e) {l : List α}
    {e' : ε} (herror : l.mapM f = .error e') : e' = e := by
  induction l with
  | nil => cases herror
  | cons a rest ih =>
    rw [List.mapM_cons] at herror
    cases hfirst : f a with
    | error first =>
      rw [hfirst] at herror
      cases herror
      exact h a e' hfirst
    | ok b =>
      cases hrest : rest.mapM f with
      | error later =>
        rw [hfirst, hrest] at herror
        cases herror
        exact ih hrest
      | ok bs =>
        rw [hfirst, hrest] at herror
        cases herror

theorem typeError_of_eligible {rows : List EvidenceRow} {current : Instant} {historical : Bool} {e : PyError}
    (h : eligibleBehaviorEvidence host rows current historical = .error e) : e = .typeError := by
  simp only [eligibleBehaviorEvidence] at h
  cases hread : (rows.filter (activeEvidence host current historical (rowsById host rows))).mapM
      (contradictedBy host) with
  | error e' =>
    rw [hread] at h
    cases h
    exact mapM_error (fun _ _ => typeError_of_contradictedBy) hread
  | ok contradicted =>
    rw [hread] at h
    cases h

theorem activeRows_perm {rows rows' : List EvidenceRow} (hperm : rows.Perm rows')
    (hids : (rows.map (EvidenceRow.id host)).Nodup) (current : Instant) (historical : Bool) :
    (activeRows host current historical rows).Perm (activeRows host current historical rows') := by
  have hactive : activeEvidence host current historical (rowsById host rows') =
      activeEvidence host current historical (rowsById host rows) :=
    funext fun _ => activeEvidence_congr fun _ => by rw [lookup_rowsById_perm hperm hids]
  unfold activeRows
  rw [hactive]
  exact hperm.filter _

theorem uncontradicted_perm {active active' : List EvidenceRow} (hperm : active.Perm active') :
    (uncontradicted host active).Perm (uncontradicted host active') := by
  have hsame (row : EvidenceRow) : row.id host ∉ active'.flatMap (contradictedIds host) ↔
      row.id host ∉ active.flatMap (contradictedIds host) :=
    not_congr (hperm.flatMap_right _).symm.mem_iff
  unfold uncontradicted
  simp only [hsame]
  exact hperm.filter _

/-! ### The order of the evidence -/

/-- Rows of distinct ids have distinct keys. -/
theorem neighbours_perm {request : DecisionRequest} {eligible eligible' : List EvidenceRow}
    (hperm : eligible.Perm eligible') (hids : (eligible.map (EvidenceRow.id host)).Nodup) :
    (neighbours host request eligible : List (R × EvidenceRow)) = neighbours host request eligible' := by
  let score (row : EvidenceRow) : R × EvidenceRow := (similarity host request.query row request.decisionAt, row)
  let near (a b : R × EvidenceRow) : Prop := neighbourKey host a ≤ neighbourKey host b
  have hsorted (l : List EvidenceRow) : ((l.map score).insertionSort near).Perm (l.map score) :=
    List.perm_insertionSort _ _
  have hdistinct (a b : R × EvidenceRow) (ha : a ∈ (eligible.map score).insertionSort near)
      (hb : b ∈ (eligible'.map score).insertionSort near) (hab : near a b) (hba : near b a) : a = b := by
    obtain ⟨row, hrow, rfl⟩ := List.mem_map.mp ((hsorted eligible).mem_iff.mp ha)
    obtain ⟨other, hother, rfl⟩ := List.mem_map.mp ((hsorted eligible').mem_iff.mp hb)
    have hkey : neighbourKey host (score row) = neighbourKey host (score other) := le_antisymm hab hba
    have hid : row.id host = other.id host := congrArg (fun key => (ofLex (ofLex key).2).2) hkey
    exact congrArg score (List.inj_on_of_nodup_map hids hrow (hperm.mem_iff.mpr hother) hid)
  exact congrArg (List.take maxNeighbours) (List.Perm.eq_of_pairwise hdistinct (List.pairwise_insertionSort _ _)
    (List.pairwise_insertionSort _ _) ((hsorted eligible).trans ((hperm.map score).trans (hsorted eligible').symm)))

/-- The eligible rows count by their number and by the neighbours among them. -/
theorem weigh_congr {request : DecisionRequest} {eligible eligible' : List EvidenceRow}
    (hlength : eligible.length = eligible'.length)
    (hneighbours : (neighbours host request eligible : List (R × EvidenceRow)) = neighbours host request eligible') :
    (weigh host request eligible : Except PyError (Verdict R)) = weigh host request eligible' := by
  unfold weigh judge adequacyOf
  rw [hneighbours, hlength]

variable (host) in
/-- The request is settled by a rule, or for want of options, before any evidence is read. -/
def SettledEarly (R : Type) [Floats R] (request : DecisionRequest) : Prop :=
  (applyExplicitRules host R request).isSome ∨ request.candidateOptions = []

variable (host) in
/-- Stages 3 to 9, of the eligible rows. -/
def assess (request : DecisionRequest) (eligible : List EvidenceRow) : Except PyError (Verdict R) :=
  if eligible.isEmpty then
    return .settled {
      status := .abstained
      abstainReason := some .noEligibleEvidence
      adequacy := emptyAdequacy ["no_eligible_evidence"] }
  else weigh host request eligible

theorem applyExplicitRules_evidence (request : DecisionRequest) (rows : List EvidenceRow) :
    applyExplicitRules host R {request with evidenceRows := rows} = applyExplicitRules host R request := rfl

theorem deliberate_early {request : DecisionRequest} (h : SettledEarly host R request) (rows : List EvidenceRow) :
    (deliberate host {request with evidenceRows := rows} : Except PyError (Verdict R)) = deliberate host request := by
  unfold deliberate
  rw [applyExplicitRules_evidence]
  cases hhit : applyExplicitRules host R request with
  | some hit => rfl
  | none =>
    rcases h with hsome | hoptions
    · rw [hhit] at hsome
      cases hsome
    · simp only [hoptions, List.isEmpty_nil, if_true]

theorem deliberate_late {request : DecisionRequest} (h : ¬ SettledEarly host R request) (rows : List EvidenceRow) :
    (deliberate host {request with evidenceRows := rows} : Except PyError (Verdict R)) =
      eligibleBehaviorEvidence host rows request.decisionAt true >>= assess host request := by
  obtain ⟨hrule, hoptions⟩ := not_or.mp h
  have hnone : applyExplicitRules host R request = none := Option.not_isSome_iff_eq_none.mp hrule
  have hsome : request.candidateOptions.isEmpty = false := by simpa using hoptions
  unfold deliberate
  rw [applyExplicitRules_evidence, hnone]
  simp only [hsome, Bool.false_eq_true, if_false]
  rfl

theorem assess_perm {request : DecisionRequest} {eligible eligible' : List EvidenceRow} (hperm : eligible.Perm eligible')
    (hids : (eligible.map (EvidenceRow.id host)).Nodup) :
    (assess host request eligible : Except PyError (Verdict R)) = assess host request eligible' := by
  have hempty : eligible.isEmpty = eligible'.isEmpty := by
    rw [Bool.eq_iff_iff, List.isEmpty_iff_length_eq_zero, List.isEmpty_iff_length_eq_zero, hperm.length_eq]
  unfold assess
  rw [weigh_congr hperm.length_eq (neighbours_perm hperm hids), hempty]

theorem deliberate_perm {request : DecisionRequest} {rows : List EvidenceRow} (hperm : request.evidenceRows.Perm rows)
    (hids : (request.evidenceRows.map (EvidenceRow.id host)).Nodup) :
    (deliberate host {request with evidenceRows := rows} : Except PyError (Verdict R)) = deliberate host request := by
  by_cases hearly : SettledEarly host R request
  · exact deliberate_early hearly rows
  have hactive := activeRows_perm hperm hids request.decisionAt true
  have hread := (@yields_eligible host request.evidenceRows request.decisionAt true).congr
    (forall_congr' fun row => by rw [hactive.mem_iff])
  have hread' := @yields_eligible host rows request.decisionAt true
  rw [deliberate_late hearly, show request = {request with evidenceRows := request.evidenceRows} from rfl,
    deliberate_late hearly]
  cases heligible' : eligibleBehaviorEvidence host rows request.decisionAt true with
  | ok eligible' =>
    obtain ⟨hall, rfl⟩ := (hread' eligible').mp heligible'
    rw [hread.eq_ok hall]
    refine (assess_perm (uncontradicted_perm hactive) ?_).symm
    exact hids.sublist ((List.filter_sublist.trans List.filter_sublist).map _)
  | error e' =>
    cases heligible : eligibleBehaviorEvidence host request.evidenceRows request.decisionAt true with
    | ok eligible =>
      rw [hread'.eq_ok ((hread eligible).mp heligible).1] at heligible'
      cases heligible'
    | error e => rw [typeError_of_eligible heligible, typeError_of_eligible heligible']

theorem fingerprint_perm {request : DecisionRequest} {rows : List EvidenceRow} (hperm : request.evidenceRows.Perm rows) :
    DecisionRequest.fingerprint host {request with evidenceRows := rows} = request.fingerprint host := by
  have hids : (rows.map (EvidenceRow.id host)).insertionSort (· ≤ ·) =
      (request.evidenceRows.map (EvidenceRow.id host)).insertionSort (· ≤ ·) := by
    refine List.Perm.eq_of_pairwise (fun a b _ _ => le_antisymm) (List.pairwise_insertionSort _ _)
      (List.pairwise_insertionSort _ _) ?_
    exact (List.perm_insertionSort _ _).trans ((hperm.symm.map _).trans (List.perm_insertionSort _ _).symm)
  simp only [DecisionRequest.fingerprint, hids]

theorem finish_evidence (request : DecisionRequest) (rows : List EvidenceRow) (findings : Findings R) :
    finish host {request with evidenceRows := rows} findings =
      {finish host request findings with
        requestFingerprint := DecisionRequest.fingerprint host {request with evidenceRows := rows}} := rfl

theorem conclude_evidence (request : DecisionRequest) (rows : List EvidenceRow) (judgement : Judgement R) :
    conclude host {request with evidenceRows := rows} judgement = conclude host request judgement := rfl

/-- What is decided, fingerprint and all, is the same for the rows in any other order. -/
theorem decide_perm (host : PolicyHost) (R : Type) [Floats R] (request : DecisionRequest) (rows : List EvidenceRow)
    (hperm : request.evidenceRows.Perm rows) (hids : (request.evidenceRows.map (EvidenceRow.id host)).Nodup) :
    (decide host {request with evidenceRows := rows} : Except PyError (DecisionResult R)) = decide host request := by
  unfold decide
  rw [deliberate_perm hperm hids]
  simp only [finish_evidence, conclude_evidence, fingerprint_perm hperm]
  rfl

theorem decide_perm_swapped :
    (decide exampleHost {exampleRequest with evidenceRows := [exampleRow "b", exampleRow "a"]} :
      Except PyError (DecisionResult ℚ)) = decide exampleHost exampleRequest :=
  decide_perm exampleHost ℚ exampleRequest [exampleRow "b", exampleRow "a"] (List.Perm.swap _ _ _) (by decide)

/-! ### The qualification -/

/-- A result less its exposure. -/
def DecisionResult.unexposed (result : DecisionResult R) : DecisionResult R :=
  {result with exposed := false, exposureState := .noQualification, qualificationId := none}

/-- Whatever findings a stage ends with, the qualification moves their exposure alone. -/
theorem finish_unexposed (request : DecisionRequest) (qualification : Option Qualification) (total : Int)
    (findings : Findings R) :
    (finish host {request with qualification := qualification, learningEligibleTotal := total} findings).unexposed =
      (finish host request findings).unexposed := rfl

theorem decide_unexposed_eq (request : DecisionRequest) (qualification : Option Qualification) (total : Int) :
    (decide host {request with qualification := qualification, learningEligibleTotal := total} :
        Except PyError (DecisionResult R)).map (·.unexposed) =
      (decide host request).map (·.unexposed) := by
  have hdeliberate : (deliberate host {request with qualification := qualification, learningEligibleTotal := total} :
      Except PyError (Verdict R)) = deliberate host request := rfl
  unfold decide
  rw [hdeliberate]
  cases (deliberate host request : Except PyError (Verdict R)) with
  | error e => rfl
  | ok verdict =>
    cases verdict with
    | settled findings => exact congrArg Except.ok (finish_unexposed request qualification total findings)
    | judged judgement =>
      exact congrArg Except.ok (finish_unexposed request qualification total (conclude host request judgement))

/-- Two qualifications, and two totals of what may be learned from, leave all the rest of a result as it is. -/
theorem decide_unexposed (host : PolicyHost) (R : Type) [Floats R] (request : DecisionRequest)
    (qualification qualification' : Option Qualification) (total total' : Int) :
    (decide host {request with qualification := qualification, learningEligibleTotal := total} :
        Except PyError (DecisionResult R)).map (·.unexposed) =
      (decide host {request with qualification := qualification', learningEligibleTotal := total'}).map (·.unexposed) :=
  (decide_unexposed_eq request qualification total).trans (decide_unexposed_eq request qualification' total').symm

end OpenTimeline.Decision
