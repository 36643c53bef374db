import OpenTimeline.Decision.Dependence

/-! Evidence from after the decision.

A row is eligible by the interval it is valid in, and by its timestamp in one case alone: where it takes the
place of another and says no time it is valid from. So a row that is recorded after the decision and that says
none is evidence for it, and a row that is valid from before it both is evidence and takes the place of what was
there. Rows recorded later move nothing exactly where each of them neither counts nor supersedes
(`late_unseen_iff`). -/
namespace OpenTimeline.Decision
open Library

section
variable (host : PolicyHost)

/-- The row is recorded after the time. -/
def IsLate (time : Instant) (row : EvidenceRow) : Bool := time < asDatetime host (row.get "ts")

/-- No two of the rows have the same id. -/
def DistinctIds (rows : List EvidenceRow) : Prop := rows.Pairwise fun a b => a.id host = b.id host → a.id host = ""

/-- The rows recorded by the time. -/
def recorded (time : Instant) (rows : List EvidenceRow) : List EvidenceRow := rows.filter fun row => !IsLate host time row

/-- The row neither counts as evidence at the time nor takes the place of another by then. Where it is active it
contradicts itself, and nothing else but the row that takes its own place. -/
structure Unseen (time : Instant) (row : EvidenceRow) : Prop where
  inert : activeEvidence host time true (rowsById host [row]) row →
    ∃ ids, contradictedBy host row = .ok ids ∧ row.id host ∈ ids ∧
      ∀ id ∈ ids, id = row.id host ∨ id = strip ((row.get "superseded_by").text host)
  later : strip (row.id host) = row.id host → row.id host ≠ "" → time < effectiveAt host row

/-- A result less the fingerprint of its request, which names the rows it was given. -/
def DecisionResult.unnamed {R : Type} (result : DecisionResult R) : DecisionResult R :=
  {result with requestFingerprint := ""}

/-- What the request comes to with the rows given. -/
def decidedOn (R : Type) [Floats R] (request : DecisionRequest) (rows : List EvidenceRow) :
    Except PyError (DecisionResult R) :=
  (decide host {request with evidenceRows := rows}).map (·.unnamed)

/-- Adding, removing and changing rows of a kind that are recorded after the decision changes nothing of it. -/
def NoLookAhead (R : Type) [Floats R] (request : DecisionRequest) (kind : EvidenceRow → Prop) : Prop :=
  ∀ rows rows', DistinctIds host rows → DistinctIds host rows' →
    recorded host request.decisionAt rows = recorded host request.decisionAt rows' →
    (∀ row ∈ rows ++ rows', IsLate host request.decisionAt row → kind row) →
    decidedOn host R request rows = decidedOn host R request rows'

end

variable {host : PolicyHost} {R : Type} [Floats R] {request : DecisionRequest} {time : Instant}

/-! ### Rows that are not seen -/

/-- A row stays active where it is superseded by nothing more. -/
theorem active_mono {d d' : List (String × EvidenceRow)} {row : EvidenceRow}
    (hlookup : strip ((row.get "superseded_by").text host) ≠ "" →
      (d.lookup (strip ((row.get "superseded_by").text host))).all (time < effectiveAt host ·) →
      (d'.lookup (strip ((row.get "superseded_by").text host))).all (time < effectiveAt host ·))
    (h : activeEvidence host time true d row) : activeEvidence host time true d' row := by
  unfold effectiveAt at hlookup
  unfold activeEvidence at h ⊢
  by_cases hsuperseded : strip ((row.get "superseded_by").text host) = ""
  · simpa [hsuperseded] using h
  · simp only [ne_eq, hsuperseded, not_false_eq_true, if_true, Bool.true_and, Bool.and_eq_true] at h ⊢
    exact ⟨⟨h.1.1, hlookup hsuperseded h.1.2⟩, h.2⟩

/-- Where an active row has a successor, it has not taken the row's place yet. -/
theorem successor_later {d : List (String × EvidenceRow)} {row successor : EvidenceRow}
    (h : activeEvidence host time true d row) (hsuperseded : strip ((row.get "superseded_by").text host) ≠ "")
    (hlookup : d.lookup (strip ((row.get "superseded_by").text host)) = some successor) :
    time < effectiveAt host successor := by
  unfold activeEvidence at h
  simp only [ne_eq, hsuperseded, not_false_eq_true, if_true, hlookup, Option.all_some, Bool.and_eq_true,
    decide_eq_true_eq] at h
  exact h.1.2.2

theorem late_of_active {d : List (String × EvidenceRow)} {row : EvidenceRow}
    (h : activeEvidence host time true d row) (hafter : time < effectiveAt host row) : IsLate host time row := by
  unfold activeEvidence at h
  simp only [Bool.and_eq_true, Bool.not_eq_true', Bool.or_eq_false_iff] at h
  have hfrom := h.2.1
  unfold effectiveAt Value.or at hafter
  split_ifs at hafter with htruthy
  · simp [htruthy, hafter] at hfrom
  · simpa [IsLate] using hafter

/-- The row kept under an id of its own. -/
theorem lookup_of_mem {rows : List EvidenceRow} {row : EvidenceRow} {id : String}
    (hunique : ∀ other ∈ rows, other.id host = id → other = row) (hrow : row ∈ rows) (hunder : IsUnder host id row) :
    (rowsById host rows).lookup id = some row := by
  rw [lookup_rowsById]
  cases hfound : rows.reverse.find? (IsUnder host id) with
  | none => exact absurd hunder (List.find?_eq_none.mp hfound row (List.mem_reverse.mpr hrow))
  | some other =>
    rw [hunique other (List.mem_reverse.mp (List.mem_of_find?_eq_some hfound)) (id_of_isUnder (List.find?_some hfound))]

theorem lookup_eq_none {rows : List EvidenceRow} {id : String} (h : ∀ row ∈ rows, ¬ IsUnder host id row) :
    (rowsById host rows).lookup id = none := by
  rw [lookup_rowsById, List.find?_eq_none]
  exact fun row hrow => h row (List.mem_reverse.mp hrow)

theorem isUnder_id {row : EvidenceRow} (h : row.id host ≠ "") : IsUnder host (row.id host) row := by
  unfold EvidenceRow.id Value.text Value.or at h
  split_ifs at h with htruthy
  · simp [IsUnder, EvidenceRow.id, Value.text, Value.or, htruthy]
  · exact absurd rfl h

theorem ne_empty_of_contradictedBy {row : EvidenceRow} {ids : List String} (h : contradictedBy host row = .ok ids) :
    ∀ id ∈ ids, strip id ≠ "" := by
  unfold contradictedBy at h
  split_ifs at h
  · cases hitems : (row.get "contradicts_observation_ids").items with
    | error e =>
      rw [hitems] at h
      cases h
    | ok items =>
      rw [hitems] at h
      cases h
      exact fun id hid => by simpa using (List.mem_filter.mp hid).2
  · cases h
    exact fun id hid => by cases hid

theorem DistinctIds.eq_of_id {rows : List EvidenceRow} (h : DistinctIds host rows) {a b : EvidenceRow} (ha : a ∈ rows)
    (hb : b ∈ rows) (hid : a.id host = b.id host) (hne : a.id host ≠ "") : a = b := by
  have hsymm : Std.Symm fun a b : EvidenceRow => a.id host = b.id host → a.id host = "" :=
    ⟨fun a b hab hba => by rw [hba, hab hba.symm]⟩
  by_contra hdiffer
  exact hne (h.forall ha hb hdiffer hid)

/-- A row is active by itself where it is among the others. -/
theorem DistinctIds.active_alone {rows : List EvidenceRow} (h : DistinctIds host rows) {row : EvidenceRow}
    (hrow : row ∈ rows) (hactive : activeEvidence host time true (rowsById host rows) row) :
    activeEvidence host time true (rowsById host [row]) row := by
  refine active_mono (fun hsuperseded hall => ?_) hactive
  by_cases hunder : IsUnder host (strip ((row.get "superseded_by").text host)) row
  · have hid := id_of_isUnder hunder
    rw [lookup_of_mem (by simp) (List.mem_singleton_self row) hunder]
    rwa [lookup_of_mem (fun other hother hsame => h.eq_of_id hother hrow (hsame.trans hid.symm) (hsame ▸ hsuperseded))
      hrow hunder] at hall
  · rw [lookup_eq_none (by simpa using hunder)]
    rfl

section
variable {rows : List EvidenceRow} (hdistinct : DistinctIds host rows)
  (hunseen : ∀ row ∈ rows, IsLate host time row → Unseen host time row)
include hdistinct hunseen

/-- A successor that is not seen is as good as none. -/
theorem active_recorded (row : EvidenceRow) :
    activeEvidence host time true (rowsById host rows) row =
      activeEvidence host time true (rowsById host (recorded host time rows)) row := by
  refine activeEvidence_congr fun hsuperseded => ?_
  generalize hid : strip ((row.get "superseded_by").text host) = id at hsuperseded ⊢
  rw [lookup_rowsById, lookup_rowsById]
  cases hrows : rows.reverse.find? (IsUnder host id) with
  | none =>
    have hnone : (recorded host time rows).reverse.find? (IsUnder host id) = none := by
      rw [List.find?_eq_none] at hrows ⊢
      exact fun other hother => hrows other (List.mem_reverse.mpr (List.mem_of_mem_filter (List.mem_reverse.mp hother)))
    rw [hnone]
  | some successor =>
    have hmem : successor ∈ rows := List.mem_reverse.mp (List.mem_of_find?_eq_some hrows)
    have hunder : successor.id host = id := id_of_isUnder (List.find?_some hrows)
    cases hpast : (recorded host time rows).reverse.find? (IsUnder host id) with
    | some other =>
      have hother : other ∈ rows :=
        List.mem_of_mem_filter (List.mem_reverse.mp (List.mem_of_find?_eq_some hpast))
      have hsame := id_of_isUnder (List.find?_some hpast)
      rw [hdistinct.eq_of_id hmem hother (hunder.trans hsame.symm) (hunder ▸ hsuperseded)]
    | none =>
      have hlate : IsLate host time successor := by
        by_contra hearly
        refine List.find?_eq_none.mp hpast successor (List.mem_reverse.mpr (List.mem_filter.mpr ⟨hmem, ?_⟩))
          (List.find?_some hrows)
        simpa using hearly
      have hstripped : strip (successor.id host) = successor.id host := by
        rw [hunder, ← hid, strip_strip]
      have hafter := (hunseen successor hmem hlate).later hstripped (hunder ▸ hsuperseded)
      simpa using hafter

theorem activeRows_recorded :
    activeRows host time true (recorded host time rows) = recorded host time (activeRows host time true rows) := by
  have hsame : activeEvidence host time true (rowsById host (recorded host time rows)) =
      activeEvidence host time true (rowsById host rows) :=
    funext fun row => (active_recorded hdistinct hunseen row).symm
  unfold activeRows
  rw [hsame]
  unfold recorded
  rw [List.filter_filter, List.filter_filter]
  exact List.filter_congr fun row _ => Bool.and_comm _ _

/-- An active row that is not seen contradicts itself, and at most its successor besides. -/
theorem unseen_active {row : EvidenceRow} (hrow : row ∈ activeRows host time true rows) (hlate : IsLate host time row) :
    (contradictedBy host row).isOk = true ∧ row.id host ∈ contradictedIds host row ∧
      ∀ id ∈ contradictedIds host row, id = row.id host ∨ id = strip ((row.get "superseded_by").text host) := by
  obtain ⟨hmem, hactive⟩ := List.mem_filter.mp hrow
  obtain ⟨ids, hids, hself⟩ := (hunseen row hmem hlate).inert (hdistinct.active_alone hmem hactive)
  rw [contradictedIds, hids]
  exact ⟨rfl, hself⟩

theorem uncontradicted_recorded :
    uncontradicted host (recorded host time (activeRows host time true rows)) =
      uncontradicted host (activeRows host time true rows) := by
  unfold uncontradicted
  conv_lhs => rw [recorded, List.filter_filter]
  refine List.filter_congr fun row hrow => ?_
  have hmem := List.mem_of_mem_filter hrow
  cases hlate : IsLate host time row with
  | true =>
    have hself := (unseen_active hdistinct hunseen hrow hlate).2.1
    have hin : row.id host ∈ (activeRows host time true rows).flatMap (contradictedIds host) :=
      List.mem_flatMap.mpr ⟨row, hrow, hself⟩
    simp [hin]
  | false =>
    rw [Bool.not_false, Bool.and_true, decide_eq_decide, not_iff_not, List.mem_flatMap, List.mem_flatMap]
    constructor
    · rintro ⟨other, hother, hid⟩
      exact ⟨other, List.mem_of_mem_filter hother, hid⟩
    · rintro ⟨other, hother, hid⟩
      refine ⟨other, List.mem_filter.mpr ⟨hother, ?_⟩, hid⟩
      by_contra hotherlate
      rw [Bool.not_eq_true, Bool.not_eq_false'] at hotherlate
      obtain ⟨hok, -, hown⟩ := unseen_active hdistinct hunseen hother hotherlate
      have hne : row.id host ≠ "" := by
        intro hempty
        obtain ⟨ids, hread⟩ := (yields_contradictedBy other).returns_iff.mpr hok
        rw [contradictedIds, hread] at hid
        exact ne_empty_of_contradictedBy hread _ hid (by rw [hempty]; decide)
      rcases hown _ hid with hself | hsuccessor
      · rw [hdistinct.eq_of_id hmem (List.mem_of_mem_filter hother) hself hne, hotherlate] at hlate
        cases hlate
      · -- the other is active, so what takes its place has not done so yet
        have hlookup := lookup_of_mem (fun third hthird hsame => hdistinct.eq_of_id hthird hmem hsame (hsame ▸ hne)) hmem
          (isUnder_id hne)
        have hafter := successor_later (List.mem_filter.mp hother).2 (hsuccessor ▸ hne) (hsuccessor ▸ hlookup)
        rw [late_of_active (List.mem_filter.mp hrow).2 hafter] at hlate
        cases hlate

/-- The rows recorded later are not missed. -/
theorem eligible_recorded :
    eligibleBehaviorEvidence host rows time true = eligibleBehaviorEvidence host (recorded host time rows) time true := by
  have hread := @yields_eligible host rows time true
  have hread' := @yields_eligible host (recorded host time rows) time true
  rw [activeRows_recorded hdistinct hunseen, uncontradicted_recorded hdistinct hunseen] at hread'
  refine hread.eq_of_error (hread'.congr ?_) (fun _ => typeError_of_eligible) fun _ => typeError_of_eligible
  constructor
  · intro hall row hrow
    cases hlate : IsLate host time row with
    | true => exact (unseen_active hdistinct hunseen hrow hlate).1
    | false => exact hall row (List.mem_filter.mpr ⟨hrow, by simp [hlate]⟩)
  · exact fun hall row hrow => hall row (List.mem_of_mem_filter hrow)

end

/-! ### What a decision shows of its evidence -/

variable (host) in
/-- What a verdict comes to, less the fingerprint. -/
def Verdict.decided (request : DecisionRequest) : Verdict R → DecisionResult R
  | .settled findings => (finish host request findings).unnamed
  | .judged judgement => (finish host request (conclude host request judgement)).unnamed

theorem finish_unnamed (request : DecisionRequest) (rows : List EvidenceRow) (findings : Findings R) :
    (finish host {request with evidenceRows := rows} findings).unnamed = (finish host request findings).unnamed := by
  simp only [finish_evidence, DecisionResult.unnamed]

theorem decidedOn_eq (rows : List EvidenceRow) :
    decidedOn host R request rows =
      (deliberate host {request with evidenceRows := rows} : Except PyError (Verdict R)).map (·.decided host request) := by
  unfold decidedOn decide
  cases (deliberate host {request with evidenceRows := rows} : Except PyError (Verdict R)) with
  | error e => rfl
  | ok verdict =>
    cases verdict with
    | settled findings => exact congrArg Except.ok (finish_unnamed request rows findings)
    | judged judgement =>
      exact congrArg Except.ok (finish_unnamed request rows (conclude host request judgement))

theorem decidedOn_early (h : SettledEarly host R request) (rows : List EvidenceRow) :
    decidedOn host R request rows = decidedOn host R request request.evidenceRows := by
  rw [decidedOn_eq, decidedOn_eq, deliberate_early h]

theorem decidedOn_late (h : ¬ SettledEarly host R request) (rows : List EvidenceRow) :
    decidedOn host R request rows = (eligibleBehaviorEvidence host rows request.decisionAt true >>= fun eligible =>
      (assess host request eligible : Except PyError (Verdict R))).map (·.decided host request) := by
  rw [decidedOn_eq, deliberate_late h]

theorem conclude_adequacy (judgement : Judgement R) : (conclude host request judgement).adequacy = judgement.adequacy := by
  unfold conclude
  dsimp only
  split_ifs <;> rfl

/-- A decision counts the rows it is made on. -/
theorem eligibleCount_assess {eligible : List EvidenceRow} {verdict : Verdict R}
    (h : assess host request eligible = .ok verdict) :
    (verdict.decided host request).adequacy.eligibleCount = eligible.length := by
  unfold assess at h
  split_ifs at h with hnone
  · cases h
    rw [List.isEmpty_iff.mp hnone]
    rfl
  · unfold weigh at h
    dsimp only at h
    split at h
    · obtain ⟨conflict, -, hjudge⟩ := bind_ok h
      obtain rfl := Except.ok.inj hjudge
      exact congrArg Adequacy.eligibleCount (conclude_adequacy _)
    · obtain rfl := Except.ok.inj h
      rfl

/-- What is decided on no evidence is decided on none in any case. -/
theorem eligible_of_decidedOn (hlate : ¬ SettledEarly host R request) {rows rows' : List EvidenceRow}
    (h : decidedOn host R request rows = decidedOn host R request rows')
    (hnone : eligibleBehaviorEvidence host rows' request.decisionAt true = .ok []) :
    eligibleBehaviorEvidence host rows request.decisionAt true = .ok [] := by
  rw [decidedOn_late hlate, decidedOn_late hlate, hnone] at h
  cases heligible : eligibleBehaviorEvidence host rows request.decisionAt true with
  | error e =>
    rw [heligible] at h
    cases h
  | ok eligible =>
    rw [heligible] at h
    cases hassess : (assess host request eligible : Except PyError (Verdict R)) with
    | error e =>
      replace h : (assess host request eligible : Except PyError (Verdict R)).map (·.decided host request) = _ := h
      rw [hassess] at h
      cases h
    | ok verdict =>
      replace h : (assess host request eligible : Except PyError (Verdict R)).map (·.decided host request) = _ := h
      rw [hassess] at h
      have hcount := eligibleCount_assess hassess
      have hsame : verdict.decided host request = _ := Except.ok.inj h
      rw [hsame] at hcount
      rw [List.length_eq_zero_iff.mp hcount.symm]

/-! ### Rows that are seen -/

/-- An early row of the id, which the other supersedes. -/
def earlyRow (id supersededBy : String) : EvidenceRow :=
  [("id", .json (.str id)), ("superseded_by", .json (.str supersededBy)), ("ts", .time ⟨0, true⟩)]

theorem earlyRow_early (id supersededBy : String) : IsLate host time (earlyRow id supersededBy) = false := by
  have htime : asDatetime host ((earlyRow id supersededBy).get "ts") = 0 := rfl
  simp [IsLate, htime]

theorem text_str (text : String) : (Value.json (.str text)).text host = text := by
  unfold Value.text Value.or
  split_ifs with htruthy
  · rfl
  · have hempty : text = "" := by simpa [Value.truthy, truthy] using htruthy
    rw [hempty]
    rfl

theorem earlyRow_id (id supersededBy : String) : (earlyRow id supersededBy).id host = id := text_str id

theorem contradictedBy_earlyRow (id supersededBy : String) :
    contradictedBy host (earlyRow id supersededBy) = .ok [] := by
  have hsource : ((earlyRow id supersededBy).get "evidence_source").text host = "" := rfl
  simp [contradictedBy, hsource]
  rfl

theorem active_earlyRow {d : List (String × EvidenceRow)} {id supersededBy : String}
    (h : strip supersededBy ≠ "" → (d.lookup (strip supersededBy)).all (time < effectiveAt host ·)) :
    activeEvidence host time true d (earlyRow id supersededBy) := by
  have hlifecycle : (((earlyRow id supersededBy).get "lifecycle_status").or (.json (.str "active"))).str host =
      "active" := rfl
  have hlearning : (((earlyRow id supersededBy).lookup "learning_eligible").getD (.json (.bool true))).truthy = true :=
    rfl
  have hfrom : ((earlyRow id supersededBy).get "valid_from").truthy = false := rfl
  have huntil : ((earlyRow id supersededBy).get "valid_until").truthy = false := rfl
  have hsuperseded : ((earlyRow id supersededBy).get "superseded_by").text host = supersededBy := text_str supersededBy
  unfold effectiveAt at h
  unfold activeEvidence
  dsimp only
  rw [hsuperseded, hlifecycle, hlearning, hfrom, huntil]
  by_cases hnone : strip supersededBy = ""
  · simp [hnone]
  · simpa [hnone] using h hnone

/-- The rows that are eligible among a few. -/
theorem eligible_eq_ok {rows active : List EvidenceRow} (hactive : activeRows host time true rows = active)
    (hread : ∀ row ∈ active, (contradictedBy host row).isOk = true) :
    eligibleBehaviorEvidence host rows time true = .ok (uncontradicted host active) := by
  refine hactive ▸ (yields_eligible rows time true).eq_ok ?_
  rwa [hactive]

section
variable {kind : EvidenceRow → Prop} (hlate : ¬ SettledEarly host R request) (h : NoLookAhead host R request kind)
  {row : EvidenceRow} (hkind : kind row) (hafter : IsLate host request.decisionAt row)
include hlate h hkind hafter

/-- A row that is active on its own is no evidence, as its own word is against it. -/
theorem self_contradicted (hactive : activeEvidence host request.decisionAt true (rowsById host [row]) row) :
    (contradictedBy host row).isOk = true ∧ row.id host ∈ contradictedIds host row := by
  have hsame : decidedOn host R request [row] = decidedOn host R request [] := by
    refine h [row] [] (List.pairwise_singleton _ _) List.Pairwise.nil ?_ ?_
    · simp [recorded, hafter]
    · simpa using fun _ => hkind
  have hnone := eligible_of_decidedOn hlate hsame rfl
  have hrows : activeRows host request.decisionAt true [row] = [row] := by simp [activeRows, hactive]
  obtain ⟨hread, hleft⟩ := (yields_eligible [row] request.decisionAt true []).mp hnone
  rw [hrows] at hread hleft
  refine ⟨hread row (List.mem_singleton_self row), ?_⟩
  by_contra hself
  rw [uncontradicted, List.filter_cons_of_pos (by simpa using hself)] at hleft
  cases hleft

/-- Beside an early row the row decides nothing. -/
theorem eligible_beside {id supersededBy : String} (hid : id = row.id host → id = "")
    (hnone : eligibleBehaviorEvidence host [earlyRow id supersededBy, row] request.decisionAt true = .ok [])
    (hactive : activeEvidence host request.decisionAt true (rowsById host [earlyRow id supersededBy])
      (earlyRow id supersededBy)) : False := by
  have hsame : decidedOn host R request [earlyRow id supersededBy] =
      decidedOn host R request [earlyRow id supersededBy, row] := by
    refine h _ _ (List.pairwise_singleton _ _) ?_ ?_ ?_
    · simpa [DistinctIds, earlyRow_id] using hid
    · simp [recorded, hafter, earlyRow_early]
    · simp [earlyRow_early, hkind]
  have halone := eligible_of_decidedOn hlate hsame hnone
  have hrows : activeRows host request.decisionAt true [earlyRow id supersededBy] = [earlyRow id supersededBy] := by
    simp [activeRows, hactive]
  rw [eligible_eq_ok hrows (by simp [contradictedBy_earlyRow, Except.isOk, Except.toBool])] at halone
  simp [uncontradicted, contradictedIds, contradictedBy_earlyRow, Except.toOption] at halone

/-- A row that moves nothing is not seen. -/
theorem unseen_of_noLookAhead : Unseen host request.decisionAt row := by
  constructor
  · intro hactive
    obtain ⟨hread, hself⟩ := self_contradicted hlate h hkind hafter hactive
    obtain ⟨ids, hids⟩ := (yields_contradictedBy row).returns_iff.mpr hread
    have hsame : contradictedIds host row = ids := by
      rw [contradictedIds, hids]
      rfl
    rw [hsame] at hself
    refine ⟨ids, hids, hself, fun id hid => ?_⟩
    by_contra hother
    obtain ⟨hown, hsuccessor⟩ := not_or.mp hother
    -- an early row of that id is contradicted
    have hrow : activeEvidence host request.decisionAt true (rowsById host [earlyRow id "", row]) row := by
      refine active_mono (fun _ hall => ?_) hactive
      rw [lookup_rowsById] at hall ⊢
      have hunder : IsUnder host (strip ((row.get "superseded_by").text host)) (earlyRow id "") = false := by
        by_contra hunder
        rw [Bool.not_eq_false] at hunder
        exact hsuccessor ((earlyRow_id id "").symm.trans (id_of_isUnder hunder))
      cases hsuperseding : IsUnder host (strip ((row.get "superseded_by").text host)) row with
      | true => simpa [hsuperseding] using hall
      | false => simp [hunder, hsuperseding]
    have hearly : activeEvidence host request.decisionAt true (rowsById host [earlyRow id "", row]) (earlyRow id "") :=
      active_earlyRow fun hne => absurd (show strip "" = "" by decide) hne
    have hrows : activeRows host request.decisionAt true [earlyRow id "", row] = [earlyRow id "", row] := by
      simp [activeRows, hearly, hrow]
    refine eligible_beside hlate h hkind hafter (fun hsame => absurd hsame hown) ?_
      (active_earlyRow fun hne => absurd (show strip "" = "" by decide) hne)
    rw [eligible_eq_ok hrows (by simp [contradictedBy_earlyRow, Except.isOk, Except.toBool, hids])]
    simp [uncontradicted, contradictedIds, contradictedBy_earlyRow, earlyRow_id, Except.toOption, hids, hid, hself]
  · intro hstripped hne
    by_contra hbefore
    have hlookup : (rowsById host [earlyRow "" (row.id host), row]).lookup (row.id host) = some row := by
      refine lookup_of_mem (fun other hother hid => ?_) (by simp) (isUnder_id hne)
      rcases List.mem_cons.mp hother with rfl | hother
      · exact absurd (hid.symm.trans (earlyRow_id _ _)) hne
      · exact List.mem_singleton.mp hother
    -- an early row that it supersedes is not active beside it
    have hearly : ¬ activeEvidence host request.decisionAt true (rowsById host [earlyRow "" (row.id host), row])
        (earlyRow "" (row.id host)) := by
      intro hactive
      have hsuperseded : ((earlyRow "" (row.id host)).get "superseded_by").text host = row.id host := text_str _
      refine hbefore (successor_later hactive ?_ ?_)
      · rwa [hsuperseded, hstripped]
      · rwa [hsuperseded, hstripped]
    have hrow : activeEvidence host request.decisionAt true (rowsById host [earlyRow "" (row.id host), row]) row →
        activeEvidence host request.decisionAt true (rowsById host [row]) row := by
      refine active_mono fun hsuperseded hall => ?_
      rw [lookup_rowsById] at hall ⊢
      cases hsuperseding : IsUnder host (strip ((row.get "superseded_by").text host)) row with
      | true => simpa [hsuperseding] using hall
      | false => simp [hsuperseding]
    refine @eligible_beside host R _ request kind hlate h row hkind hafter "" (row.id host) (fun _ => rfl) ?_
      (active_earlyRow fun _ => ?_)
    · by_cases hactive : activeEvidence host request.decisionAt true (rowsById host [earlyRow "" (row.id host), row]) row
      · obtain ⟨hread, hself⟩ := self_contradicted hlate h hkind hafter (hrow hactive)
        have hrows : activeRows host request.decisionAt true [earlyRow "" (row.id host), row] = [row] := by
          simp [activeRows, hearly, hactive]
        rw [eligible_eq_ok hrows (by simpa using hread)]
        simp [uncontradicted, hself]
      · have hrows : activeRows host request.decisionAt true [earlyRow "" (row.id host), row] = [] := by
          simp [activeRows, hearly, hactive]
        rw [eligible_eq_ok hrows (by simp)]
        rfl
    · rw [lookup_eq_none (by simp [IsUnder, earlyRow, EvidenceRow.get, Value.truthy, truthy])]
      rfl

end

/-- Rows recorded after the decision change nothing of it exactly where none of them is seen, or where the evidence
is not read at all. -/
theorem late_unseen_iff (host : PolicyHost) (R : Type) [Floats R] (request : DecisionRequest) (kind : EvidenceRow → Prop) :
    NoLookAhead host R request kind ↔ SettledEarly host R request ∨
      ∀ row, kind row → IsLate host request.decisionAt row → Unseen host request.decisionAt row := by
  constructor
  · intro h
    by_cases hearly : SettledEarly host R request
    · exact Or.inl hearly
    · exact Or.inr fun row hkind hafter => unseen_of_noLookAhead hearly h hkind hafter
  · rintro (hearly | hunseen) rows rows' hdistinct hdistinct' hsame hkind
    · rw [decidedOn_early hearly, decidedOn_early hearly rows']
    · have hrows := eligible_recorded hdistinct fun row hrow hafter =>
        hunseen row (hkind row (List.mem_append_left _ hrow) hafter) hafter
      have hrows' := eligible_recorded hdistinct' fun row hrow hafter =>
        hunseen row (hkind row (List.mem_append_right _ hrow) hafter) hafter
      by_cases hearly : SettledEarly host R request
      · rw [decidedOn_early hearly, decidedOn_early hearly rows']
      · rw [decidedOn_late hearly, decidedOn_late hearly, hrows, hrows', hsame]

/-! ### Two rows from the day after -/

/-- A choice recorded a day after the decision, with no time it is valid from. -/
def tomorrowRow (id : String) : EvidenceRow :=
  [("id", .json (.str id)), ("ts", .time ⟨epoch + 86400000000, true⟩), ("situation_type", .json (.str "release")),
    ("situation_summary", .json (.str "ship the fix")), ("objective_text", .json (.str "ship")),
    ("selected_choice", .json (.str "deploy now")), ("evidence_source", .json (.str "explicit"))]

/-- They make a decision of what was an abstention. -/
theorem tomorrow_decides : ¬ ∀ (host : PolicyHost) (R : Type) (_ : Floats R) (request : DecisionRequest),
    NoLookAhead host R request fun _ => True := by
  intro h
  have hsame := h exampleHost ℚ exactFloats exampleRequest [tomorrowRow "a", tomorrowRow "b"] []
    (List.pairwise_pair.mpr (by decide)) List.Pairwise.nil rfl (fun _ _ _ => trivial)
  have hselected : ((decidedOn exampleHost ℚ exampleRequest [tomorrowRow "a", tomorrowRow "b"]).toOption.map (·.status)) =
      some .selected := by decide +kernel
  have habstained : ((decidedOn exampleHost ℚ exampleRequest []).toOption.map (·.status)) = some .abstained := by
    decide +kernel
  rw [hsame, habstained] at hselected
  cases hselected

end OpenTimeline.Decision
