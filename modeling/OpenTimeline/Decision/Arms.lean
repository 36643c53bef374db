import OpenTimeline.Decision.Projection
import OpenTimeline.Decision.Support

/-! The arms of the behavior pilot.

The memory an agent is given is the evidence nearest to its request, as records, as a markdown
projection or as an index. The projection is made anew of the rows that were selected; the ids
it has are those of the records all the same (`arms_same_evidence`). -/
namespace OpenTimeline.Decision
open Library

variable {R : Type} [Floats R] (host : ProjectionHost R)

/-! ### Ranking -/

/-- `_tokens` of the pilot -/
def pilotTokens (text : String) : Finset String :=
  let pieces := (host.casefold text).toList.splitOnP fun c => !(host.isAlnum c || c ∈ ['_', '.', '/', ':', '-'])
  ((pieces.filter (1 < ·.length)).map String.ofList).toFinset

/-- The words of a request. -/
def requestTokens (request : EvidenceRow) : Option (Finset String) := do
  let choices ← (request.get "candidate_choices").items.toOption
  return pilotTokens host (" ".intercalate [(request.get "situation_type").text host.toPolicyHost,
    (request.get "situation_summary").text host.toPolicyHost, (request.get "objective").text host.toPolicyHost,
    " ".intercalate (choices.map (pyStr host.toHost))])

/-- The words of a record. -/
def recordTokens (record : ProjectionRow R) : Finset String :=
  pilotTokens host (" ".intercalate [record.situationType, record.situationSummary, record.objective,
    record.selectedChoice, record.rationale, record.actionTaken, record.outcome])

/-- `_rank_records`, `none` where it raises. -/
def rankRecords (records : List (ProjectionRow R)) (request : EvidenceRow) : Option (List (ProjectionRow R)) := do
  let queryTokens ← requestTokens host request
  let scored := records.zipIdx.map fun entry =>
    ((Floats.ratio (queryTokens ∩ recordTokens host entry.1).card queryTokens.card : R), -(entry.2 : Int), entry.1)
  let key : R × Int × ProjectionRow R → R ×ₗ Int ×ₗ String := fun row => toLex (row.1, toLex (row.2.1, row.2.2.id))
  return ((scored.insertionSort fun a b => key b ≤ key a).take 12).map (·.2.2)

/-! ### Contexts -/

inductive BehaviorPilotVariant
  | noMemory | canonicalStructured | markdownProjection | projectionIndex
deriving DecidableEq, Repr

/-- An item of the index. -/
structure IndexItem (R : Type) where
  id : String
  summary : String
  decision : String
  source : String
  confidence : R
  citation : String

inductive PilotContext (R : Type)
  | noMemory
  | canonicalStructured (evidence : List (ProjectionRow R))
  | markdownProjection (content : MarkdownProjection R)
  | projectionIndex (items : List (IndexItem R))

/-- The evidence ids a context names: of its records, at the front of its projection, of its index. -/
def PilotContext.evidenceIds : PilotContext R → List String
  | noMemory => []
  | canonicalStructured evidence => evidence.map (·.id)
  | markdownProjection content => content.sourceEvidenceIds
  | projectionIndex items => items.map (·.id)

/-- The ids of the evidence whose content a context has. -/
def PilotContext.shownIds : PilotContext R → List String
  | markdownProjection content => content.sections.flatMap fun part => part.2.map (·.row.id)
  | context => context.evidenceIds

/-- What is prepared, without its digests. -/
structure PreparedContext (R : Type) where
  context : PilotContext R
  citations : List String

/-- The context of an arm, from the records that were ranked and all rows. -/
def contextOf (rows : List EvidenceRow) (workspaceId subjectUserId : String) (current : Instant)
    (records : List (ProjectionRow R)) (variant : BehaviorPilotVariant) : Option (PilotContext R) :=
  match variant with
  | .noMemory => some .noMemory
  | .canonicalStructured => some (.canonicalStructured records)
  | .markdownProjection =>
    let selectedRaw := rows.filter fun row => row.id host.toPolicyHost ∈ sourceEvidenceIds records
    (currentRows host selectedRaw current 12).map fun projected =>
      .markdownProjection (markdownProjection host projected workspaceId subjectUserId)
  | .projectionIndex => some (.projectionIndex (records.map fun record =>
      { id := record.id
        summary := if record.situationSummary = "" then record.objective else record.situationSummary
        decision := record.selectedChoice
        source := record.evidenceSource
        confidence := record.confidence
        citation := "tce://workspace/" ++ host.quote workspaceId ++ "/behavior/" ++ host.quote subjectUserId ++
          "/evidence/" ++ record.id ++ ".json" }))

/-- `prepare_behavior_pilot_context`, `none` where it raises. -/
def prepareBehaviorPilotContext (rows : List EvidenceRow) (workspaceId subjectUserId : String) (request : EvidenceRow)
    (variant : BehaviorPilotVariant) (current : Instant) : Option (PreparedContext R) :=
  if variant = .noMemory then some ⟨.noMemory, []⟩
  else do
    let evidence ← currentRows host rows current 500
    let records ← rankRecords host evidence request
    let context ← contextOf host rows workspaceId subjectUserId current records variant
    return ⟨context, sourceEvidenceIds records⟩

/-! ### Ids -/

theorem mapM_isSome {α β : Type} {f : α → Option β} {l : List α} :
    (l.mapM f).isSome ↔ ∀ a ∈ l, (f a).isSome := by
  induction l with
  | nil => simp
  | cons a rest ih =>
    rw [List.mapM_cons, List.forall_mem_cons, ← ih]
    cases f a with
    | none => simp
    | some b => cases rest.mapM f <;> simp

/-- What each step keeps, all of them keep. -/
theorem mapM_map {α β γ : Type} {f : α → Option β} {g : α → γ} {g' : β → γ} (h : ∀ a b, f a = some b → g' b = g a)
    {l : List α} {l' : List β} (hl : l.mapM f = some l') : l'.map g' = l.map g := by
  induction l generalizing l' with
  | nil =>
    obtain rfl := Option.some.inj hl
    rfl
  | cons a rest ih =>
    simp only [List.mapM_cons, Option.bind_eq_bind, Option.bind_eq_some_iff, Option.pure_def, Option.some.injEq] at hl
    obtain ⟨b, hb, bs, hbs, rfl⟩ := hl
    rw [List.map_cons, List.map_cons, h a b hb, ih hbs]

/-- The rows of a projection are, by their ids, the eligible rows up to the limit. -/
theorem currentRows_spec {rows : List EvidenceRow} {current : Instant} {maxEvidence : Nat}
    {projected : List (ProjectionRow R)} (h : currentRows host rows current maxEvidence = some projected) :
    ∃ eligible normalized, eligibleBehaviorEvidence host.toPolicyHost rows current false = .ok eligible ∧
      eligible.mapM (normalizeRow host) = some normalized ∧
      (normalized.map (·.id)) = eligible.map (·.id host.toPolicyHost) ∧
      projected = (sortRows normalized).take (max 1 (min maxEvidence 500)) := by
  simp only [currentRows, Option.bind_eq_bind, Option.bind_eq_some_iff, Option.pure_def, Option.some.injEq] at h
  obtain ⟨eligible, heligible, normalized, hnormalized, rfl⟩ := h
  exact ⟨eligible, normalized, toOption_eq_some_iff.mp heligible, hnormalized,
    mapM_map (fun _ _ => normalizeRow_id host) hnormalized, rfl⟩

omit [Floats R] in
theorem sortRows_perm (rows : List (ProjectionRow R)) : (sortRows rows).Perm rows := List.perm_insertionSort _ _

/-- The records are some of the rows, a dozen at most. -/
theorem rankRecords_subperm {records ranked : List (ProjectionRow R)} {request : EvidenceRow}
    (h : rankRecords host records request = some ranked) : ranked.Subperm records ∧ ranked.length ≤ 12 := by
  simp only [rankRecords, Option.bind_eq_bind, Option.bind_eq_some_iff, Option.pure_def, Option.some.injEq] at h
  obtain ⟨queryTokens, -, rfl⟩ := h
  constructor
  · refine ((List.take_sublist _ _).map _).subperm.trans (((List.perm_insertionSort _ _).map _).subperm.trans ?_)
    rw [List.map_map]
    refine List.Perm.subperm ?_
    have : (records.zipIdx.map fun entry : ProjectionRow R × Nat => entry.1) = records := List.zipIdx_map_fst 0 records
    exact List.Perm.of_eq this
  · rw [List.length_map]
    exact List.length_take_le _ _

/-- A list by the classes of its items. -/
theorem flatMap_filter_perm {α κ : Type} [DecidableEq κ] {keys : List κ} (hkeys : keys.Nodup) (f : α → κ) {l : List α}
    (h : ∀ a ∈ l, f a ∈ keys) : (keys.flatMap fun key => l.filter fun a => f a = key).Perm l := by
  induction keys generalizing l with
  | nil =>
    cases l with
    | nil => exact .nil
    | cons a rest => exact absurd (h a (List.mem_cons_self ..)) List.not_mem_nil
  | cons key keys ih =>
    obtain ⟨hkey, hkeys⟩ := List.nodup_cons.mp hkeys
    have hothers : (keys.flatMap fun other => l.filter fun a => f a = other) =
        keys.flatMap fun other => (l.filter fun a => f a ≠ key).filter fun a => f a = other := by
      refine List.flatMap_congr fun other hother => ?_
      rw [List.filter_filter]
      refine List.filter_congr fun a _ => ?_
      by_cases ha : f a = other
      · simp [ha, show other ≠ key from fun heq => hkey (heq ▸ hother)]
      · simp [ha]
    rw [List.flatMap_cons, hothers]
    refine ((ih hkeys ?_).append_left _).trans ?_
    · intro a ha
      obtain ⟨ha, hne⟩ := List.mem_filter.mp ha
      exact (List.mem_cons.mp (h a ha)).resolve_left (by simpa using hne)
    · simpa using List.filter_append_perm (fun a => f a = key) l

omit [Floats R] in
/-- The entries of a projection are its rows. -/
theorem shownIds_markdown (rows : List (ProjectionRow R)) (workspaceId subjectUserId : String) :
    (PilotContext.shownIds (.markdownProjection (markdownProjection host rows workspaceId subjectUserId))).Perm
      (rows.map (·.id)) := by
  have hperm := @flatMap_filter_perm _ _ _ ((rows.map (·.memoryClass)).dedup.insertionSort (· ≤ ·))
    ((List.perm_insertionSort _ _).nodup_iff.mpr (List.nodup_dedup _)) (fun row : ProjectionRow R => row.memoryClass)
    (l := rows) (fun row hrow => (List.mem_insertionSort _).mpr
      (List.mem_dedup.mpr (List.mem_map_of_mem (f := (·.memoryClass)) hrow)))
  refine List.Perm.trans ?_ (hperm.map (·.id))
  rw [List.map_flatMap]
  simp [PilotContext.shownIds, markdownProjection, List.flatMap_map, Function.comp_def]

/-! ### The arms -/

/-- The rows of the records, out of all rows, are eligible rows. -/
theorem selected_sublist {rows eligible : List EvidenceRow} {current : Instant} (host : PolicyHost)
    (hids : (rows.map (·.id host)).Nodup)
    (heligible : eligibleBehaviorEvidence host rows current false = .ok eligible) {ids : List String}
    (hmem : ∀ id ∈ ids, id ∈ eligible.map (·.id host)) :
    (rows.filter fun row => row.id host ∈ ids).Sublist eligible := by
  obtain ⟨contradicted, -, h⟩ := bind_ok heligible
  obtain rfl := Except.ok.inj h
  rw [List.filter_filter] at hmem ⊢
  rw [List.filter_congr (q := fun row => (row.id host ∉ contradicted.flatten && activeEvidence host current false
    (rowsById host rows) row) && row.id host ∈ ids)]
  · exact List.monotone_filter_right _ fun row h => (Bool.and_eq_true_iff.mp h).1
  · intro row hrow
    by_cases hid : row.id host ∈ ids
    · obtain ⟨row', hrow', hsame⟩ := List.mem_map.mp (hmem _ hid)
      obtain ⟨hrow', hpasses⟩ := List.mem_filter.mp hrow'
      obtain rfl := List.inj_on_of_nodup_map hids hrow' hrow hsame
      simp only [hpasses, Bool.true_and]
    · simp [hid]

/-- A dozen eligible rows at most are all projected. -/
theorem currentRows_of_sublist {rows eligible selected : List EvidenceRow} {current : Instant}
    {normalized : List (ProjectionRow R)}
    (heligible : eligibleBehaviorEvidence host.toPolicyHost rows current false = .ok eligible)
    (hnormalized : eligible.mapM (normalizeRow host) = some normalized) (hselected : selected.Sublist eligible)
    (hdozen : selected.length ≤ 12) :
    ∃ projected, currentRows host selected current 12 = some projected ∧
      (projected.map (·.id)).Perm (selected.map (·.id host.toPolicyHost)) := by
  have hsome : (selected.mapM (normalizeRow host)).isSome := by
    rw [mapM_isSome]
    intro row hrow
    exact mapM_isSome.mp (Option.isSome_of_eq_some hnormalized) row (hselected.subset hrow)
  obtain ⟨normalized', hnormalized'⟩ := Option.isSome_iff_exists.mp hsome
  have hids : normalized'.map (·.id) = selected.map (·.id host.toPolicyHost) :=
    mapM_map (fun _ _ => normalizeRow_id host) hnormalized'
  refine ⟨sortRows normalized', ?_, hids ▸ (sortRows_perm normalized').map _⟩
  have hlength : (sortRows normalized').length ≤ 12 := by
    rw [(sortRows_perm normalized').length_eq, ← List.length_map (f := (·.id)), hids, List.length_map]
    exact hdozen
  simp only [currentRows, eligible_of_sublist host.toPolicyHost heligible hselected, hnormalized', Except.toOption,
    Option.bind_eq_bind, Option.bind_some, Option.pure_def]
  exact congrArg some (List.take_of_length_le hlength)

/-- The arms but the one without memory raise alike. Otherwise their contexts have the evidence that is cited, in
whatever order, and what is cited is eligible. -/
theorem arms_same_evidence (rows : List EvidenceRow) (hids : (rows.map (·.id host.toPolicyHost)).Nodup)
    (hne : ∀ row ∈ rows, row.id host.toPolicyHost ≠ "") (workspaceId subjectUserId : String) (request : EvidenceRow)
    (current : Instant) :
    (∀ variant ≠ .noMemory,
      prepareBehaviorPilotContext host rows workspaceId subjectUserId request variant current = none) ∨
    ∃ eligible citations, eligibleBehaviorEvidence host.toPolicyHost rows current false = .ok eligible ∧
      (∀ id ∈ citations, ∃ row ∈ eligible, row.id host.toPolicyHost = id) ∧
      ∀ variant ≠ .noMemory, ∃ prepared,
        prepareBehaviorPilotContext host rows workspaceId subjectUserId request variant current = some prepared ∧
        prepared.citations = citations ∧ prepared.context.evidenceIds.Perm citations ∧
        prepared.context.shownIds.Perm citations := by
  cases hevidence : currentRows host rows current 500 with
  | none =>
    left
    intro variant hvariant
    rw [prepareBehaviorPilotContext, if_neg hvariant, hevidence]
    rfl
  | some evidence =>
    cases hrecords : rankRecords host evidence request with
    | none =>
      left
      intro variant hvariant
      rw [prepareBehaviorPilotContext, if_neg hvariant, hevidence]
      simp [hrecords]
    | some records =>
      right
      obtain ⟨eligible, normalized, heligible, hnormalized, hnormalizedIds, htaken⟩ := currentRows_spec host hevidence
      obtain ⟨hranked, hdozen⟩ := rankRecords_subperm host hrecords
      have hsubperm : (records.map (·.id)).Subperm (eligible.map (·.id host.toPolicyHost)) := by
        rw [← hnormalizedIds]
        rw [htaken] at hranked
        obtain ⟨taken, hperm, hsub⟩ :=
          hranked.trans ((List.take_sublist _ _).subperm.trans (sortRows_perm normalized).subperm)
        exact ⟨taken.map _, hperm.map _, hsub.map _⟩
      have heligibleIds : (eligible.map (·.id host.toPolicyHost)).Nodup := by
        obtain ⟨_, -, h⟩ := bind_ok heligible
        obtain rfl := Except.ok.inj h
        exact hids.sublist ((List.filter_sublist.trans List.filter_sublist).map _)
      have hnodup : (records.map (·.id)).Nodup := by
        obtain ⟨taken, hperm, hsub⟩ := hsubperm
        exact hperm.nodup_iff.mp (heligibleIds.sublist hsub)
      have hcited : sourceEvidenceIds records = records.map (·.id) := by
        rw [sourceEvidenceIds, List.filter_eq_self]
        intro id hid
        obtain ⟨row, hrow, rfl⟩ := List.mem_map.mp (hsubperm.subset hid)
        exact decide_eq_true (hne row (mem_eligibleBehaviorEvidence _ heligible hrow).1)
      -- the markdown arm projects these rows again
      have hselected := selected_sublist host.toPolicyHost hids heligible fun id hid => hsubperm.subset hid
      have hselectedIds : ((rows.filter fun row => row.id host.toPolicyHost ∈ records.map (·.id)).map
          (·.id host.toPolicyHost)).Perm (records.map (·.id)) := by
        refine (List.perm_ext_iff_of_nodup (heligibleIds.sublist (hselected.map _)) hnodup).mpr fun id => ?_
        constructor
        · intro hid
          obtain ⟨row, hrow, rfl⟩ := List.mem_map.mp hid
          exact of_decide_eq_true (List.mem_filter.mp hrow).2
        · intro hid
          obtain ⟨row, hrow, rfl⟩ := List.mem_map.mp (hsubperm.subset hid)
          exact List.mem_map_of_mem (List.mem_filter.mpr
            ⟨(mem_eligibleBehaviorEvidence _ heligible hrow).1, decide_eq_true hid⟩)
      obtain ⟨projected, hprojected, hprojectedIds⟩ := currentRows_of_sublist host heligible hnormalized hselected (by
        have := hselectedIds.length_eq
        rw [List.length_map, List.length_map] at this
        omega)
      have hprojectedIds := hprojectedIds.trans hselectedIds
      have hprepared : ∀ variant ≠ .noMemory, ∀ context,
          contextOf host rows workspaceId subjectUserId current records variant = some context →
          prepareBehaviorPilotContext host rows workspaceId subjectUserId request variant current =
            some ⟨context, records.map (·.id)⟩ := by
        intro variant hvariant context hcontext
        rw [prepareBehaviorPilotContext, if_neg hvariant, hevidence]
        simp [hrecords, hcontext, hcited]
      refine ⟨eligible, records.map (·.id), heligible, fun id hid => List.mem_map.mp (hsubperm.subset hid), ?_⟩
      intro variant hvariant
      cases variant with
      | noMemory => exact absurd rfl hvariant
      | canonicalStructured => exact ⟨_, hprepared _ hvariant _ rfl, rfl, .refl _, .refl _⟩
      | projectionIndex =>
        refine ⟨_, hprepared _ hvariant _ rfl, rfl, ?_, ?_⟩ <;>
          simp [PilotContext.evidenceIds, PilotContext.shownIds, Function.comp_def]
      | markdownProjection =>
        refine ⟨_, hprepared _ hvariant (.markdownProjection (markdownProjection host projected workspaceId subjectUserId))
          (by simp only [contextOf, hcited, hprojected, Option.map_some]), rfl, ?_, ?_⟩
        · refine List.Perm.trans (List.Perm.of_eq ?_) hprojectedIds
          rw [PilotContext.evidenceIds, markdownProjection, sourceEvidenceIds, List.filter_eq_self]
          intro id hid
          have : id ∈ sourceEvidenceIds records := by
            rw [hcited]
            exact hprojectedIds.subset hid
          exact (List.mem_filter.mp this).2
        · exact (shownIds_markdown host projected workspaceId subjectUserId).trans hprojectedIds

def exampleProjectionHost : ProjectionHost ℚ where
  toPolicyHost := exampleHost
  casefold text := text
  isAlnum c := c.isAlphanum
  quote text := text
  float
    | .json (.float x) => some x.trunc
    | _ => none

/-- Evidence of which one row is contradicted and one superseded. -/
def exampleEvidence : List EvidenceRow :=
  [exampleRow "a", exampleRow "b" ++ [("contradicts_observation_ids", .json (.arr [.str "c"]))], exampleRow "c",
    exampleRow "d" ++ [("superseded_by", .json (.str "a"))]]

def exampleTrial : EvidenceRow :=
  [("situation_type", .json (.str "release")), ("objective", .json (.str "ship the fix"))]

theorem arms_same_evidence_example :
    (exampleEvidence.map (·.id exampleProjectionHost.toPolicyHost)).Nodup ∧ ∀ variant ≠ .noMemory, ∃ prepared,
      prepareBehaviorPilotContext exampleProjectionHost exampleEvidence "w" "v" exampleTrial variant epoch =
        some prepared ∧
      prepared.citations.Perm ["b", "a"] ∧ prepared.context.shownIds.Perm ["b", "a"] := by
  refine ⟨by decide +kernel, ?_⟩
  have hcanonical : (prepareBehaviorPilotContext exampleProjectionHost exampleEvidence "w" "v" exampleTrial
      .canonicalStructured epoch).any fun prepared => prepared.citations = ["b", "a"] := by decide +kernel
  obtain ⟨first, hfirst, hcited⟩ := (Option.any_eq_true _ _).mp hcanonical
  obtain hnone | ⟨eligible, citations, -, -, harms⟩ := arms_same_evidence exampleProjectionHost exampleEvidence
    (by decide +kernel) (by decide +kernel) "w" "v" exampleTrial epoch
  · rw [hnone .canonicalStructured (by decide)] at hfirst
    cases hfirst
  · obtain ⟨prepared, hprepared, rfl, -⟩ := harms .canonicalStructured (by decide)
    obtain rfl := Option.some.inj (hfirst.symm.trans hprepared)
    rw [of_decide_eq_true hcited] at harms
    intro variant hvariant
    obtain ⟨prepared, hprepared, hcitations, -, hshown⟩ := harms variant hvariant
    exact ⟨prepared, hprepared, .of_eq hcitations, hshown⟩

end OpenTimeline.Decision
