import OpenTimeline.Redaction
import OpenTimeline.Decision.Evidence

/-! The projection of behavior evidence.

The eligible rows are brought to a normal form, their texts clipped and redacted, and stand
in the order of their times, the newest first, up to a limit. Which rows are eligible now does
not depend on rows that are not (`eligible_of_sublist`), so a projection of some eligible rows
is of these. -/
namespace OpenTimeline.Decision
open Library

/-- The library calls of the projection, beside those of the policy. -/
structure ProjectionHost (R : Type) extends PolicyHost where
  /-- `str.casefold` -/
  casefold : String → String
  /-- `str.isalnum` for one character -/
  isAlnum : Char → Bool
  /-- `quote(text, safe="")` -/
  quote : String → String
  /-- `float(value)`, `none` where it raises -/
  float : Value → Option R

variable {R : Type} [Floats R] (host : ProjectionHost R)

/-! ### Texts -/

def behaviorMemoryClasses : List String :=
  ["decision", "fact", "preference", "safety_constraint", "procedural_runbook", "episode", "hypothesis",
    "rejected_hypothesis"]

def behaviorEvidenceSources : List String := ["explicit", "inferred", "correction", "calibration", "backfill"]

def behaviorLifecycleStatuses : List String := ["active", "superseded", "rejected"]

def sensitiveKeys : List String :=
  ["access_token", "api_key", "apikey", "authorization", "client_secret", "cookie", "password", "passwd", "private_key",
    "proxy_authorization", "refresh_token", "secret", "set_cookie", "token"]

/-- `_is_sensitive_key` -/
def isSensitiveKey (key : String) : Bool :=
  let normalized := String.ofList ((host.lower (strip key)).toList.map fun c => if c = '-' ∨ c = ' ' then '_' else c)
  normalized ∈ sensitiveKeys ||
    ["_api_key", "_password", "_secret", "_token"].any fun suffix => suffix.toList.isSuffixOf normalized.toList

/-- `_redact_string`, and `_safe_text` of the projection: the text, and whether anything of it was replaced. -/
def redactString (value : Value) (limit : Nat) : String × Bool :=
  let compact := strip (String.ofList ((collapse (value.text host.toPolicyHost)).toList.take limit))
  let redacted := redactText compact []
  (strip redacted.1, !redacted.2.isEmpty)

/-- `redact_field` of the first name that leaves a text. -/
def redactField (payload : EvidenceRow) (limit : Nat) : List String → String × Bool
  | [] => ("", false)
  | name :: names =>
    let field := redactString host (payload.get name) limit
    if field.1 = "" then
      let other := redactField payload limit names
      (other.1, field.2 || other.2)
    else field

/-- `_redact_string_list` -/
def redactStringList (value : Value) (limit itemLimit : Nat) : List String × Bool :=
  match value with
  | .json (.arr items) =>
    let redacted := (items.take limit).map fun item => redactString host (.json item) itemLimit
    let kept := redacted.foldl (fun output item =>
      if item.1 = "" ∨ host.casefold item.1 ∈ output.map host.casefold then output else output ++ [item.1]) []
    (kept, redacted.any (·.2))
  | _ => ([], false)

mutual

/-- `_redact_structured` -/
def redactStructured : Json → Json × Bool
  | .obj fields => let redacted := redactFields fields; (.obj redacted.1, redacted.2)
  | .arr items => let redacted := redactItems items; (.arr redacted.1, redacted.2)
  | .str s => let redacted := redactText s []; (.str redacted.1, !redacted.2.isEmpty)
  | value => (value, false)

def redactFields : List (String × Json) → List (String × Json) × Bool
  | [] => ([], false)
  | (key, value) :: rest =>
    let field := if isSensitiveKey host key then (.str "<REDACTED:SENSITIVE_FIELD>", true) else redactStructured value
    let others := redactFields rest
    ((key, field.1) :: others.1, field.2 || others.2)

def redactItems : List Json → List Json × Bool
  | [] => ([], false)
  | value :: rest =>
    let item := redactStructured value
    let others := redactItems rest
    (item.1 :: others.1, item.2 || others.2)

end

/-- `_bounded_structured`, to the depths that are left. -/
def boundedStructured : Nat → Json → Json × Bool
  | 0, _ => (.str "<TRUNCATED:DEPTH>", false)
  | depth + 1, .obj fields =>
    let sorted := fields.insertionSort fun a b => host.casefold a.1 ≤ host.casefold b.1
    let output := (sorted.take 20).foldl (fun (output : Payload × Bool) field =>
      let key := redactString host (.json (.str field.1)) 80
      if key.1 = "" then (output.1, output.2 || key.2)
      else if isSensitiveKey host key.1 then (assign key.1 (.str "<REDACTED:SENSITIVE_FIELD>") output.1, true)
      else
        let item := boundedStructured depth field.2
        (assign key.1 item.1 output.1, output.2 || key.2 || item.2)) ([], false)
    (.obj output.1, output.2)
  | depth + 1, .arr items =>
    let output := (items.take 20).map (boundedStructured depth)
    (.arr (output.map (·.1)), output.any (·.2))
  | _ + 1, .str s => let item := redactString host (.json (.str s)) 500; (.str item.1, item.2)
  | _ + 1, value => (value, false)

/-- `_redact_structured` of a value of a row; a datetime stays. -/
def redactValue : Value → Json × Bool
  | .json v => redactStructured host v
  | .time _ => (.null, false)

/-- `value if isinstance(value, dict) else {}` -/
def objectOrEmpty : Json → Json
  | .obj fields => .obj fields
  | _ => .obj []

/-- `(value or [])[:40]`, as texts that are not blank; `none` where it raises. -/
def Value.ids (value : Value) : Option (List String) :=
  match value.or (.json (.arr [])) with
  | .json (.arr items) => some (((items.take 40).map (pyStr host.toHost)).filter (strip · ≠ ""))
  | .json (.str s) => some (((s.toList.take 40).map fun c => String.ofList [c]).filter (strip · ≠ ""))
  | _ => none

/-- `_as_datetime` of the projection: what does not parse is `None`. -/
def readTime : Value → Option Instant
  | .time t => some t.instant
  | .json .null => none
  | .json (.str "") => none
  | value => (host.fromIsoFormat (replaceZ (value.str host.toPolicyHost))).map Datetime.instant

/-- A word of a vocabulary, or its default. -/
def oneOrDefault (value : Value) (words : List String) (default : String) : String :=
  let word := host.lower (strip ((value.or (.json (.str default))).str host.toPolicyHost))
  if word ∈ words then word else default

/-! ### Rows -/

/-- What `normalize_behavior_evidence` returns. -/
structure NormalizedEvidence (R : Type) where
  situationType : String
  situationSummary : String
  objectiveText : String
  contextSnapshot : Json
  constraints : Json
  availableChoices : List String
  selectedChoice : String
  rationale : String
  actionTaken : String
  outcome : String
  outcomeSentiment : Option String
  correctionText : String
  memoryClass : String
  evidenceSource : String
  lifecycleStatus : String
  sourceEventIds : List String
  confidence : R
  validFrom : Value
  validUntil : Value
  confirmedAt : Value
  contradictsObservationIds : List String
  redactionApplied : Bool

/-- `normalize_behavior_evidence`, `none` where it raises. -/
def normalizeBehaviorEvidence (payload : EvidenceRow) (now : Instant) : Option (NormalizedEvidence R) := do
  let choices := redactStringList host (payload.get "available_choices") 20 300
  let context := redactValue host ((payload.get "context_snapshot").or (.json (.obj [])))
  let constraints := redactValue host ((payload.get "constraints").or (.json (.obj [])))
  let sourceEventIds ← (payload.get "source_event_ids").ids host
  let contradicts ← (payload.get "contradicts_observation_ids").ids host
  let selected := redactField host payload 500 ["selected_choice", "user_response"]
  let rationale := redactField host payload 1000 ["rationale", "response_reasoning"]
  let summary := redactField host payload 500 ["situation_summary"]
  let objective := redactField host payload 500 ["objective"]
  let situationType := redactField host payload 80 ["situation_type"]
  let action := redactField host payload 1000 ["action_taken"]
  let outcome := redactField host payload 1000 ["outcome"]
  let sentiment := redactField host payload 40 ["outcome_sentiment"]
  let correction := redactField host payload 1000 ["correction_text"]
  let confidence ← host.float (((payload.lookup "confidence").getD (.json (.float ⟨"1.0", 1, false⟩))).or
    (.json (.float ⟨"0.0", 0, true⟩)))
  return {
    situationType := host.lower (if situationType.1 = "" then "routine_task" else situationType.1)
    situationSummary := summary.1
    objectiveText := if objective.1 = "" then summary.1 else objective.1
    contextSnapshot := objectOrEmpty context.1
    constraints := objectOrEmpty constraints.1
    availableChoices := choices.1
    selectedChoice := selected.1
    rationale := rationale.1
    actionTaken := action.1
    outcome := outcome.1
    outcomeSentiment := if host.lower sentiment.1 = "" then none else some (host.lower sentiment.1)
    correctionText := correction.1
    memoryClass := oneOrDefault host (payload.get "memory_class") behaviorMemoryClasses "decision"
    evidenceSource := oneOrDefault host (payload.get "evidence_source") behaviorEvidenceSources "explicit"
    lifecycleStatus := oneOrDefault host (payload.get "lifecycle_status") behaviorLifecycleStatuses "active"
    sourceEventIds
    confidence := Floats.clamp confidence
    validFrom := (payload.get "valid_from").or (.time ⟨now, true⟩)
    validUntil := payload.get "valid_until"
    confirmedAt := payload.get "confirmed_at"
    contradictsObservationIds := contradicts
    redactionApplied := choices.2 || context.2 || constraints.2 || selected.2 || rationale.2 || summary.2 || objective.2 ||
      situationType.2 || action.2 || outcome.2 || sentiment.2 || correction.2 }

/-- A row of a projection. -/
structure ProjectionRow (R : Type) where
  id : String
  ts : Instant
  situationType : String
  situationSummary : String
  objective : String
  contextSnapshot : Json
  constraints : Json
  availableChoices : List String
  selectedChoice : String
  rationale : String
  actionTaken : String
  outcome : String
  outcomeSentiment : Option String
  correctionText : String
  memoryClass : String
  evidenceSource : String
  lifecycleStatus : String
  learningEligible : Bool
  confidence : R
  storageScore : R
  storageDecision : String
  validFrom : Option Instant
  validUntil : Option Instant
  confirmedAt : Option Instant
  supersededBy : Option String
  sourceEventIds : List String
  contradictsObservationIds : List String
  redactionApplied : Bool

/-- What `_normalize_row` passes on of a row. -/
def evidencePayload (row : EvidenceRow) : EvidenceRow :=
  [("situation_type", row.get "situation_type"), ("situation_summary", row.get "situation_summary"),
    ("objective", (row.get "objective_text").or (row.get "objective")),
    ("context_snapshot", (row.get "context_snapshot").or (.json (.obj []))),
    ("constraints", ((row.get "constraints").or (row.get "constraints_json")).or (.json (.obj []))),
    ("available_choices", ((row.get "available_choices").or (row.get "available_choices_json")).or (.json (.arr []))),
    ("selected_choice", (row.get "selected_choice").or (row.get "user_response")),
    ("rationale", (row.get "response_reasoning").or (row.get "rationale")),
    ("action_taken", row.get "action_taken"), ("outcome", row.get "outcome"),
    ("outcome_sentiment", row.get "outcome_sentiment"), ("correction_text", row.get "correction_text"),
    ("memory_class", row.get "memory_class"), ("evidence_source", row.get "evidence_source"),
    ("lifecycle_status", row.get "lifecycle_status"),
    ("source_event_ids", (row.get "source_event_ids").or (.json (.arr []))), ("confidence", row.get "confidence"),
    ("valid_from", row.get "valid_from"), ("valid_until", row.get "valid_until"),
    ("confirmed_at", row.get "confirmed_at"),
    ("contradicts_observation_ids", (row.get "contradicts_observation_ids").or (.json (.arr [])))]

/-- `_normalize_row`, `none` where it raises. -/
def normalizeRow (row : EvidenceRow) : Option (ProjectionRow R) := do
  let ts := (readTime host (row.get "ts")).getD epoch
  let normalized ← normalizeBehaviorEvidence host (evidencePayload row) ts
  let context := boundedStructured host 4 normalized.contextSnapshot
  let constraints := boundedStructured host 4 normalized.constraints
  let supersededBy := redactString host (row.get "superseded_by") 80
  let storageScore ← host.float ((row.get "storage_score").or (.json (.float ⟨"0.0", 0, true⟩)))
  return {
    id := row.id host.toPolicyHost
    ts
    situationType := normalized.situationType
    situationSummary := normalized.situationSummary
    objective := normalized.objectiveText
    contextSnapshot := context.1
    constraints := constraints.1
    availableChoices := normalized.availableChoices
    selectedChoice := normalized.selectedChoice
    rationale := normalized.rationale
    actionTaken := normalized.actionTaken
    outcome := normalized.outcome
    outcomeSentiment := normalized.outcomeSentiment
    correctionText := normalized.correctionText
    memoryClass := normalized.memoryClass
    evidenceSource := normalized.evidenceSource
    lifecycleStatus := normalized.lifecycleStatus
    learningEligible := (row.get "learning_eligible").truthy
    confidence := Floats.round6 normalized.confidence
    storageScore := Floats.round6 storageScore
    storageDecision := ((row.get "storage_decision").or (.json (.str "audit_only"))).str host.toPolicyHost
    validFrom := readTime host normalized.validFrom
    validUntil := readTime host normalized.validUntil
    confirmedAt := readTime host normalized.confirmedAt
    supersededBy := if supersededBy.1 = "" then none else some supersededBy.1
    sourceEventIds := normalized.sourceEventIds
    contradictsObservationIds := normalized.contradictsObservationIds
    redactionApplied := (row.get "redaction_applied").truthy || normalized.redactionApplied || context.2 ||
      constraints.2 || supersededBy.2 }

/-- A row keeps its id. -/
theorem normalizeRow_id {row : EvidenceRow} {normalized : ProjectionRow R} (h : normalizeRow host row = some normalized) :
    normalized.id = row.id host.toPolicyHost := by
  simp only [normalizeRow, Option.bind_eq_bind, Option.bind_eq_some_iff, Option.pure_def, Option.some.injEq] at h
  obtain ⟨_, _, _, _, rfl⟩ := h
  rfl

/-! ### The current view -/

/-- `_sort_rows` -/
def sortRows (rows : List (ProjectionRow R)) : List (ProjectionRow R) :=
  let key : ProjectionRow R → Instant ×ₗ String := fun row => toLex (row.ts, row.id)
  rows.insertionSort fun a b => key b ≤ key a

/-- The rows of `build_behavior_projection` for the view `current`, `none` where it raises. -/
def currentRows (rows : List EvidenceRow) (current : Instant) (maxEvidence : Nat) : Option (List (ProjectionRow R)) := do
  let eligible ← (eligibleBehaviorEvidence host.toPolicyHost rows current false).toOption
  let normalized ← eligible.mapM (normalizeRow host)
  return (sortRows normalized).take (max 1 (min maxEvidence 500))

/-- `source_evidence_ids` -/
def sourceEvidenceIds (rows : List (ProjectionRow R)) : List String := (rows.map (·.id)).filter (· ≠ "")

/-- An entry of the markdown body, with the line that cites it. -/
structure MarkdownEntry (R : Type) where
  row : ProjectionRow R
  citation : String

/-- The markdown of a projection: the ids at its front, and its entries by their class. -/
structure MarkdownProjection (R : Type) where
  sourceEvidenceIds : List String
  sections : List (String × List (MarkdownEntry R))

/-- `_markdown_body`, behind the ids that go before it. -/
def markdownProjection (rows : List (ProjectionRow R)) (workspaceId subjectUserId : String) : MarkdownProjection R where
  sourceEvidenceIds := sourceEvidenceIds rows
  sections := ((rows.map (·.memoryClass)).dedup.insertionSort (· ≤ ·)).map fun memoryClass =>
    (memoryClass, (rows.filter (·.memoryClass = memoryClass)).map fun row =>
      ⟨row, "tce://workspace/" ++ host.quote workspaceId ++ "/behavior/" ++ host.quote subjectUserId ++ "/evidence/" ++
        host.quote row.id ++ ".json"⟩)

/-! ### Eligibility of some rows -/

/-- Whether a row is current now does not depend on the other rows. -/
theorem activeEvidence_present (host : PolicyHost) (current : Instant) (rows rows' : List (String × EvidenceRow)) :
    activeEvidence host current false rows = activeEvidence host current false rows' := by
  funext item
  simp [activeEvidence]

theorem mapM_sublist {ε α β : Type} {f : α → Except ε β} {l l' : List α} (hsub : l'.Sublist l) {results : List β}
    (h : l.mapM f = .ok results) : ∃ results', l'.mapM f = .ok results' ∧ results'.Sublist results := by
  induction hsub generalizing results with
  | slnil => exact ⟨[], rfl, List.nil_sublist _⟩
  | cons a _ ih =>
    rw [List.mapM_cons] at h
    obtain ⟨b, -, h⟩ := bind_ok h
    obtain ⟨bs, hbs, h⟩ := bind_ok h
    obtain rfl := Except.ok.inj h
    obtain ⟨results', hresults, hsub⟩ := ih hbs
    exact ⟨results', hresults, hsub.cons b⟩
  | cons_cons a _ ih =>
    rw [List.mapM_cons] at h
    obtain ⟨b, hb, h⟩ := bind_ok h
    obtain ⟨bs, hbs, h⟩ := bind_ok h
    obtain rfl := Except.ok.inj h
    obtain ⟨results', hresults, hsub⟩ := ih hbs
    refine ⟨b :: results', ?_, hsub.cons_cons b⟩
    rw [List.mapM_cons, hb, hresults]
    rfl

/-- Eligible rows by themselves are all eligible. -/
theorem eligible_of_sublist (host : PolicyHost) {rows eligible some : List EvidenceRow} {current : Instant}
    (h : eligibleBehaviorEvidence host rows current false = .ok eligible) (hsub : some.Sublist eligible) :
    eligibleBehaviorEvidence host some current false = .ok some := by
  obtain ⟨contradicted, hcontradicted, h⟩ := bind_ok h
  obtain rfl := Except.ok.inj h
  have hactive : some.filter (activeEvidence host current false (rowsById host some)) = some := by
    rw [List.filter_eq_self]
    intro row hrow
    rw [activeEvidence_present host current _ (rowsById host rows)]
    exact (List.mem_filter.mp (List.mem_of_mem_filter (hsub.subset hrow))).2
  obtain ⟨contradicted', hcontradicted', hless⟩ := mapM_sublist (hsub.trans List.filter_sublist) hcontradicted
  simp only [eligibleBehaviorEvidence, hactive, hcontradicted']
  refine congrArg Except.ok ?_
  rw [List.filter_eq_self]
  intro row hrow
  rw [decide_eq_true_eq]
  intro hmem
  have hkept := (List.mem_filter.mp (hsub.subset hrow)).2
  rw [decide_eq_true_eq] at hkept
  exact hkept (hless.flatten.subset hmem)

end OpenTimeline.Decision
