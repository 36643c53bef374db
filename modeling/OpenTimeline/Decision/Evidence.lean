import OpenTimeline.Library.OrderedDict
import OpenTimeline.Words
import OpenTimeline.Decision.Records

/-! Evidence: which rows may influence a decision, how near each is to the request, and
which of the options on offer its choice maps onto.

A choice maps onto an option that was offered or onto none (`mapChoice_mem`); only for no
options at all does it map onto itself. -/
namespace OpenTimeline.Decision
open Library

variable (host : PolicyHost)

/-! ### Coercions -/

/-- `text.replace("Z", "+00:00")` -/
def replaceZ (text : String) : String :=
  String.ofList (text.toList.flatMap fun c => if c = 'Z' then "+00:00".toList else [c])

/-- `_as_datetime`: what does not parse is `datetime.min`. -/
def asDatetime : Value → Instant
  | .time t => t.instant
  | value => ((host.fromIsoFormat (replaceZ (value.str host))).map Datetime.instant).getD 0

/-- `[a-z0-9]` -/
def isTokenHead (c : Char) : Bool := ('a' ≤ c && c ≤ 'z') || ('0' ≤ c && c ≤ '9')

/-- `[a-z0-9_./:-]` -/
def isTokenTail (c : Char) : Bool := isTokenHead c || c ∈ ['_', '.', '/', ':', '-']

/-- `_TOKEN_RE.findall`, the characters of a token under way in reverse. -/
def findTokens : List Char → List Char → List String
  | token, [] => if 2 ≤ token.length then [String.ofList token.reverse] else []
  | [], c :: rest => findTokens (if isTokenHead c then [c] else []) rest
  | token, c :: rest =>
    if isTokenTail c then findTokens (c :: token) rest
    else if 2 ≤ token.length then String.ofList token.reverse :: findTokens [] rest
    else findTokens [] rest

/-- `_tokens` of a text -/
def tokens (text : String) : Finset String := (findTokens [] (host.lower text).toList).toFinset

/-- `_choice_key` -/
def choiceKey (value : String) : String := " ".intercalate (splitBlanks (host.lower (strip value)))

/-- `_evidence_text` -/
def evidenceText (item : EvidenceRow) : String :=
  " ".intercalate [(item.get "situation_type").text host, (item.get "situation_summary").text host,
    ((item.get "objective_text").or (item.get "objective")).text host,
    ((item.get "constraints").or (.json (.obj []))).dumps host,
    ((item.get "context_snapshot").or (.json (.obj []))).dumps host]

/-- `for item in value or []` -/
def Value.items (value : Value) : Except PyError (List Json) :=
  match value.or (.json (.arr [])) with
  | .json (.arr items) => .ok items
  | .json (.obj fields) => .ok (fields.map fun field => .str field.1)
  | .json (.str s) => .ok (s.toList.map fun c => .str (String.ofList [c]))
  | _ => .error .typeError

/-! ### Eligibility -/

/-- `_active_evidence` -/
def activeEvidence (current : Instant) (historical : Bool) (rowsById : List (String × EvidenceRow))
    (item : EvidenceRow) : Bool :=
  let lifecycleStatus := ((item.get "lifecycle_status").or (.json (.str "active"))).str host
  let supersededBy := strip ((item.get "superseded_by").text host)
  -- a row with no successor named is current unless it says otherwise
  let standing :=
    if supersededBy ≠ "" then
      historical && (rowsById.lookup supersededBy).all fun successor =>
        current < asDatetime host ((successor.get "valid_from").or (successor.get "ts"))
    else lifecycleStatus ≠ "superseded"
  let validFrom := item.get "valid_from"
  let validUntil := item.get "valid_until"
  lifecycleStatus ∈ ["active", "superseded"] &&
    ((item.lookup "learning_eligible").getD (.json (.bool true))).truthy && standing &&
    !((validFrom.truthy && current < asDatetime host validFrom) ||
      (validUntil.truthy && asDatetime host validUntil ≤ current))

/-- `{str(row.get("id")): row for row in rows if row.get("id")}` -/
def rowsById (rows : List EvidenceRow) : List (String × EvidenceRow) :=
  (rows.filter fun row => (row.get "id").truthy).foldl (fun d row => assign ((row.get "id").str host) row d) []

/-- The ids a row of first-hand evidence contradicts. -/
def contradictedBy (row : EvidenceRow) : Except PyError (List String) :=
  if (row.get "evidence_source").text host ∈ ["explicit", "correction", "calibration"] then do
    let items ← (row.get "contradicts_observation_ids").items
    return (items.map (pyStr host.toHost)).filter (strip · ≠ "")
  else return []

/-- `eligible_behavior_evidence` -/
def eligibleBehaviorEvidence (rows : List EvidenceRow) (current : Instant) (historical : Bool) :
    Except PyError (List EvidenceRow) := do
  let active := rows.filter (activeEvidence host current historical (rowsById host rows))
  let contradicted ← active.mapM (contradictedBy host)
  return active.filter fun row => row.id host ∉ contradicted.flatten

/-- An eligible row is one of the rows, current at the time and contradicted by no other. -/
theorem mem_eligibleBehaviorEvidence {rows eligible : List EvidenceRow} {current : Instant} {historical : Bool}
    (h : eligibleBehaviorEvidence host rows current historical = .ok eligible) {row : EvidenceRow}
    (hrow : row ∈ eligible) :
    row ∈ rows ∧ activeEvidence host current historical (rowsById host rows) row := by
  simp only [eligibleBehaviorEvidence] at h
  cases hcontradicted : (rows.filter (activeEvidence host current historical (rowsById host rows))).mapM
      (contradictedBy host) with
  | error e =>
    rw [hcontradicted] at h
    cases h
  | ok contradicted =>
    rw [hcontradicted] at h
    obtain rfl := Except.ok.inj h
    exact List.mem_filter.mp (List.mem_of_mem_filter hrow)

/-! ### Similarity -/

section
variable {R : Type} [Floats R]

/-- `_topical_overlap` -/
def topicalOverlap (query evidence : EvidenceRow) : R :=
  let queryTokens := tokens host (evidenceText host query)
  let evidenceTokens := tokens host (evidenceText host evidence)
  Floats.ratio (queryTokens ∩ evidenceTokens).card (queryTokens ∪ evidenceTokens).card

/-- `max(0.0, (decision_at - ts).total_seconds() / 86400.0)` -/
def ageDays (decisionAt : Instant) (row : EvidenceRow) : R :=
  max (Floats.near 0)
    (Floats.near (((decisionAt : ℚ) - asDatetime host (row.get "ts")) / 1000000) / Floats.near 86400)

/-- What a source is worth. -/
def sourceQuality (source : String) : R :=
  Floats.near ((["correction", "explicit", "calibration", "inferred"].zip
    [(1.0 : ℚ), 0.95, 0.85, 0.65]).lookup source |>.getD 0.55)

/-- `_similarity` -/
def similarity (query evidence : EvidenceRow) (decisionAt : Instant) : R :=
  let sameSituation := (query.get "situation_type").text host = (evidence.get "situation_type").text host
  let recency : R :=
    Floats.exp (-Floats.log (Floats.near 2) * ageDays host decisionAt evidence / Floats.near 90)
  let source := ((evidence.get "evidence_source").or (.json (.str "inferred"))).str host
  Floats.round6 (Floats.near 0.60 * topicalOverlap host query evidence +
    (if sameSituation then Floats.near 0.18 else Floats.near 0) + Floats.near 0.12 * recency +
    Floats.near 0.10 * sourceQuality source)

/-- How near a choice is to an option. -/
def candidateOverlap (choice candidate : String) : R :=
  if choiceKey host choice = choiceKey host candidate then Floats.near 1
  else
    let choiceTokens := tokens host choice
    let candidateTokens := tokens host candidate
    Floats.ratio (choiceTokens ∩ candidateTokens).card (choiceTokens ∪ candidateTokens).card

variable (R)

/-- The options by their overlap with a choice, the nearest first. -/
def rankedCandidates (choice : String) (allowed : List String) : List (R × String) :=
  let key : R × String → R ×ₗ String := fun item => toLex (-item.1, choiceKey host item.2)
  (allowed.map fun candidate => (candidateOverlap host choice candidate, candidate)).insertionSort
    fun a b => key a ≤ key b

/-- `_map_choice` -/
def mapChoice (choice : String) (allowed : List String) : String :=
  if allowed.isEmpty then choice
  else match rankedCandidates host R choice allowed with
  | (overlap, candidate) :: _ => if Floats.near 0.25 ≤ overlap then candidate else ""
  | [] => ""

/-- A choice maps onto an option on offer, or onto none. -/
theorem mapChoice_mem {choice : String} {allowed : List String} (hallowed : allowed ≠ [])
    (hmapped : mapChoice host R choice allowed ≠ "") : mapChoice host R choice allowed ∈ allowed := by
  unfold mapChoice at hmapped ⊢
  rw [if_neg (by simpa using hallowed)] at hmapped ⊢
  cases hranked : rankedCandidates host R choice allowed with
  | nil => simp [hranked] at hmapped
  | cons best rest =>
    obtain ⟨overlap, candidate⟩ := best
    simp only [hranked] at hmapped ⊢
    split_ifs at hmapped ⊢ with hnear
    · have hmem : (overlap, candidate) ∈ rankedCandidates host R choice allowed := by simp [hranked]
      obtain ⟨option, hoption, heq⟩ := List.mem_map.mp ((List.mem_insertionSort _).mp hmem)
      obtain ⟨_, rfl⟩ := Prod.mk.inj heq
      exact hoption
    · exact absurd rfl hmapped

variable {R}

/-- `_effective_sample_size` -/
def effectiveSampleSize (weights : List R) : R :=
  let values := weights.map (max (Floats.near 0))
  let total := Floats.sum values
  let squared := Floats.sum (values.map fun value => value * value)
  if total ≤ Floats.near 0 ∨ squared ≤ Floats.near 0 then Floats.near 0 else total * total / squared

end
end OpenTimeline.Decision
