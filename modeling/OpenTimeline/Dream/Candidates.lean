import OpenTimeline.Dream.Full
import OpenTimeline.Extraction.Text
import OpenTimeline.Library.OrderedDict

/-! What a model proposes, and what it is held to.

The model is shown messages under numbers. Its reply is read against these: a number that is none of them names
nothing (`parse_dream_payload`). Then each quote is looked for in the message it is of, and the candidate is kept
with the citations that pass, if they are enough (`validate_candidate`). The pool is as `select_candidate_messages`
builds it, one message to an event and to a content hash, so what is kept is grounded in it
(`survivors_grounded`). -/
namespace OpenTimeline.Dream
open Library
open Extraction (TextHost occursIn prefixOf)
open TaskState (text integer mappings)
open Full (evidenceBasisFor)

/-- What the devices ask of the language besides. -/
structure VoiceHost extends TextHost where
  /-- `str.isupper` for one character -/
  isUpper : Char → Bool

section
variable (host : VoiceHost)

/-! ### The devices -/

/-- `content_token_overlap` -/
def contentTokenOverlap (left right : String) : Nat :=
  ((contentTokens host.toHost left).filter (· ∈ contentTokens host.toHost right)).length

/-- `quote_is_contained` -/
def quoteIsContained (quote body : String) (maxChars : Int) : Bool :=
  let raw := strip quote
  let needle := normaliseForContainment host.toHost raw
  4 ≤ raw.length && raw.length ≤ maxChars.toNat && needle ≠ "" &&
    3 ≤ (contentTokens host.toHost needle).length && occursIn needle (normaliseForContainment host.toHost body)

def bannedProposalWords : List String :=
  ["comprehensive", "leverage", "stakeholder", "framework", "roadmap", "strategy", "ecosystem", "robust", "holistic",
    "real-world", "best practice", "optimize", "optimise", "streamline", "synergy", "actionable", "utilize", "utilise"]

/-- `[\w-]` -/
def isVoiceChar (c : Char) : Bool := host.isWord c || c = '-'

/-- The pattern of a banned word, with nothing of a word on either side. -/
def bannedPattern (word : String) : Regex :=
  .seq (.look fun before _ => !before.head?.any (isVoiceChar host))
    (.seq (Regex.lit word) (.look fun _ after => !after.head?.any (isVoiceChar host)))

/-- Three of five of the words of four characters start with a capital. -/
def isTitleCase (value : String) : Bool :=
  let words := (value.toList.splitOnP fun c => !host.isAlnum c).filter fun word => 4 ≤ word.length
  words ≠ [] && 3 * words.length ≤ 5 * (words.filter fun word => word.head?.any host.isUpper).length

/-- `voice_violations` -/
def voiceViolations (value : String) : List String :=
  let lowered := normaliseForContainment host.toHost value
  if lowered = "" then []
  else
    let found := bannedProposalWords.filter fun word => (bannedPattern host word).found lowered.toList
    (found ++ if isTitleCase host value then ["title_case"] else []).insertionSort (· ≤ ·)

def harnessTextMarkers : List String :=
  ["[request interrupted by user", "this session is being continued from a previous conversation",
    "caveat: the messages below were generated by the user while running", "<system-reminder>", "api error:",
    "[tool_use_id"]

/-- `is_harness_text` -/
def isHarnessText (body : String) : Bool :=
  let lowered := normaliseForContainment host.toHost body
  lowered ≠ "" && harnessTextMarkers.any fun marker => occursIn marker lowered

/-- `dedupe_by_content_sha256` -/
def dedupeByContentSha256 (citations : List DreamCitation) : List DreamCitation :=
  dedupe (fun citation => TaskState.orElse citation.contentSha256 s!"event:{citation.eventId}") citations

/-! ### The pool -/

structure PoolMessage where
  n : Nat
  eventId : String
  receiptId : String
  contentSha256 : String
  originKind : String
  observedAt : Instant
  body : String

/-- A row of the statement: an event of the workspace with its newest receipt. -/
structure MessageRow where
  eventId : String
  /-- as `maybe_decrypt_payload` returns it, nothing where it raises -/
  payload : Option Payload
  receiptId : String
  contentSha256 : String
  originKind : String
  observedAt : Instant
  contentTruncated : Bool

/-- The settings of the pool. -/
structure PoolKnobs where
  minChars : Int
  maxChars : Int

/-- The loop of `select_candidate_messages`. -/
structure Selection where
  pool : List PoolMessage := []
  seen : List String := []
  drops : List (String × Nat) := []

/-- The text of a message, empty where there is none to read. -/
def MessageRow.body (row : MessageRow) : String :=
  (row.payload.map fun payload => strip (pyStr host.toHost ((payload.get "input_excerpt").or (.str "")))).getD ""

/-- Why a message is left out of the pool. -/
def dropReason (knobs : PoolKnobs) (seen : List String) (row : MessageRow) : Option String :=
  let body := row.body host
  if body = "" then some "undecryptable"
  else if isHarnessText host body then some "harness_text"
  else if row.contentTruncated then some "truncated_paste"
  else if body.length < knobs.minChars then some "too_short"
  else if strip row.contentSha256 ≠ "" ∧ strip row.contentSha256 ∈ seen then some "duplicate_message"
  else none

def Selection.turn (knobs : PoolKnobs) (selection : Selection) (row : MessageRow) : Selection :=
  match dropReason host knobs selection.seen row with
  | some reason => {selection with drops := upsert reason 1 (· + 1) selection.drops}
  | none =>
    { selection with
      seen := strip row.contentSha256 :: selection.seen
      pool := selection.pool ++ [{
        n := selection.pool.length + 1
        eventId := row.eventId
        receiptId := row.receiptId
        contentSha256 := strip row.contentSha256
        originKind := strip row.originKind
        observedAt := row.observedAt
        body := prefixOf (max 1 knobs.maxChars).toNat (row.body host) }] }

/-- `select_candidate_messages`, of the rows it reads. -/
def selectCandidateMessages (knobs : PoolKnobs) (rows : List MessageRow) : Selection :=
  rows.foldl (Selection.turn host knobs) {}

/-! ### Parsing a reply -/

/-- The settings of the emission. -/
structure EmissionKnobs where
  maxProposals : Int
  maxCitations : Int
  quoteMaxChars : Int
  minCitations : Int
  minQuoteOverlapTokens : Int
  minCitationRelevanceTokens : Int

structure DreamCandidate where
  title : String
  connectionText : String
  benefitText : String
  firstStep : String
  citations : List DreamCitation
  themeTokens : List String
  evidenceBasis : String

structure CandidateRefusal where
  reason : String
  detail : String := ""

/-- `extract_structured` of a gateway, of the text the model gives back. -/
def extractStructured (raw : String) : Payload :=
  match host.loads raw with
  | some (.obj fields) => fields
  | _ => [("raw", .str raw)]

/-- `_integer`, which raises of a float that is no number. -/
def integerOf (raw : Json) (default : Int) : Except PyError Int :=
  match raw with
  | .float x => x.int
  | _ => .ok (integer host.toHost raw default)

/-- The citation of a message. -/
def PoolMessage.cited (message : PoolMessage) (quote : String) : DreamCitation where
  eventId := message.eventId
  receiptId := message.receiptId
  contentSha256 := message.contentSha256
  originKind := message.originKind
  observedAt := message.observedAt
  quote := quote
  quoteSha256 := host.sha256Hex (normaliseForContainment host.toHost quote)

/-- `by_index.get(n)`: of two messages of one number the later. -/
def byIndex (pool : List PoolMessage) (n : Int) : Option PoolMessage := pool.reverse.find? fun message => message.n = n

/-- The loop over an item's citations; the number counts those that name nothing. -/
def resolveCitations (knobs : EmissionKnobs) (pool : List PoolMessage) :
    List DreamCitation → Nat → List Payload → Except PyError (List DreamCitation × Nat)
  | resolved, outOfRange, [] => .ok (resolved, outOfRange)
  | resolved, outOfRange, raw :: rest =>
    if knobs.maxCitations.toNat ≤ resolved.length then .ok (resolved, outOfRange)
    else do
      let n ← integerOf host (raw.get "n") (-1)
      match byIndex pool n with
      | none => resolveCitations knobs pool resolved (outOfRange + 1) rest
      | some message =>
        let quote := prefixOf knobs.quoteMaxChars.toNat (strip (text (raw.get "quote") ""))
        if quote = "" then resolveCitations knobs pool resolved (outOfRange + 1) rest
        else resolveCitations knobs pool (resolved ++ [message.cited host quote]) outOfRange rest

/-- One item of `dreams`. -/
def parseItem (knobs : EmissionKnobs) (pool : List PoolMessage) (item : Payload) :
    Except PyError (Option DreamCandidate × List CandidateRefusal) := do
  let title := strip (text (item.get "title") "")
  let connection := strip (text (item.get "connection") "")
  let benefit := strip (text (item.get "benefit") "")
  let firstStep := strip (text (item.get "first_step") "")
  if title = "" ∨ firstStep = "" ∨ connection = "" ∨ benefit = "" then
    return (none, [⟨"empty_required_field", prefixOf 120 title⟩])
  let rawCitations := mappings (item.get "citations")
  if rawCitations = [] then return (none, [⟨"no_citations", prefixOf 120 title⟩])
  let (resolved, outOfRange) ← resolveCitations host knobs pool [] 0 rawCitations
  let outside : List CandidateRefusal :=
    if outOfRange = 0 then [] else [⟨"citation_out_of_range", s!"{prefixOf 80 title} ({outOfRange})"⟩]
  if resolved = [] then return (none, outside ++ [⟨"no_citations", prefixOf 120 title⟩])
  let citations := dedupeByContentSha256 resolved
  return (some {
    title
    connectionText := connection
    benefitText := benefit
    firstStep
    citations
    themeTokens := themeTokensFor host.toHost title firstStep
    evidenceBasis := evidenceBasisFor citations }, outside)

/-- The loop over the items. -/
def parseItems (knobs : EmissionKnobs) (pool : List PoolMessage) :
    List DreamCandidate → List CandidateRefusal → List Payload → Except PyError (List DreamCandidate × List CandidateRefusal)
  | candidates, refusals, [] => .ok (candidates, refusals)
  | candidates, refusals, item :: rest =>
    if knobs.maxProposals.toNat ≤ candidates.length then .ok (candidates, refusals)
    else do
      let (candidate, refused) ← parseItem host knobs pool item
      parseItems knobs pool (candidates ++ candidate.toList) (refusals ++ refused) rest

/-- `parse_dream_payload` -/
def parseDreamPayload (knobs : EmissionKnobs) (pool : List PoolMessage) (payload : Payload) :
    Except PyError (List DreamCandidate × List CandidateRefusal) :=
  if payload = [] then .ok ([], [⟨"unparseable_payload", "reply was not a JSON object"⟩])
  else
    match payload.get "dreams" with
    | .arr items => parseItems host knobs pool [] [] (mappings (.arr items))
    | _ => .ok ([], [⟨"unparseable_payload", "no 'dreams' list in reply"⟩])

/-! ### Validating a candidate -/

/-- `bodies.get(event_id, "")`: of two messages of one event the later. -/
def bodyIn (pool : List PoolMessage) (eventId : String) : String :=
  ((pool.reverse.find? fun message => message.eventId = eventId).map (·.body)).getD ""

/-- `validate_candidate` -/
def validateCandidate (knobs : EmissionKnobs) (pool : List PoolMessage) (candidate : DreamCandidate) :
    Except CandidateRefusal DreamCandidate :=
  let citations := dedupeByContentSha256 candidate.citations
  let found := citations.filter fun citation =>
    quoteIsContained host citation.quote (bodyIn pool citation.eventId) knobs.quoteMaxChars
  let clean := found.filter fun citation => voiceViolations host citation.quote = []
  let kept := clean.filter fun citation =>
    knobs.minCitationRelevanceTokens.toNat ≤ contentTokenOverlap host candidate.title citation.quote
  let violations := voiceViolations host (candidate.title ++ " " ++ candidate.firstStep)
  if found.length < citations.length ∧ found = [] then .error ⟨"quote_not_found", prefixOf 120 candidate.title⟩
  else if kept.length < knobs.minCitations.toNat then
    .error ⟨"insufficient_citations", s!"{prefixOf 80 candidate.title} kept={kept.length} " ++
      s!"quote_not_found={citations.length - found.length} quote_voice_violation={found.length - clean.length} " ++
      s!"citation_not_relevant={clean.length - kept.length}"⟩
  else if contentTokenOverlap host candidate.title (" ".intercalate (kept.map (·.quote))) <
      knobs.minQuoteOverlapTokens.toNat then
    .error ⟨"no_quote_overlap", prefixOf 120 candidate.title⟩
  else if violations ≠ [] then .error ⟨"voice_violation", ", ".intercalate violations⟩
  else .ok {
    candidate with
    citations := kept
    themeTokens := themeTokensFor host.toHost candidate.title candidate.firstStep
    evidenceBasis := evidenceBasisFor kept }

/-- The candidates of a reply that pass. -/
def survivors (knobs : EmissionKnobs) (pool : List PoolMessage) (raw : String) : Except PyError (List DreamCandidate) := do
  let (candidates, _) ← parseDreamPayload host knobs pool (extractStructured host raw)
  return candidates.filterMap fun candidate => (validateCandidate host knobs pool candidate).toOption

/-! ### Grounded candidates -/

/-- The citation is of the message, and quotes it. -/
structure DreamCitation.Quotes (citation : DreamCitation) (message : PoolMessage) : Prop where
  cited : citation = message.cited host citation.quote
  contained : (normaliseForContainment host.toHost (strip citation.quote)).toList <:+:
    (normaliseForContainment host.toHost message.body).toList

/-- What is promised of a candidate that is emitted. -/
structure DreamCandidate.Grounded (knobs : EmissionKnobs) (pool : List PoolMessage) (candidate : DreamCandidate) :
    Prop where
  enough : knobs.minCitations ≤ candidate.citations.length
  quotes : ∀ citation ∈ candidate.citations, ∃ message ∈ pool, citation.Quotes host message
  distinct : (candidate.citations.map (·.contentSha256)).Nodup
  quietQuotes : ∀ citation ∈ candidate.citations, voiceViolations host citation.quote = []
  quietClaim : voiceViolations host (candidate.title ++ " " ++ candidate.firstStep) = []
  relevant : ∀ citation ∈ candidate.citations,
    knobs.minCitationRelevanceTokens ≤ contentTokenOverlap host candidate.title citation.quote
  overlap : knobs.minQuoteOverlapTokens ≤
    contentTokenOverlap host candidate.title (" ".intercalate (candidate.citations.map (·.quote)))

end

variable {host : VoiceHost} {knobs : EmissionKnobs} {pool : List PoolMessage}

/-! ### The pool has one message to an event and to a hash -/

structure PoolMessage.Distinct (pool : List PoolMessage) : Prop where
  events : (pool.map (·.eventId)).Nodup
  hashes : (pool.map (·.contentSha256)).Nodup
  hashed : ∀ message ∈ pool, message.contentSha256 ≠ ""

/-- What the loop keeps: its messages are of the rows so far, and every hash of them is noted. -/
structure Selection.Kept (rows : List MessageRow) (selection : Selection) : Prop where
  events : (selection.pool.map (·.eventId)).Sublist (rows.map (·.eventId))
  hashes : (selection.pool.map (·.contentSha256)).Nodup
  seen : ∀ message ∈ selection.pool, message.contentSha256 ∈ selection.seen
  hashed : ∀ message ∈ selection.pool, message.contentSha256 ≠ ""

theorem Selection.Kept.turn {poolKnobs : PoolKnobs} {rows : List MessageRow} {selection : Selection} {row : MessageRow}
    (h : selection.Kept rows) (hhash : strip row.contentSha256 ≠ "") :
    (selection.turn host poolKnobs row).Kept (rows ++ [row]) := by
  unfold Selection.turn
  cases hdrop : dropReason host poolKnobs selection.seen row with
  | some reason =>
    refine ⟨?_, h.hashes, h.seen, h.hashed⟩
    rw [List.map_append]
    exact h.events.trans (List.sublist_append_left _ _)
  | none =>
    have hfresh : strip row.contentSha256 ∉ selection.seen := by
      intro hseen
      unfold dropReason at hdrop
      dsimp only at hdrop
      split at hdrop
      · cases hdrop
      split at hdrop
      · cases hdrop
      split at hdrop
      · cases hdrop
      split at hdrop
      · cases hdrop
      rw [if_pos ⟨hhash, hseen⟩] at hdrop
      cases hdrop
    constructor
    · rw [List.map_append, List.map_append]
      exact h.events.append (List.Sublist.refl _)
    · rw [List.map_append]
      refine h.hashes.append (List.nodup_singleton _) ?_
      intro hash hold hnew
      obtain ⟨message, hmessage, rfl⟩ := List.mem_map.mp hold
      have hsame : message.contentSha256 = strip row.contentSha256 := List.mem_singleton.mp hnew
      exact hfresh (hsame ▸ h.seen message hmessage)
    · intro message hmessage
      rcases List.mem_append.mp hmessage with hold | hnew
      · exact List.mem_cons_of_mem _ (h.seen message hold)
      · rw [List.mem_singleton.mp hnew]
        exact List.mem_cons_self
    · intro message hmessage
      rcases List.mem_append.mp hmessage with hold | hnew
      · exact h.hashed message hold
      · rw [List.mem_singleton.mp hnew]
        exact hhash

/-- The pool as it is selected. -/
theorem distinct_pool (poolKnobs : PoolKnobs) {rows : List MessageRow} (hids : (rows.map (·.eventId)).Nodup)
    (hhashes : ∀ row ∈ rows, strip row.contentSha256 ≠ "") :
    PoolMessage.Distinct (selectCandidateMessages host poolKnobs rows).pool := by
  have hkept : (selectCandidateMessages host poolKnobs rows).Kept rows := by
    clear hids
    induction rows using List.reverseRecOn with
    | nil => exact ⟨List.Sublist.refl _, List.nodup_nil, by simp [selectCandidateMessages], by simp [selectCandidateMessages]⟩
    | append_singleton rows row ih =>
      rw [selectCandidateMessages, List.foldl_append]
      refine (ih fun row hrow => hhashes row (List.mem_append_left _ hrow)).turn ?_
      exact hhashes row (List.mem_append_right _ (List.mem_singleton_self row))
  exact ⟨hkept.events.nodup hids, hkept.hashes, hkept.hashed⟩

/-! ### What is parsed cites messages -/

/-- The citation is of a message of the pool. -/
def DreamCitation.IsOf (host : VoiceHost) (pool : List PoolMessage) (citation : DreamCitation) : Prop :=
  ∃ message ∈ pool, citation = message.cited host citation.quote

theorem mem_of_byIndex {n : Int} {message : PoolMessage} (h : byIndex pool n = some message) : message ∈ pool :=
  List.mem_reverse.mp (List.mem_of_find?_eq_some h)

theorem resolveCitations_isOf {raws : List Payload} {resolved : List DreamCitation} {outOfRange : Nat}
    {result : List DreamCitation × Nat} (hresolved : ∀ citation ∈ resolved, citation.IsOf host pool)
    (h : resolveCitations host knobs pool resolved outOfRange raws = .ok result) :
    ∀ citation ∈ result.1, citation.IsOf host pool := by
  induction raws generalizing resolved outOfRange with
  | nil =>
    cases h
    exact hresolved
  | cons raw rest ih =>
    unfold resolveCitations at h
    split at h
    · cases h
      exact hresolved
    · obtain ⟨n, -, h⟩ := bind_ok h
      cases hmessage : byIndex pool n with
      | none =>
        rw [hmessage] at h
        exact ih hresolved h
      | some message =>
        rw [hmessage] at h
        dsimp only at h
        split at h
        · exact ih hresolved h
        · refine ih (fun citation hcitation => ?_) h
          rcases List.mem_append.mp hcitation with hold | hnew
          · exact hresolved citation hold
          · rw [List.mem_singleton.mp hnew]
            exact ⟨message, mem_of_byIndex hmessage, rfl⟩

theorem parseItem_isOf {item : Payload} {candidate : DreamCandidate} {refused : List CandidateRefusal}
    (h : parseItem host knobs pool item = .ok (some candidate, refused)) :
    ∀ citation ∈ candidate.citations, citation.IsOf host pool := by
  unfold parseItem at h
  dsimp only at h
  split at h
  · cases h
  split at h
  · cases h
  obtain ⟨⟨resolved, outOfRange⟩, hresolve, h⟩ := bind_ok h
  dsimp only at h
  split at h
  · cases h
  cases h
  intro citation hcitation
  exact resolveCitations_isOf (fun _ hnone => absurd hnone List.not_mem_nil) hresolve citation
    ((dedupe_sublist _ _).subset hcitation)

theorem parseItems_isOf {items : List Payload} {candidates : List DreamCandidate} {refusals : List CandidateRefusal}
    {result : List DreamCandidate × List CandidateRefusal}
    (hcandidates : ∀ candidate ∈ candidates, ∀ citation ∈ candidate.citations, citation.IsOf host pool)
    (h : parseItems host knobs pool candidates refusals items = .ok result) :
    ∀ candidate ∈ result.1, ∀ citation ∈ candidate.citations, citation.IsOf host pool := by
  induction items generalizing candidates refusals with
  | nil =>
    cases h
    exact hcandidates
  | cons item rest ih =>
    unfold parseItems at h
    split at h
    · cases h
      exact hcandidates
    · obtain ⟨⟨parsed, refused⟩, hparse, h⟩ := bind_ok h
      refine ih (fun candidate hcandidate => ?_) h
      rcases List.mem_append.mp hcandidate with hold | hnew
      · exact hcandidates candidate hold
      · have hparsed : parsed = some candidate := Option.mem_toList.mp hnew
        exact parseItem_isOf (hparsed ▸ hparse)

/-- Every citation of a candidate that is parsed is of a message of the pool. -/
theorem parseDreamPayload_isOf {payload : Payload} {result : List DreamCandidate × List CandidateRefusal}
    (h : parseDreamPayload host knobs pool payload = .ok result) :
    ∀ candidate ∈ result.1, ∀ citation ∈ candidate.citations, citation.IsOf host pool := by
  unfold parseDreamPayload at h
  have hnone : ∀ candidate ∈ ([] : List DreamCandidate), ∀ citation ∈ candidate.citations, citation.IsOf host pool :=
    fun _ hmem => absurd hmem List.not_mem_nil
  split at h
  · cases h
    exact hnone
  · split at h
    · exact parseItems_isOf hnone h
    · cases h
      exact hnone

/-! ### What is kept is grounded -/

/-- A message is found by its event. -/
theorem bodyIn_eq (hpool : PoolMessage.Distinct pool) {message : PoolMessage} (hmessage : message ∈ pool) :
    bodyIn pool message.eventId = message.body := by
  have hfound : (pool.reverse.find? fun other => other.eventId = message.eventId) = some message := by
    cases hfind : pool.reverse.find? fun other => other.eventId = message.eventId with
    | none => exact absurd (List.find?_eq_none.mp hfind message (List.mem_reverse.mpr hmessage)) (by simp)
    | some other =>
      have hsame : other.eventId = message.eventId := by simpa using List.find?_some hfind
      exact congrArg some
        (List.inj_on_of_nodup_map hpool.events (List.mem_reverse.mp (List.mem_of_find?_eq_some hfind)) hmessage hsame)
  rw [bodyIn, hfound]
  rfl

theorem quoteIsContained_infix {quote body : String} {maxChars : Int} (h : quoteIsContained host quote body maxChars) :
    (normaliseForContainment host.toHost (strip quote)).toList <:+: (normaliseForContainment host.toHost body).toList := by
  unfold quoteIsContained at h
  exact Regex.found_lit_iff.mp (Bool.and_eq_true_iff.mp h).2

/-- Where every hash is given, no two citations that are kept have one of them. -/
theorem dedupeByContentSha256_distinct {citations : List DreamCitation}
    (h : ∀ citation ∈ citations, citation.contentSha256 ≠ "") :
    ((dedupeByContentSha256 citations).map (·.contentSha256)).Nodup := by
  have hkeys := dedupe_nodup (fun citation : DreamCitation =>
    TaskState.orElse citation.contentSha256 s!"event:{citation.eventId}") citations
  have hhashes : (dedupeByContentSha256 citations).map (fun citation =>
      TaskState.orElse citation.contentSha256 s!"event:{citation.eventId}") =
        (dedupeByContentSha256 citations).map (·.contentSha256) :=
    List.map_congr_left fun citation hcitation => if_neg (h citation ((dedupe_sublist _ _).subset hcitation))
  exact hhashes ▸ hkeys

/-- A candidate that is parsed and passes is grounded. -/
theorem grounded_of_valid (hpool : PoolMessage.Distinct pool) {candidate kept : DreamCandidate}
    (hcites : ∀ citation ∈ candidate.citations, citation.IsOf host pool)
    (h : validateCandidate host knobs pool candidate = .ok kept) : kept.Grounded host knobs pool := by
  unfold validateCandidate at h
  extract_lets citations found clean relevant violations at h
  have hfound : ∀ citation ∈ found, citation ∈ citations ∧
      quoteIsContained host citation.quote (bodyIn pool citation.eventId) knobs.quoteMaxChars :=
    fun citation hmem => List.mem_filter.mp hmem
  have hclean : ∀ citation ∈ clean, citation ∈ found ∧ voiceViolations host citation.quote = [] :=
    fun citation hmem => (List.mem_filter.mp hmem).imp_right of_decide_eq_true
  have hrelevant : ∀ citation ∈ relevant, citation ∈ clean ∧
      knobs.minCitationRelevanceTokens.toNat ≤ contentTokenOverlap host candidate.title citation.quote :=
    fun citation hmem => (List.mem_filter.mp hmem).imp_right of_decide_eq_true
  split at h
  · cases h
  split at h
  · cases h
  case isFalse henough =>
  split at h
  · cases h
  case isFalse hoverlap =>
  split at h
  · cases h
  case isFalse hviolations =>
  cases h
  have hquotes : ∀ citation ∈ relevant, ∃ message ∈ pool, citation.Quotes host message := by
    intro citation hmem
    obtain ⟨hkept, hcontained⟩ := hfound citation (hclean citation (hrelevant citation hmem).1).1
    obtain ⟨message, hmessage, hcited⟩ := hcites citation ((dedupe_sublist _ _).subset hkept)
    have hbody : bodyIn pool citation.eventId = message.body := by
      rw [hcited]
      exact bodyIn_eq hpool hmessage
    exact ⟨message, hmessage, hcited, hbody ▸ quoteIsContained_infix hcontained⟩
  have hhashes : ∀ citation ∈ candidate.citations, citation.contentSha256 ≠ "" := by
    intro citation hmem
    obtain ⟨message, hmessage, hcited⟩ := hcites citation hmem
    rw [hcited]
    exact hpool.hashed message hmessage
  have hsublist : relevant.Sublist citations :=
    List.filter_sublist.trans (List.filter_sublist.trans List.filter_sublist)
  constructor
  · exact Int.toNat_le.mp (not_lt.mp henough)
  · exact hquotes
  · exact (hsublist.map _).nodup (dedupeByContentSha256_distinct hhashes)
  · exact fun citation hmem => (hclean citation (hrelevant citation hmem).1).2
  · exact not_not.mp hviolations
  · exact fun citation hmem => Int.toNat_le.mp (hrelevant citation hmem).2
  · exact Int.toNat_le.mp (not_lt.mp hoverlap)

/-- Whatever the model replies, the candidates that pass are grounded in the pool they were asked about. -/
theorem survivors_grounded {poolKnobs : PoolKnobs} {rows : List MessageRow} (hids : (rows.map (·.eventId)).Nodup)
    (hhashes : ∀ row ∈ rows, strip row.contentSha256 ≠ "") {raw : String} {candidates : List DreamCandidate}
    (h : survivors host knobs (selectCandidateMessages host poolKnobs rows).pool raw = .ok candidates) :
    ∀ candidate ∈ candidates, candidate.Grounded host knobs (selectCandidateMessages host poolKnobs rows).pool := by
  obtain ⟨⟨parsed, refusals⟩, hparse, h⟩ := bind_ok h
  cases h
  intro candidate hmem
  obtain ⟨parsedCandidate, hparsed, hvalid⟩ := List.mem_filterMap.mp hmem
  exact grounded_of_valid (distinct_pool poolKnobs hids hhashes) (parseDreamPayload_isOf hparse parsedCandidate hparsed)
    (toOption_eq_some_iff.mp hvalid)

/-- A host of a model that always replies the same. -/
def replyingHost (reply : Json) : VoiceHost where
  toHost := {asciiHost [] [] with loads := fun _ => some reply}
  casefold text := String.ofList (text.toList.map Char.toLower)
  isAlnum := Char.isAlphanum
  isUpper := Char.isUpper

def gardenRow (eventId excerpt : String) : MessageRow where
  eventId := eventId
  payload := some [("input_excerpt", .str excerpt)]
  receiptId := "r-" ++ eventId
  contentSha256 := "sha-" ++ eventId
  originKind := "human_input"
  observedAt := 0
  contentTruncated := false

def gardenRows : List MessageRow :=
  [gardenRow "e1" "order garden timer", gardenRow "e2" "garden timer broke"]

/-- The second citation is of a number that is none of the messages'. -/
def gardenReply : Json :=
  .obj [("dreams", .arr [.obj [("title", .str "garden timer"), ("connection", .str "both"), ("benefit", .str "water"),
    ("first_step", .str "buy one"), ("citations", .arr [.obj [("n", .int 1), ("quote", .str "Order garden timer")],
      .obj [("n", .int 7), ("quote", .str "a timer")], .obj [("n", .int 2), ("quote", .str "garden timer broke")]])]])]

def gardenKnobs : EmissionKnobs := ⟨3, 6, 200, 2, 2, 1⟩

def gardenPool : List PoolMessage := (selectCandidateMessages (replyingHost gardenReply) ⟨10, 1200⟩ gardenRows).pool

theorem survivors_grounded_garden : ∃ candidates, survivors (replyingHost gardenReply) gardenKnobs gardenPool "" = .ok candidates ∧
    candidates.length = 1 ∧ ∀ candidate ∈ candidates, candidate.Grounded (replyingHost gardenReply) gardenKnobs gardenPool := by
  have hone : (survivors (replyingHost gardenReply) gardenKnobs gardenPool "").toOption.map List.length = some 1 := by
    decide +kernel
  obtain ⟨candidates, hcandidates, hlength⟩ := Option.map_eq_some_iff.mp hone
  have hok := toOption_eq_some_iff.mp hcandidates
  exact ⟨candidates, hok, hlength, survivors_grounded (by decide +kernel) (by decide +kernel) hok⟩

end OpenTimeline.Dream
