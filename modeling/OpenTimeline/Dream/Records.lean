import OpenTimeline.TaskState.Records

/-! The vocabulary of aspiration proposals: statuses, event kinds, the closed transition
table, and the records with their decoders.

The coercions of the source's module are those of the task state, letter for letter, and
are taken from there. A kind this build does not know is kept by name. -/
namespace OpenTimeline.Dream
open TaskState (text optText integer flag mappings dtFromJson orElse)

/-! ### Vocabulary -/

inductive DreamProposalStatus
  | proposed | surfaced | accepted | rejected | snoozed | pursued | completed | abandoned | withdrawn
  | expired
deriving DecidableEq, Repr

def DreamProposalStatus.value : DreamProposalStatus → String
  | .proposed => "proposed"
  | .surfaced => "surfaced"
  | .accepted => "accepted"
  | .rejected => "rejected"
  | .snoozed => "snoozed"
  | .pursued => "pursued"
  | .completed => "completed"
  | .abandoned => "abandoned"
  | .withdrawn => "withdrawn"
  | .expired => "expired"

inductive DreamProposalEventKind
  | proposed | surfaced | accepted | rejected | snoozed | unsnoozed | objectiveBound | pursuitStarted
  | pursuitAbandoned | completed | withdrawn | expired | superseded | evidenceRevalidated
deriving DecidableEq, Repr

def DreamProposalEventKind.value : DreamProposalEventKind → String
  | .proposed => "proposed"
  | .surfaced => "surfaced"
  | .accepted => "accepted"
  | .rejected => "rejected"
  | .snoozed => "snoozed"
  | .unsnoozed => "unsnoozed"
  | .objectiveBound => "objective_bound"
  | .pursuitStarted => "pursuit_started"
  | .pursuitAbandoned => "pursuit_abandoned"
  | .completed => "completed"
  | .withdrawn => "withdrawn"
  | .expired => "expired"
  | .superseded => "superseded"
  | .evidenceRevalidated => "evidence_revalidated"

/-- The kinds there are, in the order of their strings. -/
def dreamKinds : List DreamProposalEventKind :=
  [.accepted, .completed, .evidenceRevalidated, .expired, .objectiveBound, .proposed,
    .pursuitAbandoned, .pursuitStarted, .rejected, .snoozed, .superseded, .surfaced, .unsnoozed, .withdrawn]

/-- `_KNOWN_DREAM_KINDS` -/
def knownDreamKinds : List String := dreamKinds.map DreamProposalEventKind.value

/-- The kind of a stored row: `DreamProposalEventKind | str`. -/
inductive DreamKind
  | known (kind : DreamProposalEventKind)
  | unknown (name : {s : String // s ∉ knownDreamKinds})
deriving DecidableEq, Repr

def DreamKind.str : DreamKind → String
  | .known kind => kind.value
  | .unknown name => name.val

/-- Kinds are told apart by their strings, as the source compares them. -/
theorem DreamKind.str_injective : Function.Injective DreamKind.str := by
  intro a b h
  have hknown : ∀ k : DreamProposalEventKind, k.value ∈ knownDreamKinds := by
    intro k
    cases k <;> decide
  cases a with
  | known a =>
    cases b with
    | known b =>
      revert h
      cases a <;> cases b <;> decide
    | unknown b => exact absurd ((show a.value = b.val from h) ▸ hknown a) b.property
  | unknown a =>
    cases b with
    | known b => exact absurd ((show a.val = b.value from h) ▸ hknown b) a.property
    | unknown b => exact congrArg _ (Subtype.ext h)

/-- `PINNED_DREAM_KIND_VALUES`: every kind is pinned. -/
def pinnedDreamKinds : List DreamKind := dreamKinds.map .known

example : (pinnedDreamKinds.map DreamKind.str).Pairwise (· < ·) := by decide

theorem mem_pinnedDreamKinds (kind : DreamProposalEventKind) : .known kind ∈ pinnedDreamKinds := by
  cases kind <;> decide

inductive NonresponseState
  | neverSurfaced | awaitingResponse | ignored
deriving DecidableEq, Repr

def maxDreamEventsPerFold : Int := 500
def evidenceBasisTrusted : String := "trusted_current"
def scopeKindProject : String := "project"

/-! ### Transitions -/

/-- `_TRANSITIONS` -/
def transitions : DreamProposalStatus → List DreamProposalEventKind
  | .proposed => [.surfaced, .accepted, .rejected, .snoozed, .withdrawn, .expired, .superseded]
  | .surfaced => [.surfaced, .accepted, .rejected, .snoozed, .withdrawn, .expired, .superseded]
  | .snoozed => [.unsnoozed, .accepted, .rejected, .withdrawn, .expired]
  | .accepted => [.objectiveBound, .pursuitStarted, .pursuitAbandoned, .rejected, .withdrawn]
  | .pursued => [.completed, .pursuitAbandoned, .withdrawn]
  | .completed => []
  | .abandoned => [.accepted]
  | .rejected => []
  | .withdrawn => []
  | .expired => []

/-- `transition_allowed`: whether, and why not. -/
def transitionAllowed (current : DreamProposalStatus) (kind : DreamProposalEventKind) : Bool × String :=
  if kind = .evidenceRevalidated then (true, "")
  else if kind = .proposed then (false, "a proposal is minted, not transitioned into 'proposed'")
  else if kind ∈ transitions current then (true, "")
  else (false, "cannot apply '" ++ kind.value ++ "' to a proposal that is '" ++ current.value ++ "'")

/-! ### Nonresponse -/

/-- `nonresponse_state`. It takes the times for its signature only. -/
def nonresponseState (surfacedCount afterSurfaces : Int) : NonresponseState :=
  let count := max 0 surfacedCount
  if count = 0 then .neverSurfaced
  else if count < max 1 afterSurfaces then .awaitingResponse
  else .ignored

/-- `resurface_interval_hours` -/
def resurfaceIntervalHours (state : NonresponseState) (minHours ignoredHours : Int) : Int :=
  match state with
  | .neverSurfaced => 0
  | .ignored => max 0 ignoredHours
  | .awaitingResponse => max 0 minHours

/-! ### Text devices -/

section
variable (host : Host)

/-- `DREAM_STOPWORDS` -/
def dreamStopwords : List String :=
  ["and", "are", "but", "can", "could", "did", "does", "for", "from", "get", "had",
    "has", "have", "how", "into", "its", "just", "like", "make", "more", "not", "now",
    "one", "out", "over", "should", "some", "than", "that", "the", "their", "them",
    "then", "there", "these", "they", "this", "those", "was", "were", "what", "when",
    "where", "which", "while", "will", "with", "would", "you", "your"]

/-- A character of `[a-z0-9]`. -/
def isTokenChar (c : Char) : Bool := ('a' ≤ c && c ≤ 'z') || ('0' ≤ c && c ≤ '9')

/-- `content_tokens` -/
def contentTokens (value : String) : List String :=
  let found := ((host.lower value).toList.splitOnP fun c => !isTokenChar c).map String.ofList
  (found.filter fun token => 2 < token.length && token ∉ dreamStopwords).reverse.dedup.reverse

/-- `theme_tokens_for` -/
def themeTokensFor (title firstStep : String) : List String :=
  contentTokens host (" ".intercalate ([title, firstStep].filter (· ≠ "")))

/-- `_WHITESPACE_RE.sub(" ", text)`, in or out of a run of blanks. -/
def collapseSpaces : Bool → List Char → List Char
  | _, [] => []
  | blank, c :: rest =>
    if isSpace c then if blank then collapseSpaces true rest else ' ' :: collapseSpaces true rest
    else c :: collapseSpaces false rest

/-- `normalise_for_containment` -/
def normaliseForContainment (value : String) : String :=
  strip (String.ofList (collapseSpaces false (host.lower value).toList))

/-! ### Records -/

def admissibleOriginKinds : List String := ["human_input", "imported_transcript"]

structure DreamCitation where
  eventId : String
  receiptId : String
  contentSha256 : String
  originKind : String
  observedAt : Instant
  quote : String
  quoteSha256 : String
deriving DecidableEq, Repr

/-- One item of `citations_from_json`. -/
def citationFromJson (item : Payload) : Option DreamCitation :=
  let eventId := text (item.get "event_id") ""
  if eventId = "" then none
  else
    let quote := text (item.get "quote") ""
    let originKind := text (item.get "origin_kind") ""
    some {
      eventId
      receiptId := text (item.get "receipt_id") ""
      contentSha256 := text (item.get "content_sha256") ""
      originKind := if originKind ∈ admissibleOriginKinds then originKind else "human_input"
      observedAt := (dtFromJson host (item.get "observed_at")).getD epoch
      quote
      quoteSha256 := orElse (text (item.get "quote_sha256") "")
        (host.sha256Hex (normaliseForContainment host quote)) }

/-- `citations_from_json` -/
def citationsFromJson (raw : Json) : List DreamCitation := (mappings raw).filterMap (citationFromJson host)

/-- A row of `dream_proposal_events`. -/
structure DreamProposalEvent where
  seq : Int
  kind : DreamKind
  payload : Payload
  occurredAt : Instant
  actor : String := ""
  actorClass : String := "system"

/-- `surfaced_event`, the only constructor of a `surfaced` event. -/
def surfacedEvent (isoformat : Instant → String) (ordinal : Int) (firstSurfacedAt occurredAt : Instant)
    (actor actorClass : String) (priorAttested : Bool) : DreamProposalEvent where
  seq := 0
  kind := .known .surfaced
  payload := [("ordinal", .int (max 1 ordinal)), ("first_surfaced_at", .str (isoformat firstSurfacedAt)),
    ("attested_ever", .bool (priorAttested || actorClass = "human"))]
  occurredAt := occurredAt
  actor := actor
  actorClass := actorClass

end
end OpenTimeline.Dream
