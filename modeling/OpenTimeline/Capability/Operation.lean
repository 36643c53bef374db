import OpenTimeline.Json
import OpenTimeline.Redaction
import OpenTimeline.Words

/-! Capabilities and the operations that ask for them.

The registry is closed: what it does not name is mutating and blocked. An operation is
brought to a normal form, and a digest of that form stands for it. -/
namespace OpenTimeline.Capability

variable (host : Host)

/-! ### The registry -/

inductive RiskTier
  | low | medium | high | critical
deriving DecidableEq, Repr

/-- `CAPABILITY_REGISTRY`: what is mutating, and its risk. -/
def capabilityRegistry : List (String × Bool × RiskTier) :=
  [("filesystem.read", false, .low),
    ("filesystem.write", true, .medium),
    ("git.read", false, .low),
    ("git.write", true, .high),
    ("network.read", false, .medium),
    ("network.write", true, .high),
    ("process.inspect", false, .low),
    ("process.execute", true, .high),
    ("tce.memory.review", true, .medium)]

inductive Decision
  | allow | blocked
deriving DecidableEq, Repr

structure Policy where
  known : Bool
  mutating : Bool
  riskTier : RiskTier
  decision : Decision
  reason : String
deriving DecidableEq, Repr

/-- `capability_policy` -/
def capabilityPolicy (capability : String) : Policy :=
  match capabilityRegistry.lookup capability with
  | none => ⟨false, true, .critical, .blocked, "unknown capability"⟩
  | some (mutating, riskTier) => ⟨true, mutating, riskTier, .allow, "registered capability"⟩

theorem capabilityPolicy_allow {capability : String} (h : (capabilityPolicy capability).decision = .allow) :
    (capabilityPolicy capability).known := by
  unfold capabilityPolicy at h ⊢
  split at h
  · cases h
  · rfl

/-! ### Operations -/

structure Operation where
  capability : String
  action : String
  resource : String
  arguments : Payload
deriving Repr

/-- What `normalize_capability_operation` returns. -/
structure NormalizedOperation where
  capability : String
  action : String
  resource : String
  actionDigest : String
  redactionApplied : Bool
deriving DecidableEq, Repr

/-- What `_ACTION_TOKEN_RE` leaves: a small letter, a digit or one of `_ . : / -`. -/
def isActionToken (c : Char) : Bool := c ∈ "abcdefghijklmnopqrstuvwxyz0123456789_.:/-".toList

/-- `_ACTION_TOKEN_RE.sub("_", …)`, behind a run already replaced or not. -/
def replaceRuns : Bool → List Char → List Char
  | _, [] => []
  | replaced, c :: rest =>
    if isActionToken c then c :: replaceRuns false rest
    else if replaced then replaceRuns true rest
    else '_' :: replaceRuns true rest

/-- `_clip` -/
def clip (value : String) (limit : Nat) : String := strip (String.ofList ((collapse value).toList.take limit))

/-- `redact_control_text` -/
def redactControlText (value : String) (limit : Nat) : String × Bool :=
  let (redacted, applied) := redactText (clip value limit) []
  (strip redacted, !applied.isEmpty)

def normalizeCapability (capability : String) : String :=
  String.ofList (((host.lower (strip capability)).toList.filter isActionToken).take 80)

def normalizeAction (action : String) : String :=
  String.ofList ((stripChars (· = '_') (replaceRuns false (host.lower (strip action)).toList)).take 80)

def normalizeResource (resource : String) : String := (redactControlText resource 500).1

/-- The text an operation is digested as. -/
def digestPayload (capability action resource : String) (arguments : Payload) : String :=
  jsonDumps (.obj [("capability", .str capability), ("action", .str action), ("resource", .str resource),
    ("arguments", .obj arguments)])

/-- `normalize_capability_operation` -/
def normalizeCapabilityOperation (op : Operation) : NormalizedOperation where
  capability := normalizeCapability host op.capability
  action := normalizeAction host op.action
  resource := normalizeResource op.resource
  actionDigest := host.sha256Hex (digestPayload (normalizeCapability host op.capability)
    (normalizeAction host op.action) (normalizeResource op.resource) op.arguments)
  redactionApplied := (redactControlText op.resource 500).2

/-- `hash_capability_token` -/
def hashCapabilityToken (token : String) : String := host.sha256Hex token

/-- `constant_time_token_match` -/
def constantTimeTokenMatch (token expectedHash : String) : Bool := hashCapabilityToken host token = expectedHash

example : (normalizeCapabilityOperation (asciiHost [] []) ⟨" Git.Write", "Push  Branch!", " a  b ", []⟩).action =
    "push_branch" := by decide +kernel

end OpenTimeline.Capability
