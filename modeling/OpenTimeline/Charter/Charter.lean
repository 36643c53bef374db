import OpenTimeline.Charter.Paths

/-! The authority charter and what it permits.

`ResolvedCharter` is a charter with its narrowings applied; `charterScopeNarrowing`
is its clause of the execution permit. A charter permits by lists to be in (roots,
capabilities, runtimes) and refuses by a list to be out of (protected prefixes). -/
namespace OpenTimeline.Charter

variable (host : Host)

/-! ### Vocabulary -/

inductive EnforcementTier
  | osSandbox | container | advisory
deriving DecidableEq, Repr

def EnforcementTier.value : EnforcementTier → String
  | .osSandbox => "os_sandbox"
  | .container => "container"
  | .advisory => "advisory"

/-- `TIER_STRENGTH`: lower is stronger. -/
def tierStrength : List (String × Nat) := [("os_sandbox", 0), ("container", 1), ("advisory", 2)]

def EnforcementTier.strength : EnforcementTier → Nat
  | .osSandbox => 0
  | .container => 1
  | .advisory => 2

inductive EgressMode
  | denyAll | httpsOnly
deriving DecidableEq, Repr

def EgressMode.value : EgressMode → String
  | .denyAll => "deny_all"
  | .httpsOnly => "https_only"

inductive SpendEnforcement
  | enforced | estimated | unsupported
deriving DecidableEq, Repr

/-- `_tier_literal` -/
def tierLiteral (value : Json) : EnforcementTier :=
  let raw := strip (pyStr host (value.or (.str "advisory")))
  if raw = "os_sandbox" then .osSandbox
  else if raw = "container" then .container
  else .advisory

/-- `_egress_literal` -/
def egressLiteral (value : Json) : EgressMode :=
  if strip (pyStr host (value.or (.str "deny_all"))) = "https_only" then .httpsOnly else .denyAll

/-- `_spend_enforcement_literal` -/
def spendEnforcementLiteral (value : Json) : SpendEnforcement :=
  let raw := strip (pyStr host (value.or (.str "unsupported")))
  if raw = "enforced" then .enforced
  else if raw = "estimated" then .estimated
  else .unsupported

/-- `CAPABILITY_FOR_ACTION_KIND` -/
def capabilityForActionKindTable : List (String × String) :=
  [("takeover_step", "process.execute"), ("execute", "process.execute"), ("edit", "filesystem.write"),
    ("write", "filesystem.write"), ("delete", "filesystem.write"), ("commit", "git.write"),
    ("read", "filesystem.read"), ("review", "filesystem.read")]

def mutatingActionKinds : List String := ["takeover_step", "execute", "edit", "write", "delete", "commit"]

def legacySensitiveTokens : List String := ["services/tce_mcp", "infra/", "secrets", ".env"]

/-! ### The charter -/

structure CharterCaps where
  maxAttempts : Int
  maxConcurrentDispatches : Int
  maxWallSeconds : Int
  budgetMinorUnits : Int
  budgetCurrency : String
  spendEnforcement : SpendEnforcement
deriving DecidableEq, Repr

structure ResolvedCharter where
  charterId : String
  workspaceId : String
  ownerId : String
  projectId : Option String
  charterVersion : String
  policyRevision : String
  status : String
  enforcementTier : EnforcementTier
  permittedRoots : List String
  protectedWritePrefixes : List String
  deniedReadPaths : List String
  permittedCapabilities : Finset String
  confirmRequiredCapabilities : Finset String
  egressMode : EgressMode
  /-- `(runtime_id, runtime_version, surface)` -/
  runtimeAllowlist : List (String × String × String)
  caps : CharterCaps
  approvedBy : String
  approvedAt : Datetime
  expiresAt : Datetime
  revokedAt : Option Datetime
  narrowingIds : List String
  charterDigest : String
  schemaVersion : String
  credentialRiskAcknowledged : Bool
deriving DecidableEq

/-- Some prefix has the path under it. -/
def protects (prefixes : List String) (path : String) : Bool := prefixes.any fun pre => under path pre

namespace ResolvedCharter

def isActive (charter : ResolvedCharter) (now : Datetime) : Except PyError Bool :=
  if charter.status ≠ "active" then .ok false
  else if charter.revokedAt.isSome then .ok false
  else now.lt charter.expiresAt

def allowsCapability (charter : ResolvedCharter) (capability : String) : Bool :=
  capability ∈ charter.permittedCapabilities

def allowsPath (charter : ResolvedCharter) (path : String) : Bool :=
  charter.permittedRoots.any fun root => under path root

def isProtectedWrite (charter : ResolvedCharter) (path : String) : Bool :=
  protects charter.protectedWritePrefixes path

def allowsRuntime (charter : ResolvedCharter) (runtimeId runtimeVersion surface : String) : Bool :=
  (runtimeId, runtimeVersion, surface) ∈ charter.runtimeAllowlist

end ResolvedCharter

/-! ### What it permits -/

def capabilityForActionKind (actionKind : String) : String :=
  (capabilityForActionKindTable.lookup (host.lower (strip actionKind))).getD "process.execute"

def isMutatingActionKind (actionKind : String) : Bool :=
  host.lower (strip actionKind) ∈ mutatingActionKinds

/-- `token in text` -/
def contains (text token : String) : Bool := text.toList.tails.any (token.toList.isPrefixOf ·)

/-- Without a charter the legacy tokens decide. -/
def charterSensitivePathHit (charter : Option ResolvedCharter) (targetPaths : List String) : Bool :=
  match charter with
  | none => targetPaths.any fun path => legacySensitiveTokens.any (contains (host.lower path))
  | some charter => targetPaths.any fun path => charter.isProtectedWrite path || !charter.allowsPath path

/-- The first target a mutating action is refused for. -/
def scopeRefusal (charter : ResolvedCharter) : List String → Bool × String
  | [] => (false, "")
  | path :: rest =>
    if charter.isProtectedWrite path then
      (true, "charter: " ++ path ++ " is under a protected write prefix")
    else if !charter.allowsPath path then
      (true, "charter: " ++ path ++ " is outside every permitted root")
    else scopeRefusal charter rest

/-- Whether the charter blocks an action, and why. -/
def charterScopeNarrowing (charter : Option ResolvedCharter) (actionKind : String)
    (targetPaths : List String) : Bool × String :=
  match charter with
  | none => (false, "")
  | some charter =>
    let capability := capabilityForActionKind host actionKind
    if !charter.allowsCapability capability then
      (true, "charter: capability " ++ capability ++ " is not permitted")
    else if !isMutatingActionKind host actionKind then (false, "")
    else scopeRefusal charter targetPaths

/-- A mutating action passes when every target is in a root and out of every protected prefix. -/
theorem scopeRefusal_passes {charter : ResolvedCharter} {targetPaths : List String} :
    (scopeRefusal charter targetPaths).1 = false ↔
      ∀ path ∈ targetPaths, charter.isProtectedWrite path = false ∧ charter.allowsPath path = true := by
  induction targetPaths with
  | nil => simp [scopeRefusal]
  | cons path rest ih =>
    rw [scopeRefusal, List.forall_mem_cons, ← ih]
    cases charter.isProtectedWrite path <;> cases charter.allowsPath path <;> simp

theorem charterScopeNarrowing_passes {charter : ResolvedCharter} {actionKind : String}
    {targetPaths : List String} :
    (charterScopeNarrowing host (some charter) actionKind targetPaths).1 = false ↔
      charter.allowsCapability (capabilityForActionKind host actionKind) = true ∧
        (isMutatingActionKind host actionKind = true → ∀ path ∈ targetPaths,
          charter.isProtectedWrite path = false ∧ charter.allowsPath path = true) := by
  rw [charterScopeNarrowing, ← scopeRefusal_passes]
  cases charter.allowsCapability (capabilityForActionKind host actionKind) <;>
    cases isMutatingActionKind host actionKind <;> simp

end OpenTimeline.Charter
