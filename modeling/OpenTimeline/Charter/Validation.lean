import OpenTimeline.Words
import OpenTimeline.Charter.Narrowing

/-! The check a charter payload passes before it is stored.

`validateCharterPayload` refuses with the field it refuses for, or returns the
payload normalised: permitted roots through `normRel`, protected prefixes only
trimmed. What the later readers of the prefixes may rely on is `Kept`
(`kept_of_validate`). -/
namespace OpenTimeline.Charter

variable (host : Host)

inductive CharterError
  /-- `CharterInvalid` -/
  | invalid (field message : String)
  | raised (error : PyError)
deriving DecidableEq, Repr

/-- `CAPABILITY_REGISTRY`: whether a capability mutates. -/
def capabilityRegistry : List (String × Bool) :=
  [("filesystem.read", false), ("filesystem.write", true), ("git.read", false), ("git.write", true),
    ("network.read", false), ("network.write", true), ("process.inspect", false),
    ("process.execute", true), ("tce.memory.review", true)]

def defaultDeniedReadPaths : List String := ["~/.ssh", "~/Library/Keychains", "~/.aws", "~/.claude", "~/.codex"]

def SpendEnforcement.value : SpendEnforcement → String
  | .enforced => "enforced"
  | .estimated => "estimated"
  | .unsupported => "unsupported"

def surfaces : List String := ["codex/app-server", "codex/exec", "claude/stream", "claude/oneshot"]

/-- `_SPEND_ENFORCEMENT_BY_SURFACE` -/
def spendEnforcementBySurface : List (String × SpendEnforcement) :=
  [("claude/stream", .estimated), ("claude/oneshot", .estimated), ("codex/app-server", .unsupported),
    ("codex/exec", .unsupported)]

def spendEnforcementFor (surface : String) : SpendEnforcement :=
  (spendEnforcementBySurface.lookup surface).getD .unsupported

/-- A `CharterInvalid` where the condition fails. -/
def require (condition : Bool) (field message : String) : Except CharterError Unit :=
  if condition then .ok () else .error (.invalid field message)

/-- The first item that fails is the one refused for. -/
def requireAll {α : Type} (condition : α → Bool) (field message : α → String) :
    List α → Except CharterError Unit
  | [] => .ok ()
  | item :: rest => do
    require (condition item) (field item) (message item)
    requireAll condition field message rest

/-- The language's own exceptions pass through. -/
def raising {α : Type} : Except PyError α → Except CharterError α
  | .ok a => .ok a
  | .error e => .error (.raised e)

/-! ### The parts -/

def checkKeys (payload : Payload) : Except CharterError Unit :=
  requireAll (fun field => !contains (host.lower field.1) "domain") Prod.fst
    (fun _ => "domain-level network policy is unsupported; no charter field may name it") payload

/-- What a path of a charter must be. -/
def acceptablePath (value : String) : Bool :=
  let raw := strip value
  raw ≠ "" && !startsWith raw "/" && !startsWith raw "~" && '\\' ∉ raw.toList && ".." ∉ splitSlash raw

def checkPaths (field : String) (values : List String) : Except CharterError Unit :=
  requireAll acceptablePath (fun _ => field) (fun value => host.repr (.str (strip value)) ++
    " must be a relative POSIX path with no '..' and no leading '/'") values

def checkCapabilities (field : String) (capabilities : List String) : Except CharterError Unit :=
  requireAll (fun capability => (capabilityRegistry.lookup capability).isSome) (fun _ => field)
    (fun capability => "unknown capability " ++ host.repr (.str capability)) capabilities

/-- `dict(value or {})`. A list of pairs, which no caller sends, is refused as well. -/
def capsPayload (value : Json) : Except PyError Payload :=
  match value.or (.obj []) with
  | .obj fields => .ok fields
  | .str _ => .error .valueError
  | _ => .error .typeError

def validateCaps (value : Json) : Except CharterError CharterCaps := do
  let caps ← raising (capsPayload value)
  let spend := strip (pyStr host ((caps.get "spend_enforcement").or (.str "unsupported")))
  let number := fun key default => raising (pyInt host ((caps.lookup key).getD (.int default)))
  require (spend ∈ ["enforced", "estimated", "unsupported"]) "caps"
    "caps.spend_enforcement must be one of ('enforced', 'estimated', 'unsupported')"
  require (spend ≠ "enforced" || .enforced ∈ surfaces.map spendEnforcementFor) "caps"
    ("caps.spend_enforcement='enforced' is not available on this host: no runtime surface in " ++
      "tce_shared.budget enforces a spend ceiling, so the label would be a claim with nothing " ++
      "behind it and would suppress the governance limitation line. Use 'estimated' or 'unsupported'.")
  let maxAttempts ← number "max_attempts" 3
  let maxConcurrentDispatches ← number "max_concurrent_dispatches" 1
  let maxWallSeconds ← number "max_wall_seconds" 1800
  let budgetMinorUnits ← number "budget_minor_units" 0
  requireAll (fun cap => 1 ≤ cap.2) (fun _ => "caps") (fun cap => "caps." ++ cap.1 ++ " must be >= 1")
    [("max_attempts", maxAttempts), ("max_concurrent_dispatches", maxConcurrentDispatches),
      ("max_wall_seconds", maxWallSeconds)]
  require (0 ≤ budgetMinorUnits) "caps" "caps.budget_minor_units must be >= 0"
  .ok {
    maxAttempts, maxConcurrentDispatches, maxWallSeconds, budgetMinorUnits
    budgetCurrency := pyStr host ((caps.get "budget_currency").or (.str "USD"))
    spendEnforcement := spendEnforcementLiteral host (.str spend) }

def validateRuntime (entry : Json) : Except CharterError (String × String × String) := do
  let triple ← raising (iterate entry)
  match triple.map (pyStr host) with
  | [runtimeId, runtimeVersion, surface] => .ok (runtimeId, runtimeVersion, surface)
  | _ => .error (.invalid "runtime_allowlist"
      "each runtime_allowlist entry is [runtime_id, runtime_version, surface]")

def validateRuntimes (value : Json) : Except CharterError (List (String × String × String)) := do
  let entries ← raising (iterate (value.or (.arr [])))
  entries.mapM (validateRuntime host)

/-- The roots and the protected prefixes of a payload. -/
def validatePaths (payload : Payload) : Except CharterError (List String × List String) := do
  let roots ← raising (strTuple host (payload.get "permitted_roots"))
  require (!roots.isEmpty) "permitted_roots" "permitted_roots must not be empty"
  let prefixes ← raising (strTuple host (payload.get "protected_write_prefixes"))
  require (!prefixes.isEmpty) "protected_write_prefixes" "protected_write_prefixes must not be empty"
  checkPaths host "permitted_roots" roots
  checkPaths host "protected_write_prefixes" prefixes
  .ok (roots, prefixes)

/-- What a charter lets its executor be: tier, egress and capabilities. -/
structure Authority where
  enforcementTier : String
  egressMode : String
  capabilities : List String
  confirmCapabilities : List String
  acknowledged : Bool

def validateAuthority (payload : Payload) : Except CharterError Authority := do
  let tier := strip (pyStr host ((payload.get "enforcement_tier").or (.str "")))
  require (tier ∈ ["os_sandbox", "container", "advisory"]) "enforcement_tier"
    "enforcement_tier must be one of ('os_sandbox', 'container', 'advisory')"
  let egress := strip (pyStr host ((payload.get "egress_mode").or (.str "deny_all")))
  require (egress ∈ ["deny_all", "https_only"]) "egress_mode"
    "egress_mode must be one of ('deny_all', 'https_only')"
  let capabilities ← raising (strTuple host (payload.get "permitted_capabilities"))
  checkCapabilities host "permitted_capabilities" capabilities
  let confirmCapabilities ← raising (strTuple host (payload.get "confirm_required_capabilities"))
  checkCapabilities host "confirm_required_capabilities" confirmCapabilities
  let mutating := capabilities.any fun capability => capabilityRegistry.lookup capability = some true
  let acknowledged := truthy (payload.get "credential_risk_acknowledged")
  require (!(tier = "advisory" && mutating)) "permitted_capabilities"
    "enforcement_tier='advisory' applies no OS boundary and may not carry a mutating capability"
  require (!(tier = "os_sandbox" && mutating && !acknowledged)) "credential_risk_acknowledged"
    ("a mutating os_sandbox charter must acknowledge that the runtime credential is exfiltrable " ++
      "on this host; see docs/charter.md")
  .ok ⟨tier, egress, capabilities, confirmCapabilities, acknowledged⟩

/-! ### The payload -/

structure NormalizedCharter where
  projectId : Option String
  charterVersion : String
  policyRevision : String
  enforcementTier : String
  egressMode : String
  credentialRiskAcknowledged : Bool
  permittedRoots : List String
  protectedWritePrefixes : List String
  deniedReadPaths : List String
  permittedCapabilities : List String
  confirmRequiredCapabilities : List String
  runtimeAllowlist : List (String × String × String)
  taskFamilies : List String
  caps : CharterCaps

/-- The normalised payload as its digest reads it. -/
def NormalizedCharter.toJson (charter : NormalizedCharter) : Json :=
  let strings := fun items : List String => Json.arr (items.map .str)
  let caps := charter.caps
  .obj [("project_id", charter.projectId.elim .null .str), ("charter_version", .str charter.charterVersion),
    ("policy_revision", .str charter.policyRevision), ("enforcement_tier", .str charter.enforcementTier),
    ("egress_mode", .str charter.egressMode),
    ("credential_risk_acknowledged", .bool charter.credentialRiskAcknowledged),
    ("permitted_roots", strings charter.permittedRoots),
    ("protected_write_prefixes", strings charter.protectedWritePrefixes),
    ("denied_read_paths", strings charter.deniedReadPaths),
    ("permitted_capabilities", strings charter.permittedCapabilities),
    ("confirm_required_capabilities", strings charter.confirmRequiredCapabilities),
    ("runtime_allowlist", .arr (charter.runtimeAllowlist.map fun entry =>
      strings [entry.1, entry.2.1, entry.2.2])),
    ("task_families", strings charter.taskFamilies),
    ("caps", .obj [("max_attempts", .int caps.maxAttempts),
      ("max_concurrent_dispatches", .int caps.maxConcurrentDispatches),
      ("max_wall_seconds", .int caps.maxWallSeconds), ("budget_minor_units", .int caps.budgetMinorUnits),
      ("budget_currency", .str caps.budgetCurrency),
      ("spend_enforcement", .str caps.spendEnforcement.value)])]

/-- `charter_payload_digest` of the normalised payload. -/
def NormalizedCharter.charterDigest (charter : NormalizedCharter) : String :=
  host.sha256Hex (canonicalJson charter.toJson)

/-- `validate_charter_payload` -/
def validateCharterPayload (payload : Payload) : Except CharterError NormalizedCharter := do
  checkKeys host payload
  let authority ← validateAuthority host payload
  let paths ← validatePaths host payload
  let caps ← validateCaps host (payload.get "caps")
  let runtimes ← validateRuntimes host (payload.get "runtime_allowlist")
  let denied ← raising (strTuple host (payload.get "denied_read_paths"))
  let families ← raising (iterate ((payload.get "task_families").or (.arr [])))
  let project := payload.get "project_id"
  .ok {
    projectId := if truthy project then some (pyStr host project) else none
    charterVersion := pyStr host ((payload.get "charter_version").or (.str "v1"))
    policyRevision := pyStr host ((payload.get "policy_revision").or (.str "p3-2026-09"))
    enforcementTier := authority.enforcementTier
    egressMode := authority.egressMode
    credentialRiskAcknowledged := authority.acknowledged
    permittedRoots := paths.1.map fun root => if normRel root = "" then strip root else normRel root
    protectedWritePrefixes := sortedSet (paths.2.map strip)
    deniedReadPaths :=
      sortedSet ((if denied.isEmpty then defaultDeniedReadPaths else denied).map strip)
    permittedCapabilities := sortedSet authority.capabilities
    confirmRequiredCapabilities := sortedSet authority.confirmCapabilities
    runtimeAllowlist := runtimes
    taskFamilies := sortedSet (families.map fun item => strip (pyStr host item))
    caps }

/-! ### What an accepted payload holds -/

theorem require_ok {condition : Bool} {field message : String} {result : Unit}
    (h : require condition field message = .ok result) : condition = true := by
  unfold require at h
  split_ifs at h with hcondition
  exact hcondition

theorem requireAll_ok {α : Type} {items : List α} {condition : α → Bool} {field message : α → String}
    {result : Unit} (h : requireAll condition field message items = .ok result) :
    ∀ item ∈ items, condition item = true := by
  induction items with
  | nil => simp
  | cons item rest ih =>
    obtain ⟨_, hitem, hrest⟩ := bind_ok h
    exact List.forall_mem_cons.mpr ⟨require_ok hitem, ih hrest⟩

theorem kept_strip {value : String} (h : acceptablePath value = true) : Kept (strip value) := by
  simp only [acceptablePath, Bool.and_eq_true, Bool.not_eq_true', decide_eq_true_eq] at h
  obtain ⟨⟨⟨⟨hne, habsolute⟩, hhome⟩, hposix⟩, hparent⟩ := h
  exact ⟨strip_strip value, hne, habsolute, hhome, hposix, hparent⟩

theorem acceptable_of_validatePaths {payload : Payload} {paths : List String × List String}
    (h : validatePaths host payload = .ok paths) :
    paths.2 ≠ [] ∧ ∀ pre ∈ paths.2, acceptablePath pre = true := by
  obtain ⟨roots, _, h⟩ := bind_ok h
  obtain ⟨_, _, h⟩ := bind_ok h
  obtain ⟨prefixes, _, h⟩ := bind_ok h
  obtain ⟨_, hnonempty, h⟩ := bind_ok h
  obtain ⟨_, _, h⟩ := bind_ok h
  obtain ⟨_, hpaths, h⟩ := bind_ok h
  cases h
  exact ⟨by simpa using require_ok hnonempty, requireAll_ok hpaths⟩

/-- An accepted payload has protected prefixes, each of them kept. -/
theorem kept_of_validate {payload : Payload} {charter : NormalizedCharter}
    (h : validateCharterPayload host payload = .ok charter) :
    charter.protectedWritePrefixes ≠ [] ∧ ∀ pre ∈ charter.protectedWritePrefixes, Kept pre := by
  obtain ⟨_, _, h⟩ := bind_ok h
  obtain ⟨authority, _, h⟩ := bind_ok h
  obtain ⟨paths, hpaths, h⟩ := bind_ok h
  obtain ⟨caps, _, h⟩ := bind_ok h
  obtain ⟨runtimes, _, h⟩ := bind_ok h
  obtain ⟨denied, _, h⟩ := bind_ok h
  obtain ⟨families, _, h⟩ := bind_ok h
  cases h
  obtain ⟨hne, haccepted⟩ := acceptable_of_validatePaths host hpaths
  constructor
  · obtain ⟨pre, hpre⟩ := List.exists_mem_of_ne_nil _ hne
    exact List.ne_nil_of_mem (mem_sortedSet.mpr (List.mem_map_of_mem hpre))
  · intro pre hpre
    obtain ⟨value, hvalue, rfl⟩ := List.mem_map.mp (mem_sortedSet.mp hpre)
    exact kept_strip (haccepted value hvalue)

end OpenTimeline.Charter
