import OpenTimeline.Charter.Charter

/-! Narrowing a charter.

`charterFromRow` builds a charter from its row and folds the narrowings recorded for
it, oldest first. A narrowing takes from the lists a charter permits by, adds to the
ones it refuses by, lowers its caps, its expiry and its egress and strengthens its
tier. Each of these is an order, and a narrowing goes down in all of them
(`NoWider`), so a fold of any length does; what a charter permits follows the same
orders (`PermitsNoMore`). -/
namespace OpenTimeline.Charter

variable (host : Host)

/-! ### Decoders -/

/-- The items of a `for` over a value. -/
def iterate : Json → Except PyError (List Json)
  | .arr items => .ok items
  | .str s => .ok (s.toList.map fun c => .str (String.singleton c))
  | .obj fields => .ok (fields.map fun field => .str field.1)
  | _ => .error .typeError

/-- `_str_tuple` -/
def strTuple : Json → Except PyError (List String)
  | .null => .ok []
  | .str s => .ok [s]
  | value => do
    let items ← iterate value
    .ok (items.map (pyStr host))

/-- `_json_list` -/
def jsonList : Json → List Json
  | .arr items => items
  | .str s =>
    match host.loads s with
    | some (.arr items) => items
    | _ => []
  | _ => []

/-- `_json_obj` -/
def jsonObj (text : String) : Payload :=
  match host.loads text with
  | some (.obj fields) => fields
  | _ => []

/-- `_parse_dt` -/
def parseDt (value : Json) : Except PyError Datetime :=
  match host.fromIsoFormat (pyStr host value) with
  | some at' => .ok at'
  | none => .error .valueError

/-- `_parse_dt_opt` -/
def parseDtOpt (value : Json) : Except PyError (Option Datetime) :=
  match value with
  | .null => .ok none
  | value => (parseDt host value).map some

/-- `_int_or`: an infinity is no `ValueError`. -/
def intOr (value : Json) (fallback : Int) : Except PyError Int :=
  match value with
  | .null => .ok fallback
  | value => match pyInt host value with
    | .ok n => .ok n
    | .error .typeError | .error .valueError => .ok fallback
    | .error e => .error e

/-- `_runtime_allowlist`: an entry that is not a triple is skipped. -/
def runtimeAllowlist (value : Json) : Except PyError (List (String × String × String)) := do
  let entries ← (jsonList host value).mapM iterate
  .ok (entries.filterMap fun entry =>
    match entry.map (pyStr host) with
    | [runtimeId, runtimeVersion, surface] => some (runtimeId, runtimeVersion, surface)
    | _ => none)

/-- `sorted(set(items))` -/
def sortedSet (items : List String) : List String := items.dedup.insertionSort (· ≤ ·)

theorem mem_sortedSet {items : List String} {item : String} : item ∈ sortedSet items ↔ item ∈ items := by
  rw [sortedSet, List.mem_insertionSort, List.mem_dedup]

/-! ### One narrowing -/

/-- The roots a narrowing takes away, as it spells them and normalised. -/
def removedRoots (requested : List String) : List String :=
  (requested.map strip).filter (· ≠ "") ++ (requested.map normRel).filter (· ≠ "")

def retained (removed : List String) (root : String) : Bool :=
  strip root ∉ removed && !(normRel root ≠ "" && normRel root ∈ removed)

/-- The tier a narrowing leaves: an unknown or a weaker one is not taken. -/
def narrowedTier (tier : EnforcementTier) (requested : Json) : EnforcementTier :=
  let text := pyStr host (requested.or (.str tier.value))
  match tierStrength.lookup text with
  | none => tier
  | some strength => if tier.strength < strength then tier else tierLiteral host (.str text)

def narrowedExpiry (expiresAt : Datetime) : Option Datetime → Except PyError Datetime
  | none => .ok expiresAt
  | some narrowed => do
    if ← narrowed.lt expiresAt then .ok narrowed else .ok expiresAt

/-- The caps a narrowing leaves: each the lower one. -/
def narrowedCaps (caps : CharterCaps) (narrowing : Payload) : Except PyError CharterCaps := do
  let lower := fun cap key => (min cap ·) <$> intOr host (narrowing.get key) cap
  let maxAttempts ← lower caps.maxAttempts "max_attempts"
  let maxConcurrentDispatches ← lower caps.maxConcurrentDispatches "max_concurrent_dispatches"
  let maxWallSeconds ← lower caps.maxWallSeconds "max_wall_seconds"
  let budgetMinorUnits ← lower caps.budgetMinorUnits "budget_minor_units"
  .ok {caps with maxAttempts, maxConcurrentDispatches, maxWallSeconds, budgetMinorUnits}

/-- `narrow_charter` -/
def narrowCharter (charter : ResolvedCharter) (narrowing : Payload) : Except PyError ResolvedCharter := do
  let requestedRemovals ← strTuple host (narrowing.get "remove_roots")
  let removedCapabilities ← strTuple host (narrowing.get "remove_capabilities")
  let addedPrefixes ← strTuple host (narrowing.get "add_protected_write_prefixes")
  let addedDenied ← strTuple host (narrowing.get "add_denied_read_paths")
  let caps ← narrowedCaps host charter.caps narrowing
  let egress := pyStr host ((narrowing.get "egress_mode").or (.str ""))
  let requestedExpiry ← parseDtOpt host (narrowing.get "expires_at")
  let expiresAt ← narrowedExpiry charter.expiresAt requestedExpiry
  .ok { charter with
    enforcementTier := narrowedTier host charter.enforcementTier (narrowing.get "enforcement_tier")
    permittedRoots := charter.permittedRoots.filter (retained (removedRoots requestedRemovals))
    protectedWritePrefixes := sortedSet (charter.protectedWritePrefixes ++ addedPrefixes)
    deniedReadPaths := sortedSet (charter.deniedReadPaths ++ addedDenied)
    permittedCapabilities := charter.permittedCapabilities \ removedCapabilities.toFinset
    egressMode := if egress = "deny_all" then .denyAll else charter.egressMode
    caps
    expiresAt }

/-! ### A row and its narrowings -/

/-- The body of a narrowing row; one that is not an object has no keys to read. -/
def applyNarrowing (charter : ResolvedCharter) (row : Payload) : Except PyError ResolvedCharter :=
  match ((row.get "narrowing_json").or (row.get "narrowing")).or (.obj []) with
  | .str text => narrowCharter host charter (jsonObj host text)
  | .obj fields => narrowCharter host charter fields
  | _ => .error .attributeError

def narrowingId (row : Payload) : String :=
  pyStr host (((row.get "id").or (row.get "narrowing_id")).or (.str ""))

/-- The fold of `charter_from_row`. -/
def applyNarrowings (charter : ResolvedCharter) (narrowings : List Payload) :
    Except PyError ResolvedCharter := do
  let narrowed ← narrowings.foldlM (applyNarrowing host) charter
  if narrowings.isEmpty then .ok narrowed
  else .ok {narrowed with narrowingIds := narrowings.map (narrowingId host)}

/-- The charter of an `authority_charters` row. -/
def resolveRow (row : Payload) : Except PyError ResolvedCharter := do
  let column := fun key default => pyStr host ((row.get key).or (.str default))
  let number := fun key default => pyInt host ((row.get key).or (.int default))
  let list := fun json plain => jsonList host ((row.get json).or (row.get plain))
  let strings := fun json plain => (list json plain).map (pyStr host)
  let maxAttempts ← number "max_attempts" 3
  let maxConcurrentDispatches ← number "max_concurrent_dispatches" 1
  let maxWallSeconds ← number "max_wall_seconds" 1800
  let budgetMinorUnits ← number "budget_minor_units" 0
  let runtimes ← runtimeAllowlist host (.arr (list "runtime_allowlist_json" "runtime_allowlist"))
  let approvedAt ← parseDt host ((row.get "approved_at").or (row.get "created_at"))
  let expiresAt ← parseDt host (row.get "expires_at")
  let revokedAt ← parseDtOpt host (row.get "revoked_at")
  let confirmed := strings "confirm_required_capabilities_json" "confirm_required_capabilities"
  .ok {
    charterId := pyStr host (((row.get "id").or (row.get "charter_id")).or (.str ""))
    workspaceId := column "workspace_id" ""
    ownerId := column "owner_id" ""
    projectId := if truthy (row.get "project_id") then some (pyStr host (row.get "project_id")) else none
    charterVersion := column "charter_version" "v1"
    policyRevision := column "policy_revision" "p3-2026-09"
    status := column "status" "draft"
    enforcementTier := tierLiteral host (row.get "enforcement_tier")
    permittedRoots := strings "permitted_roots_json" "permitted_roots"
    protectedWritePrefixes := strings "protected_write_prefixes_json" "protected_write_prefixes"
    deniedReadPaths := strings "denied_read_paths_json" "denied_read_paths"
    permittedCapabilities := (strings "permitted_capabilities_json" "permitted_capabilities").toFinset
    confirmRequiredCapabilities := confirmed.toFinset
    egressMode := egressLiteral host (row.get "egress_mode")
    runtimeAllowlist := runtimes
    caps := {
      maxAttempts, maxConcurrentDispatches, maxWallSeconds, budgetMinorUnits
      budgetCurrency := column "budget_currency" "USD"
      spendEnforcement := spendEnforcementLiteral host (row.get "spend_enforcement") }
    approvedBy := column "approved_by" ""
    approvedAt, expiresAt, revokedAt
    narrowingIds := []
    charterDigest := column "charter_digest" ""
    schemaVersion := column "schema_version" "v1"
    credentialRiskAcknowledged := truthy (row.get "credential_risk_acknowledged") }

/-- `charter_from_row` -/
def charterFromRow (row : Payload) (narrowings : List Payload) : Except PyError ResolvedCharter := do
  let charter ← resolveRow host row
  applyNarrowings host charter narrowings

/-! ### The order -/

/-- No wider in any dimension. -/
structure NoWider (narrowed charter : ResolvedCharter) : Prop where
  roots : narrowed.permittedRoots ⊆ charter.permittedRoots
  prefixes : charter.protectedWritePrefixes ⊆ narrowed.protectedWritePrefixes
  denied : charter.deniedReadPaths ⊆ narrowed.deniedReadPaths
  capabilities : narrowed.permittedCapabilities ⊆ charter.permittedCapabilities
  confirmed : narrowed.confirmRequiredCapabilities = charter.confirmRequiredCapabilities
  runtimes : narrowed.runtimeAllowlist = charter.runtimeAllowlist
  status : narrowed.status = charter.status
  revoked : narrowed.revokedAt = charter.revokedAt
  tier : narrowed.enforcementTier.strength ≤ charter.enforcementTier.strength
  egress : narrowed.egressMode = .httpsOnly → charter.egressMode = .httpsOnly
  maxAttempts : narrowed.caps.maxAttempts ≤ charter.caps.maxAttempts
  maxConcurrentDispatches : narrowed.caps.maxConcurrentDispatches ≤ charter.caps.maxConcurrentDispatches
  maxWallSeconds : narrowed.caps.maxWallSeconds ≤ charter.caps.maxWallSeconds
  budgetMinorUnits : narrowed.caps.budgetMinorUnits ≤ charter.caps.budgetMinorUnits
  clock : narrowed.expiresAt.aware = charter.expiresAt.aware
  expiry : narrowed.expiresAt.instant ≤ charter.expiresAt.instant

theorem NoWider.refl (charter : ResolvedCharter) : NoWider charter charter where
  roots := List.Subset.refl _
  prefixes := List.Subset.refl _
  denied := List.Subset.refl _
  capabilities := Finset.Subset.refl _
  confirmed := rfl
  runtimes := rfl
  status := rfl
  revoked := rfl
  tier := le_refl _
  egress := id
  maxAttempts := le_refl _
  maxConcurrentDispatches := le_refl _
  maxWallSeconds := le_refl _
  budgetMinorUnits := le_refl _
  clock := rfl
  expiry := le_refl _

theorem NoWider.trans {a b c : ResolvedCharter} (hab : NoWider a b) (hbc : NoWider b c) : NoWider a c where
  roots := List.Subset.trans hab.roots hbc.roots
  prefixes := List.Subset.trans hbc.prefixes hab.prefixes
  denied := List.Subset.trans hbc.denied hab.denied
  capabilities := Finset.Subset.trans hab.capabilities hbc.capabilities
  confirmed := hab.confirmed.trans hbc.confirmed
  runtimes := hab.runtimes.trans hbc.runtimes
  status := hab.status.trans hbc.status
  revoked := hab.revoked.trans hbc.revoked
  tier := hab.tier.trans hbc.tier
  egress := hbc.egress ∘ hab.egress
  maxAttempts := hab.maxAttempts.trans hbc.maxAttempts
  maxConcurrentDispatches := hab.maxConcurrentDispatches.trans hbc.maxConcurrentDispatches
  maxWallSeconds := hab.maxWallSeconds.trans hbc.maxWallSeconds
  budgetMinorUnits := hab.budgetMinorUnits.trans hbc.budgetMinorUnits
  clock := hab.clock.trans hbc.clock
  expiry := hab.expiry.trans hbc.expiry

/-! ### A narrowing goes down -/

theorem tierLiteral_strength {text : String} {strength : Nat} (h : tierStrength.lookup text = some strength) :
    (tierLiteral host (.str text)).strength = strength := by
  by_cases hos : text = "os_sandbox"
  · subst hos
    cases h
    simp [tierLiteral, show strip "os_sandbox" = "os_sandbox" by decide, Json.or, truthy, pyStr,
      EnforcementTier.strength]
  by_cases hcontainer : text = "container"
  · subst hcontainer
    cases h
    simp [tierLiteral, show strip "container" = "container" by decide, Json.or, truthy, pyStr,
      EnforcementTier.strength]
  by_cases hadvisory : text = "advisory"
  · subst hadvisory
    cases h
    simp [tierLiteral, show strip "advisory" = "advisory" by decide, Json.or, truthy, pyStr,
      EnforcementTier.strength]
  · simp [tierStrength, List.lookup_cons, beq_false_of_ne hos, beq_false_of_ne hcontainer,
      beq_false_of_ne hadvisory] at h

/-- The tier never gets weaker. -/
theorem narrowedTier_strength (tier : EnforcementTier) (requested : Json) :
    (narrowedTier host tier requested).strength ≤ tier.strength := by
  unfold narrowedTier
  simp only []
  split
  case h_1 => exact le_refl _
  case h_2 strength hstrength =>
    split_ifs with hweaker
    · exact le_refl _
    · rw [tierLiteral_strength host hstrength]
      exact not_lt.mp hweaker

/-- The expiry never gets later. -/
theorem narrowedExpiry_le {expiresAt after : Datetime} {requested : Option Datetime}
    (h : narrowedExpiry expiresAt requested = .ok after) :
    after.aware = expiresAt.aware ∧ after.instant ≤ expiresAt.instant := by
  cases requested with
  | none =>
    cases h
    exact ⟨rfl, le_refl _⟩
  | some narrowed =>
    obtain ⟨earlier, hlt, hafter⟩ := bind_ok h
    unfold Datetime.lt at hlt
    split_ifs at hlt with haware
    cases hlt
    split_ifs at hafter with hearlier
    · cases hafter
      exact ⟨haware, (of_decide_eq_true hearlier).le⟩
    · cases hafter
      exact ⟨rfl, le_refl _⟩

variable {host}

/-- The caps never go up. -/
theorem narrowedCaps_le {caps narrowed : CharterCaps} {narrowing : Payload}
    (h : narrowedCaps host caps narrowing = .ok narrowed) :
    narrowed.maxAttempts ≤ caps.maxAttempts ∧ narrowed.maxConcurrentDispatches ≤ caps.maxConcurrentDispatches ∧
      narrowed.maxWallSeconds ≤ caps.maxWallSeconds ∧ narrowed.budgetMinorUnits ≤ caps.budgetMinorUnits := by
  have hlower {cap n : Int} {value : Json} (hn : (min cap ·) <$> intOr host value cap = .ok n) : n ≤ cap := by
    cases hvalue : intOr host value cap with
    | error e =>
      rw [hvalue] at hn
      cases hn
    | ok m =>
      rw [hvalue] at hn
      cases hn
      exact min_le_left _ _
  obtain ⟨_, hattempts, h⟩ := bind_ok h
  obtain ⟨_, hdispatches, h⟩ := bind_ok h
  obtain ⟨_, hwall, h⟩ := bind_ok h
  obtain ⟨_, hbudget, h⟩ := bind_ok h
  cases h
  exact ⟨hlower hattempts, hlower hdispatches, hlower hwall, hlower hbudget⟩

theorem noWider_narrowCharter {charter narrowed : ResolvedCharter} {narrowing : Payload}
    (h : narrowCharter host charter narrowing = .ok narrowed) : NoWider narrowed charter := by
  obtain ⟨removals, _, h⟩ := bind_ok h
  obtain ⟨capabilities, _, h⟩ := bind_ok h
  obtain ⟨added, _, h⟩ := bind_ok h
  obtain ⟨denied, _, h⟩ := bind_ok h
  obtain ⟨caps, hcaps, h⟩ := bind_ok h
  obtain ⟨requested, _, h⟩ := bind_ok h
  obtain ⟨expiresAt, hexpiry, h⟩ := bind_ok h
  cases h
  exact {
    roots := List.filter_subset_self _
    prefixes := fun pre hm => mem_sortedSet.mpr (List.mem_append_left _ hm)
    denied := fun path hm => mem_sortedSet.mpr (List.mem_append_left _ hm)
    capabilities := Finset.sdiff_subset
    confirmed := rfl
    runtimes := rfl
    status := rfl
    revoked := rfl
    tier := narrowedTier_strength host _ _
    egress := fun hopen => by
      simp only [] at hopen
      split_ifs at hopen
      exact hopen
    maxAttempts := (narrowedCaps_le hcaps).1
    maxConcurrentDispatches := (narrowedCaps_le hcaps).2.1
    maxWallSeconds := (narrowedCaps_le hcaps).2.2.1
    budgetMinorUnits := (narrowedCaps_le hcaps).2.2.2
    clock := (narrowedExpiry_le hexpiry).1
    expiry := (narrowedExpiry_le hexpiry).2 }

theorem noWider_applyNarrowing {charter narrowed : ResolvedCharter} {row : Payload}
    (h : applyNarrowing host charter row = .ok narrowed) : NoWider narrowed charter := by
  unfold applyNarrowing at h
  split at h
  · exact noWider_narrowCharter h
  · exact noWider_narrowCharter h
  · cases h

theorem noWider_foldlM {charter narrowed : ResolvedCharter} {narrowings : List Payload}
    (h : narrowings.foldlM (applyNarrowing host) charter = .ok narrowed) : NoWider narrowed charter := by
  induction narrowings generalizing charter with
  | nil =>
    cases h
    exact .refl _
  | cons row rest ih =>
    rw [List.foldlM_cons] at h
    obtain ⟨next, hstep, hrest⟩ := bind_ok h
    exact (ih hrest).trans (noWider_applyNarrowing hstep)

theorem noWider_applyNarrowings {charter narrowed : ResolvedCharter} {narrowings : List Payload}
    (h : applyNarrowings host charter narrowings = .ok narrowed) : NoWider narrowed charter := by
  obtain ⟨folded, hfold, h⟩ := bind_ok h
  have hfolded := noWider_foldlM hfold
  split_ifs at h
  · cases h
    exact hfolded
  · cases h
    -- the ids it records permit nothing
    exact { hfolded with }

/-! ### What a narrowed charter permits -/

variable (host) in
/-- Whatever the first charter permits, the second permits. -/
structure PermitsNoMore (narrowed charter : ResolvedCharter) : Prop where
  path : ∀ path, narrowed.allowsPath path = true → narrowed.isProtectedWrite path = false →
    charter.allowsPath path = true ∧ charter.isProtectedWrite path = false
  capability : ∀ capability, narrowed.allowsCapability capability = true →
    charter.allowsCapability capability = true
  runtime : ∀ runtimeId runtimeVersion surface,
    narrowed.allowsRuntime runtimeId runtimeVersion surface = true →
      charter.allowsRuntime runtimeId runtimeVersion surface = true
  action : ∀ actionKind targetPaths,
    (charterScopeNarrowing host (some narrowed) actionKind targetPaths).1 = false →
      (charterScopeNarrowing host (some charter) actionKind targetPaths).1 = false
  insensitive : ∀ targetPaths, charterSensitivePathHit host (some narrowed) targetPaths = false →
    charterSensitivePathHit host (some charter) targetPaths = false
  active : ∀ now, narrowed.isActive now = .ok true → charter.isActive now = .ok true
  maxAttempts : narrowed.caps.maxAttempts ≤ charter.caps.maxAttempts
  maxConcurrentDispatches : narrowed.caps.maxConcurrentDispatches ≤ charter.caps.maxConcurrentDispatches
  maxWallSeconds : narrowed.caps.maxWallSeconds ≤ charter.caps.maxWallSeconds
  budgetMinorUnits : narrowed.caps.budgetMinorUnits ≤ charter.caps.budgetMinorUnits
  tier : narrowed.enforcementTier.strength ≤ charter.enforcementTier.strength
  egress : narrowed.egressMode = .httpsOnly → charter.egressMode = .httpsOnly
  expiry : narrowed.expiresAt.aware = charter.expiresAt.aware ∧
    narrowed.expiresAt.instant ≤ charter.expiresAt.instant

section Permits
variable {narrowed charter : ResolvedCharter} (h : NoWider narrowed charter)
include h

theorem NoWider.path {path : String} (hallowed : narrowed.allowsPath path = true)
    (hunprotected : narrowed.isProtectedWrite path = false) :
    charter.allowsPath path = true ∧ charter.isProtectedWrite path = false := by
  constructor
  · obtain ⟨root, hroot, hunder⟩ := List.any_eq_true.mp hallowed
    exact List.any_eq_true.mpr ⟨root, h.roots hroot, hunder⟩
  · rw [ResolvedCharter.isProtectedWrite, protects, List.any_eq_false] at hunprotected ⊢
    exact fun pre hpre => hunprotected pre (h.prefixes hpre)

theorem NoWider.capability {capability : String} (hallowed : narrowed.allowsCapability capability = true) :
    charter.allowsCapability capability = true :=
  decide_eq_true (h.capabilities (of_decide_eq_true hallowed))

theorem NoWider.active {now : Datetime} (hactive : narrowed.isActive now = .ok true) :
    charter.isActive now = .ok true := by
  unfold ResolvedCharter.isActive Datetime.lt at hactive ⊢
  rw [h.status, h.revoked, h.clock] at hactive
  split_ifs at hactive ⊢ with hstatus hrevoked haware
  · cases hactive
  · cases hactive
  · have hlt := of_decide_eq_true (Except.ok.inj hactive)
    exact congrArg Except.ok (decide_eq_true (lt_of_lt_of_le hlt h.expiry))

theorem NoWider.permitsNoMore : PermitsNoMore host narrowed charter where
  path _ := h.path
  capability _ := h.capability
  runtime runtimeId runtimeVersion surface := by
    unfold ResolvedCharter.allowsRuntime
    rw [h.runtimes]
    exact id
  action actionKind targetPaths := by
    rw [charterScopeNarrowing_passes, charterScopeNarrowing_passes]
    rintro ⟨hcapability, htargets⟩
    refine ⟨h.capability hcapability, fun hmutating path hm => ?_⟩
    obtain ⟨hunprotected, hallowed⟩ := htargets hmutating path hm
    exact (h.path hallowed hunprotected).symm
  insensitive targetPaths := by
    simp only [charterSensitivePathHit, List.any_eq_false, Bool.or_eq_true, not_or, Bool.not_eq_true,
      Bool.not_eq_false']
    intro hclear path hm
    exact (h.path (hclear path hm).2 (hclear path hm).1).symm
  active _ := h.active
  maxAttempts := h.maxAttempts
  maxConcurrentDispatches := h.maxConcurrentDispatches
  maxWallSeconds := h.maxWallSeconds
  budgetMinorUnits := h.budgetMinorUnits
  tier := h.tier
  egress := h.egress
  expiry := ⟨h.clock, h.expiry⟩

end Permits

/-- A charter narrowed any number of times permits nothing it did not permit before; so a
row resolved with its narrowings permits nothing the row alone does not. -/
theorem narrowings_permitNoMore (host : Host) :
    (∀ charter narrowings narrowed, applyNarrowings host charter narrowings = .ok narrowed →
      PermitsNoMore host narrowed charter) ∧
    ∀ row narrowings narrowed, charterFromRow host row narrowings = .ok narrowed →
      ∃ charter, charterFromRow host row [] = .ok charter ∧ PermitsNoMore host narrowed charter := by
  refine ⟨fun charter narrowings narrowed h => (noWider_applyNarrowings h).permitsNoMore,
    fun row narrowings narrowed h => ?_⟩
  obtain ⟨charter, hrow, hnarrowed⟩ := bind_ok h
  refine ⟨charter, ?_, (noWider_applyNarrowings hnarrowed).permitsNoMore⟩
  rw [charterFromRow, hrow]
  rfl

/-- A host that reads every timestamp as the epoch. -/
def epochHost : Host := {asciiHost [] [] with fromIsoFormat := fun _ => some ⟨epoch, true⟩}

def docsRow : Payload :=
  [("permitted_roots", .arr [.str "docs", .str "src"]), ("protected_write_prefixes", .arr [.str "tests/"])]

/-- A narrowing that takes away a root under another spelling and the network. -/
def docsNarrowing : Payload :=
  [("narrowing_json", .obj [("egress_mode", .str "deny_all"), ("remove_roots", .arr [.str "docs/"])])]

theorem narrowings_permitNoMore_docs : ∃ narrowed charter,
    charterFromRow epochHost docsRow [docsNarrowing] = .ok narrowed ∧ narrowed.permittedRoots = ["src"] ∧
      charterFromRow epochHost docsRow [] = .ok charter ∧ PermitsNoMore epochHost narrowed charter := by
  have hroots : (charterFromRow epochHost docsRow [docsNarrowing]).map (·.permittedRoots) = .ok ["src"] := by
    decide
  cases hnarrowed : charterFromRow epochHost docsRow [docsNarrowing] with
  | error e =>
    rw [hnarrowed] at hroots
    cases hroots
  | ok narrowed =>
    rw [hnarrowed] at hroots
    obtain ⟨charter, hcharter, hpermits⟩ := (narrowings_permitNoMore epochHost).2 _ _ _ hnarrowed
    exact ⟨narrowed, charter, rfl, Except.ok.inj hroots, hcharter, hpermits⟩

end OpenTimeline.Charter
