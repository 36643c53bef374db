import OpenTimeline.Library.Commuting
import OpenTimeline.Charter.Narrowing
import OpenTimeline.Charter.Scope

/-! What a fold of narrowings comes to.

A narrowing is read before it is applied, and reading it can raise: a list that cannot be iterated, an infinite
number, an expiry that is no time or whose clock is not the charter's (`narrow_charter_iff`). Whether it does
depends on nothing that a narrowing changes. What it leaves is, field by field, a filter, a union, a difference or
a minimum, so the narrowings of a fold commute and count once (`narrowings_order_free`). -/
namespace OpenTimeline.Charter
open Library

variable (host : Host)

/-! ### Reading a narrowing -/

/-- The keys of the lists, and those of the numbers. -/
def listKeys : List String :=
  ["remove_roots", "remove_capabilities", "add_protected_write_prefixes", "add_denied_read_paths"]

def capKeys : List String := ["max_attempts", "max_concurrent_dispatches", "max_wall_seconds", "budget_minor_units"]

/-- The value can be iterated, or is null. -/
def listed : Json → Bool
  | .bool _ | .int _ | .float _ => false
  | _ => true

/-- The value is no infinity. -/
def finite : Json → Bool
  | .float x => x.repr ∉ ["inf", "-inf"]
  | _ => true

/-- Nothing in the narrowing raises, for a charter that expires by an aware time or by a naive one. -/
structure Readable (aware : Bool) (narrowing : Payload) : Prop where
  lists : ∀ key ∈ listKeys, listed (narrowing.get key) = true
  caps : ∀ key ∈ capKeys, finite (narrowing.get key) = true
  expiry : narrowing.get "expires_at" = .null ∨
    ∃ at', host.fromIsoFormat (pyStr host (narrowing.get "expires_at")) = some at' ∧ at'.aware = aware

/-- The texts of a list. -/
def strings (value : Json) : List String := (strTuple host value).toOption.getD []

/-- The number that a cap is lowered to. -/
def capOf (value : Json) : Option Int :=
  match value with
  | .null => none
  | value => (pyInt host value).toOption

def lowered (cap : Int) (value : Json) : Int := min cap ((capOf host value).getD cap)

def loweredCaps (caps : CharterCaps) (narrowing : Payload) : CharterCaps :=
  { caps with
    maxAttempts := lowered host caps.maxAttempts (narrowing.get "max_attempts")
    maxConcurrentDispatches := lowered host caps.maxConcurrentDispatches (narrowing.get "max_concurrent_dispatches")
    maxWallSeconds := lowered host caps.maxWallSeconds (narrowing.get "max_wall_seconds")
    budgetMinorUnits := lowered host caps.budgetMinorUnits (narrowing.get "budget_minor_units") }

def expiryOf (value : Json) : Option Datetime :=
  match value with
  | .null => none
  | value => host.fromIsoFormat (pyStr host value)

/-- The earlier of two times on one clock. -/
def earlier (expiresAt : Datetime) : Option Datetime → Datetime
  | none => expiresAt
  | some requested => if requested.instant < expiresAt.instant then requested else expiresAt

/-- What a readable narrowing leaves of a charter. -/
def ResolvedCharter.narrowed (charter : ResolvedCharter) (narrowing : Payload) : ResolvedCharter :=
  { charter with
    enforcementTier := narrowedTier host charter.enforcementTier (narrowing.get "enforcement_tier")
    permittedRoots := charter.permittedRoots.filter (retained (removedRoots (strings host (narrowing.get "remove_roots"))))
    protectedWritePrefixes :=
      sortedSet (charter.protectedWritePrefixes ++ strings host (narrowing.get "add_protected_write_prefixes"))
    deniedReadPaths := sortedSet (charter.deniedReadPaths ++ strings host (narrowing.get "add_denied_read_paths"))
    permittedCapabilities :=
      charter.permittedCapabilities \ (strings host (narrowing.get "remove_capabilities")).toFinset
    egressMode :=
      if pyStr host ((narrowing.get "egress_mode").or (.str "")) = "deny_all" then .denyAll else charter.egressMode
    caps := loweredCaps host charter.caps narrowing
    expiresAt := earlier charter.expiresAt (expiryOf host (narrowing.get "expires_at")) }

variable {host}

theorem bind_eq_ok_iff {ε β γ : Type} {x : Except ε β} {f : β → Except ε γ} {c : γ} :
    x >>= f = .ok c ↔ ∃ b, x = .ok b ∧ f b = .ok c := by
  refine ⟨bind_ok, ?_⟩
  rintro ⟨b, rfl, h⟩
  exact h

theorem strTuple_ok_iff {value : Json} {items : List String} :
    strTuple host value = .ok items ↔ listed value = true ∧ items = strings host value := by
  cases value <;> simp [strTuple, iterate, listed, strings, bind, Except.bind, Except.toOption, eq_comm]

theorem intOr_ok_iff {value : Json} {cap n : Int} :
    intOr host value cap = .ok n ↔ finite value = true ∧ n = (capOf host value).getD cap := by
  cases value with
  | float x =>
    by_cases hnan : x.repr = "nan"
    · simp [intOr, pyInt, PyFloat.int, finite, capOf, hnan, Except.toOption, eq_comm]
    · by_cases hinf : x.repr ∈ ["inf", "-inf"]
      · simp [intOr, pyInt, PyFloat.int, finite, hnan, hinf]
      · simp [intOr, pyInt, PyFloat.int, finite, capOf, hnan, hinf, Except.toOption, eq_comm]
  | str text =>
    cases hparse : host.parseInt (strip text) <;> simp [intOr, pyInt, finite, capOf, hparse, Except.toOption, eq_comm]
  | null | bool | int | arr | obj => simp [intOr, pyInt, finite, capOf, Except.toOption, eq_comm]

theorem lower_ok_iff {value : Json} {cap n : Int} :
    (min cap ·) <$> intOr host value cap = .ok n ↔ finite value = true ∧ n = lowered host cap value := by
  have hread := @intOr_ok_iff host value cap
  cases hvalue : intOr host value cap with
  | error e =>
    refine ⟨fun h => (by cases h), ?_⟩
    rintro ⟨hfinite, -⟩
    have h := hread.mpr ⟨hfinite, rfl⟩
    rw [hvalue] at h
    cases h
  | ok m =>
    obtain ⟨hfinite, rfl⟩ := hread.mp hvalue
    constructor
    · intro h
      cases h
      exact ⟨hfinite, rfl⟩
    · rintro ⟨-, rfl⟩
      rfl

theorem narrowedCaps_ok_iff {caps after : CharterCaps} {narrowing : Payload} :
    narrowedCaps host caps narrowing = .ok after ↔
      (∀ key ∈ capKeys, finite (narrowing.get key) = true) ∧ after = loweredCaps host caps narrowing := by
  unfold narrowedCaps
  simp only [bind_eq_ok_iff, lower_ok_iff, capKeys, List.forall_mem_cons]
  constructor
  · rintro ⟨_, ⟨hattempts, rfl⟩, _, ⟨hdispatches, rfl⟩, _, ⟨hwall, rfl⟩, _, ⟨hbudget, rfl⟩, h⟩
    cases h
    exact ⟨⟨hattempts, hdispatches, hwall, hbudget, fun key hkey => absurd hkey List.not_mem_nil⟩, rfl⟩
  · rintro ⟨⟨hattempts, hdispatches, hwall, hbudget, -⟩, rfl⟩
    exact ⟨_, ⟨hattempts, rfl⟩, _, ⟨hdispatches, rfl⟩, _, ⟨hwall, rfl⟩, _, ⟨hbudget, rfl⟩, rfl⟩

/-- The expiry is read, and compared where there is one. -/
theorem expiry_ok_iff {value : Json} {expiresAt after : Datetime} :
    (parseDtOpt host value >>= narrowedExpiry expiresAt) = .ok after ↔
      (value = .null ∨ ∃ at', host.fromIsoFormat (pyStr host value) = some at' ∧ at'.aware = expiresAt.aware) ∧
        after = earlier expiresAt (expiryOf host value) := by
  by_cases hnull : value = .null
  · subst hnull
    simp [parseDtOpt, narrowedExpiry, expiryOf, earlier, bind, Except.bind, eq_comm]
  have hparse : parseDtOpt host value = (parseDt host value).map some ∧
      expiryOf host value = host.fromIsoFormat (pyStr host value) := by
    cases value <;> first | exact absurd rfl hnull | exact ⟨rfl, rfl⟩
  rw [hparse.1, hparse.2]
  unfold parseDt
  cases host.fromIsoFormat (pyStr host value) with
  | none => simp [hnull, Except.map, bind, Except.bind]
  | some at' =>
    by_cases haware : at'.aware = expiresAt.aware
    · simp [hnull, Except.map, bind, Except.bind, narrowedExpiry, Datetime.lt, haware, earlier]
      split_ifs <;> simp [eq_comm]
    · simp [hnull, Except.map, bind, Except.bind, narrowedExpiry, Datetime.lt, haware]

/-- A narrowing is applied exactly where it is readable. -/
theorem narrowCharter_ok_iff {charter after : ResolvedCharter} {narrowing : Payload} :
    narrowCharter host charter narrowing = .ok after ↔
      Readable host charter.expiresAt.aware narrowing ∧ after = charter.narrowed host narrowing := by
  have hexpiry := @expiry_ok_iff host (narrowing.get "expires_at") charter.expiresAt
  simp only [bind_eq_ok_iff] at hexpiry
  unfold narrowCharter
  simp only [bind_eq_ok_iff, strTuple_ok_iff, narrowedCaps_ok_iff]
  constructor
  · rintro ⟨_, ⟨hroots, rfl⟩, _, ⟨hcapabilities, rfl⟩, _, ⟨hprefixes, rfl⟩, _, ⟨hdenied, rfl⟩, _, ⟨hcaps, rfl⟩,
      requested, hrequested, expiresAt, hafter, h⟩
    cases h
    obtain ⟨hread, rfl⟩ := hexpiry.mp ⟨requested, hrequested, hafter⟩
    refine ⟨⟨?_, hcaps, hread⟩, rfl⟩
    simp only [listKeys, List.forall_mem_cons]
    exact ⟨hroots, hcapabilities, hprefixes, hdenied, fun key hkey => absurd hkey List.not_mem_nil⟩
  · rintro ⟨⟨hlists, hcaps, hread⟩, rfl⟩
    simp only [listKeys, List.forall_mem_cons] at hlists
    obtain ⟨hroots, hcapabilities, hprefixes, hdenied, -⟩ := hlists
    obtain ⟨requested, hrequested, hafter⟩ := hexpiry.mpr ⟨hread, rfl⟩
    exact ⟨_, ⟨hroots, rfl⟩, _, ⟨hcapabilities, rfl⟩, _, ⟨hprefixes, rfl⟩, _, ⟨hdenied, rfl⟩, _, ⟨hcaps, rfl⟩,
      requested, hrequested, _, hafter, rfl⟩

/-- `narrow_charter` returns exactly on the narrowings that are readable. -/
theorem narrow_charter_iff (charter : ResolvedCharter) (narrowing : Payload) :
    (∃ after, narrowCharter host charter narrowing = .ok after) ↔ Readable host charter.expiresAt.aware narrowing := by
  simp only [narrowCharter_ok_iff, exists_and_left, exists_eq, and_true]

/-- An expiry that is no time raises. -/
theorem narrow_charter_raises : ¬ ∀ (host : Host) (charter : ResolvedCharter) (narrowing : Payload),
    ∃ after, narrowCharter host charter narrowing = .ok after := by
  intro h
  obtain ⟨after, hafter⟩ := h (asciiHost [] []) (protectedSource "tests/") [("expires_at", .str "soon")]
  have hraises : (narrowCharter (asciiHost [] []) (protectedSource "tests/") [("expires_at", .str "soon")]).toOption = none := by
    decide
  rw [hafter] at hraises
  cases hraises

/-! ### Order and number -/

/-- A sorted set is made of its items only. -/
theorem sortedSet_congr {items items' : List String} (h : ∀ item, item ∈ items ↔ item ∈ items') :
    sortedSet items = sortedSet items' := by
  have hsorted (items : List String) : (sortedSet items).Pairwise (· ≤ ·) := List.pairwise_insertionSort _ _
  have hperm : (sortedSet items).Perm (sortedSet items') := by
    refine (List.perm_ext_iff_of_nodup ?_ ?_).mpr fun item => ?_
    · exact (List.perm_insertionSort _ _).nodup_iff.mpr (List.nodup_dedup _)
    · exact (List.perm_insertionSort _ _).nodup_iff.mpr (List.nodup_dedup _)
    · rw [mem_sortedSet, mem_sortedSet, h]
  exact hperm.eq_of_pairwise (fun a b _ _ => le_antisymm) (hsorted items) (hsorted items')

theorem sortedSet_sortedSet_comm (items added added' : List String) :
    sortedSet (sortedSet (items ++ added) ++ added') = sortedSet (sortedSet (items ++ added') ++ added) := by
  refine sortedSet_congr fun item => ?_
  simp only [List.mem_append, mem_sortedSet, or_right_comm]

theorem sortedSet_sortedSet_self (items added : List String) :
    sortedSet (sortedSet (items ++ added) ++ added) = sortedSet (items ++ added) := by
  refine sortedSet_congr fun item => ?_
  simp only [List.mem_append, mem_sortedSet, or_assoc, or_self]

/-- The tier a narrowing asks for, where it asks for one. -/
def requestedTier (host : Host) (requested : Json) : Option EnforcementTier :=
  if truthy requested ∧ (tierStrength.lookup (pyStr host requested)).isSome then
    some (tierLiteral host (.str (pyStr host requested)))
  else none

def stronger (tier : EnforcementTier) : Option EnforcementTier → EnforcementTier
  | none => tier
  | some requested => if tier.strength < requested.strength then tier else requested

theorem EnforcementTier.strength_injective : Function.Injective EnforcementTier.strength := by
  intro a b h
  cases a <;> cases b <;> first | rfl | cases h

theorem tierLiteral_value (tier : EnforcementTier) :
    tierStrength.lookup tier.value = some tier.strength ∧ tierLiteral host (.str tier.value) = tier := by
  have hlookup : tierStrength.lookup tier.value = some tier.strength := by cases tier <;> decide
  exact ⟨hlookup, EnforcementTier.strength_injective (tierLiteral_strength host hlookup)⟩

theorem narrowedTier_eq (tier : EnforcementTier) (requested : Json) :
    narrowedTier host tier requested = stronger tier (requestedTier host requested) := by
  unfold narrowedTier requestedTier Json.or
  by_cases htruthy : truthy requested = true
  · simp only [htruthy, if_true, true_and]
    cases hstrength : tierStrength.lookup (pyStr host requested) with
    | none => simp [stronger]
    | some strength => simp [stronger, tierLiteral_strength host hstrength]
  · obtain ⟨hlookup, hliteral⟩ := @tierLiteral_value host tier
    simp only [htruthy, Bool.false_eq_true, if_false, false_and, stronger, pyStr, hlookup, lt_irrefl, hliteral]

theorem strength_stronger (tier : EnforcementTier) (requested : Option EnforcementTier) :
    (stronger tier requested).strength = min tier.strength ((requested.map EnforcementTier.strength).getD tier.strength) := by
  cases requested with
  | none => simp [stronger]
  | some requested =>
    simp only [stronger, Option.map_some, Option.getD_some]
    split_ifs with h
    · rw [min_eq_left h.le]
    · rw [min_eq_right (not_lt.mp h)]

theorem stronger_comm (tier : EnforcementTier) (a b : Option EnforcementTier) :
    stronger (stronger tier a) b = stronger (stronger tier b) a := by
  apply EnforcementTier.strength_injective
  simp only [strength_stronger]
  cases a <;> cases b <;> simp [min_right_comm]

theorem stronger_self (tier : EnforcementTier) (a : Option EnforcementTier) :
    stronger (stronger tier a) a = stronger tier a := by
  apply EnforcementTier.strength_injective
  simp only [strength_stronger]
  cases a <;> simp

theorem lowered_comm (cap : Int) (a b : Json) :
    lowered host (lowered host cap a) b = lowered host (lowered host cap b) a := by
  unfold lowered
  cases capOf host a <;> cases capOf host b <;> simp [min_right_comm]

theorem lowered_self (cap : Int) (a : Json) : lowered host (lowered host cap a) a = lowered host cap a := by
  unfold lowered
  cases capOf host a <;> simp

theorem earlier_instant (expiresAt : Datetime) (requested : Option Datetime) :
    (earlier expiresAt requested).instant = min expiresAt.instant ((requested.map (·.instant)).getD expiresAt.instant) := by
  cases requested with
  | none => simp [earlier]
  | some requested =>
    simp only [earlier, Option.map_some, Option.getD_some]
    split_ifs with h
    · rw [min_eq_right h.le]
    · rw [min_eq_left (not_lt.mp h)]

/-- A readable expiry is on the charter's clock. -/
theorem Readable.aware {aware : Bool} {narrowing : Payload} (h : Readable host aware narrowing) {expiresAt : Datetime}
    (hclock : expiresAt.aware = aware) : (earlier expiresAt (expiryOf host (narrowing.get "expires_at"))).aware = aware := by
  obtain hnull | ⟨at', hat, haware⟩ := h.expiry
  · rw [hnull]
    exact hclock
  have hexpiry : expiryOf host (narrowing.get "expires_at") = none ∨ expiryOf host (narrowing.get "expires_at") = some at' := by
    unfold expiryOf
    split
    · exact Or.inl rfl
    · exact Or.inr hat
  obtain hexpiry | hexpiry := hexpiry
  · rw [hexpiry]
    exact hclock
  · rw [hexpiry, earlier]
    split_ifs
    · exact haware
    · exact hclock

theorem Datetime.ext_of {a b : Datetime} (hinstant : a.instant = b.instant) (haware : a.aware = b.aware) : a = b := by
  cases a
  cases b
  cases hinstant
  cases haware
  rfl

section Narrowed
variable {charter : ResolvedCharter} {a b : Payload} (ha : Readable host charter.expiresAt.aware a)
  (hb : Readable host charter.expiresAt.aware b)
include ha

theorem narrowed_aware : (charter.narrowed host a).expiresAt.aware = charter.expiresAt.aware := ha.aware rfl

theorem narrowed_self : (charter.narrowed host a).narrowed host a = charter.narrowed host a := by
  have hexpiry : earlier (earlier charter.expiresAt (expiryOf host (a.get "expires_at"))) (expiryOf host (a.get "expires_at")) =
      earlier charter.expiresAt (expiryOf host (a.get "expires_at")) := by
    refine Datetime.ext_of ?_ ((ha.aware (ha.aware rfl)).trans (ha.aware rfl).symm)
    simp only [earlier_instant]
    cases expiryOf host (a.get "expires_at") <;> simp
  simp only [ResolvedCharter.narrowed, loweredCaps, narrowedTier_eq, stronger_self, List.filter_filter, Bool.and_self,
    sortedSet_sortedSet_self, sdiff_idem, lowered_self, hexpiry]
  split_ifs <;> rfl

include hb

theorem narrowed_comm : (charter.narrowed host a).narrowed host b = (charter.narrowed host b).narrowed host a := by
  have hexpiry : earlier (earlier charter.expiresAt (expiryOf host (a.get "expires_at"))) (expiryOf host (b.get "expires_at")) =
      earlier (earlier charter.expiresAt (expiryOf host (b.get "expires_at"))) (expiryOf host (a.get "expires_at")) := by
    refine Datetime.ext_of ?_ ((hb.aware (ha.aware rfl)).trans (ha.aware (hb.aware rfl)).symm)
    simp only [earlier_instant]
    cases expiryOf host (a.get "expires_at") <;> cases expiryOf host (b.get "expires_at") <;> simp [min_right_comm]
  simp only [ResolvedCharter.narrowed, loweredCaps, narrowedTier_eq]
  rw [hexpiry, stronger_comm, List.filter_filter, List.filter_filter,
    sortedSet_sortedSet_comm charter.protectedWritePrefixes, sortedSet_sortedSet_comm charter.deniedReadPaths,
    sdiff_right_comm, lowered_comm charter.caps.maxAttempts, lowered_comm charter.caps.maxConcurrentDispatches,
    lowered_comm charter.caps.maxWallSeconds, lowered_comm charter.caps.budgetMinorUnits]
  simp only [Bool.and_comm]
  split_ifs <;> rfl

end Narrowed

theorem narrowCharter_toOption_eq_some_iff {charter after : ResolvedCharter} {narrowing : Payload} :
    (narrowCharter host charter narrowing).toOption = some after ↔
      Readable host charter.expiresAt.aware narrowing ∧ after = charter.narrowed host narrowing := by
  rw [← narrowCharter_ok_iff]
  cases narrowCharter host charter narrowing <;> simp [Except.toOption]

/-- Two narrowings in a row: both are readable, and the second applies to what the first left. -/
theorem narrowCharter_bind_eq_some_iff {charter after : ResolvedCharter} {a b : Payload} :
    (narrowCharter host charter a).toOption.bind (fun charter => (narrowCharter host charter b).toOption) = some after ↔
      Readable host charter.expiresAt.aware a ∧ Readable host charter.expiresAt.aware b ∧
        after = (charter.narrowed host a).narrowed host b := by
  simp only [Option.bind_eq_some_iff, narrowCharter_toOption_eq_some_iff]
  constructor
  · rintro ⟨_, ⟨ha, rfl⟩, hb, rfl⟩
    rw [narrowed_aware ha] at hb
    exact ⟨ha, hb, rfl⟩
  · rintro ⟨ha, hb, rfl⟩
    exact ⟨_, ⟨ha, rfl⟩, by rwa [narrowed_aware ha], rfl⟩

/-- Narrowings commute, and one that was applied changes nothing when it is applied again. -/
theorem narrowings_order_free : OrderFree fun charter narrowing => (narrowCharter host charter narrowing).toOption where
  comm charter a b := by
    refine Option.ext fun after => ?_
    simp only [narrowCharter_bind_eq_some_iff]
    constructor
    · rintro ⟨ha, hb, rfl⟩
      exact ⟨hb, ha, narrowed_comm ha hb⟩
    · rintro ⟨hb, ha, rfl⟩
      exact ⟨ha, hb, narrowed_comm hb ha⟩
  idem charter a := by
    refine Option.ext fun after => ?_
    simp only [narrowCharter_bind_eq_some_iff, narrowCharter_toOption_eq_some_iff]
    constructor
    · rintro ⟨ha, -, rfl⟩
      exact ⟨ha, narrowed_self ha⟩
    · rintro ⟨ha, rfl⟩
      exact ⟨ha, ha, (narrowed_self ha).symm⟩

/-! ### Rows -/

variable (host) in
/-- The body that a narrowing row is read as, where it has one. -/
def narrowingBody (row : Payload) : Option Payload :=
  match ((row.get "narrowing_json").or (row.get "narrowing")).or (.obj []) with
  | .str text => some (jsonObj host text)
  | .obj fields => some fields
  | _ => none

theorem applyNarrowing_toOption (charter : ResolvedCharter) (row : Payload) :
    (applyNarrowing host charter row).toOption =
      (narrowingBody host row).bind fun body => (narrowCharter host charter body).toOption := by
  unfold applyNarrowing narrowingBody
  cases ((row.get "narrowing_json").or (row.get "narrowing")).or (.obj []) <;> rfl

theorem narrowingRows_order_free : OrderFree fun charter row => (applyNarrowing host charter row).toOption where
  comm charter a b := by
    simp only [applyNarrowing_toOption]
    cases narrowingBody host a with
    | none => cases narrowingBody host b <;> simp
    | some a =>
      cases narrowingBody host b with
      | none => simp
      | some b => exact narrowings_order_free.comm charter a b
  idem charter a := by
    simp only [applyNarrowing_toOption]
    cases narrowingBody host a with
    | none => rfl
    | some a => exact narrowings_order_free.idem charter a

/-- Narrowings folded in another order, or some of them more than once, leave the same charter; where they come
from rows it names the same narrowings, and each as often where only the order is another. -/
theorem narrowings_fold_alike (host : Host) (charter narrowed : ResolvedCharter) :
    (∀ narrowings narrowings' : List Payload, (∀ narrowing, narrowing ∈ narrowings ↔ narrowing ∈ narrowings') →
      narrowings.foldlM (narrowCharter host) charter = .ok narrowed →
        narrowings'.foldlM (narrowCharter host) charter = .ok narrowed) ∧
    ∀ rows rows' : List Payload, (∀ row, row ∈ rows ↔ row ∈ rows') → applyNarrowings host charter rows = .ok narrowed →
      ∃ ids, applyNarrowings host charter rows' = .ok {narrowed with narrowingIds := ids} ∧
        (∀ id, id ∈ ids ↔ id ∈ narrowed.narrowingIds) ∧ (rows.Perm rows' → ids.Perm narrowed.narrowingIds) := by
  refine ⟨fun narrowings narrowings' hsame hfold => narrowings_order_free.foldlM_ok_congr hsame hfold,
    fun rows rows' hsame happly => ?_⟩
  obtain ⟨folded, hfold, happly⟩ := bind_ok happly
  have hfold' := narrowingRows_order_free.foldlM_ok_congr hsame hfold
  have hempty : rows'.isEmpty = rows.isEmpty := by
    rw [Bool.eq_iff_iff, List.isEmpty_iff, List.isEmpty_iff, List.eq_nil_iff_forall_not_mem, List.eq_nil_iff_forall_not_mem]
    simp only [hsame]
  simp only [applyNarrowings, hfold', hempty, bind, Except.bind]
  split_ifs at happly ⊢ with hnone
  · cases happly
    exact ⟨_, rfl, fun id => Iff.rfl, fun _ => .refl _⟩
  · cases happly
    refine ⟨_, rfl, fun id => ?_, fun hperm => (hperm.map _).symm⟩
    simp only [List.mem_map, hsame]

def fewerAttempts : Payload := [("max_attempts", .int 2)]

def withoutSource : Payload := [("remove_roots", .arr [.str "src/"])]

theorem narrowings_fold_alike_twice : ∃ narrowed,
    [fewerAttempts, withoutSource].foldlM (narrowCharter (asciiHost [] [])) (protectedSource "tests/") = .ok narrowed ∧
      [withoutSource, fewerAttempts, withoutSource].foldlM (narrowCharter (asciiHost [] [])) (protectedSource "tests/") =
        .ok narrowed := by
  cases hfold : [fewerAttempts, withoutSource].foldlM (narrowCharter (asciiHost [] [])) (protectedSource "tests/") with
  | error e =>
    have hok : ([fewerAttempts, withoutSource].foldlM (narrowCharter (asciiHost [] []))
      (protectedSource "tests/")).toOption.isSome = true := by decide
    rw [hfold] at hok
    cases hok
  | ok narrowed =>
    refine ⟨narrowed, rfl, (narrowings_fold_alike _ _ narrowed).1 _ _ (fun narrowing => ?_) hfold⟩
    simp only [List.mem_cons, List.not_mem_nil, or_false]
    tauto

end OpenTimeline.Charter
