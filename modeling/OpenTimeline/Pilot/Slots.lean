import OpenTimeline.Pilot.Enrolment

/-! The slots of a stratum.

Whatever the order of the calls, the randomised episodes of a stratum are the allocations of
its slots up to the counter, one for each and in their order (`allocated_reachable`). What
the allocator gives the slots of a block is thus what the stratum's episodes were given. -/
namespace OpenTimeline.Pilot
open Library

variable {host : PilotHost} {allocationSalt : String} {db db' : PilotDatabase}

/-! ### One enrolment -/

namespace PilotDatabase

/-- The slots of a stratum that have been taken. -/
def nextSlot (db : PilotDatabase) (stratumId : String) : Nat := (db.strata.find stratumId).elim 0 (·.nextSlot)

/-- The randomised episodes of a stratum, in the order of their rows. -/
def randomized (db : PilotDatabase) (stratumId : String) : List EpisodeRow :=
  db.episodes.rows.filter fun row => row.allocation.stratumId = stratumId && row.allocation.allocationKind = .randomized

/-- A row of a new key that can be read back was appended. -/
theorem insertOrIgnore_spec {row written : EpisodeRow} (hnew : db.loadEpisodeByKey row.identity = none)
    (hwritten : (db.insertOrIgnore row).loadEpisodeByKey row.identity = some written) :
    written = row ∧ (db.insertOrIgnore row).episodes.rows = db.episodes.rows ++ [row] ∧
      (db.insertOrIgnore row).strata = db.strata := by
  unfold insertOrIgnore at hwritten ⊢
  split_ifs at hwritten ⊢ with htaken
  · rw [hnew] at hwritten
    cases hwritten
  · refine ⟨?_, rfl, rfl⟩
    unfold loadEpisodeByKey at hnew hwritten
    rw [List.find?_append, hnew, Option.none_or, List.find?_singleton, if_pos (by simp)] at hwritten
    exact (Option.some.inj hwritten).symm

end PilotDatabase

/-- The slot taken is the counter's, and no other stratum is counted. -/
theorem takeStratumSlot_ok {strata strata' : Table StratumRow.stratumId} {row : StratumRow} {slot : Nat}
    (hfirst : row.nextSlot = 1) (h : takeStratumSlot strata row = .ok (strata', slot)) :
    slot = (strata.find row.stratumId).elim 0 (·.nextSlot) ∧
      ∀ id, (strata'.find id).elim 0 (·.nextSlot) =
        (strata.find id).elim 0 (·.nextSlot) + if id = row.stratumId then 1 else 0 := by
  unfold takeStratumSlot at h
  cases hinsert : strata.insert row with
  | some inserted =>
    obtain ⟨hfresh, hfind⟩ := Table.find_insert hinsert
    simp only [hinsert, hfind, if_pos] at h
    cases h
    refine ⟨by simp [hfresh, hfirst], fun id => ?_⟩
    rw [hfind]
    split_ifs with hid
    · simp [hid, hfresh, hfirst]
    · rfl
  | none =>
    simp only [hinsert, Table.find_updateWhere] at h
    split at h
    · cases h
    rename_i taken htaken
    cases h
    obtain ⟨old, hold, rfl⟩ := Option.map_eq_some_iff.mp htaken
    have hkey := (Table.find_eq_some_iff.mp hold).2
    refine ⟨by simp [hold, hkey], fun id => ?_⟩
    rw [Table.find_updateWhere]
    cases hid : strata.find id with
    | none =>
      have hother : id ≠ row.stratumId := by
        rintro rfl
        rw [hold] at hid
        cases hid
      simp [hother]
    | some found =>
      have hfound := (Table.find_eq_some_iff.mp hid).2
      by_cases hsame : id = row.stratumId
      · simp [hfound, hsame]
      · simp [hfound, hsame]

theorem validateDecisionFamily_ok {value family : String} (h : validateDecisionFamily value = .ok family) :
    family ∈ pilotFamilies := by
  unfold validateDecisionFamily at h
  split_ifs at h with hknown
  cases h
  exact hknown

/-- A family that has been checked passes again as it is. -/
theorem validateDecisionFamily_family {family : String} (h : family ∈ pilotFamilies) :
    validateDecisionFamily family = .ok family := by
  have hstrip : ∀ family ∈ pilotFamilies, strip family = family := by decide
  rw [validateDecisionFamily, hstrip family h, if_pos h]

variable {call : EnrolCall} {family : String}

/-- A repeat is answered with what there is. -/
theorem resolveEnrolment_existing (hfamily : family ∈ pilotFamilies) (existing : ArmAllocation) (nextSlot : Option Nat)
    (humanBaselineEnabled : Bool) :
    ∃ outcome, resolveEnrolment host (call.request family) (some existing) nextSlot allocationSalt
      humanBaselineEnabled = .ok outcome ∧ outcome.reused = true := by
  unfold resolveEnrolment
  rw [show (call.request family).decisionFamily = family from rfl, validateDecisionFamily_family hfamily]
  exact ⟨_, rfl, rfl⟩

/-- A first enrolment is an election, without a slot, or is given the arm of the slot. -/
theorem resolveEnrolment_new (hfamily : family ∈ pilotFamilies) {nextSlot : Option Nat} {outcome : EnrolmentOutcome}
    (h : resolveEnrolment host (call.request family) none nextSlot allocationSalt call.humanBaselineEnabled =
      .ok outcome) :
    outcome.episodeKey = call.episodeKey host ∧
      ((call.electArm.isSome ∧ outcome.allocation.allocationKind = .elected) ∨
        call.electArm = none ∧ ∃ slot, nextSlot = some slot ∧
          outcome.allocation = allocateArm host (call.stratumId host family) slot allocationSalt) := by
  unfold resolveEnrolment at h
  rw [show (call.request family).decisionFamily = family from rfl, validateDecisionFamily_family hfamily] at h
  obtain ⟨_, hchecked, h⟩ := bind_ok h
  cases hchecked
  cases helect : call.electArm with
  | some arm =>
    simp only [EnrolCall.request, helect] at h
    split_ifs at h
    obtain ⟨allocation, hallocation, h⟩ := bind_ok h
    cases h
    unfold electArm at hallocation
    split_ifs at hallocation
    cases hallocation
    exact ⟨rfl, Or.inl ⟨rfl, rfl⟩⟩
  | none =>
    simp only [EnrolCall.request, helect] at h
    cases nextSlot with
    | none => cases h
    | some slot =>
      cases h
      exact ⟨rfl, Or.inr ⟨rfl, slot, rfl, rfl⟩⟩

/-- What a first enrolment writes: its episode, and the count of its stratum unless it is an
election. -/
inductive Enrols (host : PilotHost) (allocationSalt : String) (call : EnrolCall) (family : String)
    (db db' : PilotDatabase) (row : EpisodeRow) : Prop
  | elected (helect : call.electArm.isSome) (hkind : row.allocation.allocationKind = .elected)
    (hcount : ∀ id, db'.nextSlot id = db.nextSlot id)
  | drawn (helect : call.electArm = none) (hallocation : row.allocation =
      allocateArm host (call.stratumId host family) (db.nextSlot (call.stratumId host family)) allocationSalt)
    (hcount : ∀ id, db'.nextSlot id = db.nextSlot id + if id = call.stratumId host family then 1 else 0)

theorem passing_ok {α : Type} {x : Except PyError α} {a : α} (h : passing x = .ok a) : x = .ok a := by
  cases x with
  | error e => cases h
  | ok b =>
    cases h
    rfl

/-- A slot is taken by a call that elects nothing. -/
theorem takeSlot_ok {taken : PilotDatabase} {nextSlot : Option Nat}
    (h : takeSlot host allocationSalt call family db = .ok (taken, nextSlot)) :
    taken.episodes = db.episodes ∧
      ((call.electArm.isSome ∧ ∀ id, taken.nextSlot id = db.nextSlot id) ∨
        (call.electArm = none ∧ nextSlot = some (db.nextSlot (call.stratumId host family)) ∧
          ∀ id, taken.nextSlot id = db.nextSlot id + if id = call.stratumId host family then 1 else 0)) := by
  unfold takeSlot at h
  cases helect : call.electArm with
  | some arm =>
    simp only [helect] at h
    cases h
    exact ⟨rfl, Or.inl ⟨rfl, fun _ => rfl⟩⟩
  | none =>
    simp only [helect] at h
    obtain ⟨⟨strata, slot⟩, hslot, h⟩ := bind_ok h
    cases h
    obtain ⟨rfl, hcount⟩ := takeStratumSlot_ok rfl hslot
    exact ⟨rfl, Or.inr ⟨rfl, rfl, hcount⟩⟩

/-- An enrolment finds its episode, or appends it. -/
theorem enrollSection_ok (hfamily : family ∈ pilotFamilies) {row : EpisodeRow} {reused : Bool}
    (h : enrollSection host allocationSalt call family db = .ok (db', row, reused)) :
    (db' = db ∧ db.loadEpisodeByKey (call.identity host) = some row) ∨
      (db.loadEpisodeByKey (call.identity host) = none ∧ db'.episodes.rows = db.episodes.rows ++ [row] ∧
        Enrols host allocationSalt call family db db' row) := by
  unfold enrollSection at h
  cases hload : db.loadEpisodeByKey (call.identity host) with
  | some existing =>
    simp only [hload] at h
    obtain ⟨outcome, _, h⟩ := bind_ok h
    cases h
    exact Or.inl ⟨rfl, rfl⟩
  | none =>
    simp only [hload] at h
    obtain ⟨⟨taken, nextSlot⟩, htaken, h⟩ := bind_ok h
    obtain ⟨outcome, houtcome, h⟩ := bind_ok h
    obtain ⟨hepisodes, hslot⟩ := takeSlot_ok htaken
    obtain ⟨hkey, hallocation⟩ := resolveEnrolment_new hfamily (passing_ok houtcome)
    split at h
    · cases h
    rename_i written hwritten
    cases h
    -- the row is of the call's key, which no episode had
    have hidentity : (call.row family outcome).identity = call.identity host := by
      rw [EpisodeRow.identity, EnrolCall.identity, ← hkey]
      rfl
    have hnew : taken.loadEpisodeByKey (call.row family outcome).identity = none := by
      rw [hidentity, PilotDatabase.loadEpisodeByKey, hepisodes]
      exact hload
    obtain ⟨rfl, hrows, hstrata⟩ := PilotDatabase.insertOrIgnore_spec hnew (hidentity.symm ▸ hwritten)
    have hcounts : ∀ id, (taken.insertOrIgnore (call.row family outcome)).nextSlot id = taken.nextSlot id := by
      intro id
      rw [PilotDatabase.nextSlot, hstrata]
      rfl
    refine Or.inr ⟨rfl, by rw [hrows, hepisodes], ?_⟩
    rcases hslot with ⟨helect, hcount⟩ | ⟨helect, hnext, hcount⟩
    · rcases hallocation with ⟨_, hkind⟩ | ⟨hnone, _⟩
      · exact .elected helect hkind fun id => (hcounts id).trans (hcount id)
      · rw [hnone] at helect
        cases helect
    · rcases hallocation with ⟨hsome, _⟩ | ⟨_, slot, hslot, hdrawn⟩
      · rw [helect] at hsome
        cases hsome
      · obtain rfl := Option.some.inj (hnext.symm.trans hslot)
        exact .drawn helect hdrawn fun id => (hcounts id).trans (hcount id)

/-! ### Steps -/

/-- What a call does: it may set columns that are not of the allocation, or it enrols. -/
inductive PilotStep (host : PilotHost) (allocationSalt : String) (db db' : PilotDatabase) : Prop
  | kept (f : EpisodeRow → EpisodeRow) (hrows : db'.episodes.rows = db.episodes.rows.map f)
    (hsame : ∀ row, (f row).id = row.id ∧ (f row).identity = row.identity ∧ (f row).allocation = row.allocation)
    (hcount : ∀ id, db'.nextSlot id = db.nextSlot id)
  | enrolled (call : EnrolCall) (family : String) (row : EpisodeRow)
    (hrows : db'.episodes.rows = db.episodes.rows ++ [row])
    (henrols : Enrols host allocationSalt call family db db' row)

theorem enrollEpisode_cases (call : EnrolCall) :
    (enrollEpisode host allocationSalt call db).1 = db ∨ ∃ family row,
      (enrollEpisode host allocationSalt call db).1.episodes.rows = db.episodes.rows ++ [row] ∧
        Enrols host allocationSalt call family db (enrollEpisode host allocationSalt call db).1 row := by
  unfold enrollEpisode
  split
  · exact Or.inl rfl
  rename_i family hfamily
  unfold runCasSection
  split
  · rename_i enrolled result hsection
    rcases enrollSection_ok (validateDecisionFamily_ok hfamily) hsection with ⟨rfl, _⟩ | ⟨_, hrows, henrols⟩
    · exact Or.inl rfl
    · exact Or.inr ⟨family, _, hrows, henrols⟩
  · exact Or.inl rfl

theorem next_spec {action : PilotAction} (h : (pilotSystem host allocationSalt).next db action = some db') :
    PilotStep host allocationSalt db db' := by
  cases action with
  | enroll call =>
    obtain rfl := Option.some.inj h
    rcases @enrollEpisode_cases host allocationSalt db call with hsame | ⟨family, row, hrows, henrols⟩
    · rw [hsame]
      exact .kept id (List.map_id _).symm (fun _ => ⟨rfl, rfl, rfl⟩) fun _ => rfl
    · exact .enrolled call family row hrows henrols
  | reveal episodeIds now =>
    obtain rfl := Option.some.inj h
    refine .kept (fun row => if row.id ∈ episodeIds && row.revealedAt.isNone then row.reveal now else row) rfl
      (fun row => ?_) fun _ => rfl
    split_ifs
    · exact ⟨rfl, rfl, rfl⟩
    · exact ⟨rfl, rfl, rfl⟩

/-- An episode keeps its key and its allocation. -/
theorem episode_step {action : PilotAction} (h : (pilotSystem host allocationSalt).next db action = some db')
    {row : EpisodeRow} (hrow : row ∈ db.episodes.rows) :
    ∃ row' ∈ db'.episodes.rows, row'.id = row.id ∧ row'.identity = row.identity ∧ row'.allocation = row.allocation := by
  cases next_spec h with
  | kept f hrows hsame hcount =>
    rw [hrows]
    exact ⟨f row, List.mem_map_of_mem hrow, hsame row⟩
  | enrolled call family fresh hrows henrols =>
    rw [hrows]
    exact ⟨row, List.mem_append_left _ hrow, rfl, rfl, rfl⟩

theorem episode_run {actions : List PilotAction} (h : (pilotSystem host allocationSalt).run db actions = some db')
    {row : EpisodeRow} (hrow : row ∈ db.episodes.rows) :
    ∃ row' ∈ db'.episodes.rows, row'.id = row.id ∧ row'.identity = row.identity ∧ row'.allocation = row.allocation := by
  refine System.run_keeps (I := fun t => ∃ row' ∈ t.episodes.rows, row'.id = row.id ∧ row'.identity = row.identity ∧
    row'.allocation = row.allocation) (fun t action t' hkept hnext => ?_) h ⟨row, hrow, rfl, rfl, rfl⟩
  obtain ⟨kept, hkept, hid, hidentity, hallocation⟩ := hkept
  obtain ⟨row', hrow', hid', hidentity', hallocation'⟩ := episode_step hnext hkept
  exact ⟨row', hrow', hid'.trans hid, hidentity'.trans hidentity, hallocation'.trans hallocation⟩

/-! ### Slots -/

/-- The randomised allocations of a stratum among some. -/
def drawnIn (stratumId : String) (allocations : List ArmAllocation) : List ArmAllocation :=
  allocations.filter fun allocation => allocation.stratumId = stratumId && allocation.allocationKind = .randomized

theorem map_randomized (db : PilotDatabase) (stratumId : String) :
    (db.randomized stratumId).map (·.allocation) = drawnIn stratumId (db.episodes.rows.map (·.allocation)) := by
  rw [drawnIn, List.filter_map]
  rfl

/-- The randomised episodes of each stratum are the allocations of its slots, in order. -/
def Allocated (host : PilotHost) (allocationSalt : String) (db : PilotDatabase) : Prop :=
  ∀ stratumId, drawnIn stratumId (db.episodes.rows.map (·.allocation)) =
    (List.range (db.nextSlot stratumId)).map fun slot => allocateArm host stratumId slot allocationSalt

theorem allocated_step {action : PilotAction} (h : (pilotSystem host allocationSalt).next db action = some db')
    (hallocated : Allocated host allocationSalt db) : Allocated host allocationSalt db' := by
  intro stratumId
  cases next_spec h with
  | kept f hrows hsame hcount =>
    have hallocations : db'.episodes.rows.map (·.allocation) = db.episodes.rows.map (·.allocation) := by
      rw [hrows, List.map_map]
      exact List.map_congr_left fun row _ => (hsame row).2.2
    rw [hallocations, hcount, hallocated]
  | enrolled call family fresh hrows henrols =>
    rw [hrows, List.map_append, List.map_singleton, drawnIn, List.filter_append, ← drawnIn, hallocated]
    cases henrols with
    | elected helect hkind hcount =>
      simp [hcount, hkind]
    | drawn helect hallocation hcount =>
      rw [hallocation, hcount]
      by_cases hsame : stratumId = call.stratumId host family
      · subst hsame
        simp [List.range_succ, allocateArm]
      · have hother : ¬ call.stratumId host family = stratumId := fun h => hsame h.symm
        simp [allocateArm, hsame, hother]

theorem allocated_reachable (h : (pilotSystem host allocationSalt).Reachable db) :
    Allocated host allocationSalt db := by
  refine System.Reachable.invariant (I := Allocated host allocationSalt) (fun db hinit stratumId => ?_)
    (fun db action db' _ hallocated hnext => allocated_step hnext hallocated) h
  obtain ⟨hstrata, hepisodes⟩ := hinit
  simp [PilotDatabase.nextSlot, Table.find, hstrata, hepisodes, drawnIn]

/-- The slots of the randomised episodes are the slots up to the counter. -/
theorem slots_of_allocated (hallocated : Allocated host allocationSalt db) (stratumId : String) :
    (db.randomized stratumId).map (·.allocation.slot) =
      (List.range (db.nextSlot stratumId)).map fun slot : Nat => (slot : Int) := by
  have hslots := congrArg (List.map (·.slot)) ((map_randomized db stratumId).trans (hallocated stratumId))
  rw [List.map_map, List.map_map] at hslots
  exact hslots

/-- The arms of the first episodes are those of the first slots. -/
theorem arms_of_allocated (hallocated : Allocated host allocationSalt db) (stratumId : String) (n : Nat) :
    ((db.randomized stratumId).take n).map (·.allocation.armId) =
      initial (slotArm host stratumId allocationSalt) (min n (db.nextSlot stratumId)) := by
  have harms := congrArg (List.map (·.armId)) ((map_randomized db stratumId).trans (hallocated stratumId))
  rw [List.map_map, List.map_map] at harms
  rw [List.map_take, initial, ← List.take_range, List.map_take]
  exact congrArg (List.take n) harms

theorem allocateArm_armId (stratumId : String) (slot : Nat) (salt : String) :
    (allocateArm host stratumId slot salt).armId = slotArm host stratumId salt slot := rfl

/-- The arms of a complete block. -/
theorem block_of_allocated (hallocated : Allocated host allocationSalt db) {stratumId : String} {ordinal : Nat}
    (hcomplete : (ordinal + 1) * randomizedArms.length ≤ db.nextSlot stratumId) :
    ((db.randomized stratumId).filter fun row => row.allocation.blockOrdinal = (ordinal : Int)).map
        (·.allocation.armId) =
      blockPermutation host stratumId ordinal allocationSalt := by
  have hblock : ((db.randomized stratumId).filter fun row => row.allocation.blockOrdinal = (ordinal : Int)).map
        (·.allocation.armId) =
      (((db.randomized stratumId).map (·.allocation)).filter fun allocation =>
        allocation.blockOrdinal = (ordinal : Int)).map (·.armId) := by
    rw [List.filter_map, List.map_map]
    rfl
  have hslots : ((List.range (db.nextSlot stratumId)).filter
      ((fun allocation => decide (allocation.blockOrdinal = (ordinal : Int))) ∘
        fun slot => allocateArm host stratumId slot allocationSalt)) =
      (List.range (db.nextSlot stratumId)).filter fun slot => slot / randomizedArms.length = ordinal := by
    refine List.filter_congr fun slot _ => ?_
    simp only [Function.comp_apply, allocateArm, Nat.cast_inj]
  rw [hblock, map_randomized, hallocated, List.filter_map, hslots, filter_range_div (by decide) hcomplete, List.map_map,
    List.map_map, ← block_slotArm, block]
  refine List.map_congr_left fun position _ => ?_
  rw [Function.comp_apply, Function.comp_apply, allocateArm_armId]

/-! ### Repeats -/

theorem loadEpisodeByKey_of_mem {row : EpisodeRow} (hrow : row ∈ db.episodes.rows) :
    db.loadEpisodeByKey row.identity = some row := by
  obtain ⟨found, hfound⟩ : ∃ found, db.loadEpisodeByKey row.identity = some found :=
    Option.isSome_iff_exists.mp (List.find?_isSome.mpr ⟨row, hrow, by simp⟩)
  have hmem : found ∈ db.episodes.rows := List.mem_of_find?_eq_some hfound
  have hidentity : found.identity = row.identity := by simpa using List.find?_some hfound
  rw [hfound, List.inj_on_of_nodup_map db.unique hmem hrow hidentity]

/-- Enrolled again, an episode is returned and nothing is written. -/
theorem enrollEpisode_repeat {row : EpisodeRow} (hrow : row ∈ db.episodes.rows) {call : EnrolCall} {family : String}
    (hfamily : validateDecisionFamily call.decisionFamily = .ok family) (hcall : call.identity host = row.identity) :
    enrollEpisode host allocationSalt call db = (db, .ok (row, true)) := by
  obtain ⟨outcome, houtcome, hreused⟩ := @resolveEnrolment_existing host allocationSalt call family
    (validateDecisionFamily_ok hfamily) row.allocation none call.humanBaselineEnabled
  unfold enrollEpisode runCasSection enrollSection
  rw [hfamily, hcall, loadEpisodeByKey_of_mem hrow]
  simp only [houtcome, passing]
  rw [← hreused]
  rfl

/-- An election counts nothing and draws nothing. -/
theorem enrollEpisode_election {call : EnrolCall} (helect : call.electArm.isSome) (stratumId : String) :
    let db' := (enrollEpisode host allocationSalt call db).1
    db'.nextSlot stratumId = db.nextSlot stratumId ∧ db'.randomized stratumId = db.randomized stratumId := by
  intro db'
  rcases @enrollEpisode_cases host allocationSalt db call with hsame | ⟨family, row, hrows, henrols⟩
  · rw [show db' = db from hsame]
    exact ⟨rfl, rfl⟩
  cases henrols with
  | elected _ hkind hcount =>
    refine ⟨hcount stratumId, ?_⟩
    rw [PilotDatabase.randomized, hrows, List.filter_append]
    simp [PilotDatabase.randomized, hkind]
  | drawn hnone _ _ =>
    rw [hnone] at helect
    cases helect

variable (host allocationSalt)

/-- In any interleaving: the randomised episodes of a stratum have the slots from zero up to
the counter, in order and once each; among the first of them, however many, no arm is met two
times more than another, and each complete block has every arm once. An episode enrolled
again, in whatever later state, is answered with its row, its allocation the original one, and
nothing is written. An election leaves the counters and the randomised episodes as they are. -/
theorem pilot_enrolment (h : (pilotSystem host allocationSalt).Reachable db) :
    (∀ stratumId,
      (db.randomized stratumId).map (·.allocation.slot) =
        (List.range (db.nextSlot stratumId)).map (fun slot : Nat => (slot : Int)) ∧
      (∀ n, ∀ arm ∈ randomizedArms, ∀ arm' ∈ randomizedArms,
        (((db.randomized stratumId).take n).map (·.allocation.armId)).count arm ≤
          (((db.randomized stratumId).take n).map (·.allocation.armId)).count arm' + 1) ∧
      ∀ ordinal : Nat, (ordinal + 1) * randomizedArms.length ≤ db.nextSlot stratumId →
        (((db.randomized stratumId).filter fun row => row.allocation.blockOrdinal = (ordinal : Int)).map
          (·.allocation.armId)).Perm randomizedArms) ∧
    (∀ row ∈ db.episodes.rows, ∀ actions db', (pilotSystem host allocationSalt).run db actions = some db' →
      ∀ call family, validateDecisionFamily call.decisionFamily = .ok family → call.identity host = row.identity →
        ∃ row', enrollEpisode host allocationSalt call db' = (db', .ok (row', true)) ∧ row'.id = row.id ∧
          row'.allocation = row.allocation) ∧
    ∀ call, call.electArm.isSome → ∀ stratumId,
      let db' := (enrollEpisode host allocationSalt call db).1
      db'.nextSlot stratumId = db.nextSlot stratumId ∧ db'.randomized stratumId = db.randomized stratumId := by
  have hallocated := allocated_reachable h
  refine ⟨fun stratumId => ⟨slots_of_allocated hallocated stratumId, ?_, ?_⟩, ?_, ?_⟩
  · intro n arm harm arm' harm'
    rw [arms_of_allocated hallocated]
    exact (blocked_slotArm stratumId allocationSalt).balanced (by decide) harm harm' _
  · intro ordinal hcomplete
    rw [block_of_allocated hallocated hcomplete]
    exact blockPermutation_perm stratumId ordinal allocationSalt
  · intro row hrow actions db' hrun call family hfamily hcall
    obtain ⟨row', hrow', hid, hidentity, hallocation⟩ := episode_run hrun hrow
    exact ⟨row', enrollEpisode_repeat hrow' hfamily (hcall.trans hidentity.symm), hid, hallocation⟩
  · intro call helect stratumId
    exact enrollEpisode_election helect stratumId

def exampleHost : PilotHost := {asciiHost [] [] with hmacHex := fun _ _ => "0"}

/-- An enrolment of the work of a session. -/
def exampleEnrolment (sessionId newId : String) (electArm : Option PilotArm) : EnrolCall where
  workspaceId := "w"
  ownerId := "o"
  subjectUserId := "o"
  agentPrincipal := "a"
  projectId := none
  decisionFamily := "needs_human"
  sessionId
  objectiveHash := ""
  taskId := none
  electArm
  humanBaselineEnabled := true
  thresholdsSha := ""
  now := epoch
  cancelEpoch := 0
  newId

/-- A whole block, with an election and a repeat between its slots. -/
def exampleBlock : Option PilotDatabase :=
  (pilotSystem exampleHost "").run .empty
    [.enroll (exampleEnrolment "r" "x" none), .enroll (exampleEnrolment "s" "y" (some .ownerUnassisted)),
      .enroll (exampleEnrolment "t" "z" none), .enroll (exampleEnrolment "r" "u" none),
      .enroll (exampleEnrolment "v" "v" none)]

theorem pilot_enrolment_block : ∃ db, exampleBlock = some db ∧ db.episodes.rows.map (·.id) = ["x", "y", "z", "v"] ∧
    db.nextSlot (stratumIdFor exampleHost "w" "o" none "needs_human") = 3 ∧
    (((db.randomized (stratumIdFor exampleHost "w" "o" none "needs_human")).filter fun row =>
      row.allocation.blockOrdinal = ((0 : Nat) : Int)).map (·.allocation.armId)).Perm randomizedArms := by
  obtain ⟨db, hdb⟩ := Option.isSome_iff_exists.mp (show exampleBlock.isSome by decide +kernel)
  have hids : exampleBlock.map (fun db => db.episodes.rows.map (·.id)) = some ["x", "y", "z", "v"] := by decide +kernel
  have hslots : exampleBlock.map (fun db => db.nextSlot (stratumIdFor exampleHost "w" "o" none "needs_human")) =
      some 3 := by decide +kernel
  rw [hdb] at hids hslots
  replace hslots : db.nextSlot (stratumIdFor exampleHost "w" "o" none "needs_human") = 3 := Option.some.inj hslots
  have hreachable : (pilotSystem exampleHost "").Reachable db := by
    refine System.Reachable.run (.init ?_) hdb
    exact ⟨rfl, rfl⟩
  refine ⟨db, hdb, Option.some.inj hids, hslots, ((pilot_enrolment exampleHost "" hreachable).1 _).2.2 0 ?_⟩
  rw [hslots]
  decide

end OpenTimeline.Pilot
