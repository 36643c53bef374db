import OpenTimeline.Pilot.ClaimA

/-! The ledger of the claim.

Every episode is counted once: under what it was excluded for, or as closed (`ledger_balanced`). Those closed are
paired by their blocks, where of two episodes of one arm the later stands for both; the allocator gives no arm twice in
a block, so with distinct slots none is lost (`ledger_accounts`). -/
namespace OpenTimeline.Pilot
open Library

variable {host : PilotHost}

/-! ### Episodes of a stratum -/

/-- The episode is recorded with an allocation. -/
structure EpisodeFacts.Records (episode : EpisodeFacts) (allocation : ArmAllocation) : Prop where
  slot : episode.slot = allocation.slot
  armId : episode.armId = allocation.armId
  armClass : episode.armClass = allocation.armClass
  blockOrdinal : episode.blockOrdinal = allocation.blockOrdinal

/-- It is recorded with the allocation of a slot of the stratum; the salt is known by its digest. -/
def EpisodeFacts.IsAllotted (host : PilotHost) (stratumId : String) (saltOf : String → String) (episode : EpisodeFacts) :
    Prop :=
  ∃ slot : Nat, episode.Records (allocateArm host stratumId slot (saltOf episode.allocationSaltSha256))

/-- A stratum's episodes: what was not elected is allotted, and no slot twice. -/
structure OfStratum (host : PilotHost) (stratumId : String) (saltOf : String → String) (episodes : List EpisodeFacts) :
    Prop where
  allotted : ∀ episode ∈ episodes, episode.allocationKind = .randomized → episode.IsAllotted host stratumId saltOf
  slots : ((episodes.filter fun episode => episode.allocationKind = .randomized).map (·.slot)).Nodup

/-! ### Every episode once -/

/-- Elements of three kinds that exclude one another. -/
theorem length_eq_of_three {α : Type} {p q r : α → Bool} {l : List α}
    (h : ∀ a ∈ l, (p a).toNat + (q a).toNat + (r a).toNat = 1) :
    l.length = l.countP p + l.countP q + (l.filter r).length := by
  rw [← List.countP_eq_length_filter]
  induction l with
  | nil => rfl
  | cons a rest ih =>
    have hone := h a List.mem_cons_self
    have hrest := ih fun b hb => h b (List.mem_cons_of_mem _ hb)
    rw [List.length_cons, List.countP_cons, List.countP_cons, List.countP_cons, hrest]
    cases hp : p a <;> cases hq : q a <;> cases hr : r a <;> simp_all <;> omega

/-- Every episode is under one exclusion or closed. -/
theorem ledger_balanced (episodes : List EpisodeFacts) :
    let runtime := episodes.filter (·.isAdmissible)
    let ledger := exclusions episodes runtime
    episodes.length = ledger.elected + ledger.preRegistration + ledger.saltMismatch + ledger.unclosed +
      ledger.adjudicatorNotIndependent + (eligible runtime).length := by
  intro runtime ledger
  have hfirst : episodes.length = ledger.elected + ledger.preRegistration + runtime.length := by
    refine length_eq_of_three fun episode _ => ?_
    unfold EpisodeFacts.isAdmissible
    cases episode.isElected <;> cases episode.isEarly <;> rfl
  have hsalt : runtime.length = ledger.saltMismatch + (inSalt runtime).length := by
    have hsplit := List.length_eq_countP_add_countP (l := runtime)
      fun episode => decide (episode.allocationSaltSha256 ≠ dominantSalt runtime)
    rw [hsplit, inSalt, ← List.countP_eq_length_filter]
    simp [ledger, exclusions]
  have hclosed : (inSalt runtime).length =
      ledger.unclosed + ledger.adjudicatorNotIndependent + (eligible runtime).length := by
    refine length_eq_of_three fun episode _ => ?_
    cases episode.close with
    | none => rfl
    | some close => cases hindependent : close.adjudicationIndependent <;> simp [hindependent]
  omega

/-! ### Blocks -/

/-- No two of them have one arm in one block. -/
def OneToAnArm (closed : List EpisodeFacts) : Prop :=
  (closed.map fun episode => (episode.blockOrdinal, episode.armId)).Nodup

/-- A block as it is grouped, with its arms. -/
def withArms (block : Int × List EpisodeFacts) : Int × List (PilotArm × EpisodeFacts) :=
  (block.1, block.2.map fun episode => (episode.armId, episode))

theorem assign_of_notMem {K V : Type} [DecidableEq K] {k : K} {v : V} {d : List (K × V)} (h : k ∉ d.map Prod.fst) :
    assign k v d = d ++ [(k, v)] := by
  induction d with
  | nil => rfl
  | cons entry rest ih =>
    rw [List.map_cons, List.mem_cons, not_or] at h
    rw [assign, upsert, if_neg (Ne.symm h.1), ← assign, ih h.2, List.cons_append]

theorem upsert_withArms {episode : EpisodeFacts} {blocks : List (Int × List EpisodeFacts)}
    (h : ∀ block ∈ blocks, block.1 = episode.blockOrdinal → ∀ other ∈ block.2, other.armId ≠ episode.armId) :
    upsert episode.blockOrdinal [(episode.armId, episode)] (assign episode.armId episode) (blocks.map withArms) =
      (upsert episode.blockOrdinal [episode] (· ++ [episode]) blocks).map withArms := by
  induction blocks with
  | nil => rfl
  | cons block rest ih =>
    have hrest := ih fun other hother => h other (List.mem_cons_of_mem _ hother)
    unfold upsert
    by_cases hsame : block.1 = episode.blockOrdinal
    · have hnew : episode.armId ∉ (withArms block).2.map Prod.fst := by
        intro hmem
        rw [withArms, List.map_map] at hmem
        obtain ⟨other, hother, harm⟩ := List.mem_map.mp hmem
        exact h block List.mem_cons_self hsame other hother harm
      simp only [List.map_cons, withArms, hsame, if_true] at hnew ⊢
      rw [assign_of_notMem hnew, List.map_append]
      rfl
    · simp only [List.map_cons, withArms, if_neg hsame]
      exact congrArg _ hrest

/-- With an arm once in a block, no episode of a block is lost. -/
theorem byBlock_eq {closed : List EpisodeFacts} (h : OneToAnArm closed) :
    byBlock closed = (groupBy (·.blockOrdinal) closed).map withArms := by
  induction closed using List.reverseRecOn with
  | nil => rfl
  | append_singleton closed episode ih =>
    rw [OneToAnArm, List.map_append, List.nodup_append] at h
    obtain ⟨hclosed, -, hnew⟩ := h
    rw [byBlock, List.foldl_append, ← byBlock, ih hclosed, groupBy_append_singleton]
    refine upsert_withArms fun block hblock hsame other hother harm => ?_
    obtain ⟨hgroup, -⟩ := mem_groupBy_iff.mp (show (block.1, block.2) ∈ _ from hblock)
    rw [hgroup, List.mem_filter, decide_eq_true_eq] at hother
    refine hnew (other.blockOrdinal, other.armId) (List.mem_map_of_mem hother.1) (episode.blockOrdinal, episode.armId)
      (List.mem_singleton_self _) ?_
    rw [hother.2, hsame, harm]

/-- A complete block has as many episodes as there are arms. -/
theorem length_of_isComplete {closed : List EpisodeFacts} (h : OneToAnArm closed)
    (harms : ∀ episode ∈ closed, episode.armId ∈ randomizedArms) {block : Int × List (PilotArm × EpisodeFacts)}
    (hblock : block ∈ byBlock closed) (hcomplete : isComplete block.2) : block.2.length = randomizedArms.length := by
  rw [byBlock_eq h] at hblock
  obtain ⟨⟨ordinal, group⟩, hgroup, rfl⟩ := List.mem_map.mp hblock
  obtain ⟨rfl, -⟩ := mem_groupBy_iff.mp hgroup
  have hkeys : (withArms (ordinal, closed.filter fun episode => episode.blockOrdinal = ordinal)).2.map Prod.fst =
      (closed.filter fun episode => episode.blockOrdinal = ordinal).map (·.armId) := by
    rw [withArms, List.map_map]
    rfl
  have hnodup : ((closed.filter fun episode => episode.blockOrdinal = ordinal).map (·.armId)).Nodup := by
    rw [OneToAnArm] at h
    rw [List.Nodup, List.pairwise_map] at h ⊢
    refine (h.filter _).imp_of_mem fun {a b} ha hb hne harm => hne ?_
    rw [List.mem_filter, decide_eq_true_eq] at ha hb
    rw [ha.2, hb.2, harm]
  have hperm : ((closed.filter fun episode => episode.blockOrdinal = ordinal).map (·.armId)).Perm randomizedArms := by
    refine (List.perm_ext_iff_of_nodup hnodup (by decide)).mpr fun arm => ⟨fun harm => ?_, fun harm => ?_⟩
    · obtain ⟨episode, hepisode, rfl⟩ := List.mem_map.mp harm
      exact harms episode (List.mem_of_mem_filter hepisode)
    · obtain ⟨episode, hepisode⟩ := Option.isSome_iff_exists.mp (List.all_eq_true.mp hcomplete arm harm)
      exact hkeys ▸ List.mem_map_of_mem (f := Prod.fst) ((mem_iff_lookup (hkeys ▸ hnodup)).mpr hepisode)
  rw [← hperm.length_eq, ← hkeys, List.length_map]

theorem mem_completeBlocks {closed : List EpisodeFacts} (hkeys : ((byBlock closed).map Prod.fst).Nodup)
    {block : Int × List (PilotArm × EpisodeFacts)} (hblock : block ∈ byBlock closed) :
    block.1 ∈ completeBlocks closed ↔ isComplete block.2 := by
  rw [completeBlocks, (List.perm_insertionSort _ _).mem_iff, List.mem_map]
  constructor
  · rintro ⟨other, hother, hsame⟩
    rw [List.mem_filter] at hother
    exact List.inj_on_of_nodup_map hkeys hother.1 hblock hsame ▸ hother.2
  · intro hcomplete
    exact ⟨block, List.mem_filter.mpr ⟨hblock, hcomplete⟩, rfl⟩

/-- Those closed are the complete blocks' and those of the others. -/
theorem closed_by_blocks {closed : List EpisodeFacts} (h : OneToAnArm closed)
    (harms : ∀ episode ∈ closed, episode.armId ∈ randomizedArms) :
    closed.length = randomizedArms.length * (completeBlocks closed).length +
      (((byBlock closed).filter fun block => block.1 ∉ completeBlocks closed).map (·.2.length)).sum := by
  have hkeys : ((byBlock closed).map Prod.fst).Nodup := by
    rw [byBlock_eq h, List.map_map]
    exact nodup_groupBy _ _
  have hall : closed.length = ((byBlock closed).map (·.2.length)).sum := by
    rw [byBlock_eq h, List.map_map, ← sum_length_groupBy (·.blockOrdinal) closed]
    refine congrArg List.sum (List.map_congr_left fun block _ => ?_)
    rw [Function.comp_apply, withArms, List.length_map]
  have hincomplete : ((byBlock closed).filter fun block => block.1 ∉ completeBlocks closed) =
      (byBlock closed).filter fun block => !isComplete block.2 := by
    refine List.filter_congr fun block hblock => ?_
    rw [Bool.eq_iff_iff, decide_eq_true_eq, mem_completeBlocks hkeys hblock, Bool.not_eq_true', Bool.not_eq_true]
  have hcomplete : (((byBlock closed).filter fun block => isComplete block.2).map (·.2.length)).sum =
      randomizedArms.length * (completeBlocks closed).length := by
    have hthree : ((byBlock closed).filter fun block => isComplete block.2).map (·.2.length) =
        ((byBlock closed).filter fun block => isComplete block.2).map fun _ => randomizedArms.length := by
      refine List.map_congr_left fun block hblock => ?_
      rw [List.mem_filter] at hblock
      exact length_of_isComplete h harms hblock.1 hblock.2
    rw [hthree, List.map_const', List.sum_replicate, smul_eq_mul, Nat.mul_comm, completeBlocks,
      (List.perm_insertionSort _ _).length_eq, List.length_map]
  rw [hall, hincomplete, ← hcomplete, ← List.sum_append, ← List.map_append]
  exact ((List.filter_append_perm _ _).map _).sum_eq.symm

/-! ### Strata -/

section
variable {stratumId : String} {saltOf : String → String} {episodes : List EpisodeFacts}

theorem randomized_of_isAdmissible {episode : EpisodeFacts} (h : episode.isAdmissible) :
    episode.allocationKind = .randomized := by
  cases hkind : episode.allocationKind with
  | randomized => rfl
  | elected => simp [EpisodeFacts.isAdmissible, EpisodeFacts.isElected, hkind] at h

/-- An arm of a slot is one of those drawn. -/
theorem slotArm_mem (salt : String) (slot : Nat) : slotArm host stratumId salt slot ∈ randomizedArms := by
  have hlength := (@blockPermutation_perm host stratumId (slot / randomizedArms.length) salt).length_eq
  have hposition : slot % randomizedArms.length <
      (blockPermutation host stratumId (slot / randomizedArms.length) salt).length := by
    rw [hlength]
    exact Nat.mod_lt slot (by decide)
  rw [slotArm, List.getD_eq_getElem _ _ hposition]
  exact (@blockPermutation_perm host stratumId (slot / randomizedArms.length) salt).subset (List.getElem_mem _)

/-- What is closed of a stratum has no arm twice in a block: the slots of a block have its arms once. -/
theorem oneToAnArm_eligible (h : OfStratum host stratumId saltOf episodes) :
    OneToAnArm (eligible (episodes.filter (·.isAdmissible))) := by
  have hmem : ∀ episode ∈ eligible (episodes.filter (·.isAdmissible)), episode.IsAllotted host stratumId saltOf ∧
      episode.allocationSaltSha256 = dominantSalt (episodes.filter (·.isAdmissible)) := by
    intro episode hepisode
    have hsalt := List.mem_filter.mp (List.mem_of_mem_filter hepisode)
    have hadmissible := List.mem_filter.mp hsalt.1
    exact ⟨h.allotted episode hadmissible.1 (randomized_of_isAdmissible hadmissible.2), of_decide_eq_true hsalt.2⟩
  have hslots : ((eligible (episodes.filter (·.isAdmissible))).map (·.slot)).Nodup := by
    refine (List.Sublist.map _ ?_).nodup h.slots
    refine (List.filter_sublist.trans List.filter_sublist).trans ?_
    exact List.monotone_filter_right episodes fun episode hadmissible =>
      decide_eq_true (randomized_of_isAdmissible hadmissible)
  rw [List.Nodup, List.pairwise_map] at hslots
  rw [OneToAnArm, List.Nodup, List.pairwise_map]
  refine hslots.imp_of_mem fun {a b} ha hb hne hsame => hne ?_
  obtain ⟨⟨slot, hslot⟩, hsalt⟩ := hmem a ha
  obtain ⟨⟨slot', hslot'⟩, hsalt'⟩ := hmem b hb
  rw [Prod.mk.injEq, hslot.blockOrdinal, hslot'.blockOrdinal, hslot.armId, hslot'.armId, allocateArm_armId,
    allocateArm_armId, hsalt, hsalt'] at hsame
  have hdiv : slot / randomizedArms.length = slot' / randomizedArms.length := Int.ofNat_inj.mp hsame.1
  rw [hslot.slot, hslot'.slot]
  exact congrArg Int.ofNat ((blocked_slotArm _ _).eq_of_div_eq (by decide) (by decide) hdiv hsame.2)

theorem arms_eligible (h : OfStratum host stratumId saltOf episodes) :
    ∀ episode ∈ eligible (episodes.filter (·.isAdmissible)), episode.armId ∈ randomizedArms := by
  intro episode hepisode
  have hadmissible := List.mem_filter.mp (List.mem_of_mem_filter (List.mem_of_mem_filter hepisode))
  obtain ⟨slot, hslot⟩ := h.allotted episode hadmissible.1 (randomized_of_isAdmissible hadmissible.2)
  rw [hslot.armId, allocateArm_armId]
  exact slotArm_mem _ _

variable {R : Type} [ReportFloats R] {call : ClaimCall}

theorem claimA_ledger {verdict : ClaimAVerdict R} (h : claimA R call episodes = .ok verdict) :
    verdict.exclusions = exclusions episodes (episodes.filter (·.isAdmissible)) ∧
      verdict.closed = (eligible (episodes.filter (·.isAdmissible))).length ∧
      verdict.completeBlocks = (completeBlocks (eligible (episodes.filter (·.isAdmissible)))).length := by
  unfold claimA at h
  dsimp only at h
  split at h
  · cases h
  obtain ⟨-, -, h⟩ := bind_ok h
  obtain ⟨⟨rest, comparisons⟩, -, h⟩ := bind_ok h
  cases h
  exact ⟨rfl, rfl, rfl⟩

/-- The ledger of a verdict accounts for every episode of a stratum, and its blocks for those closed. -/
theorem ledger_accounts (h : OfStratum host stratumId saltOf episodes) {verdict : ClaimAVerdict R}
    (hverdict : claimA R call episodes = .ok verdict) :
    episodes.length = verdict.exclusions.elected + verdict.exclusions.preRegistration + verdict.exclusions.saltMismatch +
        verdict.exclusions.unclosed + verdict.exclusions.adjudicatorNotIndependent + verdict.closed ∧
      verdict.closed = 3 * verdict.completeBlocks + verdict.exclusions.blocksIncomplete := by
  obtain ⟨hexclusions, hclosed, hblocks⟩ := claimA_ledger hverdict
  rw [hexclusions, hclosed, hblocks]
  exact ⟨ledger_balanced episodes, closed_by_blocks (oneToAnArm_eligible h) (arms_eligible h)⟩

end

/-! ### The stored episodes -/

/-- `_facts_from_rows` -/
def EpisodeRow.facts (row : EpisodeRow) (close : Option CloseFacts) : EpisodeFacts where
  episodeId := row.id
  projectId := row.projectId.filter (· ≠ "")
  decisionFamily := row.decisionFamily
  armId := row.allocation.armId
  armClass := row.allocation.armClass
  allocationKind := row.allocation.allocationKind
  stratumId := row.allocation.stratumId
  slot := row.allocation.slot
  blockOrdinal := row.allocation.blockOrdinal
  allocationSaltSha256 := row.allocation.allocationSaltSha256
  allocatedAt := row.allocatedAt
  close := close

/-- A stratum's episodes in the store, whatever closed them. -/
theorem ofStratum_reachable {allocationSalt : String} {db : PilotDatabase} (closeOf : EpisodeRow → Option CloseFacts)
    (h : (pilotSystem host allocationSalt).Reachable db) (stratumId : String) :
    OfStratum host stratumId (fun _ => allocationSalt)
      ((db.episodes.rows.filter fun row => row.allocation.stratumId = stratumId).map fun row => row.facts (closeOf row)) := by
  have hallocated := allocated_reachable h
  have hrandomized : (((db.episodes.rows.filter fun row => row.allocation.stratumId = stratumId).map fun row =>
      row.facts (closeOf row)).filter fun episode => episode.allocationKind = .randomized) =
        (db.randomized stratumId).map fun row => row.facts (closeOf row) := by
    rw [List.filter_map, List.filter_filter]
    refine congrArg (List.map _) (List.filter_congr fun row _ => ?_)
    rw [Function.comp_apply, Bool.and_comm]
    rfl
  constructor
  · intro episode hepisode hkind
    have hmem : episode ∈ (db.randomized stratumId).map fun row => row.facts (closeOf row) :=
      hrandomized ▸ List.mem_filter.mpr ⟨hepisode, decide_eq_true hkind⟩
    obtain ⟨row, hrow, rfl⟩ := List.mem_map.mp hmem
    have hdrawn : row.allocation ∈ (List.range (db.nextSlot stratumId)).map fun slot =>
        allocateArm host stratumId slot allocationSalt := by
      rw [← hallocated stratumId, ← map_randomized]
      exact List.mem_map_of_mem hrow
    obtain ⟨slot, -, hallocation⟩ := List.mem_map.mp hdrawn
    refine ⟨slot, ?_⟩
    rw [hallocation]
    exact ⟨rfl, rfl, rfl, rfl⟩
  · rw [hrandomized, List.map_map]
    have hslots := slots_of_allocated hallocated stratumId
    exact (hslots ▸ List.nodup_range.map Nat.cast_injective : ((db.randomized stratumId).map (·.allocation.slot)).Nodup)

/-! ### A run -/

/-- An episode of the first block, closed where there is a close. -/
def allottedEpisode (slot : Nat) (close : Option CloseFacts) : EpisodeFacts :=
  let allocation := allocateArm exampleHost "s" slot "salt"
  { openEpisode slot .randomized with
    armId := allocation.armId
    armClass := allocation.armClass
    slot := allocation.slot
    blockOrdinal := allocation.blockOrdinal
    close := close }

theorem allottedEpisode_isAllotted (slot : Nat) (close : Option CloseFacts) :
    (allottedEpisode slot close).IsAllotted exampleHost "s" fun _ => "salt" := ⟨slot, ⟨rfl, rfl, rfl, rfl⟩⟩

/-- Two blocks, the second with a slot that nothing closed, and an election. -/
def ledgerEpisodes : List EpisodeFacts :=
  let closed : Option CloseFacts := some ⟨true, .tceAssisted, false, .none, .taskStateDone, .acceptedAsIs⟩
  [allottedEpisode 0 closed, allottedEpisode 1 closed, allottedEpisode 2 closed, allottedEpisode 3 closed,
    allottedEpisode 4 none, openEpisode 9 .elected]

theorem ledger_accounts_blocks : ∃ verdict : ClaimAVerdict ℚ, claimA ℚ {now := effectiveAt} ledgerEpisodes = .ok verdict ∧
    (verdict.closed, verdict.completeBlocks, verdict.exclusions.blocksIncomplete) = (4, 1, 1) ∧
    ledgerEpisodes.length = verdict.exclusions.elected + verdict.exclusions.preRegistration +
      verdict.exclusions.saltMismatch + verdict.exclusions.unclosed + verdict.exclusions.adjudicatorNotIndependent +
      verdict.closed := by
  have hcounts : ((claimA ℚ {now := effectiveAt} ledgerEpisodes).toOption.map fun verdict =>
      (verdict.closed, verdict.completeBlocks, verdict.exclusions.blocksIncomplete)) = some (4, 1, 1) := by
    decide +kernel
  obtain ⟨verdict, hverdict, hcounted⟩ := Option.map_eq_some_iff.mp hcounts
  have hok := toOption_eq_some_iff.mp hverdict
  have hstratum : OfStratum exampleHost "s" (fun _ => "salt") ledgerEpisodes := by
    constructor
    · simp only [ledgerEpisodes, List.forall_mem_cons]
      refine ⟨fun _ => allottedEpisode_isAllotted _ _, fun _ => allottedEpisode_isAllotted _ _,
        fun _ => allottedEpisode_isAllotted _ _, fun _ => allottedEpisode_isAllotted _ _,
        fun _ => allottedEpisode_isAllotted _ _, fun hkind => ?_, List.forall_mem_nil _⟩
      cases hkind
    · decide +kernel
  exact ⟨verdict, hok, hcounted, (ledger_accounts hstratum hok).1⟩

end OpenTimeline.Pilot
