import OpenTimeline.Decision.Support
import OpenTimeline.Library.OrderedDict
import OpenTimeline.Pilot.Completion

/-! The claim that the assisted arm is of benefit, and what it is computed from.

Episodes that were elected, that are of no runtime arm or that precede the registration of the thresholds are
excluded, and every count is of the others, but for one: the days of the window are counted over all of them. So an
excluded episode moves a clause exactly where the days are too few and it adds one (`claimA_unmoved_iff`). -/
namespace OpenTimeline.Pilot
open Library

/-- What the report asks of floating-point numbers besides. -/
class ReportFloats (R : Type) extends Floats R where
  sqrt : R → R
  /-- as `str` writes it -/
  repr : R → String

/-! ### Vocabulary -/

def treatment : PilotArm := .tceAssisted

/-- `CLAIM_A_BASELINES` -/
def baselines : List PilotArm := [.existingRuntime, .markdownHandoff]

/-- `ARM_CLASS_RUNTIME` -/
def runtimeClass : String := "runtime"

def minActiveDays : Nat := 28
def minClosedPerArm : Nat := 30
def minCloseCoverage : ℚ := 8 / 10
def maxDeviationRate : ℚ := 2 / 10
def minMatchedBlocks : Nat := 30
def minLowerBound : ℚ := 0
def maxPValue : ℚ := 5 / 100

/-- `P6_THRESHOLDS_EFFECTIVE_AT`, the start of 2026-09-11. -/
def effectiveAt : Instant := 63924681600000000

inductive ClaimError
  /-- the episodes are of several cells -/
  | valueError
  /-- an arm that is not randomised has a runtime's class -/
  | keyError
  /-- `2.0**n` of a thousand pairs -/
  | overflowError
deriving DecidableEq

/-- `NOT_COMPUTABLE_REASONS`, those of this claim. -/
inductive NotComputable
  | noEnrolledEpisodes | noClosedEpisodes | noCompleteBlocks | noDiscordantPairs | deviationRateExceeded
  | armNotRunnableOnHost
deriving DecidableEq

def NotComputable.value : NotComputable → String
  | noEnrolledEpisodes => "no_enrolled_episodes"
  | noClosedEpisodes => "no_closed_episodes"
  | noCompleteBlocks => "no_complete_blocks"
  | noDiscordantPairs => "no_discordant_pairs"
  | deviationRateExceeded => "deviation_rate_exceeded"
  | armNotRunnableOnHost => "arm_not_runnable_on_host"

/-- A number of a clause. -/
inductive Measure (R : Type)
  | int (n : Nat)
  | float (x : R)
deriving DecidableEq

inductive ClauseState (R : Type)
  | pass
  | shortfall (measured floor : Measure R) (comparison : String)
  | notComputable (reason : NotComputable) (detail : String)
deriving DecidableEq

structure Clause (R : Type) where
  name : String
  state : ClauseState R
deriving DecidableEq

structure CloseFacts where
  adjudicationIndependent : Bool
  executedArm : PilotArm
  deviated : Bool
  rescueLevel : RescueLevel
  completionBasis : CompletionBasis
  reviewVerdict : ReviewVerdict
deriving DecidableEq

structure EpisodeFacts where
  episodeId : String
  projectId : Option String
  decisionFamily : String
  armId : PilotArm
  armClass : String
  allocationKind : AllocationKind
  stratumId : String
  slot : Int
  blockOrdinal : Int
  allocationSaltSha256 : String
  allocatedAt : Instant
  close : Option CloseFacts := none
deriving DecidableEq

/-- `episode_success` -/
def CloseFacts.success (close : CloseFacts) : Bool :=
  (close.completionBasis = .verified || close.completionBasis = .taskStateDone) &&
    close.rescueLevel = .none && close.reviewVerdict ≠ .rejected

namespace EpisodeFacts

/-- The episode closed, and as a success. -/
def succeeded (episode : EpisodeFacts) : Bool := episode.close.any (·.success)

def deviated (episode : EpisodeFacts) : Bool := episode.close.any (·.deviated)

def cell (episode : EpisodeFacts) : Option String × String := (episode.projectId, episode.decisionFamily)

/-- The day it was enrolled on, in UTC. -/
def day (episode : EpisodeFacts) : Nat := episode.allocatedAt / dayMicroseconds

def isElected (episode : EpisodeFacts) : Bool := episode.allocationKind = .elected || episode.armClass ≠ runtimeClass

def isEarly (episode : EpisodeFacts) : Bool := episode.allocatedAt < effectiveAt

/-- Neither elected nor before the registration. -/
def isAdmissible (episode : EpisodeFacts) : Bool := !episode.isElected && !episode.isEarly

end EpisodeFacts

/-! ### The cohort -/

/-- The salt most of the episodes have. -/
def dominantSalt (runtime : List EpisodeFacts) : String :=
  let salts := runtime.map (·.allocationSaltSha256)
  ((salts.map fun salt => toLex (salts.count salt, salt)).max?.map fun most => (ofLex most).2).getD ""

/-- `in_salt` -/
def inSalt (runtime : List EpisodeFacts) : List EpisodeFacts :=
  runtime.filter fun episode => episode.allocationSaltSha256 = dominantSalt runtime

/-- `eligible`: closed, by an adjudicator of its own. -/
def eligible (runtime : List EpisodeFacts) : List EpisodeFacts :=
  (inSalt runtime).filter fun episode => episode.close.any (·.adjudicationIndependent)

/-- `by_block`: of two episodes of one arm in a block the later. -/
def byBlock (closed : List EpisodeFacts) : List (Int × List (PilotArm × EpisodeFacts)) :=
  closed.foldl (fun blocks episode =>
    upsert episode.blockOrdinal [(episode.armId, episode)] (assign episode.armId episode) blocks) []

def isComplete (members : List (PilotArm × EpisodeFacts)) : Bool :=
  randomizedArms.all fun arm => (members.lookup arm).isSome

def completeBlocks (closed : List EpisodeFacts) : List Int :=
  (((byBlock closed).filter fun block => isComplete block.2).map Prod.fst).insertionSort (· ≤ ·)

structure Exclusions where
  unclosed : Nat
  deviated : Nat
  blocksIncomplete : Nat
  preRegistration : Nat
  adjudicatorNotIndependent : Nat
  elected : Nat
  saltMismatch : Nat
deriving DecidableEq

/-- The ledger; `runtime` is what is left of the episodes after the first two exclusions. -/
def exclusions (episodes runtime : List EpisodeFacts) : Exclusions where
  elected := episodes.countP (·.isElected)
  preRegistration := episodes.countP fun episode => !episode.isElected && episode.isEarly
  saltMismatch := runtime.countP fun episode => episode.allocationSaltSha256 ≠ dominantSalt runtime
  unclosed := (inSalt runtime).countP (·.close.isNone)
  adjudicatorNotIndependent := (inSalt runtime).countP fun episode =>
    episode.close.any fun close => !close.adjudicationIndependent
  deviated := (eligible runtime).countP (·.deviated)
  blocksIncomplete := (((byBlock (eligible runtime)).filter fun block => block.1 ∉ completeBlocks (eligible runtime)).map
    (·.2.length)).sum

/-- A count for each randomised arm. -/
def countByArm (arm : EpisodeFacts → Option PilotArm) (closed : List EpisodeFacts) : List (PilotArm × Nat) :=
  randomizedArms.map fun a => (a, closed.countP fun episode => arm episode = some a)

def closedByArm (closed : List EpisodeFacts) : List (PilotArm × Nat) := countByArm (fun episode => some episode.armId) closed

/-- The first of `window_clock`: the days on which an episode was enrolled. -/
def activeDays (episodes : List EpisodeFacts) : Nat := (episodes.map (·.day)).dedup.length

/-- The second of `window_clock`: the days since the first one was. -/
def calendarDays (now : Instant) (episodes : List EpisodeFacts) : Nat :=
  ((episodes.map (·.allocatedAt)).min?.map fun first => (now - first) / dayMicroseconds).getD 0

/-! ### The paired test -/

section
variable {R : Type} [ReportFloats R]

/-- `_wilson_interval` -/
def wilsonInterval (successes total : Nat) : R × R :=
  if total = 0 then (Floats.near 0, Floats.near 1)
  else
    let z : R := Floats.near (196 / 100)
    let n : R := Floats.near total
    let probability : R := Floats.near ((successes : ℚ) / total)
    let denominator := Floats.near 1 + z * z / n
    let center := (probability + z * z / (Floats.near 2 * n)) / denominator
    let margin := z * ReportFloats.sqrt (probability * (Floats.near 1 - probability) / n +
      z * z / (Floats.near 4 * n * n)) / denominator
    (max (Floats.near 0) (center - margin), min (Floats.near 1) (center + margin))

/-- `mcnemar_exact_p_value` -/
def mcnemarExactPValue (b c : Nat) : Except ClaimError R :=
  if b + c = 0 then .ok (Floats.near 1)
  else if 1024 ≤ b + c then .error .overflowError
  else
    let tail : R := Floats.near (((List.range (min b c + 1)).map (b + c).choose).sum : ℚ) / Floats.near (2 ^ (b + c))
    .ok (min (Floats.near 1) (Floats.near 2 * tail))

structure PairedComparison (R : Type) where
  policyOnlyCorrect : Nat
  baselineOnlyCorrect : Nat
  discordant : Nat
  pairedWinRate : R
  pairedLiftLowerBound : R
  pairedWinRateLowerBound : R
  pairedWinRateUpperBound : R
  pValue : R

/-- `paired_comparison`, of the two sides' results pair by pair. -/
def pairedComparison (pairs : List (Bool × Bool)) : Except ClaimError (PairedComparison R) := do
  let b := pairs.countP fun pair => pair.1 && !pair.2
  let c := pairs.countP fun pair => pair.2 && !pair.1
  let interval : R × R := wilsonInterval b (b + c)
  let p : R ← mcnemarExactPValue b c
  return {
    policyOnlyCorrect := b
    baselineOnlyCorrect := c
    discordant := b + c
    pairedWinRate := if b + c = 0 then Floats.near 0 else Floats.round6 (Floats.near ((b : ℚ) / (b + c : Nat)))
    pairedLiftLowerBound := Floats.round6 (interval.1 - Floats.near (1 / 2))
    pairedWinRateLowerBound := Floats.round6 interval.1
    pairedWinRateUpperBound := Floats.round6 interval.2
    pValue := Floats.round6 p }

/-! ### The clauses -/

def Measure.str : Measure R → String
  | .int n => toString n
  | .float x => ReportFloats.repr x

namespace Clause

def failed (clause : Clause R) : Bool :=
  match clause.state with
  | .pass => false
  | _ => true

def shortfallText (clause : Clause R) : String :=
  match clause.state with
  | .pass => ""
  | .shortfall measured floor comparison => s!"{clause.name} {measured.str} {comparison} {floor.str}"
  | .notComputable reason _ => s!"{clause.name} not_computable ({reason.value})"

end Clause

def clausePass (name : String) : Clause R := ⟨name, .pass⟩

def clauseShortfall (name : String) (measured floor : Measure R) (comparison : String := "<") : Clause R :=
  ⟨name, .shortfall measured floor comparison⟩

def clauseNotComputable (name : String) (reason : NotComputable) (detail : String := "") : Clause R :=
  ⟨name, .notComputable reason detail⟩

/-- `_clause_from_floor`, of a count. -/
def clauseFromFloor (name : String) (measured floor : Nat) : Clause R :=
  if floor ≤ measured then clausePass name else clauseShortfall name (.int measured) (.int floor)

/-- `round(part / whole, 6)` -/
def rate (part whole : Nat) : R := Floats.round6 (Floats.near ((part : ℚ) / whole))

/-- `close_coverage` and `salt_stable`. -/
def coverageClauses (runtime : List EpisodeFacts) : List (Clause R) :=
  let enrolled := (inSalt runtime).length
  if enrolled = 0 then
    [clauseNotComputable "close_coverage" .noEnrolledEpisodes, clauseNotComputable "salt_stable" .noEnrolledEpisodes]
  else
    let coverage : R := rate (eligible runtime).length enrolled
    let distinctSalts := (runtime.map (·.allocationSaltSha256)).dedup.length
    [if Floats.near minCloseCoverage ≤ coverage then clausePass "close_coverage"
      else clauseShortfall "close_coverage" (.float coverage) (.float (Floats.near minCloseCoverage)),
      if distinctSalts = 1 then clausePass "salt_stable"
      else clauseShortfall "salt_changed_mid_pilot" (.int distinctSalts) (.int 1) ">"]

/-- `arm_runnable`; `runnable` is `arm_runnable`. -/
def runnableClause (runnable : List (String × Bool)) (closed : List EpisodeFacts) : Clause R :=
  let unrunnable := (closedByArm closed).filter fun arm => arm.2 = 0
  if unrunnable = [] then clausePass "arm_runnable"
  else
    let told (arm : PilotArm) : String :=
      ((runnable.lookup arm.value).map fun value => if value then "True" else "False").getD "unknown"
    clauseNotComputable "arm_runnable" .armNotRunnableOnHost
      (", ".intercalate (unrunnable.map fun arm => s!"{arm.1.value}: closed=0, host_runnable={told arm.1}"))

/-- `deviation_rate` -/
def deviationRate (closed : List EpisodeFacts) : R :=
  if closed.length = 0 then Floats.near 0 else rate (closed.countP (·.deviated)) closed.length

/-- `deviation_ok` -/
def deviationOk (R : Type) [ReportFloats R] (closed : List EpisodeFacts) : Bool :=
  closed.length ≠ 0 && (deviationRate closed : R) ≤ Floats.near maxDeviationRate

def deviationClause (closed : List EpisodeFacts) : Clause R :=
  if closed.length = 0 then clauseNotComputable "deviation_rate" .noClosedEpisodes
  else if deviationOk R closed then clausePass "deviation_rate"
  else clauseShortfall "deviation_rate" (.float (deviationRate closed)) (.float (Floats.near maxDeviationRate)) ">"

/-- The treatment and a baseline of the complete blocks, each a success or not. -/
def pairsOf (closed : List EpisodeFacts) (baseline : PilotArm) : List (Bool × Bool) :=
  (completeBlocks closed).map fun ordinal =>
    let members := ((byBlock closed).lookup ordinal).getD []
    ((members.lookup treatment).any (·.succeeded), (members.lookup baseline).any (·.succeeded))

/-- The clause of a baseline, and its comparison where there is one. -/
def liftClause (closed : List EpisodeFacts) (baseline : PilotArm) :
    Except ClaimError (Clause R × Option (PairedComparison R)) := do
  let name := s!"paired_lift_vs_{baseline.value}"
  if closed.length ≠ 0 ∧ ¬ deviationOk R closed then return (clauseNotComputable name .deviationRateExceeded, none)
  if completeBlocks closed = [] then return (clauseNotComputable name .noCompleteBlocks, none)
  let comparison : PairedComparison R ← pairedComparison (pairsOf closed baseline)
  if comparison.discordant = 0 then return (clauseNotComputable name .noDiscordantPairs, some comparison)
  if comparison.pairedLiftLowerBound ≤ Floats.near minLowerBound then
    return (clauseShortfall name (.float comparison.pairedLiftLowerBound) (.float (Floats.near minLowerBound)) "<=",
      some comparison)
  if Floats.near maxPValue < comparison.pValue then
    return (clauseShortfall s!"{name}_p_value" (.float comparison.pValue) (.float (Floats.near maxPValue)) ">",
      some comparison)
  return (clausePass name, some comparison)

/-- The clauses after the one of the days, with the comparisons: they are of the runtime episodes alone. -/
def runtimeClauses (runnable : List (String × Bool)) (runtime : List EpisodeFacts) :
    Except ClaimError (List (Clause R) × List (PilotArm × PairedComparison R)) := do
  let closed := eligible runtime
  if closed.any fun episode => episode.armId ∉ randomizedArms then throw .keyError
  let lifts ← baselines.mapM fun baseline => liftClause (R := R) closed baseline
  return (coverageClauses runtime ++
      [clauseFromFloor "closed_per_arm" (((closedByArm closed).map (·.2)).min?.getD 0) minClosedPerArm,
        runnableClause runnable closed, deviationClause closed,
        clauseFromFloor "matched_blocks" (completeBlocks closed).length minMatchedBlocks] ++ lifts.map (·.1),
    (baselines.zip lifts).filterMap fun lift => lift.2.2.map fun comparison => (lift.1, comparison))

/-! ### The verdict -/

structure ClaimAVerdict (R : Type) where
  projectId : Option String
  decisionFamily : String
  supported : Bool
  clauses : List (Clause R)
  shortfalls : List String
  exclusions : Exclusions
  enrolled : Nat
  closed : Nat
  closedByArm : List (PilotArm × Nat)
  successByArm : List (PilotArm × Nat)
  asTreatedByArm : List (PilotArm × Nat)
  completeBlocks : Nat
  activeDays : Nat
  calendarDays : Nat
  comparisons : List (PilotArm × PairedComparison R)

/-- `_require_single_cell` does not raise. -/
def IsSingleCell (episodes : List EpisodeFacts) : Prop := ∀ a ∈ episodes, ∀ b ∈ episodes, a.cell = b.cell

instance (episodes : List EpisodeFacts) : Decidable (IsSingleCell episodes) :=
  inferInstanceAs (Decidable (∀ a ∈ episodes, ∀ b ∈ episodes, a.cell = b.cell))

/-- The arguments of `claim_a` besides the episodes. -/
structure ClaimCall where
  projectId : Option String := none
  decisionFamily : String := ""
  now : Instant
  armRunnable : List (String × Bool) := []

/-- `claim_a` -/
def claimA (R : Type) [ReportFloats R] (call : ClaimCall) (episodes : List EpisodeFacts) :
    Except ClaimError (ClaimAVerdict R) := do
  if ¬ IsSingleCell episodes then throw .valueError
  let cell := (episodes.head?.map (·.cell)).getD (call.projectId, call.decisionFamily)
  let runtime := episodes.filter (·.isAdmissible)
  let closed := eligible runtime
  let (ofRuntime, comparisons) ← runtimeClauses (R := R) call.armRunnable runtime
  let clauses := clauseFromFloor "active_days" (activeDays episodes) minActiveDays :: ofRuntime
  let shortfalls := (clauses.filter (·.failed)).map (·.shortfallText)
  return {
    projectId := cell.1
    decisionFamily := cell.2
    supported := shortfalls.isEmpty
    clauses
    shortfalls
    exclusions := exclusions episodes runtime
    enrolled := (inSalt runtime).length
    closed := closed.length
    closedByArm := closedByArm closed
    successByArm := countByArm (fun episode => if episode.succeeded then some episode.armId else none) closed
    asTreatedByArm := countByArm (fun episode => episode.close.map (·.executedArm)) closed
    completeBlocks := (completeBlocks closed).length
    activeDays := activeDays episodes
    calendarDays := calendarDays call.now episodes
    comparisons }

end

variable {R : Type} [ReportFloats R] {call : ClaimCall} {episodes all : List EpisodeFacts}

/-! ### What the verdict depends on -/

/-- The days of more episodes are as many where every one of them is a day of the others. -/
theorem activeDays_eq_iff (hsub : episodes.Sublist all) :
    activeDays episodes = activeDays all ↔ ∀ episode ∈ all, ∃ other ∈ episodes, other.day = episode.day := by
  have hsubset : (episodes.map (·.day)).toFinset ⊆ (all.map (·.day)).toFinset := by
    intro day hday
    rw [List.mem_toFinset] at hday ⊢
    exact (hsub.map _).subset hday
  rw [activeDays, activeDays, ← List.card_toFinset, ← List.card_toFinset]
  constructor
  · intro hcard episode hepisode
    have hsame := Finset.eq_of_subset_of_card_le hsubset hcard.ge
    have hday : episode.day ∈ (episodes.map (·.day)).toFinset := by
      rw [hsame, List.mem_toFinset]
      exact List.mem_map_of_mem hepisode
    exact List.mem_map.mp (List.mem_toFinset.mp hday)
  · intro hdays
    refine congrArg Finset.card (hsubset.antisymm fun day hday => ?_)
    obtain ⟨episode, hepisode, rfl⟩ := List.mem_map.mp (List.mem_toFinset.mp hday)
    exact List.mem_toFinset.mpr (List.mem_map.mpr (hdays episode hepisode))

theorem activeDays_mono (hsub : episodes.Sublist all) : activeDays episodes ≤ activeDays all := by
  rw [activeDays, activeDays, ← List.card_toFinset, ← List.card_toFinset]
  refine Finset.card_le_card fun day hday => ?_
  rw [List.mem_toFinset] at hday ⊢
  exact (hsub.map _).subset hday

/-- A clause of a floor shows the count below it, and nothing of it from there on. -/
theorem clauseFromFloor_eq_iff {S : Type} {name : String} {measured measured' floor : Nat} (hle : measured ≤ measured') :
    (clauseFromFloor name measured' floor : Clause S) = clauseFromFloor name measured floor ↔
      floor ≤ measured ∨ measured = measured' := by
  unfold clauseFromFloor clausePass clauseShortfall
  by_cases hfloor : floor ≤ measured
  · rw [if_pos hfloor, if_pos (hfloor.trans hle)]
    exact iff_of_true rfl (Or.inl hfloor)
  · by_cases hfloor' : floor ≤ measured'
    · rw [if_neg hfloor, if_pos hfloor']
      refine iff_of_false (fun h => ?_) ?_
      · cases h
      · rintro (h | rfl)
        · exact hfloor h
        · exact hfloor hfloor'
    · rw [if_neg hfloor, if_neg hfloor']
      simp [hfloor, eq_comm]

/-- A verdict has the clause of the days and those of the runtime episodes, and is supported where none fails. -/
theorem claimA_ok {verdict : ClaimAVerdict R} (h : claimA R call episodes = .ok verdict) :
    ∃ rest comparisons, runtimeClauses (R := R) call.armRunnable (episodes.filter (·.isAdmissible)) = .ok (rest, comparisons) ∧
      verdict.clauses = clauseFromFloor "active_days" (activeDays episodes) minActiveDays :: rest ∧
      verdict.supported = ((verdict.clauses.filter (·.failed)).map (·.shortfallText)).isEmpty := by
  unfold claimA at h
  dsimp only at h
  split at h
  · cases h
  obtain ⟨-, -, h⟩ := bind_ok h
  obtain ⟨⟨rest, comparisons⟩, hclauses, h⟩ := bind_ok h
  cases h
  exact ⟨rest, comparisons, hclauses, rfl, rfl⟩

theorem claimA_of_runtimeClauses (hcell : IsSingleCell episodes) {rest : List (Clause R)}
    {comparisons : List (PilotArm × PairedComparison R)}
    (h : runtimeClauses (R := R) call.armRunnable (episodes.filter (·.isAdmissible)) = .ok (rest, comparisons)) :
    ∃ verdict, claimA R call episodes = .ok verdict := by
  unfold claimA
  rw [if_neg (not_not.mpr hcell)]
  dsimp only
  rw [h]
  exact ⟨_, rfl⟩

/-- Adding excluded episodes leaves the clauses and the verdict where they were exactly where the days of the window
are enough without them, or are the same with them. -/
theorem claimA_unmoved_iff (hsub : episodes.Sublist all)
    (hadded : all.filter (·.isAdmissible) = episodes.filter (·.isAdmissible)) (hcell : IsSingleCell all)
    {verdict : ClaimAVerdict R} (h : claimA R call episodes = .ok verdict) :
    ∃ verdict' : ClaimAVerdict R, claimA R call all = .ok verdict' ∧
      ((verdict'.clauses = verdict.clauses ∧ verdict'.supported = verdict.supported) ↔
        minActiveDays ≤ activeDays episodes ∨ ∀ episode ∈ all, ∃ other ∈ episodes, other.day = episode.day) := by
  obtain ⟨rest, comparisons, hrest, hclauses, hsupported⟩ := claimA_ok h
  have hall : runtimeClauses (R := R) call.armRunnable (all.filter (·.isAdmissible)) = .ok (rest, comparisons) := by
    rw [hadded, hrest]
  obtain ⟨verdict', h'⟩ := claimA_of_runtimeClauses hcell hall
  obtain ⟨rest', comparisons', hrest', hclauses', hsupported'⟩ := claimA_ok h'
  obtain ⟨rfl, rfl⟩ : rest = rest' ∧ comparisons = comparisons' := by simpa [hall] using hrest'
  have hsame : verdict'.clauses = verdict.clauses ↔
      minActiveDays ≤ activeDays episodes ∨ ∀ episode ∈ all, ∃ other ∈ episodes, other.day = episode.day := by
    rw [hclauses, hclauses', List.cons.injEq, and_iff_left rfl, clauseFromFloor_eq_iff (activeDays_mono hsub),
      activeDays_eq_iff hsub]
  refine ⟨verdict', h', ?_⟩
  rw [← hsame]
  exact and_iff_left_of_imp fun heq => by rw [hsupported, hsupported', heq]

/-! ### Runs -/

instance : ReportFloats ℚ where
  sqrt x := (Nat.sqrt ⌊x * 10 ^ 12⌋.toNat : ℚ) / 10 ^ 6
  repr _ := ""

/-- An episode that is not closed, of a day after the registration. -/
def openEpisode (day : Nat) (allocationKind : AllocationKind) : EpisodeFacts where
  episodeId := ""
  projectId := some "p"
  decisionFamily := "needs_human"
  armId := .tceAssisted
  armClass := runtimeClass
  allocationKind := allocationKind
  stratumId := "s"
  slot := 0
  blockOrdinal := 0
  allocationSaltSha256 := "salt"
  allocatedAt := effectiveAt + day * dayMicroseconds

/-- Twenty-seven days of enrolment. -/
def shortWindow : List EpisodeFacts := (List.range 27).map fun day => openEpisode day .randomized

/-- What the claim comes to, less the ledger. -/
def outcome (R : Type) [ReportFloats R] (call : ClaimCall) (episodes : List EpisodeFacts) :
    Except ClaimError (List (Clause R) × Bool) :=
  (claimA R call episodes).map fun verdict => (verdict.clauses, verdict.supported)

/-- An elected episode is the twenty-eighth day. -/
theorem elected_moves_claimA :
    ¬ ∀ (R : Type) (_ : ReportFloats R) (call : ClaimCall) (episodes all : List EpisodeFacts), episodes.Sublist all →
      all.filter (·.isAdmissible) = episodes.filter (·.isAdmissible) → IsSingleCell all →
      outcome R call all = outcome R call episodes := by
  intro h
  have hsame := h ℚ inferInstance {now := effectiveAt} shortWindow (shortWindow ++ [openEpisode 27 .elected])
    (List.sublist_append_left _ _) (by decide +kernel) (by decide +kernel)
  have hshort : ((outcome ℚ {now := effectiveAt} shortWindow).toOption.map fun told => told.1.head?) =
      some (some (clauseShortfall "active_days" (.int 27) (.int 28))) := by
    decide +kernel
  have hpasses : ((outcome ℚ {now := effectiveAt} (shortWindow ++ [openEpisode 27 .elected])).toOption.map fun told =>
      told.1.head?) = some (some (clausePass "active_days")) := by
    decide +kernel
  rw [hsame, hshort] at hpasses
  cases hpasses

/-- An elected episode of a day that is counted already moves nothing. -/
theorem claimA_unmoved_elected : ∃ verdict verdict' : ClaimAVerdict ℚ,
    claimA ℚ {now := effectiveAt} shortWindow = .ok verdict ∧
    claimA ℚ {now := effectiveAt} (shortWindow ++ [openEpisode 3 .elected]) = .ok verdict' ∧
    verdict'.clauses = verdict.clauses ∧ verdict'.supported = verdict.supported := by
  have hsome : (claimA ℚ {now := effectiveAt} shortWindow).toOption.isSome := by decide +kernel
  obtain ⟨verdict, hverdict⟩ := Option.isSome_iff_exists.mp hsome
  have hok := toOption_eq_some_iff.mp hverdict
  have hsub : shortWindow.Sublist (shortWindow ++ [openEpisode 3 .elected]) := List.sublist_append_left _ _
  obtain ⟨verdict', hok', hiff⟩ := claimA_unmoved_iff hsub (by decide +kernel) (by decide +kernel) hok
  exact ⟨verdict, verdict', hok, hok', hiff.mpr (Or.inr (by decide +kernel))⟩

end OpenTimeline.Pilot
