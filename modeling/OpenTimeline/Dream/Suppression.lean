import OpenTimeline.Decision.Support
import OpenTimeline.Dream.Candidates
import OpenTimeline.Library.Floats

/-! What a rejection keeps from coming back.

A candidate is held against every rejection whose theme is near enough to its own. It passes one where enough has
changed since (`material_change`), and is let through where it passes them all: the scan stops at the first it does
not pass, and which that is depends on the order, but not whether there is one (`let_through_iff`). -/
namespace OpenTimeline.Dream
open Library

/-- The settings of the suppression. -/
structure SuppressionKnobs (R : Type) where
  threshold : R
  minNewCitations : Int
  maxSimilarity : R
  cooldownDays : Int
  maxReproposals : Int

section
variable (host : VoiceHost) {R : Type} [Floats R]

/-- The set `theme_similarity` makes of a theme. -/
def themeSet (theme : List String) : List String :=
  ((theme.filter fun token => strip token ≠ "").map fun token => host.lower (strip token)).dedup

/-- `theme_similarity` -/
def themeSimilarity (R : Type) [Floats R] (left right : List String) : R :=
  let leftSet := themeSet host left
  let rightSet := themeSet host right
  if leftSet = [] ∨ rightSet = [] then Floats.near 0
  else Floats.near (((leftSet.filter (· ∈ rightSet)).length : ℚ) / (leftSet ++ rightSet).dedup.length)

/-- `theme_tokens_for`, with quotes. -/
def themeTokensQuoting (title firstStep : String) (quotes : List String) : List String :=
  contentTokens host.toHost (" ".intercalate ((title :: firstStep :: quotes).filter (· ≠ "")))

/-- The citations that are not among those of what was rejected. -/
def freshCitations (candidate : DreamCandidate) (rejected : DreamProposalProjection) : List DreamCitation :=
  let known := (rejected.citations.map (·.contentSha256)).filter (· ≠ "")
  candidate.citations.filter fun citation => citation.contentSha256 ∉ known

/-- How near the candidate is to what was rejected, by their words and those they cite. -/
def quotedSimilarity (R : Type) [Floats R] (candidate : DreamCandidate) (rejected : DreamProposalProjection) : R :=
  themeSimilarity host R (themeTokensQuoting host candidate.title candidate.firstStep (candidate.citations.map (·.quote)))
    (themeTokensQuoting host rejected.title rejected.firstStep (rejected.citations.map (·.quote)))

/-- A number of days, at least none, in the unit of the instants. -/
def daysOf (days : Int) : Nat := days.toNat * 86400000000

/-- `material_change` -/
def materialChange (knobs : SuppressionKnobs R) (now : Instant) (candidate : DreamCandidate)
    (rejected : DreamProposalProjection) : Bool × String :=
  if max 0 knobs.maxReproposals ≤ rejected.reproposeDepth then (false, "repropose_limit_reached")
  else
    match rejected.rejectedAt with
    | none => (false, "repropose_limit_reached")
    | some rejectedAt =>
      let fresh := freshCitations candidate rejected
      if fresh.length < max 0 knobs.minNewCitations then (false, "new_citations")
      else if fresh.any fun citation => citation.observedAt ≤ rejectedAt then (false, "evidence_predates_rejection")
      else if knobs.maxSimilarity < quotedSimilarity host R candidate rejected then (false, "theme_too_similar")
      else if now < rejectedAt + daysOf knobs.cooldownDays then (false, "cooldown_not_elapsed")
      else (true, "")

/-- `suppressed_by_rejection` -/
def suppressedByRejection (knobs : SuppressionKnobs R) (now : Instant) (candidate : DreamCandidate) :
    List DreamProposalProjection → Option DreamProposalProjection × String
  | [] => (none, "")
  | proposal :: rest =>
    if proposal.status ≠ .rejected then suppressedByRejection knobs now candidate rest
    else if themeSimilarity host R candidate.themeTokens proposal.themeTokens < knobs.threshold then
      suppressedByRejection knobs now candidate rest
    else
      let (lifted, failing) := materialChange host knobs now candidate proposal
      if lifted then suppressedByRejection knobs now candidate rest else (some proposal, failing)

/-! ### What has to have changed -/

/-- The conditions of a change, since the time of the rejection. -/
structure Changed (knobs : SuppressionKnobs R) (now : Instant) (candidate : DreamCandidate)
    (rejected : DreamProposalProjection) (rejectedAt : Instant) : Prop where
  depth : rejected.reproposeDepth < max 0 knobs.maxReproposals
  cites : knobs.minNewCitations ≤ (freshCitations candidate rejected).length
  later : ∀ citation ∈ freshCitations candidate rejected, rejectedAt < citation.observedAt
  apart : quotedSimilarity host R candidate rejected ≤ knobs.maxSimilarity
  cooled : rejectedAt + daysOf knobs.cooldownDays ≤ now

/-- All of them hold, of a rejection whose time is known. -/
def ChangedSince (knobs : SuppressionKnobs R) (now : Instant) (candidate : DreamCandidate)
    (rejected : DreamProposalProjection) : Prop :=
  ∃ rejectedAt, rejected.rejectedAt = some rejectedAt ∧ Changed host knobs now candidate rejected rejectedAt

end

variable {host : VoiceHost} {R : Type} [Floats R] {knobs : SuppressionKnobs R} {now : Instant}
  {candidate : DreamCandidate}

theorem materialChange_iff {rejected : DreamProposalProjection} :
    (materialChange host knobs now candidate rejected).1 = true ↔ ChangedSince host knobs now candidate rejected := by
  unfold materialChange ChangedSince
  by_cases hdepth : max 0 knobs.maxReproposals ≤ rejected.reproposeDepth
  · rw [if_pos hdepth]
    refine iff_of_false Bool.false_ne_true ?_
    rintro ⟨rejectedAt, -, hchanged⟩
    exact absurd hchanged.depth (not_lt.mpr hdepth)
  rw [if_neg hdepth]
  cases hrejectedAt : rejected.rejectedAt with
  | none => simp
  | some rejectedAt =>
    simp only [Option.some.injEq, exists_eq_left']
    constructor
    · intro h
      split_ifs at h with hcites hearlier hnear hwarm
      refine ⟨not_le.mp hdepth, (max_le_iff.mp (not_lt.mp hcites)).2, ?_, not_lt.mp hnear, not_lt.mp hwarm⟩
      simpa using hearlier
    · intro h
      have hcites : ¬ ((freshCitations candidate rejected).length : Int) < max 0 knobs.minNewCitations :=
        not_lt.mpr (max_le (Int.natCast_nonneg _) h.cites)
      have hlater : ¬ ((freshCitations candidate rejected).any fun citation => citation.observedAt ≤ rejectedAt) := by
        simpa using h.later
      rw [if_neg hcites, if_neg hlater, if_neg (not_lt.mpr h.apart), if_neg (not_lt.mpr h.cooled)]

/-- Where a change is enough there is no failing condition to name. -/
theorem materialChange_eq {rejected : DreamProposalProjection}
    (h : (materialChange host knobs now candidate rejected).1 = true) :
    materialChange host knobs now candidate rejected = (true, "") := by
  unfold materialChange at h ⊢
  split at h
  · cases h
  · split at h
    · cases h
    · dsimp only at h ⊢
      split_ifs at h ⊢
      rfl

theorem suppressedByRejection_cons (proposal : DreamProposalProjection) (rest : List DreamProposalProjection) :
    suppressedByRejection host knobs now candidate (proposal :: rest) = (none, "") ↔
      (proposal.status = .rejected → knobs.threshold ≤ themeSimilarity host R candidate.themeTokens proposal.themeTokens →
        ChangedSince host knobs now candidate proposal) ∧
      suppressedByRejection host knobs now candidate rest = (none, "") := by
  rw [suppressedByRejection]
  split_ifs with hstatus hfar
  · exact (and_iff_right fun hrejected => absurd hrejected hstatus).symm
  · exact (and_iff_right fun _ hnear => absurd hfar (not_lt.mpr hnear)).symm
  · have hheld : (proposal.status = .rejected →
        knobs.threshold ≤ themeSimilarity host R candidate.themeTokens proposal.themeTokens →
        ChangedSince host knobs now candidate proposal) ↔ (materialChange host knobs now candidate proposal).1 = true :=
      ⟨fun h => materialChange_iff.mpr (h (not_not.mp hstatus) (not_lt.mp hfar)),
        fun h _ _ => materialChange_iff.mp h⟩
    rw [hheld]
    cases hchange : (materialChange host knobs now candidate proposal).1 <;> simp [hchange]

/-- A candidate is let through where every rejection near enough to it has been overtaken, in whatever order the
rejections are read. -/
theorem let_through_iff {rejected order : List DreamProposalProjection} (horder : order.Perm rejected) :
    suppressedByRejection host knobs now candidate order = (none, "") ↔ ∀ proposal ∈ rejected, proposal.status = .rejected →
      knobs.threshold ≤ themeSimilarity host R candidate.themeTokens proposal.themeTokens →
        ChangedSince host knobs now candidate proposal := by
  have hscan : suppressedByRejection host knobs now candidate order = (none, "") ↔ ∀ proposal ∈ order,
      proposal.status = .rejected → knobs.threshold ≤ themeSimilarity host R candidate.themeTokens proposal.themeTokens →
        ChangedSince host knobs now candidate proposal := by
    clear horder
    induction order with
    | nil => simp [suppressedByRejection]
    | cons proposal rest ih => rw [suppressedByRejection_cons, ih, List.forall_mem_cons]
  rw [hscan]
  exact forall_congr' fun proposal => imp_congr_left horder.mem_iff

/-- A rejected proposal of a theme. -/
def rejectedTheme (proposalId : String) (themeTokens : List String) : DreamProposalProjection where
  toDreamFields :=
    {status := .rejected, title := "water the beds", firstStep := "buy a hose", themeTokens, rejectedAt := some 10}
  ids := ⟨proposalId, "w", "o", "u", "s"⟩
  revision := 3
  nonresponse := .neverSurfaced

def timerCandidate : DreamCandidate where
  title := "garden timer"
  connectionText := "the old one broke"
  benefitText := "no dry beds"
  firstStep := "order a timer"
  citations := [⟨"e1", "r1", "sha-1", "human_input", 20, "the garden timer broke", "q1"⟩]
  themeTokens := ["garden", "timer", "order"]
  evidenceBasis := evidenceBasisTrusted

def suppressionKnobs : SuppressionKnobs ℚ := ⟨3 / 5, 1, 3 / 5, 30, 2⟩

/-- One rejection is of the theme and has been overtaken, the other is of another theme. -/
theorem let_through_timer :
    suppressedByRejection (replyingHost .null) suppressionKnobs (daysOf 31) timerCandidate
      [rejectedTheme "p1" ["garden", "timer"], rejectedTheme "p2" ["fence"]] = (none, "") ∧
    ∀ proposal ∈ [rejectedTheme "p2" ["fence"], rejectedTheme "p1" ["garden", "timer"]], proposal.status = .rejected →
      suppressionKnobs.threshold ≤ themeSimilarity (replyingHost .null) ℚ timerCandidate.themeTokens proposal.themeTokens →
        ChangedSince (replyingHost .null) suppressionKnobs (daysOf 31) timerCandidate proposal := by
  have hpasses : suppressedByRejection (replyingHost .null) suppressionKnobs (daysOf 31) timerCandidate
      [rejectedTheme "p1" ["garden", "timer"], rejectedTheme "p2" ["fence"]] = (none, "") := by
    decide +kernel
  exact ⟨hpasses, (let_through_iff (List.Perm.swap _ _ _)).mp hpasses⟩

end OpenTimeline.Dream
