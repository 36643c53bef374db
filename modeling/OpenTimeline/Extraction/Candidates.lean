import OpenTimeline.Extraction.Receipts
import OpenTimeline.Extraction.Text

/-! What a message says about the questions that are open.

`extract_candidates` goes by the first of its rules that applies. Only two of them give more
than one candidate, one for each question the message answers; so the questions of the
candidates are distinct (`extractCandidates_nodup`), while the sentence they go back to may
be the same. -/
namespace OpenTimeline.Extraction

variable (host : TextHost)

inductive CandidateKind
  | answer
  | preference
  | correction
  | rejection
  | freeText
  | acknowledgement
  | interrupt
  | noise
deriving DecidableEq, Repr

/-- `kind.value` -/
def CandidateKind.value : CandidateKind → String
  | .answer => "answer"
  | .preference => "preference"
  | .correction => "correction"
  | .rejection => "rejection"
  | .freeText => "free_text"
  | .acknowledgement => "acknowledgement"
  | .interrupt => "interrupt"
  | .noise => "noise"

inductive Promotion
  | promote
  | pendingReview
  | discard
deriving DecidableEq, Repr

inductive OpportunityStatus
  | «open»
  | resolved
  | expired
  | abandoned
deriving DecidableEq, Repr

structure DecisionOpportunity where
  opportunityId : String
  questionText : String
  alternatives : List String
  status : OpportunityStatus
  frozenAt : Instant
  expiresAt : Option Instant
deriving DecidableEq, Repr

structure DecisionCandidate where
  kind : CandidateKind
  supportingSpan : String
  spanSha256 : String
  observedAlternatives : List String := []
  selectedOption : Option String := none
  statedRationale : Option String
  opportunityId : Option String := none
  originKind : OriginKind
  isNegated : Bool := false
  isCorrection : Bool := false
  contradicted : Bool := false
  projectId : Option String
  taskId : Option String
  extractionVersion : String
deriving DecidableEq, Repr

/-- The message of a receipt; the kind of its origin, if it is one. -/
structure Message where
  content : String
  originKind : Option OriginKind
  projectId : Option String
  taskId : Option String := none

/-! ### The rules -/

/-- `_candidate`, for what is the same in all candidates of a message. -/
structure Builder where
  message : Message
  origin : OriginKind
  version : String

namespace Builder
variable (b : Builder)

/-- `build` -/
def build (kind : CandidateKind) (span : String) : DecisionCandidate :=
  let span := prefixOf 500 span
  { kind
    supportingSpan := span
    spanSha256 := host.sha256Hex span
    statedRationale := rationale host span
    originKind := b.origin
    projectId := b.message.projectId
    taskId := b.message.taskId
    extractionVersion := b.version }

/-- R3 -/
def acknowledgement (kept : String) (openOpps : List DecisionOpportunity) : DecisionCandidate :=
  match openOpps with
  | [target] =>
    match mapAckToAlternative host kept target.alternatives with
    | some selected => {b.build host .answer kept with
        observedAlternatives := target.alternatives
        selectedOption := some selected
        opportunityId := some target.opportunityId }
    | none => b.build host .acknowledgement kept
  | _ => b.build host .acknowledgement kept

/-- The alternatives a text affirms, and those it negates. -/
def sides (text : String) (alternatives : List String) : List String × List String :=
  let (negated, affirmed) := (matchAlternatives host text alternatives).partition (·.2)
  (affirmed.map (·.1), negated.map (·.1))

/-- The text answers a question that is open. -/
def answersOpenQuestion (kept : String) (openOpps : List DecisionOpportunity) : Bool :=
  openOpps.any fun opportunity => (sides host kept opportunity.alternatives).1 ≠ []

/-- The resolved questions a correction may be of, each with the alternative it names. -/
def correctionHits (kept : String) (recentlyResolved : List DecisionOpportunity) :
    List (DecisionOpportunity × Option String) :=
  recentlyResolved.filterMap fun resolved =>
    if resolved.alternatives = [] then
      if isConcreteInstruction host kept then some (resolved, none) else none
    else (sides host kept resolved.alternatives).1.head?.map fun matched => (resolved, some matched)

/-- R5 -/
def correction (kept : String) (openOpps recentlyResolved : List DecisionOpportunity) : Option DecisionCandidate :=
  if !answersOpenQuestion host kept openOpps && (correctionPattern host).found kept.toList then
    match correctionHits host kept recentlyResolved with
    | [] => none
    | [(resolved, matched)] =>
      let span := match matched with
        | some matched => sentenceFor host kept [matched]
        | none => kept
      some {b.build host .correction span with
        observedAlternatives := resolved.alternatives
        selectedOption := some (matched.getD (prefixOf 500 kept))
        opportunityId := some resolved.opportunityId
        isCorrection := true }
    | _ => some {b.build host .correction kept with
        isCorrection := true
        contradicted := true }
  else none

/-- R6, for one question. -/
def answer (kept : String) (opportunity : DecisionOpportunity) : Option DecisionCandidate :=
  let alternatives := opportunity.alternatives
  match sides host kept alternatives with
  | ([], []) => none
  | ([selected], _) => some {b.build host .answer (sentenceFor host kept [selected]) with
      observedAlternatives := alternatives
      selectedOption := some selected
      opportunityId := some opportunity.opportunityId }
  | (_ :: _ :: _, _) => some {b.build host .answer kept with
      observedAlternatives := alternatives
      opportunityId := some opportunity.opportunityId
      contradicted := true }
  | ([], negated) =>
    if negated.length = 1 && alternatives.length = 2 then
      some {b.build host .answer (sentenceFor host kept negated) with
        observedAlternatives := alternatives
        selectedOption := alternatives.find? (· ∉ negated)
        opportunityId := some opportunity.opportunityId
        isNegated := true }
    else some {b.build host .rejection (sentenceFor host kept negated) with
      observedAlternatives := alternatives
      opportunityId := some opportunity.opportunityId
      isNegated := true }

/-- R7, for one question. -/
def openEnded (kept : String) (opportunity : DecisionOpportunity) : DecisionCandidate :=
  {b.build host .answer kept with
    selectedOption := some (prefixOf 500 kept)
    opportunityId := some opportunity.opportunityId }

/-- R9, for one sentence. -/
def preference (sentence : String) : Option DecisionCandidate :=
  (preferencePatterns host).findSome? fun pattern =>
    match pattern.search (stripRationale host sentence).toList with
    | none => none
    | some (_, found) =>
      let selected := cleanTerm ((found.group "x").getD [])
      let other := cleanTerm ((found.group "y").getD [])
      if selected = "" then none
      else some {b.build host .preference sentence with
        observedAlternatives := if other = "" then [selected] else [selected, other]
        selectedOption := some selected }

/-- R7 to R10, where no alternative is named. -/
def unmatched (kept : String) (openOpps : List DecisionOpportunity) : List DecisionCandidate :=
  let unanswered := openOpps.filter (·.alternatives = [])
  if unanswered ≠ [] && isConcreteInstruction host kept then unanswered.map (b.openEnded host kept)
  else if openOpps ≠ [] then
    if 3 < (splitBlanks (normalizeText host kept)).length then [b.build host .freeText kept] else []
  else ((sentences kept).findSome? (b.preference host)).toList

/-- What is left of a message, from R3 on. -/
def fromKept (kept : String) (openOpps recentlyResolved : List DecisionOpportunity) : List DecisionCandidate :=
  let normalized := normalizeText host kept
  if isAckOnly normalized then [b.acknowledgement host kept openOpps]
  else if startsWithInterrupt normalized && (splitBlanks normalized).length ≤ 5 then [b.build host .interrupt kept]
  else match b.correction host kept openOpps recentlyResolved with
  | some candidate => [candidate]
  | none =>
    match openOpps.filterMap (b.answer host kept) with
    | [] => b.unmatched host kept openOpps
    | results => results

end Builder

def extractCandidates (message : Message) (recentlyResolved openOpportunities : List DecisionOpportunity)
    (version : String) : List DecisionCandidate :=
  match message.originKind with
  | none => []
  | some origin =>
    let b : Builder := ⟨message, origin, version⟩
    if origin ∈ [.executorOutput, .toolResult, .managerInstruction] then []
    else if isBlank message.content then []
    else
      let openOpps := openOpportunities.filter (·.status = .open)
      let (kept, dropped) := analysableText host message.content (openOpps.map (·.questionText))
      if kept = "" then if dropped = [] then [] else [b.build host .noise (prefixOf 500 message.content)]
      else b.fromKept host kept openOpps recentlyResolved

/-! ### The questions of the candidates -/

theorem map_filterMap_sublist {α β γ : Type} {f : α → Option β} {g : β → γ} {h : α → γ}
    (hf : ∀ a b, f a = some b → g b = h a) (l : List α) : ((l.filterMap f).map g).Sublist (l.map h) := by
  induction l with
  | nil => exact .slnil
  | cons a rest ih =>
    rw [List.map_cons]
    cases hfa : f a with
    | none =>
      rw [List.filterMap_cons_none hfa]
      exact ih.cons _
    | some b =>
      rw [List.filterMap_cons_some hfa, List.map_cons, hf a b hfa]
      exact ih.cons_cons _

namespace Builder
variable {host} {b : Builder} {kept : String}

theorem answer_opportunityId {opportunity : DecisionOpportunity} {candidate : DecisionCandidate}
    (h : b.answer host kept opportunity = some candidate) : candidate.opportunityId = some opportunity.opportunityId := by
  unfold answer at h
  simp only at h
  split at h
  · cases h
  · cases h
    rfl
  · cases h
    rfl
  · split_ifs at h <;> cases h <;> rfl

section
variable {openOpps : List DecisionOpportunity} (hids : (openOpps.map (·.opportunityId)).Nodup)
include hids

theorem unmatched_nodup : ((b.unmatched host kept openOpps).map (·.opportunityId)).Nodup := by
  unfold unmatched
  simp only
  split_ifs
  · have hopen : ((openOpps.filter (·.alternatives = [])).map (·.opportunityId)).Nodup :=
      hids.sublist (List.filter_sublist.map _)
    have hsome := hopen.map (Option.some_injective _)
    rw [List.map_map] at hsome ⊢
    exact hsome
  · exact List.nodup_singleton _
  · exact List.nodup_nil
  · cases (sentences kept).findSome? (b.preference host) <;> simp

theorem fromKept_nodup (recentlyResolved : List DecisionOpportunity) :
    ((b.fromKept host kept openOpps recentlyResolved).map (·.opportunityId)).Nodup := by
  unfold fromKept
  simp only
  split
  · exact List.nodup_singleton _
  split
  · exact List.nodup_singleton _
  split
  · exact List.nodup_singleton _
  split
  · exact unmatched_nodup hids
  · have hopen : (openOpps.map fun o => some o.opportunityId).Nodup :=
      List.map_map ▸ hids.map (Option.some_injective _)
    exact hopen.sublist (map_filterMap_sublist (fun _ _ => answer_opportunityId) openOpps)

end

end Builder

/-- Each candidate is of a question of its own. -/
theorem extractCandidates_nodup {message : Message} {recentlyResolved openOpportunities : List DecisionOpportunity}
    {version : String} (hids : (openOpportunities.map (·.opportunityId)).Nodup) :
    ((extractCandidates host message recentlyResolved openOpportunities version).map (·.opportunityId)).Nodup := by
  unfold extractCandidates
  split
  · exact List.nodup_nil
  · simp only
    split_ifs
    · exact List.nodup_nil
    · exact List.nodup_nil
    · exact List.nodup_nil
    · exact List.nodup_singleton _
    · exact Builder.fromKept_nodup (hids.sublist (List.filter_sublist.map _)) recentlyResolved

/-! ### What each is read from -/

namespace Builder

/-- The rule a candidate comes of, with what the rule goes by. -/
inductive Reading (b : Builder) (kept : String) (openOpps recentlyResolved : List DecisionOpportunity) :
    DecisionCandidate → Prop
  | acknowledged (target : DecisionOpportunity) (selected : String) (hopen : openOpps = [target])
      (hack : mapAckToAlternative host kept target.alternatives = some selected) :
      Reading b kept openOpps recentlyResolved {b.build host .answer kept with
        observedAlternatives := target.alternatives
        selectedOption := some selected
        opportunityId := some target.opportunityId }
  | acknowledgement : Reading b kept openOpps recentlyResolved (b.build host .acknowledgement kept)
  | interrupt : Reading b kept openOpps recentlyResolved (b.build host .interrupt kept)
  | corrected (resolved : DecisionOpportunity) (matched : Option String)
      (hhit : (resolved, matched) ∈ correctionHits host kept recentlyResolved) :
      Reading b kept openOpps recentlyResolved
        {b.build host .correction (matched.elim kept fun matched => sentenceFor host kept [matched]) with
        observedAlternatives := resolved.alternatives
        selectedOption := some (matched.getD (prefixOf 500 kept))
        opportunityId := some resolved.opportunityId
        isCorrection := true }
  | corrections : Reading b kept openOpps recentlyResolved {b.build host .correction kept with
        isCorrection := true
        contradicted := true }
  | chosen (target : DecisionOpportunity) (selected : String) (negated : List String) (htarget : target ∈ openOpps)
      (hsides : sides host kept target.alternatives = ([selected], negated)) :
      Reading b kept openOpps recentlyResolved {b.build host .answer (sentenceFor host kept [selected]) with
        observedAlternatives := target.alternatives
        selectedOption := some selected
        opportunityId := some target.opportunityId }
  | torn (target : DecisionOpportunity) : Reading b kept openOpps recentlyResolved {b.build host .answer kept with
        observedAlternatives := target.alternatives
        opportunityId := some target.opportunityId
        contradicted := true }
  | other (target : DecisionOpportunity) (negated : String) (htarget : target ∈ openOpps)
      (hsides : sides host kept target.alternatives = ([], [negated])) (htwo : target.alternatives.length = 2) :
      Reading b kept openOpps recentlyResolved {b.build host .answer (sentenceFor host kept [negated]) with
        observedAlternatives := target.alternatives
        selectedOption := target.alternatives.find? (· ∉ [negated])
        opportunityId := some target.opportunityId
        isNegated := true }
  | rejected (target : DecisionOpportunity) (negated : List String) :
      Reading b kept openOpps recentlyResolved {b.build host .rejection (sentenceFor host kept negated) with
        observedAlternatives := target.alternatives
        opportunityId := some target.opportunityId
        isNegated := true }
  | openEnded (target : DecisionOpportunity) (htarget : target ∈ openOpps) :
      Reading b kept openOpps recentlyResolved (b.openEnded host kept target)
  | freeText : Reading b kept openOpps recentlyResolved (b.build host .freeText kept)
  | preferred (sentence selected : String) (observed : List String) (hsentence : sentence ∈ sentences kept) :
      Reading b kept openOpps recentlyResolved {b.build host .preference sentence with
        observedAlternatives := observed
        selectedOption := some selected }

variable {host} {b : Builder} {kept : String} {openOpps recentlyResolved : List DecisionOpportunity}
  {candidate : DecisionCandidate}

theorem acknowledgement_reading : b.Reading host kept openOpps recentlyResolved (b.acknowledgement host kept openOpps) := by
  unfold Builder.acknowledgement
  split
  · split
    · exact .acknowledged _ _ rfl ‹_›
    · exact .acknowledgement
  · exact .acknowledgement

theorem correction_reading (h : b.correction host kept openOpps recentlyResolved = some candidate) :
    b.Reading host kept openOpps recentlyResolved candidate := by
  unfold correction at h
  split at h
  · split at h
    · cases h
    · next resolved matched hhits =>
      have hhit : (resolved, matched) ∈ correctionHits host kept recentlyResolved := hhits ▸ List.mem_singleton_self _
      rw [← Option.some.inj h]
      cases matched
      · exact .corrected resolved none hhit
      · exact .corrected resolved (some _) hhit
    · cases h
      exact .corrections
  · cases h

theorem answer_reading {target : DecisionOpportunity} (htarget : target ∈ openOpps)
    (h : b.answer host kept target = some candidate) : b.Reading host kept openOpps recentlyResolved candidate := by
  unfold answer at h
  simp only at h
  split at h
  · cases h
  · cases h
    exact .chosen target _ _ htarget ‹_›
  · cases h
    exact .torn target
  · next negated _ hsides =>
    split_ifs at h with htwo
    · obtain ⟨hone, htwo⟩ := (Bool.and_eq_true _ _).mp htwo
      obtain ⟨negated, rfl⟩ := List.length_eq_one_iff.mp (of_decide_eq_true hone)
      cases h
      exact .other target negated htarget hsides (of_decide_eq_true htwo)
    · cases h
      exact .rejected target negated

theorem preference_reading {sentence : String} (hsentence : sentence ∈ sentences kept)
    (h : b.preference host sentence = some candidate) : b.Reading host kept openOpps recentlyResolved candidate := by
  obtain ⟨pattern, _, hpattern⟩ := List.exists_of_findSome?_eq_some h
  split at hpattern
  · cases hpattern
  · simp only at hpattern
    split at hpattern
    · cases hpattern
    · cases hpattern
      exact .preferred sentence _ _ hsentence

theorem unmatched_reading (h : candidate ∈ b.unmatched host kept openOpps) :
    b.Reading host kept openOpps recentlyResolved candidate := by
  unfold unmatched at h
  simp only at h
  split_ifs at h
  · obtain ⟨target, htarget, rfl⟩ := List.mem_map.mp h
    exact .openEnded target (List.mem_of_mem_filter htarget)
  · rw [List.mem_singleton.mp h]
    exact .freeText
  · cases h
  · obtain ⟨sentence, hsentence, hpreference⟩ := List.exists_of_findSome?_eq_some (Option.mem_toList.mp h)
    exact preference_reading hsentence hpreference

theorem fromKept_reading (h : candidate ∈ b.fromKept host kept openOpps recentlyResolved) :
    b.Reading host kept openOpps recentlyResolved candidate := by
  unfold fromKept at h
  simp only at h
  split at h
  · rw [List.mem_singleton.mp h]
    exact acknowledgement_reading
  split at h
  · rw [List.mem_singleton.mp h]
    exact .interrupt
  split at h
  · rw [List.mem_singleton.mp h]
    exact correction_reading ‹_›
  split at h
  · exact unmatched_reading h
  · obtain ⟨target, htarget, hanswer⟩ := List.mem_filterMap.mp h
    exact answer_reading htarget hanswer

theorem Reading.version (h : b.Reading host kept openOpps recentlyResolved candidate) :
    candidate.extractionVersion = b.version := by
  cases h <;> rfl

theorem Reading.origin (h : b.Reading host kept openOpps recentlyResolved candidate) :
    candidate.originKind = b.origin := by
  cases h <;> rfl

/-- A question that may be corrected is one of those that are resolved. -/
theorem correctionHits_cases {resolved : DecisionOpportunity} {matched : Option String}
    (h : (resolved, matched) ∈ correctionHits host kept recentlyResolved) : resolved ∈ recentlyResolved ∧
      (resolved.alternatives = [] ∧ matched = none ∨ ∃ selected ∈ (sides host kept resolved.alternatives).1,
        matched = some selected) := by
  obtain ⟨resolved, hmem, hhit⟩ := List.mem_filterMap.mp h
  split_ifs at hhit with hnone
  · cases hhit
    exact ⟨hmem, Or.inl ⟨hnone, rfl⟩⟩
  · obtain ⟨matched, hhead, heq⟩ := Option.map_eq_some_iff.mp hhit
    cases heq
    exact ⟨hmem, Or.inr ⟨matched, List.mem_of_head? hhead, rfl⟩⟩

/-- A correction that names a question is of one that is resolved. -/
theorem Reading.correction (h : b.Reading host kept openOpps recentlyResolved candidate)
    (hkind : candidate.kind = .correction) {id : String} (hid : candidate.opportunityId = some id) :
    ∃ resolved ∈ recentlyResolved, resolved.opportunityId = id ∧ candidate.observedAlternatives = resolved.alternatives := by
  cases h with
  | corrected resolved matched hhit => exact ⟨resolved, (correctionHits_cases hhit).1, Option.some.inj hid, rfl⟩
  | corrections => cases hid
  | _ => cases hkind

end Builder

/-- The rule a candidate of a message comes of: none, where nothing is left of the message. -/
theorem extractCandidates_reading {message : Message} {recentlyResolved openOpportunities : List DecisionOpportunity}
    {version : String} {candidate : DecisionCandidate}
    (h : candidate ∈ extractCandidates host message recentlyResolved openOpportunities version) :
    ∃ origin, message.originKind = some origin ∧ origin ∉ [.executorOutput, .toolResult, .managerInstruction] ∧
      let b : Builder := ⟨message, origin, version⟩
      let openOpps := openOpportunities.filter (·.status = .open)
      let kept := (analysableText host message.content (openOpps.map (·.questionText))).1
      (kept = "" ∧ candidate = b.build host .noise (prefixOf 500 message.content)) ∨
        (kept ≠ "" ∧ b.Reading host kept openOpps recentlyResolved candidate) := by
  unfold extractCandidates at h
  split at h
  · cases h
  · next origin horigin =>
    simp only at h
    split_ifs at h with hother _ hnothing
    · cases h
    · cases h
    · cases h
    · exact ⟨origin, horigin, hother, Or.inl ⟨hnothing, List.mem_singleton.mp h⟩⟩
    · exact ⟨origin, horigin, hother, Or.inr ⟨hnothing, Builder.fromKept_reading h⟩⟩

theorem extractCandidates_version {message : Message} {recentlyResolved openOpportunities : List DecisionOpportunity}
    {version : String} {candidate : DecisionCandidate}
    (h : candidate ∈ extractCandidates host message recentlyResolved openOpportunities version) :
    candidate.extractionVersion = version := by
  obtain ⟨origin, -, -, ⟨-, rfl⟩ | ⟨-, hreading⟩⟩ := extractCandidates_reading host h
  · rfl
  · exact hreading.version

/-- A correction that names a question names one that is resolved. -/
theorem extractCandidates_correction {message : Message}
    {recentlyResolved openOpportunities : List DecisionOpportunity} {version : String} {candidate : DecisionCandidate}
    (h : candidate ∈ extractCandidates host message recentlyResolved openOpportunities version)
    (hkind : candidate.kind = .correction) {id : String} (hid : candidate.opportunityId = some id) :
    ∃ resolved ∈ recentlyResolved, resolved.opportunityId = id := by
  obtain ⟨origin, -, -, ⟨-, rfl⟩ | ⟨-, hreading⟩⟩ := extractCandidates_reading host h
  · cases hid
  · obtain ⟨resolved, hmem, hresolved, -⟩ := hreading.correction hkind hid
    exact ⟨resolved, hmem, hresolved⟩

/-! ### Promotion -/

def opportunityExpired (o : DecisionOpportunity) (now : Instant) : Bool := o.expiresAt.any (· ≤ now)

/-- `_could_match` -/
def couldMatch (candidate : DecisionCandidate) (opportunity : DecisionOpportunity) : Bool :=
  opportunity.alternatives = [] || candidate.selectedOption.any (· ∈ opportunity.alternatives)

/-- An answer's target is open, not expired, offers what is selected, and is the only open
question that does. -/
def uniqueTarget (candidate : DecisionCandidate) (openOpportunities : List DecisionOpportunity) (expiryMoment : Instant)
    (target : DecisionOpportunity) : Bool :=
  target.status = .open && !opportunityExpired target expiryMoment && couldMatch candidate target &&
    openOpportunities.countP (fun o => o.status = .open && couldMatch candidate o) = 1

/-- `promotion_decision_detail`: `now` is when the human answered, `expiryNow` when the answer
came in. -/
def promotionDecisionDetail (candidate : DecisionCandidate) (openOpportunities : List DecisionOpportunity)
    (now expiryNow : Instant) : Promotion × String :=
  if candidate.contradicted then (.discard, "contradictory")
  else if candidate.kind ∈ [.acknowledgement, .interrupt, .noise] then (.discard, candidate.kind.value)
  else if candidate.originKind = .importedTranscript then (.pendingReview, "imported_transcript")
  else if candidate.kind ∈ [.preference, .rejection, .freeText] then (.pendingReview, candidate.kind.value)
  else match candidate.kind, candidate.opportunityId with
  | .answer, some opportunityId =>
    if candidate.selectedOption.any (· ≠ "") then
      match openOpportunities.find? (·.opportunityId = opportunityId) with
      | some target =>
        if uniqueTarget candidate openOpportunities (max now expiryNow) target then
          if now < target.frozenAt then (.pendingReview, "answer_precedes_question")
          else (.promote, "unique_open_opportunity")
        else (.pendingReview, "ambiguous_or_expired_target")
      | none => (.pendingReview, "ambiguous_or_expired_target")
    else (.pendingReview, candidate.kind.value)
  | .correction, some _ =>
    if candidate.selectedOption.any fun selected => selected ≠ "" && selected ∈ candidate.observedAlternatives then
      (.promote, "correction")
    else (.pendingReview, "correction_without_alternative_match")
  | .correction, none => (.pendingReview, "correction_without_unique_target")
  | kind, _ => (.pendingReview, kind.value)

def promotionDecision (candidate : DecisionCandidate) (openOpportunities : List DecisionOpportunity)
    (now expiryNow : Instant) : Promotion :=
  (promotionDecisionDetail candidate openOpportunities now expiryNow).1

end OpenTimeline.Extraction
