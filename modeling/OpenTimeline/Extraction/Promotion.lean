import OpenTimeline.Extraction.Recorded

/-! What is promoted.

The promotion looks at a candidate alone, whatever rule it comes of. Of the candidates of a
message, though, it promotes only what the human has said: a correction that selects one of
the alternatives of the question it corrects, or an answer to the one open question that
could take it (`promotion_sound`). -/
namespace OpenTimeline.Extraction

variable {host : TextHost}

/-- The question offers the option, or has no options. -/
def DecisionOpportunity.Takes (o : DecisionOpportunity) (selected : String) : Prop :=
  o.alternatives = [] ∨ selected ∈ o.alternatives

/-- The candidate corrects a resolved question by one of its own alternatives. -/
structure CorrectsResolved (recentlyResolved : List DecisionOpportunity) (candidate : DecisionCandidate) : Prop where
  kind : candidate.kind = .correction
  selects : ∃ resolved ∈ recentlyResolved, candidate.opportunityId = some resolved.opportunityId ∧
    ∃ selected ∈ resolved.alternatives, candidate.selectedOption = some selected

/-- The candidate answers a question: it is open and not expired when the answer comes in, was there when it was given,
and is the only open one that could take it. -/
structure AnswersOpen (openOpportunities : List DecisionOpportunity) (now expiryNow : Instant)
    (candidate : DecisionCandidate) (target : DecisionOpportunity) (selected : String) : Prop where
  kind : candidate.kind = .answer
  named : candidate.opportunityId = some target.opportunityId
  selects : candidate.selectedOption = some selected
  mem : target ∈ openOpportunities
  status : target.status = .open
  unexpired : ∀ expiresAt, target.expiresAt = some expiresAt → now < expiresAt ∧ expiryNow < expiresAt
  frozen : target.frozenAt ≤ now
  takes : target.Takes selected
  unique : ∀ o ∈ openOpportunities, o.status = .open → o.Takes selected → o = target

theorem couldMatch_iff {candidate : DecisionCandidate} {o : DecisionOpportunity} {selected : String}
    (hselected : candidate.selectedOption = some selected) : couldMatch candidate o ↔ o.Takes selected := by
  simp [couldMatch, hselected, DecisionOpportunity.Takes]

/-- What is counted once is one. -/
theorem eq_of_countP_eq_one {α : Type} {p : α → Bool} {l : List α} (h : l.countP p = 1) {a b : α} (ha : a ∈ l)
    (hpa : p a) (hb : b ∈ l) (hpb : p b) : a = b := by
  rw [List.countP_eq_length_filter] at h
  obtain ⟨c, hc⟩ := List.length_eq_one_iff.mp h
  have hone : ∀ {x}, x ∈ l → p x → x = c := fun hx hpx => List.mem_singleton.mp (hc ▸ List.mem_filter.mpr ⟨hx, hpx⟩)
  exact (hone ha hpa).trans (hone hb hpb).symm

/-- What is promoted is not contradicted nor of a transcript, and is an answer to the question it names or a correction
by an alternative it was offered. -/
theorem promotionDecision_promoted {candidate : DecisionCandidate} {openOpportunities : List DecisionOpportunity}
    {now expiryNow : Instant} (h : promotionDecision candidate openOpportunities now expiryNow = .promote) :
    candidate.contradicted = false ∧ candidate.originKind ≠ .importedTranscript ∧
      ((∃ target selected, AnswersOpen openOpportunities now expiryNow candidate target selected) ∨
        candidate.kind = .correction ∧ ∃ id, candidate.opportunityId = some id ∧
          ∃ selected ∈ candidate.observedAlternatives, candidate.selectedOption = some selected) := by
  unfold promotionDecision promotionDecisionDetail at h
  split at h
  · cases h
  split at h
  · cases h
  split at h
  · cases h
  split at h
  · cases h
  refine ⟨by simpa using ‹¬candidate.contradicted = true›, ‹_›, ?_⟩
  split at h
  · next id hkind hid =>
    split_ifs at h with hsome
    split at h
    · next target hfind =>
      split_ifs at h with hunique hfrozen
      left
      obtain ⟨selected, hselected, -⟩ := (Option.any_eq_true _ _).mp hsome
      simp only [uniqueTarget, Bool.and_eq_true, decide_eq_true_eq, Bool.not_eq_true'] at hunique
      obtain ⟨⟨⟨hopen, hexpired⟩, hcould⟩, hcount⟩ := hunique
      have hmem : target ∈ openOpportunities := List.mem_of_find?_eq_some hfind
      have hnamed : target.opportunityId = id := by simpa using List.find?_some hfind
      refine ⟨target, selected, hkind, hid.trans (congrArg some hnamed.symm), hselected, hmem, hopen, ?_,
        not_lt.mp hfrozen, (couldMatch_iff hselected).mp hcould, fun o ho hstatus htakes => ?_⟩
      · intro expiresAt hexpires
        rw [opportunityExpired, hexpires, Option.any_some, decide_eq_false_iff_not, not_le] at hexpired
        exact ⟨(le_max_left _ _).trans_lt hexpired, (le_max_right _ _).trans_lt hexpired⟩
      · refine eq_of_countP_eq_one hcount ho ?_ hmem ?_
        · simpa [hstatus] using (couldMatch_iff hselected).mpr htakes
        · simpa [hopen] using hcould
    · cases h
  · next id hkind hid =>
    split_ifs at h with hselects
    right
    obtain ⟨selected, hselected, hoffered⟩ := (Option.any_eq_true _ _).mp hselects
    simp only [Bool.and_eq_true, decide_eq_true_eq] at hoffered
    exact ⟨hkind, id, hid, selected, hoffered.2, hselected⟩
  · cases h
  · cases h

/-- **What is promoted of a message is the human's, is not contradicted, and corrects a resolved question by one of its
own alternatives or answers the one open question that could take it.** -/
theorem promotion_sound {message : Message} {recentlyResolved openOpportunities : List DecisionOpportunity}
    {version : String} {candidate : DecisionCandidate} {now expiryNow : Instant}
    (hmem : candidate ∈ extractCandidates host message recentlyResolved openOpportunities version)
    (hpromoted : promotionDecision candidate openOpportunities now expiryNow = .promote) :
    candidate.originKind = .humanInput ∧ candidate.contradicted = false ∧
      (CorrectsResolved recentlyResolved candidate ∨
        ∃ target selected, AnswersOpen openOpportunities now expiryNow candidate target selected) := by
  obtain ⟨hcontradicted, himported, hdecided⟩ := promotionDecision_promoted hpromoted
  obtain ⟨origin, -, hother, ⟨-, rfl⟩ | ⟨-, hreading⟩⟩ := extractCandidates_reading host hmem
  · -- what is left of nothing is noise
    obtain ⟨_, _, hanswer⟩ | ⟨hkind, -⟩ := hdecided
    · cases hanswer.kind
    · cases hkind
  · refine ⟨?_, hcontradicted, hdecided.symm.imp_left fun ⟨hkind, id, hid, selected, hoffered, hselected⟩ => ?_⟩
    · rw [hreading.origin] at himported ⊢
      cases origin <;> simp_all
    · obtain ⟨resolved, hresolved, rfl, halternatives⟩ := hreading.correction hkind hid
      exact ⟨hkind, resolved, hresolved, hid, selected, halternatives ▸ hoffered, hselected⟩

def exampleStore : DecisionOpportunity := ⟨"store", "Which store?", ["postgres", "redis"], .open, epoch, none⟩

/-- The one open question is answered. -/
theorem promotion_sound_example : ∃ candidate ∈ extractCandidates exampleTextHost ⟨"Use postgres.", some .humanInput, none, none⟩
      [] [exampleStore] "dc-v1", promotionDecision candidate [exampleStore] (epoch + 1) (epoch + 2) = .promote ∧
    candidate.originKind = .humanInput ∧ candidate.contradicted = false ∧ (CorrectsResolved [] candidate ∨
      ∃ target selected, AnswersOpen [exampleStore] (epoch + 1) (epoch + 2) candidate target selected) := by
  have hpromoted : (extractCandidates exampleTextHost ⟨"Use postgres.", some .humanInput, none, none⟩ [] [exampleStore]
      "dc-v1").any fun candidate => promotionDecision candidate [exampleStore] (epoch + 1) (epoch + 2) = .promote := by
    decide +kernel
  obtain ⟨candidate, hmem, hpromoted⟩ := List.any_eq_true.mp hpromoted
  have hpromoted := of_decide_eq_true hpromoted
  exact ⟨candidate, hmem, hpromoted, promotion_sound hmem hpromoted⟩

end OpenTimeline.Extraction
