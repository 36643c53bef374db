import OpenTimeline.TaskState.Objective
import OpenTimeline.TaskState.Soundness

/-! What a truncated fold still knows.

Past `max_events` the fold runs over the pins of the dropped part followed by the
newest events. Everything but the pinned kinds starts from nothing at the cut, so
the truncated fold is compared with the complete one along the newest events
(`Carries`): while both are at the same contract revision, a plan approved in the
window and its steps are those of the complete fold, and so is a verification
recorded in it. What the window can miss is a decision or an effect opened before
the cut and still open, since neither kind is pinned. -/
namespace OpenTimeline.TaskState
open Library

variable (host : Host) (taskId : String)

/-! ### The cut -/

/-- The events a truncated fold drops, its pins aside. -/
def olderEvents (maxEvents : Int) (log : List TaskStateEvent) : List TaskStateEvent :=
  older (tailSize maxEvents) log

def newestEvents (maxEvents : Int) (log : List TaskStateEvent) : List TaskStateEvent :=
  newest (tailSize maxEvents) log

/-- The pins that come from the older part. -/
def keptPins (maxEvents : Int) (log : List TaskStateEvent) : List TaskStateEvent :=
  kept TaskStateEvent.kind (dedupeKey host) pinnedKinds (tailSize maxEvents) log

section Cut
variable {host} {maxEvents : Int} {log : List TaskStateEvent}

theorem windowEvents_eq (h : Arranged sortKey (dedupeKey host) log) :
    windowEvents host maxEvents log = keptPins host maxEvents log ++ newestEvents maxEvents log :=
  h.window_eq pinnedKinds (tailSize maxEvents)

theorem windowEvents_filter (h : Arranged sortKey (dedupeKey host) log) (maxEvents : Int) :
    ∃ P, windowEvents host maxEvents log = log.filter P ∧ KeepsPinned P log := by
  have hsub : ∀ event ∈ pins TaskStateEvent.kind pinnedKinds log ++ newest (tailSize maxEvents) log,
      event ∈ log := by
    intro event hm
    rcases List.mem_append.mp hm with hm | hm
    · exact pins_subset hm
    · exact List.mem_of_mem_drop hm
  obtain ⟨P, heq, hP⟩ := h.exists_filter hsub
  exact ⟨P, heq, fun kind hkind event hlatest =>
    hP event (List.mem_append_left _ (mem_pins.mpr ⟨kind, hkind, hlatest⟩))⟩

theorem older_append_newestEvents (maxEvents : Int) (log : List TaskStateEvent) :
    olderEvents maxEvents log ++ newestEvents maxEvents log = log :=
  older_append_newest _ _

theorem kind_of_mem_keptPins {event : TaskStateEvent} (h : Arranged sortKey (dedupeKey host) log)
    (hm : event ∈ keptPins host maxEvents log) : event.kind ∈ pinnedKinds := (h.mem_kept.mp hm).2.1

/-- With an `OBJECTIVE_SET` among the newest, none is kept from the older part. -/
theorem keptPins_no_set (h : Arranged sortKey (dedupeKey host) log)
    (hset : ∃ event ∈ newestEvents maxEvents log, event.kind = .known .objectiveSet) :
    ∀ event ∈ keptPins host maxEvents log, event.kind ≠ .known .objectiveSet := by
  have hnewest : latest TaskStateEvent.kind (.known .objectiveSet) (newestEvents maxEvents log) ≠ none := by
    rw [Ne, latest_eq_none_iff]
    obtain ⟨event, hm, hk⟩ := hset
    exact fun hnone => hnone event hm hk
  have hkept : (keptPins host maxEvents log).filter (fun event => event.kind = .known .objectiveSet) = [] := by
    refine (h.kept_kind (by decide)).trans (if_neg hnewest)
  simpa [List.filter_eq_nil_iff] using hkept

end Cut

/-! ### Logs of pinned events -/

/-- Nothing but the pinned kinds has been written. -/
structure Bare (st : FoldState) : Prop where
  work : st.work = (none, ∅)
  decisions : st.decisions = ∅
  effects : st.effects = ∅
  verification : st.latestVerification = none

theorem foldStep_bare {st : FoldState} (h : Bare st) {event : TaskStateEvent}
    (hk : event.kind ∈ pinnedKinds) : Bare (foldStep host taskId st event) := by
  have hsuperseded := superseded_of_exempt (exempt_of_pinned hk) st.contractRevision
  simp only [pinnedKinds, List.mem_cons, List.not_mem_nil, or_false] at hk
  constructor
  · rw [foldStep_work, hsuperseded, h.work]
    rcases hk with hk | hk | hk <;> (unfold workStep; rw [hk]; rfl)
  · rw [foldStep_decisions, hsuperseded, h.decisions]
    rcases hk with hk | hk | hk <;> (unfold decisionsStep; rw [hk]; rfl)
  · rw [foldStep_effects, h.effects]
    rcases hk with hk | hk | hk <;> (unfold effectsStep; rw [hk])
  · rw [foldStep_verification, h.verification]
    rcases hk with hk | hk | hk <;> (unfold verificationStep; rw [hk])

theorem foldEvents_bare {events : List TaskStateEvent} (h : ∀ event ∈ events, event.kind ∈ pinnedKinds) :
    Bare (foldEvents host taskId events) := by
  induction events using List.reverseRecOn with
  | nil => exact ⟨rfl, rfl, rfl, rfl⟩
  | append_singleton events event ih =>
    rw [foldEvents_snoc]
    exact foldStep_bare host taskId (ih fun e he => h e (by simp [he])) (h event (by simp))

/-! ### Two folds along the same events -/

/-- `window` knows nothing that `complete` does not, and misses no decision or effect
of it but those already open in `cut`. -/
structure Carries (cut window complete : FoldState) : Prop where
  plan : ∀ plan, window.plan = some plan → plan.state = .approved → complete.work = window.work
  verification : ∀ ref, window.latestVerification = some ref → complete.latestVerification = some ref
  decisions : ∀ k decision, complete.decisions.lookup k = some decision → decision.superseded = false →
    window.decisions.lookup k = some decision ∨ cut.decisions.lookup k = some decision
  effects : ∀ k effect, complete.effects.lookup k = some effect →
    window.effects.lookup k = some effect ∨ cut.effects.lookup k = some effect

/-- Resolving supersedes one decision and leaves the others. -/
theorem lookup_decisionResolved (decisions : Dict String OpenDecision) (event : TaskStateEvent)
    (k : String) : (({decisions} : FoldState).decisionResolved event).decisions.lookup k =
      if k = text (event.payload.get "decision_id") "" then
        (decisions.lookup k).map fun decision => {decision with superseded := true}
      else decisions.lookup k := by
  simp only [FoldState.decisionResolved]
  by_cases hk : k = text (event.payload.get "decision_id") ""
  · subst hk
    rw [if_pos rfl]
    cases hheld : decisions.lookup (text (event.payload.get "decision_id") "") with
    | none => exact hheld
    | some existing => exact AList.lookup_insert _
  · rw [if_neg hk]
    cases decisions.lookup (text (event.payload.get "decision_id") "") with
    | none => rfl
    | some existing => exact AList.lookup_insert_ne hk

theorem decisionsStep_carries {cut window complete : Dict String OpenDecision}
    (h : ∀ k decision, complete.lookup k = some decision → decision.superseded = false →
      window.lookup k = some decision ∨ cut.lookup k = some decision) (event : TaskStateEvent)
    (k : String) (decision : OpenDecision)
    (hlookup : (decisionsStep host complete event).lookup k = some decision)
    (hopen : decision.superseded = false) :
    (decisionsStep host window event).lookup k = some decision ∨ cut.lookup k = some decision := by
  unfold decisionsStep at hlookup ⊢
  split at hlookup
  case h_1 =>
    cases hdecoded : decisionFromJson host event.payload with
    | none =>
      rw [hdecoded] at hlookup
      exact h k decision hlookup hopen
    | some opened =>
      rw [hdecoded] at hlookup
      simp only [] at hlookup ⊢
      by_cases hk : k = opened.decisionId
      · subst hk
        rw [AList.lookup_insert] at hlookup ⊢
        exact Or.inl hlookup
      · rw [AList.lookup_insert_ne hk] at hlookup ⊢
        exact h k decision hlookup hopen
  case h_2 =>
    rw [lookup_decisionResolved] at hlookup ⊢
    split_ifs at hlookup ⊢
    · obtain ⟨existing, _, rfl⟩ := Option.map_eq_some_iff.mp hlookup
      cases hopen
    · exact h k decision hlookup hopen
  case h_3 => exact h k decision hlookup hopen

theorem effectsStep_carries {cut window complete : Dict String UnresolvedEffect}
    (h : ∀ k effect, complete.lookup k = some effect →
      window.lookup k = some effect ∨ cut.lookup k = some effect) (event : TaskStateEvent)
    (k : String) (effect : UnresolvedEffect)
    (hlookup : (effectsStep host complete event).lookup k = some effect) :
    (effectsStep host window event).lookup k = some effect ∨ cut.lookup k = some effect := by
  unfold effectsStep at hlookup ⊢
  split at hlookup
  case h_1 =>
    cases hdecoded : effectFromJson host event.payload with
    | none =>
      rw [hdecoded] at hlookup
      exact h k effect hlookup
    | some recorded =>
      rw [hdecoded] at hlookup
      simp only [] at hlookup ⊢
      by_cases hk : k = recorded.effectId
      · subst hk
        rw [AList.lookup_insert] at hlookup ⊢
        exact Or.inl hlookup
      · rw [AList.lookup_insert_ne hk] at hlookup ⊢
        exact h k effect hlookup
  case h_2 =>
    by_cases hk : k = text (event.payload.get "effect_id") ""
    · rw [hk, AList.lookup_erase] at hlookup
      cases hlookup
    · rw [AList.lookup_erase_ne hk] at hlookup ⊢
      exact h k effect hlookup
  case h_3 => exact h k effect hlookup

/-- Only an approval makes the window's plan approved, and it is everyone's plan. -/
theorem workStep_carries {current : Int} {window complete : Option ApprovedPlan × Dict Int PlanStepState}
    (h : ∀ plan, window.1 = some plan → plan.state = .approved → complete = window)
    (event : TaskStateEvent) (plan : ApprovedPlan)
    (hplan : (workStep host taskId current window event).1 = some plan) (happroved : plan.state = .approved) :
    workStep host taskId current complete event = workStep host taskId current window event := by
  rcases workStep_approved host taskId hplan happroved with hheld | ⟨hk, _⟩
  · rw [h plan hheld happroved]
  · unfold workStep
    rw [hk]
    rfl

theorem foldStep_carries {cut window complete : FoldState} (h : Carries cut window complete)
    (hrevision : window.contractRevision = complete.contractRevision) (event : TaskStateEvent) :
    Carries cut (foldStep host taskId window event) (foldStep host taskId complete event) where
  plan plan hplan happroved := by
    have hwork := foldStep_work host taskId window event
    rw [foldStep_work host taskId complete event, hwork, hrevision]
    rw [hrevision] at hwork
    have hplan' := (congrArg Prod.fst hwork).symm.trans hplan
    split_ifs at hplan' ⊢
    · exact h.plan plan hplan' happroved
    · exact workStep_carries host taskId h.plan event plan hplan' happroved
  verification ref href := by
    rw [foldStep_verification] at href ⊢
    unfold verificationStep at href ⊢
    split at href
    · rcases Option.or_eq_some_iff.mp href with hdecoded | ⟨hnone, hheld⟩
      · rw [hdecoded, Option.some_or]
      · rw [hnone, Option.none_or, h.verification ref hheld]
    · exact h.verification ref href
  decisions k decision hlookup hopen := by
    rw [foldStep_decisions] at hlookup ⊢
    rw [hrevision]
    split_ifs at hlookup ⊢
    · exact h.decisions k decision hlookup hopen
    · exact decisionsStep_carries host h.decisions event k decision hlookup hopen
  effects k effect hlookup := by
    rw [foldStep_effects] at hlookup ⊢
    exact effectsStep_carries host h.effects event k effect hlookup

/-- Both folds at one revision, now and along what follows. -/
def SameContract (window complete : FoldState) (rest : List TaskStateEvent) : Prop :=
  window.contractRevision = complete.contractRevision ∧
    (window.objectiveHash = complete.objectiveHash ∨ ∀ event ∈ rest, event.kind ≠ .known .objectiveSet)

theorem SameContract.step {window complete : FoldState} {event : TaskStateEvent}
    {rest : List TaskStateEvent} (h : SameContract window complete (event :: rest)) :
    SameContract (foldStep host taskId window event) (foldStep host taskId complete event) rest := by
  have hrevision : ∀ st : FoldState, (foldStep host taskId st event).contractRevision =
      st.contractRevision + if Effective st.objectiveHash event then 1 else 0 := by
    intro st
    have hfold := foldl_contractRevision host taskId st [event]
    simpa [changes] using hfold
  have hhash : ∀ st : FoldState, (foldStep host taskId st event).objectiveHash =
      hashAfter st.objectiveHash event := fun st => foldl_hash host taskId st [event]
  obtain ⟨hsame, hhashes | hnone⟩ := h
  · exact ⟨by rw [hrevision, hrevision, hsame, hhashes], Or.inl (by rw [hhash, hhash, hhashes])⟩
  · have hneither : ∀ current, ¬ Effective current event :=
      fun current heffective => hnone event List.mem_cons_self heffective.1
    refine ⟨?_, Or.inr fun e he => hnone e (List.mem_cons_of_mem _ he)⟩
    rw [hrevision, hrevision, if_neg (hneither _), if_neg (hneither _), hsame]

theorem foldl_carries {cut window complete : FoldState} (h : Carries cut window complete)
    (rest : List TaskStateEvent) (hsame : SameContract window complete rest) :
    Carries cut (rest.foldl (foldStep host taskId) window) (rest.foldl (foldStep host taskId) complete) := by
  induction rest generalizing window complete with
  | nil => exact h
  | cons event rest ih =>
    exact ih (foldStep_carries host taskId h hsame.1 event) (hsame.step host taskId)

/-! ### The truncated fold -/

/-- The cut loses no objective change: the pins kept from the older part count as many
as the older part does. -/
def CutKeepsChanges (maxEvents : Int) (log : List TaskStateEvent) : Prop :=
  changes none (keptPins host maxEvents log) = changes none (olderEvents maxEvents log)

instance (maxEvents : Int) (log : List TaskStateEvent) : Decidable (CutKeepsChanges host maxEvents log) :=
  inferInstanceAs (Decidable (_ = _))

theorem sameContract_of_cut {maxEvents : Int} {log : List TaskStateEvent}
    (h : Arranged sortKey (dedupeKey host) log) (hcut : CutKeepsChanges host maxEvents log) :
    SameContract (foldEvents host taskId (keptPins host maxEvents log))
      (foldEvents host taskId (olderEvents maxEvents log)) (newestEvents maxEvents log) := by
  refine ⟨?_, ?_⟩
  · rw [foldEvents_contractRevision, foldEvents_contractRevision, hcut]
  · by_cases hset : ∃ event ∈ newestEvents maxEvents log, event.kind = .known .objectiveSet
    · have hkept := changes_of_no_set (keptPins_no_set h hset) none
      left
      rw [foldEvents_hash, foldEvents_hash, hash_of_no_change hkept, hash_of_no_change (hcut ▸ hkept)]
    · right
      intro event hm hk
      exact hset ⟨event, hm, hk⟩

theorem carries_of_cut {maxEvents : Int} {log : List TaskStateEvent}
    (h : Arranged sortKey (dedupeKey host) log) (hcut : CutKeepsChanges host maxEvents log) :
    Carries (foldEvents host taskId (olderEvents maxEvents log))
      (foldEvents host taskId (windowEvents host maxEvents log)) (foldEvents host taskId log) := by
  have hbare : Bare (foldEvents host taskId (keptPins host maxEvents log)) :=
    foldEvents_bare host taskId fun _ hm => kind_of_mem_keptPins h hm
  have hstart : Carries (foldEvents host taskId (olderEvents maxEvents log))
      (foldEvents host taskId (keptPins host maxEvents log))
      (foldEvents host taskId (olderEvents maxEvents log)) := by
    refine ⟨fun plan hplan => ?_, fun ref href => ?_, fun k d hd _ => Or.inr hd, fun k e he => Or.inr he⟩
    · have hnone : (foldEvents host taskId (keptPins host maxEvents log)).plan = none :=
        congrArg Prod.fst hbare.work
      rw [hnone] at hplan
      cases hplan
    · rw [hbare.verification] at href
      cases href
  have hrun := foldl_carries host taskId hstart _ (sameContract_of_cut host taskId h hcut)
  rwa [← foldEvents_append, ← foldEvents_append, ← windowEvents_eq h, older_append_newestEvents] at hrun

/-- How the truncated fold and the complete one stand to each other at the end. -/
structure Shadows (cut window complete : FoldState) : Prop extends Carries cut window complete where
  revision : window.contractRevision = complete.contractRevision
  text : window.objectiveText = complete.objectiveText
  cancelled : complete.parts.cancelled = true → window.parts.cancelled = true

theorem shadows_of_cut {maxEvents : Int} {log : List TaskStateEvent}
    (h : Arranged sortKey (dedupeKey host) log) (hcut : CutKeepsChanges host maxEvents log) :
    Shadows (foldEvents host taskId (olderEvents maxEvents log))
      (foldEvents host taskId (windowEvents host maxEvents log)) (foldEvents host taskId log) := by
  obtain ⟨P, hfilter, hP⟩ := windowEvents_filter h maxEvents
  refine ⟨carries_of_cut host taskId h hcut, ?_, ?_, ?_⟩
  · have hsame := sameContract_of_cut host taskId h hcut
    rw [windowEvents_eq h]
    conv_rhs => rw [← older_append_newestEvents maxEvents log]
    rw [contractRevision_append, contractRevision_append, hsame.1]
    rcases hsame.2 with hhash | hnone
    · rw [hhash]
    · rw [changes_of_no_set hnone, changes_of_no_set hnone]
  · rw [hfilter]
    exact congrArg Prod.fst (objective_filter host taskId hP)
  · rw [hfilter]
    exact cancelled_filter host taskId hP

section Shadows
variable {host} {cut window complete : FoldState} {plan : ApprovedPlan}

theorem Shadows.folded (h : Shadows cut window complete) (hlive : Live window.parts plan) :
    complete.folded = some plan := by
  obtain ⟨held, hheld, rfl⟩ := Option.map_eq_some_iff.mp hlive.planned
  have hwork := h.plan held hheld hlive.approved
  have hplan : complete.plan = window.plan := congrArg Prod.fst hwork
  have hsteps : complete.steps = window.steps := congrArg Prod.snd hwork
  rw [FoldState.folded, hplan, hsteps, hheld]
  rfl

theorem Shadows.notCancelled (h : Shadows cut window complete) (hlive : Live window.parts plan) :
    complete.parts.cancelled = false := by
  by_contra hcancelled
  rw [Bool.not_eq_false] at hcancelled
  exact absurd (h.cancelled hcancelled) (by rw [hlive.notCancelled]; decide)

/-- A live plan of the window is live in the complete fold, or a decision the window
misses is still open. -/
theorem Shadows.live (h : Shadows cut window complete) (hlive : Live window.parts plan) :
    Live complete.parts plan ∨ ∃ decision ∈ complete.parts.openDecisions, decision.superseded = false ∧
      decision ∈ cut.decisions.sortedValues := by
  have htext : complete.parts.objectiveText = window.parts.objectiveText := h.text.symm
  by_cases hdecided : ∀ decision ∈ complete.parts.openDecisions, decision.superseded = true
  · exact Or.inl ⟨h.notCancelled hlive, htext ▸ hlive.objective, hdecided, h.folded hlive,
      hlive.approved, hlive.current.trans h.revision⟩
  · push Not at hdecided
    obtain ⟨decision, hm, hopen⟩ := hdecided
    rw [ne_eq, Bool.not_eq_true] at hopen
    obtain ⟨k, hk⟩ := (Dict.mem_sortedValues _ _).mp hm
    refine Or.inr ⟨decision, hm, hopen, ?_⟩
    rcases h.decisions k decision hk hopen with hwindow | hcut
    · have hsuperseded := hlive.decided decision ((Dict.mem_sortedValues _ _).mpr ⟨k, hwindow⟩)
      rw [hopen] at hsuperseded
      cases hsuperseded
    · exact (Dict.mem_sortedValues _ _).mpr ⟨k, hcut⟩

/-- Likewise for a verified plan and an effect the window misses. -/
theorem Shadows.settled (h : Shadows cut window complete) (hsettled : window.parts.unresolvedEffects = []) :
    complete.parts.unresolvedEffects = [] ∨
      ∃ effect ∈ complete.parts.unresolvedEffects, effect ∈ cut.effects.sortedValues := by
  cases heffects : complete.parts.unresolvedEffects with
  | nil => exact Or.inl rfl
  | cons effect rest =>
    have hm : effect ∈ complete.parts.unresolvedEffects := by simp [heffects]
    obtain ⟨k, hk⟩ := (Dict.mem_sortedValues _ _).mp hm
    refine Or.inr ⟨effect, List.mem_cons_self, ?_⟩
    rcases h.effects k effect hk with hwindow | hcut
    · have hopen := (Dict.mem_sortedValues _ _).mpr ⟨k, hwindow⟩
      rw [show window.effects.sortedValues = [] from hsettled] at hopen
      cases hopen
    · exact (Dict.mem_sortedValues _ _).mpr ⟨k, hcut⟩

end Shadows

/-- The fold of the whole log, with a window it fits. -/
def completeFold (events : List TaskStateEvent) (ids : TaskIds) (revision : Int) : TaskStateProjection :=
  (foldTaskState host events ids revision (orderedEvents host events).length).projection

theorem completeFold_eq (events : List TaskStateEvent) (ids : TaskIds) (revision : Int) :
    completeFold host events ids revision =
      (foldEvents host ids.taskId (orderedEvents host events)).projection host ids revision := by
  have hfits : truncates (orderedEvents host events).length (orderedEvents host events) = false := by
    simp [truncates]
  simp only [completeFold, foldTaskState, retainedEvents, hfits, Bool.false_eq_true, if_false]

/-- A decision of the complete projection that was open where the window was cut. -/
def HiddenDecision (cut : FoldState) (complete : TaskStateProjection) : Prop :=
  ∃ decision ∈ complete.openDecisions, decision.superseded = false ∧ decision ∈ cut.decisions.sortedValues

/-- An effect of the complete projection that was unresolved where the window was cut. -/
def HiddenEffect (cut : FoldState) (complete : TaskStateProjection) : Prop :=
  ∃ effect ∈ complete.unresolvedEffects, effect ∈ cut.effects.sortedValues

/-- What truncation cannot hide. Where the cut loses no objective change, a truncated
fold that says `done`, or that a step is to be executed, shows the complete fold's
plan, with its steps as they stand there and under its contract, and the complete
fold is not cancelled. It says the same, unless a decision (or, for `done`, an
effect) that was open where the window was cut still is. -/
theorem foldTaskState_truncated (events : List TaskStateEvent) (ids : TaskIds) (revision maxEvents : Int)
    (hcut : truncates maxEvents (orderedEvents host events) = true →
      CutKeepsChanges host maxEvents (orderedEvents host events)) :
    let window := (foldTaskState host events ids revision maxEvents).projection
    let complete := completeFold host events ids revision
    let cut := foldEvents host ids.taskId (olderEvents maxEvents (orderedEvents host events))
    (window.status = .done ∨ window.nextPermittedAction = .executeStep →
      complete.plan = window.plan ∧ complete.contractRevision = window.contractRevision ∧
        complete.status ≠ .cancelled) ∧
    (window.status = .done →
      complete.status = .done ∨ HiddenDecision cut complete ∨ HiddenEffect cut complete) ∧
    (window.nextPermittedAction = .executeStep →
      complete.nextPermittedAction = .executeStep ∨ HiddenDecision cut complete) := by
  intro window complete cut
  have hcomplete : complete = _ := completeFold_eq host events ids revision
  cases htruncates : truncates maxEvents (orderedEvents host events) with
  | false =>
    have hwindow : window = complete := by
      rw [hcomplete]
      simp only [window, foldTaskState, retainedEvents, htruncates, Bool.false_eq_true, if_false]
    rw [hwindow]
    refine ⟨fun h => ⟨rfl, rfl, fun hstatus => ?_⟩, Or.inl, Or.inl⟩
    rw [hcomplete] at h hstatus
    obtain ⟨plan, hlive⟩ := live_of_deriveStatus host h
    have hcancelled := (deriveStatus_cancelled_iff host).mp hstatus
    rw [hlive.notCancelled] at hcancelled
    cases hcancelled
  | true =>
    have hwindow : window = (foldEvents host ids.taskId (windowEvents host maxEvents
        (orderedEvents host events))).projection host ids revision := by
      simp only [window, foldTaskState, retainedEvents, htruncates, if_true]
    have hshadows : Shadows cut _ _ := shadows_of_cut host ids.taskId (arranged_orderedEvents host events)
      (hcut htruncates)
    rw [hwindow, hcomplete]
    refine ⟨fun h => ?_, fun h => ?_, fun h => ?_⟩
    · obtain ⟨plan, hlive⟩ := live_of_deriveStatus host h
      refine ⟨(hshadows.folded hlive).trans hlive.planned.symm, hshadows.revision.symm, fun hstatus => ?_⟩
      have hcancelled := (deriveStatus_cancelled_iff host).mp hstatus
      rw [hshadows.notCancelled hlive] at hcancelled
      cases hcancelled
    · obtain ⟨plan, ref, hv⟩ := (deriveStatus_done_iff host).mp h
      rcases hshadows.live hv.live with hlive | hhidden
      · rcases hshadows.settled hv.settled with hsettled | hhidden
        · exact Or.inl ((deriveStatus_done_iff host).mpr ⟨plan, ref, hlive, hv.finished, hsettled,
            hshadows.verification ref hv.verification, hv.passed, hv.contract.trans hshadows.revision,
            hv.names⟩)
        · exact Or.inr (Or.inr hhidden)
      · exact Or.inr (Or.inl hhidden)
    · obtain ⟨plan, hlive, hroot⟩ := (deriveStatus_executeStep_iff host).mp h
      rcases hshadows.live hlive with hlive | hhidden
      · exact Or.inl ((deriveStatus_executeStep_iff host).mpr ⟨plan, hlive, hroot⟩)
      · exact Or.inr hhidden

/-- Six events of which a window of five keeps the objective and the last two. -/
def cutLog (dropped : TaskStateEvent) (stepStatus : String) : List TaskStateEvent :=
  let filler : Int → String → TaskStateEvent := fun seq constraintId =>
    {seq, kind := .known .constraintGranted, contractRevision := 1, occurredAt := epoch,
      payload := [("constraint_id", .str constraintId)]}
  [{seq := 1, kind := .known .objectiveSet, contractRevision := 0, occurredAt := epoch,
      payload := [("objective_hash", .str "h1"), ("objective_text", .str "ship it")]},
    dropped, filler 3 "c3", filler 4 "c4",
    {seq := 5, kind := .known .planApproved, contractRevision := 1, occurredAt := epoch,
      payload := [("plan_id", .str "p1"),
        ("steps", .arr [.obj [("step_index", .int 0), ("status", .str stepStatus)]])]},
    {seq := 6, kind := .known .verificationRecorded, contractRevision := 1, occurredAt := epoch,
      payload := [("contract_revision", .int 1), ("plan_id", .str "p1"), ("state", .str "passed"),
        ("verification_id", .str "v1")]}]

def droppedEffect : TaskStateEvent :=
  {seq := 2, kind := .known .effectRecorded, contractRevision := 1, occurredAt := epoch,
    payload := [("effect_id", .str "e1")]}

def droppedDecision : TaskStateEvent :=
  {seq := 2, kind := .known .decisionOpened, contractRevision := 1, occurredAt := epoch,
    payload := [("decision_id", .str "d1")]}

def droppedChange : TaskStateEvent :=
  {seq := 2, kind := .known .objectiveSet, contractRevision := 1, occurredAt := epoch,
    payload := [("objective_hash", .str "h2"), ("objective_text", .str "ship more")]}

theorem foldTaskState_truncated_cutLog :
    (completeFold (asciiHost [] []) (cutLog droppedEffect "done") exampleIds 6).plan =
      (foldTaskState (asciiHost [] []) (cutLog droppedEffect "done") exampleIds 6 5).projection.plan :=
  ((foldTaskState_truncated (asciiHost [] []) (cutLog droppedEffect "done") exampleIds 6 5
    (fun _ => by decide)).1 (Or.inl (by decide))).1

/-- A truncated fold says `done` over an effect, a decision or an objective change it has
dropped, and that a step is to be executed over a dropped decision. -/
theorem truncation_hides :
    let window := fun dropped stepStatus =>
      (foldTaskState (asciiHost [] []) (cutLog dropped stepStatus) exampleIds 6 5).projection
    let complete := fun dropped stepStatus =>
      completeFold (asciiHost [] []) (cutLog dropped stepStatus) exampleIds 6
    ((window droppedEffect "done").status = .done ∧
      (complete droppedEffect "done").status = .awaitingVerification) ∧
    ((window droppedDecision "done").status = .done ∧
      (complete droppedDecision "done").status = .awaitingDecision) ∧
    ((window droppedChange "done").status = .done ∧
      (complete droppedChange "done").status = .planning) ∧
    (window droppedDecision "candidate").nextPermittedAction = .executeStep ∧
      (complete droppedDecision "candidate").nextPermittedAction = .awaitDecision := by
  decide

end OpenTimeline.TaskState
