import OpenTimeline.Library.Statements
import OpenTimeline.Dream.Fold

/-! What the dream fold loses when it truncates.

Nearly every field of the projection is what the latest event of some kind made it, and
the window has the latest event of every kind (`DecidedBy.window`, `status_window`). Five
fields are not: an event may state them or leave them out, and one that leaves them out
falls back on what was there before. The window can then lack the event that stated the
value last, having kept a later one of its kind that did not (`truncation_lossless_iff`).
The two running values of a showing are kept wherever showings carry running totals
(`Readable.keeps_showings`). -/
namespace OpenTimeline.Dream
open Library
open TaskState (text optText integer flag dtFromJson orElse)

variable (host : Host) (isoformat : Instant → String)

/-! ### Logs -/

/-- The logs the transitions allow, from a mint on. A showing carries the payload
`surfaced_event` builds. -/
inductive ReachableLog : List DreamProposalEvent → Prop
  | mint {event : DreamProposalEvent} : event.kind = .known .proposed → ReachableLog [event]
  | step {log : List DreamProposalEvent} {event : DreamProposalEvent} {kind : DreamProposalEventKind} :
      ReachableLog log → event.kind = .known kind →
      (transitionAllowed (foldEvents host log).status kind).1 →
      (∀ earlier ∈ log, earlier.seq < event.seq) →
      (kind = .surfaced → ∃ ordinal first occurredAt actor actorClass prior,
        event = {surfacedEvent isoformat ordinal first occurredAt actor actorClass prior with seq := event.seq}) →
      ReachableLog (log ++ [event])

/-- The ordinal of a showing. -/
def ordinalOf (event : DreamProposalEvent) : Option Int :=
  if event.kind = .known .surfaced then some (integer host (event.payload.get "ordinal") 0) else none

def isAttested (event : DreamProposalEvent) : Bool :=
  event.kind = .known .surfaced && flag host (event.payload.get "attested_ever") false

/-- The events a fold with room for `maxEvents` keeps: all that fit, else the latest of
each kind and the newest. -/
def isKept (maxEvents : Int) (log : List DreamProposalEvent) (event : DreamProposalEvent) : Bool :=
  log.length ≤ maxEvents || (latest DreamProposalEvent.kind event.kind log).any (·.seq = event.seq) ||
    (newest (tailSize maxEvents) log).any (·.seq = event.seq)

/-- What the fold asks of a log: that it is numbered, begins somewhere, is of the kinds it
knows, and has its showings' ordinals as they are built. -/
structure Readable (log : List DreamProposalEvent) : Prop where
  sorted : log.Pairwise fun a b => a.seq < b.seq
  known : ∀ event ∈ log, event.kind ∈ pinnedDreamKinds
  minted : ∃ event ∈ log, event.kind = .known .proposed
  ordinal : ∀ event ∈ log, event.kind = .known .surfaced → ∃ n : Int, 0 < n ∧ event.payload.get "ordinal" = .int n

/-- The first showing is dated in every showing. -/
def FirstDated (log : List DreamProposalEvent) : Prop := ∀ event ∈ log, event.kind = .known .surfaced →
  (dtFromJson host (event.payload.get "first_surfaced_at")).isSome

variable {host isoformat}

theorem Readable.append {log new : List DreamProposalEvent} (h : Readable log)
    (hsorted : (log ++ new).Pairwise fun a b => a.seq < b.seq) (hknown : ∀ event ∈ new, event.kind ∈ pinnedDreamKinds)
    (hordinal : ∀ event ∈ new, event.kind = .known .surfaced →
      ∃ n : Int, 0 < n ∧ event.payload.get "ordinal" = .int n) : Readable (log ++ new) := by
  refine ⟨hsorted, fun event hevent => ?_, ?_, fun event hevent => ?_⟩
  · exact (List.mem_append.mp hevent).elim (h.known event) (hknown event)
  · obtain ⟨mint, hmint, hproposed⟩ := h.minted
    exact ⟨mint, List.mem_append_left _ hmint, hproposed⟩
  · exact (List.mem_append.mp hevent).elim (h.ordinal event) (hordinal event)

theorem ReachableLog.readable {log : List DreamProposalEvent} (h : ReachableLog host isoformat log) :
    Readable log := by
  induction h with
  | @mint event hkind => constructor <;> simp [hkind, mem_pinnedDreamKinds]
  | @step log event kind _ hkind _ hseq hshown ih =>
    refine ih.append ?_ ?_ ?_
    · refine List.pairwise_append.mpr ⟨ih.sorted, List.pairwise_singleton _ _, fun a ha b hb => ?_⟩
      rw [List.mem_singleton.mp hb]
      exact hseq a ha
    · intro other hother
      rw [List.mem_singleton.mp hother, hkind]
      exact mem_pinnedDreamKinds kind
    · intro other hother hsurfaced
      rw [List.mem_singleton.mp hother] at hsurfaced ⊢
      rw [hkind] at hsurfaced
      cases hsurfaced
      obtain ⟨ordinal, first, occurredAt, actor, actorClass, prior, hevent⟩ := hshown rfl
      rw [hevent]
      exact ⟨max 1 ordinal, by omega, rfl⟩

theorem ReachableLog.firstDated (hiso : ∀ t, dtFromJson host (.str (isoformat t)) = some t)
    {log : List DreamProposalEvent} (h : ReachableLog host isoformat log) : FirstDated host log := by
  induction h with
  | @mint event hkind =>
    intro other hother hsurfaced
    rw [List.mem_singleton.mp hother, hkind] at hsurfaced
    cases hsurfaced
  | @step log event kind _ hkind _ _ hshown ih =>
    intro other hother hsurfaced
    rcases List.mem_append.mp hother with hold | hnew
    · exact ih other hold hsurfaced
    · rw [List.mem_singleton.mp hnew] at hsurfaced ⊢
      rw [hkind] at hsurfaced
      cases hsurfaced
      obtain ⟨ordinal, first, occurredAt, actor, actorClass, prior, hevent⟩ := hshown rfl
      rw [hevent]
      show (dtFromJson host (.str (isoformat first))).isSome
      rw [hiso]
      rfl

/-- A showing states its ordinal, whatever it is read with. -/
theorem Readable.integer_ordinal {log : List DreamProposalEvent} (h : Readable log) :
    ∀ event ∈ log, event.kind = .known .surfaced → ∀ default,
      integer host (event.payload.get "ordinal") default = integer host (event.payload.get "ordinal") 0 := by
  intro event hevent hsurfaced default
  obtain ⟨n, _, hn⟩ := h.ordinal event hevent hsurfaced
  rw [hn]
  rfl

theorem Readable.positive {log : List DreamProposalEvent} (h : Readable log) {event : DreamProposalEvent}
    (hevent : event ∈ log) {ordinal : Int} (hstated : ordinalOf host event = some ordinal) : 0 < ordinal := by
  unfold ordinalOf at hstated
  split_ifs at hstated with hsurfaced
  obtain ⟨n, hpositive, hn⟩ := h.ordinal event hevent hsurfaced
  rw [hn] at hstated
  exact Option.some.inj hstated ▸ hpositive

theorem Readable.arranged {log : List DreamProposalEvent} (h : Readable log) :
    Arranged sortKey (dedupeKey host) log := arranged_of_sorted host h.sorted

theorem Readable.ordered_eq {log : List DreamProposalEvent} (h : Readable log) :
    orderedEvents host log = log := orderedEvents_of_sorted host h.sorted

theorem Readable.eq_of_seq {log : List DreamProposalEvent} (h : Readable log) {a b : DreamProposalEvent}
    (ha : a ∈ log) (hb : b ∈ log) (hseq : a.seq = b.seq) : a = b := by
  have hnodup : (log.map DreamProposalEvent.seq).Nodup :=
    List.pairwise_map.mpr (h.sorted.imp fun hlt => ne_of_lt hlt)
  exact List.inj_on_of_nodup_map hnodup ha hb hseq

/-- The window is what the log is without what is dropped. -/
theorem Readable.retained_eq {log : List DreamProposalEvent} (h : Readable log) (maxEvents : Int) :
    retainedEvents host maxEvents log = log.filter (isKept maxEvents log) := by
  unfold retainedEvents
  rw [h.ordered_eq]
  dsimp only
  by_cases htruncates : maxEvents < log.length
  · have hsub : ∀ event ∈ pins DreamProposalEvent.kind pinnedDreamKinds log ++ newest (tailSize maxEvents) log,
        event ∈ log := by
      intro event hevent
      rcases List.mem_append.mp hevent with hpin | hnew
      · exact pins_subset hpin
      · exact List.mem_of_mem_drop hnew
    rw [if_pos (by simpa [truncates] using htruncates), windowEvents, orderedEvents,
      h.arranged.arrange_eq_filter hsub]
    refine List.filter_congr fun event hevent => Bool.eq_iff_iff.mpr ?_
    simp only [decide_eq_true_eq, isKept, Bool.or_eq_true, not_le.mpr htruncates, false_or, Option.any_eq_true,
      List.any_eq_true, List.mem_map]
    constructor
    · rintro ⟨other, hother, hsame⟩
      obtain rfl := h.arranged.eq_of_key (hsub other hother) hevent hsame
      rcases List.mem_append.mp hother with hpin | hnew
      · exact Or.inl ⟨other, (mem_pins_iff.mp hpin).2, rfl⟩
      · exact Or.inr ⟨other, hnew, rfl⟩
    · rintro (⟨other, hlatest, hseq⟩ | ⟨other, hnew, hseq⟩)
      · obtain rfl := h.eq_of_seq (mem_of_latest hlatest).1 hevent hseq
        exact ⟨other, List.mem_append_left _ (mem_pins_iff.mpr ⟨h.known other hevent, hlatest⟩), rfl⟩
      · obtain rfl := h.eq_of_seq (List.mem_of_mem_drop hnew) hevent hseq
        exact ⟨other, List.mem_append_right _ hnew, rfl⟩
  · rw [if_neg (by simpa [truncates] using htruncates)]
    refine (List.filter_eq_self.mpr fun event _ => ?_).symm
    simp [isKept, not_lt.mp htruncates]

/-- A fold that is given room for the whole log reads the whole log. -/
theorem Readable.retained_length {log : List DreamProposalEvent} (h : Readable log) :
    retainedEvents host log.length log = log := by
  unfold retainedEvents
  rw [h.ordered_eq]
  exact if_neg (by simp [truncates])

/-! ### Fields the latest event of a kind decides -/

variable (host) in
/-- No event but of kinds `ks` touches the field. -/
def TouchedBy {β : Type} (get : DreamFields → β) (ks : List DreamProposalEventKind) : Prop :=
  ∀ kind ∉ ks, ∀ st payload occurredAt, get (applyKind host st kind payload occurredAt) = get st

variable (host) in
/-- Those that touch the field set it, whatever it was. -/
structure DecidedBy {β : Type} (get : DreamFields → β) (ks : List DreamProposalEventKind) : Prop where
  touched : TouchedBy host get ks
  sets : ∀ kind ∈ ks, ∀ st st' payload occurredAt,
    get (applyKind host st kind payload occurredAt) = get (applyKind host st' kind payload occurredAt)

theorem TouchedBy.foldStep {β : Type} {get : DreamFields → β} {ks : List DreamProposalEventKind}
    (h : TouchedBy host get ks) {event : DreamProposalEvent} (hkind : event.kind ∉ ks.map DreamKind.known)
    (st : DreamFields) : get (foldStep host st event) = get st := by
  unfold Dream.foldStep
  cases hk : event.kind with
  | unknown _ => rfl
  | known kind =>
    rw [hk] at hkind
    exact h kind (fun hmem => hkind (List.mem_map_of_mem hmem)) _ _ _

theorem DecidedBy.foldStep {β : Type} {get : DreamFields → β} {ks : List DreamProposalEventKind}
    (h : DecidedBy host get ks) {event : DreamProposalEvent} (hkind : event.kind ∈ ks.map DreamKind.known)
    (st st' : DreamFields) : get (foldStep host st event) = get (foldStep host st' event) := by
  obtain ⟨kind, hmem, heq⟩ := List.mem_map.mp hkind
  simp only [Dream.foldStep, ← heq]
  exact h.sets kind hmem _ _ _ _

/-- `P` keeps the latest event of every kind. -/
def KeepsLatest (P : DreamProposalEvent → Bool) (log : List DreamProposalEvent) : Prop :=
  ∀ kind event, latest DreamProposalEvent.kind (.known kind) log = some event → P event

theorem keepsLatest_isKept (maxEvents : Int) (log : List DreamProposalEvent) :
    KeepsLatest (isKept maxEvents log) log := by
  intro kind event hlatest
  have hkind : event.kind = .known kind := (mem_of_latest hlatest).2
  simp [isKept, hkind, hlatest]

/-- A field is kept where its events set it. -/
theorem TouchedBy.window {β : Type} {get : DreamFields → β} {ks : List DreamProposalEventKind}
    (h : TouchedBy host get ks) {log : List DreamProposalEvent} {P : DreamProposalEvent → Bool}
    (hkeeps : KeepsLatest P log) (hsets : ∀ event ∈ log, event.kind ∈ ks.map DreamKind.known →
      ∀ st st', get (Dream.foldStep host st event) = get (Dream.foldStep host st' event)) :
    get (foldEvents host (log.filter P)) = get (foldEvents host log) := by
  refine get_foldl_filter hsets (fun event _ hkind st => h.foldStep hkind st) (fun k hk event hlatest => ?_) {}
  obtain ⟨kind, _, rfl⟩ := List.mem_map.mp hk
  exact hkeeps kind event hlatest

theorem DecidedBy.window {β : Type} {get : DreamFields → β} {ks : List DreamProposalEventKind}
    (h : DecidedBy host get ks) {log : List DreamProposalEvent} {P : DreamProposalEvent → Bool}
    (hkeeps : KeepsLatest P log) :
    get (foldEvents host (log.filter P)) = get (foldEvents host log) :=
  h.touched.window hkeeps fun _ _ hkind => h.foldStep hkind

variable (host)

/-- The fields that are what the latest event of some kinds made them. -/
theorem decidedBy_fields :
    DecidedBy host (fun st => (st.title, st.connectionText, st.benefitText, st.firstStep, st.themeTokens,
      st.projectId, st.scopeKind, st.supersedesProposalId, st.reproposeDepth)) [.proposed] ∧
    DecidedBy host (·.citations) [.proposed, .evidenceRevalidated] ∧
    DecidedBy host (·.lastSurfacedAt) [.surfaced] ∧
    DecidedBy host (·.acceptedAt) [.accepted] ∧
    DecidedBy host (fun st => (st.rejectedAt, st.rejectionReason)) [.rejected] ∧
    DecidedBy host (·.snoozeUntil) [.snoozed, .unsnoozed] ∧
    DecidedBy host (fun st => (st.taskId, st.objectiveHash)) [.objectiveBound] ∧
    DecidedBy host (·.pursuitStartedAt) [.pursuitStarted] ∧
    DecidedBy host (fun st => (st.abandonedAt, st.abandonReason)) [.pursuitAbandoned] ∧
    DecidedBy host (·.completedAt) [.completed] ∧
    DecidedBy host (·.withdrawnReason) [.withdrawn, .superseded] := by
  refine ⟨?_, ?_, ?_, ?_, ?_, ?_, ?_, ?_, ?_, ?_, ?_⟩
  all_goals
    constructor <;> intro kind hkind <;> cases kind <;>
      first | (intros; rfl) | exact absurd hkind (by decide)

/-- The fields whose events read what was there before. -/
theorem touchedBy_fields :
    TouchedBy host (fun st => (st.surfacedCount, st.surfacedAttested, st.firstSurfacedAt)) [.surfaced] ∧
    TouchedBy host (·.planRootGoalId) [.objectiveBound, .pursuitStarted] ∧
    TouchedBy host (fun st => (st.evidenceBasis, st.evidenceRevision, st.evidenceCutoffAt))
      [.proposed, .evidenceRevalidated] ∧
    TouchedBy host (·.expiresAt) [.proposed, .unsnoozed] := by
  refine ⟨?_, ?_, ?_, ?_⟩
  all_goals
    intro kind hkind
    cases kind <;> first | (intros; rfl) | exact absurd hkind (by decide)

/-! ### Showings -/

/-- No event but a showing touches what the showings accumulate. -/
theorem foldStep_of_not_surfaced {event : DreamProposalEvent} (h : event.kind ≠ .known .surfaced)
    (st : DreamFields) : (foldStep host st event).surfacedCount = st.surfacedCount ∧
      (foldStep host st event).surfacedAttested = st.surfacedAttested ∧
      (foldStep host st event).firstSurfacedAt = st.firstSurfacedAt := by
  have hsame := (touchedBy_fields host).1.foldStep (fun hmem => h (List.mem_singleton.mp hmem)) st
  simpa only [Prod.mk.injEq] using hsame

theorem firstSurfacedAt_window {log : List DreamProposalEvent} {P : DreamProposalEvent → Bool}
    (hdated : FirstDated host log) (hkeeps : KeepsLatest P log) :
    (foldEvents host (log.filter P)).firstSurfacedAt = (foldEvents host log).firstSurfacedAt := by
  have htouched : TouchedBy host (·.firstSurfacedAt) [.surfaced] := fun kind hkind st payload occurredAt =>
    congrArg (·.2.2) ((touchedBy_fields host).1 kind hkind st payload occurredAt)
  refine htouched.window hkeeps fun event hevent hkind st st' => ?_
  have hsurfaced := List.mem_singleton.mp hkind
  obtain ⟨first, hfirst⟩ := Option.isSome_iff_exists.mp (hdated event hevent hsurfaced)
  simp [foldStep, hsurfaced, applyKind, DreamFields.surfaced, hfirst]

/-- The count is the greatest ordinal shown. -/
theorem surfacedCount_foldEvents {log : List DreamProposalEvent} (hordinal : ∀ event ∈ log,
    event.kind = .known .surfaced → ∀ default,
      integer host (event.payload.get "ordinal") default = integer host (event.payload.get "ordinal") 0)
    (st : DreamFields) : (log.foldl (foldStep host) st).surfacedCount =
      (log.filterMap (ordinalOf host)).foldl max st.surfacedCount := by
  induction log generalizing st with
  | nil => rfl
  | cons event rest ih =>
    rw [List.foldl_cons, ih fun other hother => hordinal other (List.mem_cons_of_mem event hother)]
    by_cases hsurfaced : event.kind = .known .surfaced
    · have hstated : ordinalOf host event = some (integer host (event.payload.get "ordinal") 0) :=
        if_pos hsurfaced
      have hstep : (foldStep host st event).surfacedCount =
          max st.surfacedCount (integer host (event.payload.get "ordinal") 0) := by
        simp [foldStep, hsurfaced, applyKind, DreamFields.surfaced,
          hordinal event List.mem_cons_self hsurfaced]
      rw [hstep, List.filterMap_cons_some hstated, List.foldl_cons]
    · have hstated : ordinalOf host event = none := if_neg hsurfaced
      rw [(foldStep_of_not_surfaced host hsurfaced st).1, List.filterMap_cons_none hstated]

/-- A proposal has been attested exactly when some showing was. -/
theorem surfacedAttested_foldEvents (log : List DreamProposalEvent) (st : DreamFields) :
    (log.foldl (foldStep host) st).surfacedAttested = (st.surfacedAttested || log.any (isAttested host)) := by
  induction log generalizing st with
  | nil => simp
  | cons event rest ih =>
    have hstep : (foldStep host st event).surfacedAttested = (st.surfacedAttested || isAttested host event) := by
      by_cases hsurfaced : event.kind = .known .surfaced
      · simp [foldStep, hsurfaced, applyKind, DreamFields.surfaced, isAttested]
      · simp [(foldStep_of_not_surfaced host hsurfaced st).2.1, isAttested, hsurfaced]
    rw [List.foldl_cons, ih, hstep, List.any_cons, Bool.or_assoc]

/-! ### Status -/

/-- The kinds that move a proposal, showings apart. -/
def movingKinds : List DreamProposalEventKind :=
  [.proposed, .accepted, .rejected, .snoozed, .unsnoozed, .pursuitStarted, .pursuitAbandoned, .completed,
    .withdrawn, .expired, .superseded]

theorem touchedBy_status : TouchedBy host (·.status) (.surfaced :: movingKinds) := by
  intro kind hkind
  cases kind <;> first | (intros; rfl) | exact absurd hkind (by decide)

/-- An event that moves the proposal puts it where it does from any status. -/
theorem status_of_move {event : DreamProposalEvent} (h : event.kind ∈ movingKinds.map DreamKind.known)
    (st st' : DreamFields) : (foldStep host st event).status = (foldStep host st' event).status := by
  obtain ⟨kind, hmem, heq⟩ := List.mem_map.mp h
  simp only [foldStep, ← heq]
  cases kind <;> first | rfl | exact absurd hmem (by decide)

/-- Where no event moves the proposal, a showing is all that changes its status. -/
theorem status_of_no_move {q : List DreamProposalEvent}
    (hq : ∀ event ∈ q, event.kind ∉ movingKinds.map DreamKind.known) (st : DreamFields) :
    (q.foldl (foldStep host) st).status =
      if st.status = .proposed ∧ ∃ event ∈ q, event.kind = .known .surfaced then .surfaced else st.status := by
  induction q generalizing st with
  | nil => simp
  | cons event rest ih =>
    rw [List.foldl_cons, ih fun other hother => hq other (List.mem_cons_of_mem event hother)]
    by_cases hsurfaced : event.kind = .known .surfaced
    · have hstep : (foldStep host st event).status = if st.status = .proposed then .surfaced else st.status := by
        simp [foldStep, hsurfaced, applyKind, DreamFields.surfaced]
      rw [hstep]
      by_cases hproposed : st.status = .proposed <;> simp [hproposed, hsurfaced]
    · have hstep : (foldStep host st event).status = st.status := by
        refine (touchedBy_status host).foldStep (fun hmem => ?_) st
        rcases List.mem_cons.mp hmem with hsame | hmove
        · exact hsurfaced hsame
        · exact hq event List.mem_cons_self hmove
      rw [hstep]
      simp [hsurfaced]

/-- The window has the event that moved the proposal last, and a showing after it where the
log has one. -/
theorem status_window {log : List DreamProposalEvent} {P : DreamProposalEvent → Bool}
    (hminted : ∃ event ∈ log, event.kind = .known .proposed) (hkeeps : KeepsLatest P log) :
    (foldEvents host (log.filter P)).status = (foldEvents host log).status := by
  let moving : DreamProposalEvent → Bool := fun event => event.kind ∈ movingKinds.map DreamKind.known
  obtain ⟨mint, hmint, hproposed⟩ := hminted
  obtain ⟨last, hlast⟩ : ∃ last, latest moving true log = some last := by
    refine Option.isSome_iff_exists.mp (Option.isSome_iff_ne_none.mpr fun hnone => ?_)
    refine latest_eq_none_iff.mp hnone mint hmint ?_
    simp only [moving, hproposed]
    decide
  obtain ⟨p, q, rfl, hmoves, hq⟩ := exists_split_of_latest hlast
  simp only [moving, decide_eq_true_eq] at hmoves
  have hq' : ∀ event ∈ q, event.kind ∉ movingKinds.map DreamKind.known := fun event hevent hmove =>
    hq event hevent (decide_eq_true hmove)
  have hlatest : P last := by
    obtain ⟨kind, _, hkind⟩ := List.mem_map.mp hmoves
    refine hkeeps kind last (latest_split hkind.symm fun event hevent hsame => ?_)
    exact hq' event hevent (by rwa [hsame, hkind])
  have hshown : (∃ event ∈ q.filter P, event.kind = .known .surfaced) ↔
      ∃ event ∈ q, event.kind = .known .surfaced := by
    constructor
    · rintro ⟨event, hevent, hsurfaced⟩
      exact ⟨event, List.mem_of_mem_filter hevent, hsurfaced⟩
    · rintro ⟨event, hevent, hsurfaced⟩
      obtain ⟨shown, hshown⟩ : ∃ shown, latest DreamProposalEvent.kind (.known .surfaced) q = some shown :=
        Option.isSome_iff_exists.mp (Option.isSome_iff_ne_none.mpr fun hnone =>
          latest_eq_none_iff.mp hnone event hevent hsurfaced)
      have hlog' : latest DreamProposalEvent.kind (.known .surfaced) (p ++ last :: q) = some shown := by
        rw [← List.singleton_append, ← List.append_assoc, latest_append, hshown]
        rfl
      obtain ⟨hmem, hkind⟩ := mem_of_latest hshown
      exact ⟨shown, List.mem_filter.mpr ⟨hmem, hkeeps .surfaced shown hlog'⟩, hkind⟩
  rw [List.filter_append, List.filter_cons_of_pos hlatest]
  simp only [foldEvents, List.foldl_append, List.foldl_cons]
  rw [status_of_no_move host hq', status_of_no_move host fun event hevent => hq' event (List.mem_of_mem_filter hevent)]
  simp only [hshown, status_of_move host hmoves _ (p.foldl (foldStep host) {})]

/-! ### Statements -/

/-- The plan root an event states. -/
def planRootStated (event : DreamProposalEvent) : Option String :=
  match event.kind with
  | .known .objectiveBound | .known .pursuitStarted => optText (event.payload.get "plan_root_goal_id")
  | _ => none

/-- The evidence basis an event states. -/
def evidenceBasisStated (event : DreamProposalEvent) : Option String :=
  match event.kind with
  | .known .proposed =>
    some (orElse (text (event.payload.get "evidence_basis") evidenceBasisTrusted) evidenceBasisTrusted)
  | .known .evidenceRevalidated => optText (event.payload.get "evidence_basis")
  | _ => none

/-- The evidence revision an event states, an empty one included. -/
def evidenceRevisionStated (event : DreamProposalEvent) : Option String :=
  match event.kind with
  | .known .proposed => some (text (event.payload.get "evidence_revision") "")
  | .known .evidenceRevalidated => match event.payload.get "evidence_revision" with
    | .null | .arr _ | .obj _ => none
    | raw => some (text raw "")
  | _ => none

/-- The evidence cutoff an event states. -/
def evidenceCutoffStated (event : DreamProposalEvent) : Option (Option Instant) :=
  match event.kind with
  | .known .proposed => some (dtFromJson host (event.payload.get "evidence_cutoff_at"))
  | .known .evidenceRevalidated => (dtFromJson host (event.payload.get "evidence_cutoff_at")).map some
  | _ => none

/-- The expiry an event states. -/
def expiryStated (event : DreamProposalEvent) : Option (Option Instant) :=
  match event.kind with
  | .known .proposed => some (dtFromJson host (event.payload.get "expires_at"))
  | .known .unsnoozed => (dtFromJson host (event.payload.get "expires_at")).map some
  | _ => none

/-- What is stated last stays, and a default stands for what never is. -/
theorem foldEvents_stated {β : Type} {get : DreamFields → β} {stated : DreamProposalEvent → Option β}
    (h : ∀ st event, get (foldStep host st event) = (stated event).getD (get st)) (log : List DreamProposalEvent) :
    get (foldEvents host log) = (lastStated stated log).getD (get {}) :=
  foldl_lastStated (fun st event _ => h st event) {}

theorem foldEvents_planRoot (log : List DreamProposalEvent) :
    (foldEvents host log).planRootGoalId = lastStated planRootStated log := by
  have hstep : ∀ st event, (foldStep host st event).planRootGoalId =
      ((planRootStated event).map some).getD st.planRootGoalId := by
    intro st event
    unfold foldStep planRootStated
    cases event.kind with
    | unknown _ => rfl
    | known kind =>
      cases kind <;> first
        | rfl
        | (simp only [applyKind, DreamFields.objectiveBound, DreamFields.pursuitStarted]
           cases optText (event.payload.get "plan_root_goal_id") <;> rfl)
  rw [foldEvents_stated host hstep, lastStated_map]
  cases lastStated planRootStated log <;> rfl

theorem orElse_text (raw : Json) (prior : String) :
    orElse (text raw prior) prior = (optText raw).getD prior := by
  unfold optText
  cases raw <;> simp only [text, orElse] <;> split_ifs <;> simp_all

theorem foldEvents_evidenceBasis (log : List DreamProposalEvent) :
    (foldEvents host log).evidenceBasis = (lastStated evidenceBasisStated log).getD evidenceBasisTrusted := by
  refine foldEvents_stated host (fun st event => ?_) log
  unfold foldStep evidenceBasisStated
  cases event.kind with
  | unknown _ => rfl
  | known kind =>
    cases kind <;> first
      | rfl
      | exact orElse_text _ _

theorem foldEvents_evidenceRevision (log : List DreamProposalEvent) :
    (foldEvents host log).evidenceRevision = (lastStated evidenceRevisionStated log).getD "" := by
  refine foldEvents_stated host (fun st event => ?_) log
  unfold foldStep evidenceRevisionStated
  cases event.kind with
  | unknown _ => rfl
  | known kind =>
    cases kind <;> first
      | rfl
      | (simp only [applyKind, DreamFields.evidenceRevalidated]
         cases event.payload.get "evidence_revision" <;> rfl)

theorem foldEvents_evidenceCutoff (log : List DreamProposalEvent) :
    (foldEvents host log).evidenceCutoffAt = (lastStated (evidenceCutoffStated host) log).getD none := by
  refine foldEvents_stated host (fun st event => ?_) log
  unfold foldStep evidenceCutoffStated
  cases event.kind with
  | unknown _ => rfl
  | known kind =>
    cases kind <;> first
      | rfl
      | (simp only [applyKind, DreamFields.evidenceRevalidated]
         cases dtFromJson host (event.payload.get "evidence_cutoff_at") <;> rfl)

theorem foldEvents_expiry (log : List DreamProposalEvent) :
    (foldEvents host log).expiresAt = (lastStated (expiryStated host) log).getD none := by
  refine foldEvents_stated host (fun st event => ?_) log
  unfold foldStep expiryStated
  cases event.kind with
  | unknown _ => rfl
  | known kind =>
    cases kind <;> first
      | rfl
      | (simp only [applyKind]
         cases dtFromJson host (event.payload.get "expires_at") <;> rfl)

/-- What the mint states is stated in the log and in the window, so a default hides nothing. -/
theorem getD_lastStated_window {β : Type} (stated : DreamProposalEvent → Option β)
    (hmint : ∀ event, event.kind = .known .proposed → (stated event).isSome)
    {log : List DreamProposalEvent} {P : DreamProposalEvent → Bool} (hlog : Readable log)
    (hkeeps : KeepsLatest P log) (default : β) :
    (lastStated stated (log.filter P)).getD default = (lastStated stated log).getD default ↔
      lastStated stated (log.filter P) = lastStated stated log := by
  have hstated : ∀ events : List DreamProposalEvent, (∃ event ∈ events, event.kind = .known .proposed) →
      ∃ b, lastStated stated events = some b := by
    rintro events ⟨event, hevent, hproposed⟩
    refine Option.isSome_iff_exists.mp (Option.isSome_iff_ne_none.mpr fun hnone => ?_)
    have hsome := hmint event hproposed
    rw [lastStated_eq_none_iff.mp hnone event hevent] at hsome
    cases hsome
  obtain ⟨mint, hmint, hproposed⟩ := hlog.minted
  obtain ⟨last, hlatest⟩ : ∃ last, latest DreamProposalEvent.kind (.known .proposed) log = some last :=
    Option.isSome_iff_exists.mp (Option.isSome_iff_ne_none.mpr fun hnone =>
      latest_eq_none_iff.mp hnone mint hmint hproposed)
  obtain ⟨hlast, hkind⟩ := mem_of_latest hlatest
  obtain ⟨b, hfull⟩ := hstated log ⟨mint, hmint, hproposed⟩
  obtain ⟨b', hwindow⟩ := hstated (log.filter P)
    ⟨last, List.mem_filter.mpr ⟨hlast, hkeeps _ _ hlatest⟩, hkind⟩
  simp [hfull, hwindow]

/-! ### The window and the log -/

/-- The events kept state last what the log does, of the five fields an event may leave
out, and show as much as it does. -/
structure KeepsStatements (maxEvents : Int) (log : List DreamProposalEvent) : Prop where
  planRoot : lastStated planRootStated (log.filter (isKept maxEvents log)) = lastStated planRootStated log
  evidenceBasis :
    lastStated evidenceBasisStated (log.filter (isKept maxEvents log)) = lastStated evidenceBasisStated log
  evidenceRevision :
    lastStated evidenceRevisionStated (log.filter (isKept maxEvents log)) = lastStated evidenceRevisionStated log
  evidenceCutoff : lastStated (evidenceCutoffStated host) (log.filter (isKept maxEvents log)) =
    lastStated (evidenceCutoffStated host) log
  expiry : lastStated (expiryStated host) (log.filter (isKept maxEvents log)) =
    lastStated (expiryStated host) log
  ordinals : ∀ ordinal ∈ log.filterMap (ordinalOf host),
    ∃ kept ∈ (log.filter (isKept maxEvents log)).filterMap (ordinalOf host), ordinal ≤ kept
  attested : log.any (isAttested host) → (log.filter (isKept maxEvents log)).any (isAttested host)

theorem surfacedCount_window {log : List DreamProposalEvent} (hlog : Readable log)
    (P : DreamProposalEvent → Bool) :
    (foldEvents host (log.filter P)).surfacedCount = (foldEvents host log).surfacedCount ↔
      ∀ ordinal ∈ log.filterMap (ordinalOf host),
        ∃ kept ∈ (log.filter P).filterMap (ordinalOf host), ordinal ≤ kept := by
  have hfull : (foldEvents host log).surfacedCount = (log.filterMap (ordinalOf host)).foldl max 0 :=
    surfacedCount_foldEvents host hlog.integer_ordinal {}
  have hwindow : (foldEvents host (log.filter P)).surfacedCount =
      ((log.filter P).filterMap (ordinalOf host)).foldl max 0 :=
    surfacedCount_foldEvents host (fun event hevent => hlog.integer_ordinal event (List.mem_of_mem_filter hevent)) {}
  rw [hfull, hwindow, foldl_max_sublist_iff (List.filter_sublist.filterMap _)]
  refine forall₂_congr fun ordinal hordinal => or_iff_right fun hle => ?_
  obtain ⟨event, hevent, hstated⟩ := List.mem_filterMap.mp hordinal
  exact absurd hle (not_le.mpr (hlog.positive hevent hstated))

theorem surfacedAttested_window (log : List DreamProposalEvent) (P : DreamProposalEvent → Bool) :
    (foldEvents host (log.filter P)).surfacedAttested = (foldEvents host log).surfacedAttested ↔
      (log.any (isAttested host) → (log.filter P).any (isAttested host)) := by
  simp only [foldEvents, surfacedAttested_foldEvents, Bool.false_or]
  rw [Bool.eq_iff_iff]
  refine ⟨fun h => h.mpr, fun h => ⟨fun hwindow => ?_, h⟩⟩
  obtain ⟨event, hevent, hattested⟩ := List.any_eq_true.mp hwindow
  exact List.any_eq_true.mpr ⟨event, List.mem_of_mem_filter hevent, hattested⟩

variable {host}

/-- The kept events fold to what the log does exactly when they keep what it states. -/
theorem foldEvents_window_iff {log : List DreamProposalEvent} (hlog : Readable log)
    (hdated : FirstDated host log) (maxEvents : Int) :
    foldEvents host (log.filter (isKept maxEvents log)) = foldEvents host log ↔
      KeepsStatements host maxEvents log := by
  have hkeeps := keepsLatest_isKept maxEvents log
  have hcount := surfacedCount_window host hlog (isKept maxEvents log)
  have hattested := surfacedAttested_window host log (isKept maxEvents log)
  have hbasis := getD_lastStated_window evidenceBasisStated
    (fun event h => by simp [evidenceBasisStated, h]) hlog hkeeps evidenceBasisTrusted
  have hrevision := getD_lastStated_window evidenceRevisionStated
    (fun event h => by simp [evidenceRevisionStated, h]) hlog hkeeps ""
  have hcutoff := getD_lastStated_window (evidenceCutoffStated host)
    (fun event h => by simp [evidenceCutoffStated, h]) hlog hkeeps none
  have hexpiry := getD_lastStated_window (expiryStated host)
    (fun event h => by simp [expiryStated, h]) hlog hkeeps none
  rw [← foldEvents_evidenceBasis, ← foldEvents_evidenceBasis] at hbasis
  rw [← foldEvents_evidenceRevision, ← foldEvents_evidenceRevision] at hrevision
  rw [← foldEvents_evidenceCutoff, ← foldEvents_evidenceCutoff] at hcutoff
  rw [← foldEvents_expiry, ← foldEvents_expiry] at hexpiry
  constructor
  · intro h
    refine ⟨?_, hbasis.mp (congrArg _ h), hrevision.mp (congrArg _ h), hcutoff.mp (congrArg _ h),
      hexpiry.mp (congrArg _ h), hcount.mp (congrArg _ h), hattested.mp (congrArg _ h)⟩
    rw [← foldEvents_planRoot host, h, foldEvents_planRoot host]
  · intro h
    obtain ⟨hminted, hcitations, hshown, haccepted, hrejected, hsnoozed, hbound, hpursued, habandoned,
      hcompleted, hwithdrawn⟩ := decidedBy_fields host
    have hroot : (foldEvents host (log.filter (isKept maxEvents log))).planRootGoalId =
        (foldEvents host log).planRootGoalId := by
      rw [foldEvents_planRoot, foldEvents_planRoot, h.planRoot]
    have hminted := hminted.window hkeeps
    have hrejected := hrejected.window hkeeps
    have hbound := hbound.window hkeeps
    have habandoned := habandoned.window hkeeps
    simp only [Prod.mk.injEq] at hminted hrejected hbound habandoned
    obtain ⟨htitle, hconnection, hbenefit, hfirstStep, htheme, hproject, hscope, hsupersedes, hdepth⟩ := hminted
    exact DreamFields.ext (status_window host hlog.minted hkeeps) hproject hscope (hcount.mpr h.ordinals)
      (hattested.mpr h.attested) (firstSurfacedAt_window host hdated hkeeps) (hshown.window hkeeps) htitle
      hconnection hbenefit hfirstStep (hcitations.window hkeeps) htheme (hbasis.mpr h.evidenceBasis)
      (hrevision.mpr h.evidenceRevision) (hcutoff.mpr h.evidenceCutoff) hsupersedes hdepth
      (hsnoozed.window hkeeps) (hexpiry.mpr h.expiry) (haccepted.window hkeeps) hrejected.1 hrejected.2
      hbound.1 hbound.2 hroot (hpursued.window hkeeps) (hcompleted.window hkeeps) habandoned.1 habandoned.2
      (hwithdrawn.window hkeeps)

theorem Readable.projection_iff {log : List DreamProposalEvent} (h : Readable log) (hdated : FirstDated host log)
    (ids : DreamIds) (revision afterSurfaces maxEvents : Int) :
    (foldDreamProposal host log ids revision afterSurfaces maxEvents).projection =
        (foldDreamProposal host log ids revision afterSurfaces log.length).projection ↔
      KeepsStatements host maxEvents log := by
  rw [← foldEvents_window_iff h hdated maxEvents]
  simp only [foldDreamProposal, h.retained_length, h.retained_eq]
  constructor
  · exact fun hsame => congrArg DreamProposalProjection.toDreamFields hsame
  · exact fun hsame => congrArg (DreamFields.projection · ids revision afterSurfaces) hsame

/-- A truncated fold of a proposal's log is the fold of the whole log exactly when the
window still has the last statement of every field an event may leave out. -/
theorem truncation_lossless_iff (host : Host) (isoformat : Instant → String)
    (hiso : ∀ t, dtFromJson host (.str (isoformat t)) = some t) (log : List DreamProposalEvent)
    (hlog : ReachableLog host isoformat log) (ids : DreamIds) (revision afterSurfaces maxEvents : Int) :
    (foldDreamProposal host log ids revision afterSurfaces maxEvents).projection =
        (foldDreamProposal host log ids revision afterSurfaces log.length).projection ↔
      KeepsStatements host maxEvents log :=
  hlog.readable.projection_iff (hlog.firstDated hiso) ids revision afterSurfaces maxEvents

/-- The latest showing is kept, and every other comes before it. -/
theorem exists_last_showing {log : List DreamProposalEvent} {event : DreamProposalEvent} (hevent : event ∈ log)
    (hsurfaced : event.kind = .known .surfaced) (maxEvents : Int) :
    ∃ last ∈ log.filter (isKept maxEvents log), last.kind = .known .surfaced ∧
      (event = last ∨ ∃ p q, log = p ++ last :: q ∧ event ∈ p) := by
  obtain ⟨last, hlast⟩ : ∃ last, latest DreamProposalEvent.kind (.known .surfaced) log = some last :=
    Option.isSome_iff_exists.mp (Option.isSome_iff_ne_none.mpr fun hnone =>
      latest_eq_none_iff.mp hnone event hevent hsurfaced)
  obtain ⟨hmem, hkind⟩ := mem_of_latest hlast
  refine ⟨last, List.mem_filter.mpr ⟨hmem, keepsLatest_isKept maxEvents log _ _ hlast⟩, hkind, ?_⟩
  obtain ⟨p, q, hsplit, _, hq⟩ := exists_split_of_latest hlast
  rw [hsplit] at hevent
  rcases List.mem_append.mp hevent with hp | hrest
  · exact Or.inr ⟨p, q, hsplit, hp⟩
  · rcases List.mem_cons.mp hrest with rfl | hrest
    · exact Or.inl rfl
    · exact absurd hsurfaced (hq event hrest)

/-- The latest showing does for all of them where each carries the running count. -/
theorem Readable.keeps_count {log : List DreamProposalEvent} (h : Readable log) (maxEvents : Int)
    (hordinals : log.Pairwise fun a b => ∀ m ∈ ordinalOf host a, ∀ n ∈ ordinalOf host b, m ≤ n) :
    (foldEvents host (log.filter (isKept maxEvents log))).surfacedCount = (foldEvents host log).surfacedCount := by
  rw [surfacedCount_window host h]
  intro ordinal hordinal
  obtain ⟨event, hevent, hstated⟩ := List.mem_filterMap.mp hordinal
  have hsurfaced : event.kind = .known .surfaced := by
    by_contra hnot
    simp [ordinalOf, hnot] at hstated
  obtain ⟨last, hlast, hkind, hsame⟩ := exists_last_showing hevent hsurfaced maxEvents
  have hlast' : ordinalOf host last = some (integer host (last.payload.get "ordinal") 0) := if_pos hkind
  refine ⟨_, List.mem_filterMap.mpr ⟨last, hlast, hlast'⟩, ?_⟩
  rcases hsame with rfl | ⟨p, q, rfl, hp⟩
  · exact le_of_eq (Option.some.inj (hstated.symm.trans hlast'))
  · exact (List.pairwise_append.mp hordinals).2.2 event hp last List.mem_cons_self _ hstated _ hlast'

/-- And for what they attest, where each carries the running flag. -/
theorem Readable.keeps_showings {log : List DreamProposalEvent} (h : Readable log) (maxEvents : Int)
    (hordinals : log.Pairwise fun a b => ∀ m ∈ ordinalOf host a, ∀ n ∈ ordinalOf host b, m ≤ n)
    (hattested : log.Pairwise fun a b => b.kind = .known .surfaced → isAttested host a → isAttested host b) :
    (foldEvents host (log.filter (isKept maxEvents log))).surfacedCount = (foldEvents host log).surfacedCount ∧
      (foldEvents host (log.filter (isKept maxEvents log))).surfacedAttested =
        (foldEvents host log).surfacedAttested := by
  refine ⟨h.keeps_count maxEvents hordinals, (surfacedAttested_window host log _).mpr fun hany => ?_⟩
  obtain ⟨event, hevent, hshown⟩ := List.any_eq_true.mp hany
  have hsurfaced : event.kind = .known .surfaced := by
    simp only [isAttested, Bool.and_eq_true, decide_eq_true_eq] at hshown
    exact hshown.1
  obtain ⟨last, hlast, hkind, hsame⟩ := exists_last_showing hevent hsurfaced maxEvents
  refine List.any_eq_true.mpr ⟨last, hlast, ?_⟩
  rcases hsame with rfl | ⟨p, q, rfl, hp⟩
  · exact hshown
  · exact (List.pairwise_append.mp hattested).2.2 event hp last List.mem_cons_self hkind hshown

/-! ### Runs

The clock of the runs below prints two days as `isoformat` does, and every other instant
so that it can be told from the text. -/

def firstDay : Instant := epoch
def nextDay : Instant := epoch + 86400000000

def dayText (t : Instant) : String :=
  if t = firstDay then "1970-01-01T00:00:00+00:00"
  else if t = nextDay then "1970-01-02T00:00:00+00:00"
  else String.ofList (List.replicate (t + 1) 'T')

def dayHost : Host :=
  { asciiHost [] [] with
    fromIsoFormat := fun s =>
      if s = "1970-01-01T00:00:00+00:00" then some ⟨firstDay, true⟩
      else if s = "1970-01-02T00:00:00+00:00" then some ⟨nextDay, true⟩
      else if s.toList.all (· = 'T') then some ⟨s.length - 1, true⟩
      else none }

theorem dayHost_dayText (t : Instant) : dtFromJson dayHost (.str (dayText t)) = some t := by
  by_cases hfirst : t = firstDay
  · subst hfirst
    decide
  · by_cases hnext : t = nextDay
    · subst hnext
      decide
    · have htext : dayText t = String.ofList (List.replicate (t + 1) 'T') := by
        rw [dayText, if_neg hfirst, if_neg hnext]
      have hstrip : strip (dayText t) ≠ "" := by
        have hspace : ¬ isSpace 'T' := by decide
        have hdrop : (List.replicate (t + 1) 'T').dropWhile isSpace = List.replicate t 'T' ++ ['T'] := by
          rw [← List.replicate_succ', List.replicate_succ, List.dropWhile_cons_of_neg hspace]
        rw [htext, strip, String.toList_ofList, stripChars, hdrop, List.rdropWhile_concat_neg _ _ _ hspace]
        intro h
        simpa using congrArg String.toList h
      have hall : (dayText t).toList.all (· = 'T') := by simp [htext]
      have hother : dayText t ≠ "1970-01-01T00:00:00+00:00" ∧ dayText t ≠ "1970-01-02T00:00:00+00:00" := by
        constructor
        all_goals
          intro h
          rw [h] at hall
          revert hall
          decide
      have hparse : dayHost.fromIsoFormat (dayText t) = some ⟨(dayText t).length - 1, true⟩ := by
        simp only [dayHost, if_neg hother.1, if_neg hother.2, if_pos hall]
      rw [dtFromJson, if_neg hstrip, hparse]
      simp [htext, ← String.length_toList]

/-- The mint of a run, its evidence as new as `nextDay`. -/
def minted : DreamProposalEvent where
  seq := 1
  kind := .known .proposed
  payload := [("title", .str "ship it"), ("evidence_revision", .str "r1"),
    ("evidence_cutoff_at", .str "1970-01-02T00:00:00+00:00")]
  occurredAt := nextDay

/-- A recheck of the evidence, and how new what is left of it is. -/
def revalidated (seq : Int) (revision : String) (cutoff : Json) : DreamProposalEvent where
  seq := seq
  kind := .known .evidenceRevalidated
  payload := [("citations", .arr []), ("evidence_basis", .str evidenceBasisTrusted),
    ("evidence_revision", .str revision), ("evidence_cutoff_at", cutoff)]
  occurredAt := nextDay

def withdrawal (seq : Int) : DreamProposalEvent where
  seq := seq
  kind := .known .withdrawn
  payload := [("reason", .str "citations_unverifiable")]
  occurredAt := nextDay

/-- Showing `n`, the first on `nextDay`. -/
def showing (n : Nat) : DreamProposalEvent :=
  {surfacedEvent dayText (n + 1) nextDay (nextDay + n) "" "system" false with seq := n + 3}

def showings (n : Nat) : List DreamProposalEvent := (List.range n).map showing

/-- A proposal whose evidence lost its newest citation, shown `n` times. -/
def shownLog (n : Nat) : List DreamProposalEvent :=
  minted :: revalidated 2 "r2" (.str "1970-01-01T00:00:00+00:00") :: showings n

/-- The same, its last citations gone. -/
def withdrawnLog (n : Nat) : List DreamProposalEvent :=
  shownLog n ++ [revalidated (n + 3) "empty" .null] ++ [withdrawal (n + 4)]

theorem status_shownLog (n : Nat) :
    (foldEvents dayHost (shownLog n)).status = if n = 0 then .proposed else .surfaced := by
  induction n with
  | zero => decide
  | succ n ih =>
    have hlog : shownLog (n + 1) = shownLog n ++ [showing n] := by
      simp [shownLog, showings, List.range_succ]
    have hstep : ∀ st, (foldStep dayHost st (showing n)).status =
        if st.status = .proposed then .surfaced else st.status := fun _ => rfl
    rw [hlog, foldEvents, List.foldl_append, List.foldl_cons, List.foldl_nil, hstep, ← foldEvents, ih]
    cases n <;> rfl

theorem seq_shownLog {n : Nat} {event : DreamProposalEvent} (h : event ∈ shownLog n) : event.seq < n + 3 := by
  simp only [shownLog, showings, List.mem_cons, List.mem_map, List.mem_range] at h
  rcases h with rfl | rfl | ⟨m, hm, rfl⟩
  · show (1 : Int) < n + 3
    omega
  · show (2 : Int) < n + 3
    omega
  · show (m : Int) + 3 < n + 3
    omega

theorem reachable_shownLog (n : Nat) : ReachableLog dayHost dayText (shownLog n) := by
  induction n with
  | zero => exact (ReachableLog.mint rfl).step rfl rfl (by decide) nofun
  | succ n ih =>
    have hlog : shownLog (n + 1) = shownLog n ++ [showing n] := by
      simp [shownLog, showings, List.range_succ]
    rw [hlog]
    refine ih.step rfl ?_ (fun _ => seq_shownLog)
      fun _ => ⟨n + 1, nextDay, nextDay + n, "", "system", false, rfl⟩
    rw [status_shownLog]
    cases n <;> rfl

theorem reachable_withdrawnLog (n : Nat) : ReachableLog dayHost dayText (withdrawnLog n) := by
  have hrecheck : ReachableLog dayHost dayText (shownLog n ++ [revalidated (n + 3) "empty" .null]) :=
    (reachable_shownLog n).step rfl rfl (fun _ => seq_shownLog) nofun
  refine hrecheck.step rfl ?_ ?_ nofun
  · have hstatus : (foldEvents dayHost (shownLog n ++ [revalidated (n + 3) "empty" .null])).status =
        if n = 0 then .proposed else .surfaced := by
      rw [← status_shownLog, foldEvents, List.foldl_append]
      rfl
    rw [hstatus]
    cases n <;> rfl
  · intro earlier hearlier
    show earlier.seq < (n : Int) + 4
    rcases List.mem_append.mp hearlier with hshown | hrecheck
    · exact (seq_shownLog hshown).trans (by omega)
    · rw [List.mem_singleton.mp hrecheck]
      show (n : Int) + 3 < n + 4
      omega

/-- What a long run keeps says nothing of the evidence it lost first. -/
theorem not_keepsStatements_withdrawnLog {n : Nat} (hn : maxDreamEventsPerFold ≤ n) :
    ¬ KeepsStatements dayHost maxDreamEventsPerFold (withdrawnLog n) := by
  intro h
  let later := showings n ++ [revalidated (n + 3) "empty" .null] ++ [withdrawal (n + 4)]
  have hlater : ∀ event ∈ later, 2 < event.seq ∧ evidenceCutoffStated dayHost event = none ∧
      event.kind ≠ .known .proposed := by
    intro event hevent
    simp only [later, List.append_assoc, List.mem_append, List.mem_singleton, showings, List.mem_map] at hevent
    rcases hevent with ⟨m, _, rfl⟩ | rfl | rfl
    · refine ⟨?_, rfl, fun h => by cases h⟩
      show (2 : Int) < m + 3
      omega
    · refine ⟨?_, rfl, fun h => by cases h⟩
      show (2 : Int) < n + 3
      omega
    · refine ⟨?_, rfl, fun h => by cases h⟩
      show (2 : Int) < n + 4
      omega
  let first := revalidated 2 "r2" (.str "1970-01-01T00:00:00+00:00")
  have hlog : withdrawnLog n = [minted] ++ first :: later := by
    simp [withdrawnLog, shownLog, later, first]
  have hlength : (withdrawnLog n).length = n + 4 := by simp [withdrawnLog, shownLog, showings]
  have hmint : isKept maxDreamEventsPerFold (withdrawnLog n) minted = true := by
    refine keepsLatest_isKept _ _ .proposed minted ?_
    rw [hlog]
    show latest _ _ ([] ++ minted :: (first :: later)) = some minted
    refine latest_split rfl fun event hevent => ?_
    rcases List.mem_cons.mp hevent with rfl | hevent
    · intro hkind
      cases hkind
    · exact (hlater event hevent).2.2
  have hdropped : isKept maxDreamEventsPerFold (withdrawnLog n) first = false := by
    have hlatest : latest DreamProposalEvent.kind first.kind (withdrawnLog n) =
        some (revalidated (n + 3) "empty" .null) := by
      rw [withdrawnLog, List.append_assoc]
      exact latest_split rfl fun event hevent => by
        rw [List.mem_singleton.mp hevent]
        intro hkind
        cases hkind
    have hnewest : ∀ event ∈ newest (tailSize maxDreamEventsPerFold) (withdrawnLog n), event ∈ later := by
      intro event hevent
      have hdrop : (withdrawnLog n).length - tailSize maxDreamEventsPerFold =
          2 + ((withdrawnLog n).length - tailSize maxDreamEventsPerFold - 2) := by
        have htail : tailSize maxDreamEventsPerFold = 486 := by decide
        have hmax : maxDreamEventsPerFold = 500 := rfl
        omega
      rw [newest, hdrop, ← List.drop_drop, hlog] at hevent
      exact List.mem_of_mem_drop hevent
    have hseq : ∀ event ∈ later, event.seq ≠ first.seq := fun event hevent =>
      ne_of_gt (hlater event hevent).1
    have hlength' : ¬ ((withdrawnLog n).length : Int) ≤ maxDreamEventsPerFold := by omega
    have hrecheck : (revalidated (n + 3) "empty" .null).seq ≠ first.seq := by
      refine hseq _ ?_
      simp [later]
    simp only [isKept, hlatest, Option.any_some, Bool.or_eq_false_iff, decide_eq_false_iff_not,
      List.any_eq_false, decide_eq_true_eq]
    exact ⟨⟨hlength', hrecheck⟩, fun event hevent => hseq event (hnewest event hevent)⟩
  have hcutoff := h.evidenceCutoff
  have hnone : ∀ event ∈ later, evidenceCutoffStated dayHost event = none := fun event hevent =>
    (hlater event hevent).2.1
  have hlast : lastStated (evidenceCutoffStated dayHost) (withdrawnLog n) = some (some firstDay) := by
    rw [hlog]
    exact lastStated_split (by decide) hnone
  have hkept : lastStated (evidenceCutoffStated dayHost)
      ((withdrawnLog n).filter (isKept maxDreamEventsPerFold (withdrawnLog n))) = some (some nextDay) := by
    nth_rewrite 2 [hlog]
    rw [List.singleton_append, List.filter_cons_of_pos hmint, List.filter_cons_of_neg (by simp [hdropped]),
      ← List.nil_append (minted :: _)]
    exact lastStated_split (by decide) fun event hevent => hnone event (List.mem_of_mem_filter hevent)
  rw [hlast, hkept] at hcutoff
  revert hcutoff
  decide

/-- Four events, room for three: the showing that is dropped is the first. -/
theorem truncation_lossless_shownLog :
    (foldDreamProposal dayHost (shownLog 2) ⟨"p", "w", "o", "u", "s"⟩ 4 3 3).projection =
      (foldDreamProposal dayHost (shownLog 2) ⟨"p", "w", "o", "u", "s"⟩ 4 3 (shownLog 2).length).projection :=
  (truncation_lossless_iff dayHost dayText dayHost_dayText (shownLog 2) (reachable_shownLog 2)
    ⟨"p", "w", "o", "u", "s"⟩ 4 3 3).mpr (by constructor <;> decide)

/-- A proposal shown five hundred times forgets what the first recheck left of its evidence. -/
theorem truncation_forgets : ¬ ∀ host isoformat, (∀ t, dtFromJson host (.str (isoformat t)) = some t) →
    ∀ log, ReachableLog host isoformat log → ∀ ids revision afterSurfaces,
      (foldDreamProposal host log ids revision afterSurfaces maxDreamEventsPerFold).projection =
        (foldDreamProposal host log ids revision afterSurfaces log.length).projection := by
  intro h
  obtain ⟨n, hn⟩ : ∃ n : Nat, maxDreamEventsPerFold ≤ n := ⟨500, by decide⟩
  have hlog := reachable_withdrawnLog n
  refine not_keepsStatements_withdrawnLog hn
    ((hlog.readable.projection_iff (hlog.firstDated dayHost_dayText) ⟨"p", "w", "o", "u", "s"⟩ 1 3 _).mp ?_)
  exact h dayHost dayText dayHost_dayText (withdrawnLog n) (reachable_withdrawnLog n) _ _ _

end OpenTimeline.Dream
