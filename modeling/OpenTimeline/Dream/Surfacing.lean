import OpenTimeline.Library.Transition
import OpenTimeline.Dream.Batch

/-! Showing a proposal to its owner.

`append_surfaced` reads the proposal's row, decides on it whether a showing is due, and
numbers the showing one past the count it read; only then does it open the section that
appends. The section checks the status and no more, so another call may have shown the
proposal in between. Where none has, the folded count is the number of showings and no two
that follow one another are closer than the interval
(`surfaced_counted_spaced`). Where one has, both are written with one number
(`surfaced_twice`). -/
namespace OpenTimeline.Dream
open Library
open TaskState (integer)

variable (host : Host) (isoformat : Instant → String)

/-! ### Calls -/

/-- `dream_resurface_min_hours`, `dream_resurface_ignored_hours` and
`dream_nonresponse_after_surfaces`. -/
structure SurfacingSettings where
  minHours : Int
  ignoredHours : Int
  afterSurfaces : Int

/-- The arguments of `append_surfaced`, settings apart. -/
structure SurfacingRequest where
  scope : DreamScope
  proposalId : String
  actor : String
  actorClass : String
  now : Instant

/-- Less than `hours` have gone by since `last`. -/
def tooSoon (last : Option Instant) (hours : Int) (now : Instant) : Bool :=
  last.any fun last : Instant => 0 < hours && (now : Int) - last < hours * 3600000000

/-- What `append_surfaced` decides on the row it has read. -/
def surfacing (settings : SurfacingSettings) (request : SurfacingRequest) (row : ProposalRow) :
    Option DreamProposalEvent :=
  let interval := resurfaceIntervalHours row.nonresponse settings.minHours settings.ignoredHours
  if tooSoon row.lastSurfacedAt interval request.now then none
  else some (surfacedEvent isoformat (row.surfacedCount + 1) (row.firstSurfacedAt.getD request.now) request.now
    request.actor request.actorClass row.surfacedAttested)

/-- `append_surfaced`, with nothing between its read and its section; `none` where it
declines. -/
def appendSurfaced (settings : SurfacingSettings) (db : DreamDatabase) (request : SurfacingRequest) :
    Except DreamError (Option DreamDatabase) :=
  match (db.loadProposal request.scope request.proposalId).bind (surfacing isoformat settings request) with
  | none => .ok none
  | some event =>
    (applyDreamEvents host db request.scope request.proposalId [event] settings.afterSurfaces).map some

/-! ### Interleavings -/

/-- When an event showed the proposal, if it did. -/
def shownAt (event : DreamProposalEvent) : Option Instant :=
  if event.kind = .known .surfaced then some event.occurredAt else none

/-- The times of a log's showings. -/
def showingTimes (log : List DreamProposalEvent) : List Instant := log.filterMap shownAt

/-- A call between its read and its section. That the proposal had been `shown` so often
when its row was read is not something the call knows. -/
structure PendingShowing where
  request : SurfacingRequest
  event : DreamProposalEvent
  shown : Nat

structure SurfacingState where
  db : DreamDatabase
  calls : Nat → Option PendingShowing

inductive SurfacingAction
  | mint (scope : DreamScope) (request : MintRequest)
  | append (scope : DreamScope) (proposalId : String) (batch : List DreamProposalEvent)
      (expectedRevision : Option Int)
  | read (call : Nat) (request : SurfacingRequest)
  | write (call : Nat)

/-- Any number of calls, their halves interleaved with one another and with the other
writes. No other write shows a proposal. A write that is refused ends its call. -/
def surfacingCalls (settings : SurfacingSettings) : System SurfacingState SurfacingAction where
  init s := s = ⟨emptyStore, fun _ => none⟩
  next s action := match action with
    | .mint scope request =>
      (mintProposal host isoformat s.db scope request).toOption.map fun db => {s with db}
    | .append scope proposalId batch expectedRevision =>
      if batch.any fun event => event.kind = .known .surfaced then none
      else (applyDreamEvents host s.db scope proposalId batch settings.afterSurfaces expectedRevision).toOption.map
        fun db => {s with db}
    | .read call request =>
      let event := (s.db.loadProposal request.scope request.proposalId).bind (surfacing isoformat settings request)
      let shown := (showingTimes (s.db.log request.proposalId)).length
      some {s with calls := Function.update s.calls call (event.map (⟨request, ·, shown⟩))}
    | .write call =>
      (s.calls call).map fun pending =>
        let calls := Function.update s.calls call none
        match applyDreamEvents host s.db pending.request.scope pending.request.proposalId [pending.event]
          settings.afterSurfaces with
        | .ok db => ⟨db, calls⟩
        | .error _ => {s with calls}

/-- A call nothing comes between. -/
theorem run_read_write (settings : SurfacingSettings) (s : SurfacingState) (call : Nat) (request : SurfacingRequest) :
    (surfacingCalls host isoformat settings).run s [.read call request, .write call] =
      match appendSurfaced host isoformat settings s.db request with
      | .ok none => none
      | .ok (some db) => some ⟨db, Function.update s.calls call none⟩
      | .error _ => some ⟨s.db, Function.update s.calls call none⟩ := by
  simp only [System.run, surfacingCalls, appendSurfaced, List.foldlM_cons, List.foldlM_nil]
  cases (s.db.loadProposal request.scope request.proposalId).bind (surfacing isoformat settings request) with
  | none => simp
  | some event =>
    cases hok : applyDreamEvents host s.db request.scope request.proposalId [event] settings.afterSurfaces <;>
      simp [hok, Except.map]

/-- A write whose proposal has not been shown since its call read the row. -/
def undisturbed (s : SurfacingState) : SurfacingAction → Bool
  | .write call => (s.calls call).all fun pending =>
      pending.shown = (showingTimes (s.db.log pending.request.proposalId)).length
  | _ => true

/-! ### Spacing -/

/-- How many hours are to go by after the proposal has been shown `shown` times. -/
def SurfacingSettings.intervalAfter (settings : SurfacingSettings) (shown : Nat) : Int :=
  resurfaceIntervalHours (nonresponseState shown settings.afterSurfaces) settings.minHours settings.ignoredHours

/-- Each showing comes the interval after the one before it, where there is an interval. -/
def Spaced (settings : SurfacingSettings) (times : List Instant) : Prop :=
  ∀ (n : Nat) (a b : Instant), times[n]? = some a → times[n + 1]? = some b → 0 < settings.intervalAfter (n + 1) →
    (a : Int) + settings.intervalAfter (n + 1) * 3600000000 ≤ b

/-- The showings of a log are numbered from one. -/
def Numbered (log : List DreamProposalEvent) : Prop :=
  log.filterMap (ordinalOf host) = (List.range (showingTimes log).length).map fun n : Nat => (n : Int) + 1

theorem Spaced.snoc {settings : SurfacingSettings} {times : List Instant} (h : Spaced settings times) {now : Instant}
    (hdue : tooSoon times.getLast? (settings.intervalAfter times.length) now = false) :
    Spaced settings (times ++ [now]) := by
  intro n a b ha hb hinterval
  by_cases hn : n + 1 < times.length
  · rw [List.getElem?_append_left (by omega)] at ha
    rw [List.getElem?_append_left hn] at hb
    exact h n a b ha hb hinterval
  · have hlength : times.length = n + 1 := by
      have := (List.getElem?_eq_some_iff.mp hb).1
      rw [List.length_append, List.length_singleton] at this
      omega
    rw [List.getElem?_append_left (by omega)] at ha
    rw [List.getElem?_append_right (by omega), hlength, Nat.sub_self] at hb
    have hlast : times.getLast? = some a := by
      rw [List.getLast?_eq_getElem?, hlength]
      exact ha
    obtain rfl : now = b := Option.some.inj hb
    rw [hlast, hlength] at hdue
    simp only [tooSoon, Option.any_some, Bool.and_eq_false_iff, decide_eq_false_iff_not] at hdue
    rcases hdue with hnone | hlong
    · exact absurd hinterval hnone
    · omega

theorem showingTimes_append (log new : List DreamProposalEvent) :
    showingTimes (log ++ new) = showingTimes log ++ showingTimes new := List.filterMap_append

theorem showingTimes_eq_nil {events : List DreamProposalEvent} (h : ∀ event ∈ events, event.kind ≠ .known .surfaced) :
    showingTimes events = [] :=
  List.filterMap_eq_nil_iff.mpr fun event hevent => if_neg (h event hevent)

variable {host} in
theorem Numbered.append {log new : List DreamProposalEvent} (h : Numbered host log)
    (hnew : ∀ event ∈ new, event.kind ≠ .known .surfaced) : Numbered host (log ++ new) := by
  have hordinals : new.filterMap (ordinalOf host) = [] :=
    List.filterMap_eq_nil_iff.mpr fun event hevent => if_neg (hnew event hevent)
  rw [Numbered, showingTimes_append, showingTimes_eq_nil hnew, List.filterMap_append, hordinals, List.append_nil,
    List.append_nil]
  exact h

variable {host} in
theorem Numbered.snoc {log : List DreamProposalEvent} (h : Numbered host log) {event : DreamProposalEvent}
    (hkind : event.kind = .known .surfaced)
    (hordinal : event.payload.get "ordinal" = .int ((showingTimes log).length + 1)) :
    Numbered host (log ++ [event]) := by
  have hstated : ordinalOf host event = some (((showingTimes log).length : Int) + 1) := by
    rw [ordinalOf, if_pos hkind, hordinal]
    rfl
  have hshown : showingTimes (log ++ [event]) = showingTimes log ++ [event.occurredAt] := by
    have hshowing : shownAt event = some event.occurredAt := if_pos hkind
    rw [showingTimes_append]
    simp [showingTimes, hshowing]
  rw [Numbered, hshown, List.filterMap_append, h, List.filterMap_cons_some hstated, List.filterMap_nil,
    List.length_append, List.length_singleton, List.range_succ, List.map_append, List.map_singleton]

/-! ### The fold -/

theorem foldl_max_range (n : Nat) : ((List.range n).map fun m : Nat => (m : Int) + 1).foldl max 0 = n := by
  induction n with
  | zero => rfl
  | succ n ih =>
    rw [List.range_succ, List.map_append, List.foldl_append, ih]
    show max (n : Int) (n + 1) = _
    push_cast
    omega

/-- The fold of a numbered log has counted its showings and dated the last, whatever the
window has left out. -/
theorem Readable.counts {log : List DreamProposalEvent} (h : Readable log) (hnumbered : Numbered host log)
    (maxEvents : Int) :
    (foldEvents host (retainedEvents host maxEvents log)).surfacedCount = (showingTimes log).length ∧
      (foldEvents host (retainedEvents host maxEvents log)).lastSurfacedAt = (showingTimes log).getLast? := by
  rw [h.retained_eq]
  constructor
  · have hordinals : (log.filterMap (ordinalOf host)).Pairwise (· ≤ ·) := by
      rw [hnumbered, List.pairwise_map]
      refine List.pairwise_lt_range.imp fun hlt => ?_
      omega
    rw [List.pairwise_filterMap] at hordinals
    rw [h.keeps_count maxEvents (hordinals.imp fun hle m hm n hn => hle m hm n hn), foldEvents,
      surfacedCount_foldEvents host h.integer_ordinal, hnumbered]
    exact foldl_max_range _
  · obtain ⟨_, _, hlast, _⟩ := decidedBy_fields host
    rw [hlast.window (keepsLatest_isKept maxEvents log)]
    have hstep : ∀ st event, (foldStep host st event).lastSurfacedAt =
        ((shownAt event).map some).getD st.lastSurfacedAt := by
      intro st event
      unfold foldStep shownAt
      cases event.kind with
      | unknown _ => rfl
      | known kind => cases kind <;> rfl
    rw [foldEvents_stated host hstep, lastStated_map, lastStated, ← showingTimes]
    cases (showingTimes log).getLast? <;> rfl

/-! ### What the calls keep -/

/-- A log's showings are numbered and spaced, and the row has counted them and dated the
last. -/
structure Accounted (settings : SurfacingSettings) (row : ProposalRow) (log : List DreamProposalEvent) : Prop where
  readable : Readable log
  numbered : Numbered host log
  spaced : Spaced settings (showingTimes log)
  count : row.surfacedCount = (showingTimes log).length
  last : row.lastSurfacedAt = (showingTimes log).getLast?
  nonresponse : row.nonresponse = nonresponseState row.surfacedCount settings.afterSurfaces

/-- The showing a call means to write is the next, and due, after those its row counted. -/
structure PendingShowing.Due (settings : SurfacingSettings) (pending : PendingShowing) (times : List Instant) :
    Prop where
  shown : pending.shown ≤ times.length
  kind : pending.event.kind = .known .surfaced
  ordinal : pending.event.payload.get "ordinal" = .int (pending.shown + 1)
  due : tooSoon (times.take pending.shown).getLast? (settings.intervalAfter pending.shown)
    pending.event.occurredAt = false

structure Accounts (settings : SurfacingSettings) (s : SurfacingState) : Prop where
  kept : Kept s.db
  rows : ∀ id row, s.db.proposals.find id = some row → Accounted host settings row (s.db.log id)
  calls : ∀ call pending, s.calls call = some pending →
    pending.Due settings (showingTimes (s.db.log pending.request.proposalId))

theorem PendingShowing.Due.append {settings : SurfacingSettings} {pending : PendingShowing} {times : List Instant}
    (h : pending.Due settings times) (new : List Instant) : pending.Due settings (times ++ new) := by
  refine ⟨?_, h.kind, h.ordinal, ?_⟩
  · rw [List.length_append]
    exact h.shown.trans (Nat.le_add_right _ _)
  · rw [List.take_append_of_le_length h.shown]
    exact h.due

variable {host isoformat}

/-- What a call decides on a row it has just read. -/
theorem Accounted.surfacing {settings : SurfacingSettings} {row : ProposalRow} {log : List DreamProposalEvent}
    (h : Accounted host settings row log) {request : SurfacingRequest} {event : DreamProposalEvent}
    (hevent : Dream.surfacing isoformat settings request row = some event) :
    PendingShowing.Due settings ⟨request, event, (showingTimes log).length⟩ (showingTimes log) := by
  unfold Dream.surfacing at hevent
  simp only [h.nonresponse, h.count, h.last, Option.ite_none_left_eq_some, Bool.not_eq_true, Option.some.injEq]
    at hevent
  obtain ⟨hdue, rfl⟩ := hevent
  refine ⟨le_refl _, rfl, ?_, ?_⟩
  · show Json.int (max 1 _) = _
    rw [max_eq_right (by omega)]
  · rw [List.take_length]
    exact hdue

/-- A row that is the fold of a log accounts for it. -/
theorem accounted_of_fold {settings : SurfacingSettings} {row : ProposalRow} {log : List DreamProposalEvent}
    (hreadable : Readable log) (hnumbered : Numbered host log) (hspaced : Spaced settings (showingTimes log))
    (hcount : row.surfacedCount = (foldEvents host (retainedEvents host maxDreamEventsPerFold log)).surfacedCount)
    (hlast : row.lastSurfacedAt = (foldEvents host (retainedEvents host maxDreamEventsPerFold log)).lastSurfacedAt)
    (hnonresponse : row.nonresponse = nonresponseState row.surfacedCount settings.afterSurfaces) :
    Accounted host settings row log := by
  obtain ⟨hcount', hlast'⟩ := hreadable.counts host hnumbered maxDreamEventsPerFold
  exact ⟨hreadable, hnumbered, hspaced, hcount.trans hcount', hlast.trans hlast', hnonresponse⟩

theorem kind_of_allows {status : DreamProposalStatus} {event : DreamProposalEvent} (h : allows status event) :
    event.kind ∈ pinnedDreamKinds := by
  cases hkind : event.kind with
  | known kind => exact mem_pinnedDreamKinds kind
  | unknown _ => simp [allows, hkind] at h

/-- Appending takes nothing back from a call under way. -/
theorem Accounts.calls_appended {settings : SurfacingSettings} {s : SurfacingState} (h : Accounts host settings s)
    {db : DreamDatabase} {proposalId : String} {row : ProposalRow} {events : List DreamProposalEvent}
    (hafter : Appended s.db db proposalId row events) (call : Nat) (pending : PendingShowing)
    (hpending : s.calls call = some pending) :
    pending.Due settings (showingTimes (db.log pending.request.proposalId)) := by
  have hdue := h.calls call pending hpending
  rw [hafter.log]
  split_ifs
  · rw [showingTimes_append]
    exact hdue.append _
  · exact hdue

/-- A batch whose showings go on where the log's left off. -/
theorem Accounts.applyDreamEvents {settings : SurfacingSettings} {s : SurfacingState} (h : Accounts host settings s)
    {scope : DreamScope} {proposalId : String} {batch : List DreamProposalEvent} {expectedRevision : Option Int}
    {db : DreamDatabase}
    (hok : Dream.applyDreamEvents host s.db scope proposalId batch settings.afterSurfaces expectedRevision = .ok db)
    (hordinal : ∀ event ∈ batch, event.kind = .known .surfaced →
      ∃ n : Int, 0 < n ∧ event.payload.get "ordinal" = .int n)
    (hnumbered : Numbered host (s.db.log proposalId) →
      ∀ seq, Numbered host (s.db.log proposalId ++ stamp seq batch))
    (hspaced : Spaced settings (showingTimes (s.db.log proposalId)) →
      ∀ seq, Spaced settings (showingTimes (s.db.log proposalId ++ stamp seq batch))) :
    Accounts host settings {s with db} := by
  obtain ⟨hkept, row, hrow, hallowed, hafter⟩ := h.kept.applyDreamEvents hok
  obtain ⟨hfind, _, hid⟩ := loadProposal_eq_some hrow
  subst hid
  refine ⟨hkept, fun id other hother => ?_, h.calls_appended hafter⟩
  show Accounted host settings other (db.log id)
  change db.proposals.find id = some other at hother
  rw [hafter.rows] at hother
  have hsorted := hkept.sorted id
  rw [hafter.log] at hsorted ⊢
  split_ifs at hother hsorted ⊢ with hsame
  · subst hsame
    obtain rfl := Option.some.inj hother
    have haccounted := h.rows _ row hfind
    have hreadable : Readable (s.db.log row.id ++ stamp row.highestSeq batch) := by
      refine haccounted.readable.append hsorted (fun event hevent => ?_) fun event hevent hsurfaced => ?_
      · obtain ⟨original, hmem, heq⟩ := stamp_kind hevent
        rw [heq]
        exact kind_of_allows (hallowed original hmem)
      · obtain ⟨original, hmem, heq⟩ := stamp_kind hevent
        rw [heq] at hsurfaced ⊢
        exact hordinal original hmem hsurfaced
    refine accounted_of_fold hreadable (hnumbered haccounted.numbered _) (hspaced haccounted.spaced _) ?_ ?_ rfl
    · rw [← h.kept.loadProposalEvents]
      rfl
    · rw [← h.kept.loadProposalEvents]
      rfl
  · exact h.rows id other hother

theorem Accounts.mintProposal {settings : SurfacingSettings} {s : SurfacingState} (h : Accounts host settings s)
    {scope : DreamScope} {request : MintRequest} {db : DreamDatabase}
    (hok : Dream.mintProposal host isoformat s.db scope request = .ok db) : Accounts host settings {s with db} := by
  obtain ⟨hkept, hfresh, hafter⟩ := h.kept.mintProposal hok
  have hlog := h.kept.owned request.proposalId hfresh
  have hnone : ∀ event ∈ stamp 0 [request.event isoformat scope], event.kind ≠ .known .surfaced := by
    intro event hevent
    rw [List.mem_singleton.mp hevent]
    nofun
  have hreadable : Readable (stamp 0 [request.event isoformat scope]) := by
    constructor <;> simp [stamp, MintRequest.event, mem_pinnedDreamKinds]
  have hnumbered : Numbered host (stamp 0 [request.event isoformat scope]) :=
    @Numbered.append host [] _ rfl hnone
  refine ⟨hkept, fun id other hother => ?_, h.calls_appended hafter⟩
  show Accounted host settings other (db.log id)
  change db.proposals.find id = some other at hother
  rw [hafter.rows] at hother
  rw [hafter.log]
  split_ifs at hother ⊢ with hsame
  · obtain rfl := Option.some.inj hother
    rw [hsame, hlog, List.nil_append]
    obtain ⟨hcount, _⟩ := hreadable.counts host hnumbered maxDreamEventsPerFold
    have hnonresponse : (request.row host isoformat scope).nonresponse = nonresponseState 0 1 := by
      rw [showingTimes_eq_nil hnone] at hcount
      exact congrArg (nonresponseState · 1) hcount
    refine ⟨hreadable, hnumbered, ?_, ?_, ?_, hnonresponse⟩
    all_goals rw [showingTimes_eq_nil hnone]
    · intro n a b ha
      cases ha
    · rfl
    · rfl
  · exact h.rows id other hother

/-- A step keeps the accounts where no showing comes between a write and its read. -/
theorem Accounts.step {settings : SurfacingSettings} {s s' : SurfacingState} (h : Accounts host settings s)
    {action : SurfacingAction} (hundisturbed : undisturbed s action)
    (hnext : (surfacingCalls host isoformat settings).next s action = some s') : Accounts host settings s' := by
  cases action with
  | mint scope request =>
    obtain ⟨db, hok, rfl⟩ := Option.map_eq_some_iff.mp hnext
    exact h.mintProposal (toOption_eq_some_iff.mp hok)
  | append scope proposalId batch expectedRevision =>
    simp only [surfacingCalls, Option.ite_none_left_eq_some, Option.map_eq_some_iff] at hnext
    obtain ⟨hnone, db, hok, rfl⟩ := hnext
    have hother : ∀ event ∈ batch, event.kind ≠ .known .surfaced := by simpa using hnone
    have hstamped : ∀ seq, ∀ event ∈ stamp seq batch, event.kind ≠ .known .surfaced := by
      intro seq event hevent
      obtain ⟨original, hmem, heq⟩ := stamp_kind hevent
      rw [heq]
      exact hother original hmem
    refine h.applyDreamEvents (toOption_eq_some_iff.mp hok)
      (fun event hevent hsurfaced => absurd hsurfaced (hother event hevent))
      (fun hnumbered seq => hnumbered.append (hstamped seq)) fun hspaced seq => ?_
    rw [showingTimes_append, showingTimes_eq_nil (hstamped seq), List.append_nil]
    exact hspaced
  | read call request =>
    obtain rfl := Option.some.inj hnext
    refine ⟨h.kept, h.rows, fun other pending hpending => ?_⟩
    change Function.update s.calls call _ other = some pending at hpending
    rcases eq_or_ne other call with rfl | hne
    · rw [Function.update_self] at hpending
      obtain ⟨event, hevent, rfl⟩ := Option.map_eq_some_iff.mp hpending
      obtain ⟨row, hrow, hevent⟩ := Option.bind_eq_some_iff.mp hevent
      exact (h.rows _ row (loadProposal_eq_some hrow).1).surfacing hevent
    · rw [Function.update_of_ne hne] at hpending
      exact h.calls other pending hpending
  | write call =>
    obtain ⟨pending, hpending, rfl⟩ := Option.map_eq_some_iff.mp hnext
    have hothers : ∀ s' : SurfacingState, Accounts host settings s' → s'.calls = s.calls →
        Accounts host settings {s' with calls := Function.update s.calls call none} := by
      intro s' hs' hsame
      refine ⟨hs'.kept, hs'.rows, fun other pending' hpending' => hs'.calls other pending' ?_⟩
      change Function.update s.calls call none other = some pending' at hpending'
      rcases eq_or_ne other call with rfl | hne
      · rw [Function.update_self] at hpending'
        cases hpending'
      · rw [hsame, ← hpending']
        exact (Function.update_of_ne hne _ _).symm
    have hdue := h.calls call pending hpending
    have hshown : pending.shown = (showingTimes (s.db.log pending.request.proposalId)).length := by
      simpa [undisturbed, hpending] using hundisturbed
    cases hok : Dream.applyDreamEvents host s.db pending.request.scope pending.request.proposalId [pending.event]
        settings.afterSurfaces with
    | error e => exact hothers s h rfl
    | ok db =>
      refine hothers {s with db} (h.applyDreamEvents hok (fun event hevent _ => ?_)
        (fun hnumbered seq => ?_) fun hspaced seq => ?_) rfl
      · rw [List.mem_singleton.mp hevent]
        exact ⟨pending.shown + 1, by omega, hdue.ordinal⟩
      · refine hnumbered.snoc hdue.kind ?_
        rw [← hshown]
        exact hdue.ordinal
      · have hlatest : showingTimes (stamp seq [pending.event]) = [pending.event.occurredAt] :=
          List.filterMap_cons_some (if_pos hdue.kind)
        rw [showingTimes_append, hlatest]
        refine hspaced.snoc ?_
        have hnow := hdue.due
        rwa [hshown, List.take_length] at hnow

theorem accounts_of_reachable {settings : SurfacingSettings} {s : SurfacingState}
    (h : ((surfacingCalls host isoformat settings).restrict (undisturbed · ·)).Reachable s) :
    Accounts host settings s := by
  refine System.Reachable.invariant (fun s hinit => ?_) (fun s action s' _ hs hnext => ?_) h
  · rw [show s = _ from hinit]
    exact ⟨⟨fun _ => .nil, fun _ _ h => (nomatch h), fun _ _ => rfl⟩, fun _ _ h => (nomatch h), fun _ _ h => (nomatch h)⟩
  · obtain ⟨hundisturbed, hnext⟩ := System.restrict_next hnext
    exact hs.step hundisturbed hnext

variable (host isoformat)

/-- Where no showing comes between a call's read and its section, every proposal's folded
count is the number of its showings, and these are spaced. -/
theorem surfaced_counted_spaced (settings : SurfacingSettings) (s : SurfacingState)
    (h : ((surfacingCalls host isoformat settings).restrict (undisturbed · ·)).Reachable s) (proposalId : String)
    (row : ProposalRow) (hrow : s.db.proposals.find proposalId = some row) :
    row.surfacedCount = (showingTimes (s.db.log proposalId)).length ∧
      Spaced settings (showingTimes (s.db.log proposalId)) := by
  have haccounted := (accounts_of_reachable h).rows proposalId row hrow
  exact ⟨haccounted.count, haccounted.spaced⟩

/-! ### Runs -/

def exampleSettings : SurfacingSettings := ⟨24, 168, 3⟩

def exampleSurfacing (now : Instant) : SurfacingRequest := ⟨exampleScope, "p", "executor", "system", now⟩

/-- A proposal shown on two days. -/
def shownDaily : List SurfacingAction :=
  [.mint exampleScope exampleMint, .read 0 (exampleSurfacing firstDay), .write 0,
    .read 1 (exampleSurfacing nextDay), .write 1]

/-- A proposal two calls read before either writes. -/
def shownTogether : List SurfacingAction :=
  [.mint exampleScope exampleMint, .read 0 (exampleSurfacing firstDay), .read 1 (exampleSurfacing firstDay),
    .write 0, .write 1]

/-- A proposal shown twice, a day apart. -/
theorem surfaced_counted_spaced_daily : ∃ (s : SurfacingState) (row : ProposalRow),
    s.db.proposals.find "p" = some row ∧ showingTimes (s.db.log "p") = [firstDay, nextDay] ∧
    row.surfacedCount = (showingTimes (s.db.log "p")).length ∧
    Spaced exampleSettings (showingTimes (s.db.log "p")) := by
  have hrun : (((surfacingCalls dayHost dayText exampleSettings).restrict (undisturbed · ·)).run ⟨emptyStore, fun _ => none⟩
      shownDaily).any (fun s => (s.db.proposals.find "p").isSome &&
        showingTimes (s.db.log "p") = [firstDay, nextDay]) := by decide +kernel
  obtain ⟨s, hs, hshown⟩ := (Option.any_eq_true _ _).mp hrun
  rw [Bool.and_eq_true, decide_eq_true_eq] at hshown
  obtain ⟨row, hrow⟩ := Option.isSome_iff_exists.mp hshown.1
  exact ⟨s, row, hrow, hshown.2, surfaced_counted_spaced dayHost dayText exampleSettings s
    ((System.Reachable.init rfl).run hs) "p" row hrow⟩

/-- Two showings at one moment, counted as one. -/
theorem surfaced_twice :
    (¬ ∀ host isoformat settings s, (surfacingCalls host isoformat settings).Reachable s →
      ∀ proposalId row, s.db.proposals.find proposalId = some row →
        row.surfacedCount = (showingTimes (s.db.log proposalId)).length) ∧
    ¬ ∀ host isoformat settings s, (surfacingCalls host isoformat settings).Reachable s →
      ∀ proposalId row, s.db.proposals.find proposalId = some row →
        Spaced settings (showingTimes (s.db.log proposalId)) := by
  have hrun : ((surfacingCalls dayHost dayText exampleSettings).run ⟨emptyStore, fun _ => none⟩ shownTogether).any
      (fun s => (s.db.proposals.find "p").any (fun row => row.surfacedCount = 1) &&
        showingTimes (s.db.log "p") = [firstDay, firstDay]) := by decide +kernel
  obtain ⟨s, hs, hshown⟩ := (Option.any_eq_true _ _).mp hrun
  rw [Bool.and_eq_true, decide_eq_true_eq] at hshown
  obtain ⟨row, hrow, hcount⟩ := (Option.any_eq_true _ _).mp hshown.1
  rw [decide_eq_true_eq] at hcount
  have hreach : (surfacingCalls dayHost dayText exampleSettings).Reachable s := (System.Reachable.init rfl).run hs
  constructor
  · intro h
    have hcounted := h _ _ _ s hreach "p" row hrow
    rw [hshown.2, hcount] at hcounted
    cases hcounted
  · intro h
    have hspaced := h _ _ _ s hreach "p" row hrow
    rw [hshown.2] at hspaced
    have hday := hspaced 0 firstDay firstDay rfl rfl (by decide)
    revert hday
    decide

end OpenTimeline.Dream
