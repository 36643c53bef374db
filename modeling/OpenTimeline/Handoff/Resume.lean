import OpenTimeline.RequestScope
import OpenTimeline.Handoff.Outbox

/-! What a resume may show.

A resume is answered from the handoff records that a statement selects. Lite has the statement from the shared
predicate, Full writes its own. In both a record is of the caller's workspace, has not expired, and is of one owner:
the one the request names where it asks across users, otherwise the caller (`resume_isolated`). The two statements
select the same records but for a caller without a name and a source session with blanks around it
(`resume_same`). -/
namespace OpenTimeline.Handoff
open Library.Conditions RequestScope
open Planning (ResolvedScope mem_sortedSet)

variable (isoformat : Instant → String) (projectOf : HandoffRecord → Option String)

/-- `ResumePacketRequest` -/
structure ResumeRequest where
  targetOwner : Option String
  sessionId : String
  k : Nat
  includeCrossUser : Bool
  sourceSessionId : Option String
  legacySessionScope : Bool
deriving DecidableEq, Repr

/-- The record, as the database of either runtime has it. -/
def HandoffRecord.reading (dialect : ScopeDialect) (record : HandoffRecord) : Reading where
  column name :=
    if name = "workspace_id" then .text record.workspaceId
    else if name = "owner_id" then .text record.ownerId
    else if name = "session_id" then .text record.sessionId
    else if name = "expires_at" then match dialect with
      | .postgres => .instant record.expiresAt
      | .sqlite => .text (isoformat record.expiresAt)
    else if name = "project_id" then match projectOf record with
      | some project => .text project
      | none => .null
    else .null
  json _ _ := .null
  trim text := text
  lower text := text

/-- `str(body.target_owner or "").strip()` -/
def ResumeRequest.target (body : ResumeRequest) : String := strip (body.targetOwner.getD "")

def ResumeRequest.continuityIntent (body : ResumeRequest) : Bool := body.includeCrossUser && body.target ≠ ""

/-- The most rows that are read. -/
def ResumeRequest.rowLimit (body : ResumeRequest) : Nat := max 20 (body.k * 20)

/-! ### Full -/

/-- The scope of `handoff_resume_packet`; the project is the one of the session. -/
def fullScope (auth : Auth) (inherited : Option String) (retentionDays : Int) (body : ResumeRequest) : ResolvedScope :=
  let scope := resolveScope auth none inherited (some body.sessionId) body.targetOwner body.continuityIntent
    body.sourceSessionId body.legacySessionScope retentionDays
  if body.continuityIntent then narrowedToOwner scope (some body.target) else scope

/-- The clauses of `handoff_resume_packet`. -/
def fullEntries (auth : Auth) (scope : ResolvedScope) (body : ResumeRequest) (now : Instant) : List Entry :=
  [{ term := .column "workspace_id", slot := .equals "workspace_id" (.text auth.workspaceId) },
    { term := .column "owner_id", slot := .oneOf "owner_ids" scope.sqlOwnerIds },
    { term := .column "expires_at", slot := .after "now" (.instant now) }] ++
  (if body.legacySessionScope then
    [{ term := .column "session_id", slot := .equals "reader_session_id" (.text body.sessionId) }]
  else match given body.sourceSessionId with
    | some source => [{ term := .column "session_id", slot := .equals "source_session_id" (.text source) }]
    | none => []) ++
  match given scope.projectId with
  | some projectId => if scope.projectBinding = "bound" then
      [{ term := .column "project_id", slot := .equals "project_id" (.text projectId),
         rest := [(.column "project_id", .isNull)] }] else []
  | none => []

/-- The records a resume chooses from in Full. -/
def fullCandidates (records : List HandoffRecord) (auth : Auth) (inherited : Option String) (retentionDays : Int)
    (body : ResumeRequest) (now : Instant) : List HandoffRecord :=
  let statement := render .postgres (fullEntries auth (fullScope auth inherited retentionDays body) body now)
  ((records.filter fun record => selects statement (record.reading isoformat projectOf .postgres)).insertionSort
    fun a b => b.ts ≤ a.ts).take body.rowLimit

/-! ### Lite -/

/-- The scope of `get_resume_packet`. -/
def liteScope (auth : Auth) (inherited : Option String) (retentionDays : Int) (body : ResumeRequest) : ResolvedScope :=
  let scope := resolveScope auth none inherited (some body.sessionId) (given (some body.target))
    body.continuityIntent (given (some (strip (body.sourceSessionId.getD "")))) body.legacySessionScope retentionDays
  if body.continuityIntent then narrowedToOwner scope (given (some body.target)) else scope

/-- The records a resume chooses from in Lite. It raises where the old scope is asked for without a session. -/
def liteCandidates (records : List HandoffRecord) (auth : Auth) (inherited : Option String) (retentionDays : Int)
    (body : ResumeRequest) (now : Instant) : Except PyError (List HandoffRecord) := do
  let statement ← handoffsScopePredicate isoformat .sqlite (liteScope auth inherited retentionDays body)
    (some body.sessionId) (some now) none
  .ok (((records.filter fun record => selects statement (record.reading isoformat projectOf .sqlite)).insertionSort
    fun a b => isoformat b.ts ≤ isoformat a.ts).take body.rowLimit)

/-! ### Whose records -/

variable {isoformat projectOf}

/-- The one owner a resume is about. -/
def ResumeRequest.owner (body : ResumeRequest) (auth : Auth) : String :=
  if body.continuityIntent then body.target else auth.userId

/-- What a record needs; a resume narrows to a session where it has one. -/
structure Resumable (auth : Auth) (body : ResumeRequest) (session : Option String) (now : Instant)
    (record : HandoffRecord) : Prop where
  workspace : record.workspaceId = auth.workspaceId
  owner : record.ownerId = body.owner auth
  current : now < record.expiresAt
  session : ∀ id, session = some id → record.sessionId = id

/-- The session Full narrows to. -/
def ResumeRequest.fullSession (body : ResumeRequest) : Option String :=
  if body.legacySessionScope then some body.sessionId else given body.sourceSessionId

/-- The session Lite narrows to. -/
def ResumeRequest.liteSession (body : ResumeRequest) : Option String :=
  if body.legacySessionScope then given (some body.sessionId)
  else given (some (strip (body.sourceSessionId.getD "")))

theorem given_some {value : String} (h : value ≠ "") : given (some value) = some value := by simp [given, h]

theorem sqlOwnerIds_singleton {scope : ResolvedScope} {owner : String} (h : scope.ownerIds = [owner]) :
    scope.sqlOwnerIds = [owner] := by
  rw [ResolvedScope.sqlOwnerIds, h]
  rfl

/-- A scope for the one owner that is named, where one is. -/
theorem narrowed_eq (auth : Auth) (inherited taskId targetOwner narrowTo : Option String) (continuityIntent : Bool)
    (sourceSessionId : Option String) (legacySessionScope : Bool) (retentionDays : Int) {target : String}
    (h : continuityIntent = true → strip (targetOwner.getD "") = target ∧ strip (narrowTo.getD "") = target ∧
      target ≠ "") :
    let scope := resolveScope auth none inherited taskId targetOwner continuityIntent sourceSessionId
      legacySessionScope retentionDays
    (if continuityIntent then narrowedToOwner scope narrowTo else scope) =
      { scope with ownerIds := [if continuityIntent then target else auth.userId] } := by
  intro scope
  have howners : scope.ownerIds = ownerIds auth targetOwner continuityIntent := rfl
  cases continuityIntent with
  | false =>
    have hown : scope.ownerIds = [auth.userId] := by
      rw [howners, ownerIds]
      cases given targetOwner <;> simp
    simp only [Bool.false_eq_true, if_false, ← hown]
  | true =>
    obtain ⟨htarget, hnarrow, hne⟩ := h rfl
    have hpair : scope.ownerIds = [auth.userId, target] := by
      cases targetOwner with
      | none => exact absurd htarget.symm hne
      | some text =>
        have htext : text ≠ "" := fun heq => hne (by rw [← htarget, heq]; rfl)
        rw [Option.getD_some] at htarget
        rw [howners, ownerIds, given_some htext]
        simp [htarget, hne]
    have hmem : ¬(target = "" ∨ target ∉ scope.ownerIds) := by simp [hpair, hne]
    simp only [if_true, narrowedToOwner, hnarrow, if_neg hmem]

theorem fullScope_eq (auth : Auth) (inherited : Option String) (retentionDays : Int) (body : ResumeRequest) :
    fullScope auth inherited retentionDays body =
      { resolveScope auth none inherited (some body.sessionId) body.targetOwner body.continuityIntent
          body.sourceSessionId body.legacySessionScope retentionDays with ownerIds := [body.owner auth] } := by
  refine narrowed_eq auth inherited _ _ _ _ _ _ _ fun hintent => ⟨rfl, strip_strip _, ?_⟩
  simpa using (Bool.and_eq_true_iff.mp hintent).2

theorem liteScope_eq (auth : Auth) (inherited : Option String) (retentionDays : Int) (body : ResumeRequest) :
    liteScope auth inherited retentionDays body =
      { resolveScope auth none inherited (some body.sessionId) (given (some body.target)) body.continuityIntent
          (given (some (strip (body.sourceSessionId.getD "")))) body.legacySessionScope retentionDays with
        ownerIds := [body.owner auth] } := by
  refine narrowed_eq auth inherited _ _ _ _ _ _ _ fun hintent => ?_
  have hne : body.target ≠ "" := by simpa using (Bool.and_eq_true_iff.mp hintent).2
  rw [given_some hne]
  exact ⟨strip_strip _, strip_strip _, hne⟩

/-- A resume is never bound to a project: it has no hint of one. -/
theorem resolveScope_unbound (auth : Auth) (inherited taskId targetOwner : Option String) (continuityIntent : Bool)
    (sourceSessionId : Option String) (legacySessionScope : Bool) (retentionDays : Int) :
    (resolveScope auth none inherited taskId targetOwner continuityIntent sourceSessionId legacySessionScope
      retentionDays).projectBinding ≠ "bound" := by
  have hnone : (given none).isSome = false := rfl
  simp only [resolveScope, hnone]
  cases (given inherited).isSome <;> simp

section Columns
variable (record : HandoffRecord) (dialect : ScopeDialect)

@[simp] theorem cell_workspace : Term.cell (record.reading isoformat projectOf dialect) (.column "workspace_id") =
    .text record.workspaceId := rfl

@[simp] theorem cell_owner : Term.cell (record.reading isoformat projectOf dialect) (.column "owner_id") =
    .text record.ownerId := rfl

@[simp] theorem cell_session : Term.cell (record.reading isoformat projectOf dialect) (.column "session_id") =
    .text record.sessionId := rfl

@[simp] theorem cell_expires : Term.cell (record.reading isoformat projectOf .postgres) (.column "expires_at") =
    .instant record.expiresAt := rfl

@[simp] theorem cell_expires_text : Term.cell (record.reading isoformat projectOf .sqlite) (.column "expires_at") =
    .text (isoformat record.expiresAt) := rfl

end Columns

/-- A record is resumable, clause by clause. -/
theorem resumable_iff {auth : Auth} {body : ResumeRequest} {session : Option String} {now : Instant}
    {record : HandoffRecord} : Resumable auth body session now record ↔
      record.workspaceId = auth.workspaceId ∧ record.ownerId = body.owner auth ∧ now < record.expiresAt ∧
        ∀ id, session = some id → record.sessionId = id :=
  ⟨fun h => ⟨h.workspace, h.owner, h.current, h.session⟩,
    fun ⟨hworkspace, howner, hcurrent, hsession⟩ => ⟨hworkspace, howner, hcurrent, hsession⟩⟩

theorem fullEntries_labels (auth : Auth) (scope : ResolvedScope) (body : ResumeRequest) (now : Instant) :
    ((fullEntries auth scope body now).map fun entry => entry.slot.label).Nodup := by
  rw [fullEntries]
  cases body.legacySessionScope <;> cases given body.sourceSessionId <;> cases given scope.projectId <;>
    by_cases hbound : scope.projectBinding = "bound" <;> simp [hbound]

/-- Full selects what can be resumed. -/
theorem full_selects_iff (auth : Auth) (inherited : Option String) (retentionDays : Int) (body : ResumeRequest)
    (now : Instant) (record : HandoffRecord) :
    selects (render .postgres (fullEntries auth (fullScope auth inherited retentionDays body) body now))
        (record.reading isoformat projectOf .postgres) = true ↔ Resumable auth body body.fullSession now record := by
  have hunbound : (fullScope auth inherited retentionDays body).projectBinding ≠ "bound" := by
    rw [fullScope_eq]
    exact resolveScope_unbound auth inherited (some body.sessionId) body.targetOwner body.continuityIntent
      body.sourceSessionId body.legacySessionScope retentionDays
  have howners : (fullScope auth inherited retentionDays body).sqlOwnerIds = [body.owner auth] :=
    sqlOwnerIds_singleton (by rw [fullScope_eq])
  have hproject : (match given (fullScope auth inherited retentionDays body).projectId with
      | some projectId => if (fullScope auth inherited retentionDays body).projectBinding = "bound" then
          [({ term := .column "project_id", slot := .equals "project_id" (.text projectId),
              rest := [(.column "project_id", .isNull)] } : Entry)] else []
      | none => []) = [] := by
    cases given (fullScope auth inherited retentionDays body).projectId <;> simp [hunbound]
  rw [selects_render _ (fullEntries_labels auth _ body now), fullEntries, howners, hproject, resumable_iff,
    ResumeRequest.fullSession]
  cases body.legacySessionScope with
  | true => simp [Entry.clause, Slot.test]
  | false => cases given body.sourceSessionId <;> simp [Entry.clause, Slot.test]

@[simp] theorem qualified_none (column : String) : qualified column none = .column column := rfl

/-- The clause on the session in Lite: one for the session it narrows to, or the error. -/
theorem sessionEntries_lite (auth : Auth) (inherited : Option String) (retentionDays : Int) (body : ResumeRequest) :
    sessionEntries (liteScope auth inherited retentionDays body) (some body.sessionId) none =
      if body.legacySessionScope = true ∧ body.liteSession = none then .error .valueError
      else .ok (body.liteSession.toList.map fun session =>
        { term := .column "session_id",
          slot := .equals (if body.legacySessionScope then "scope_session" else "scope_source_session")
            (.text session) }) := by
  have hgiven : given (given (some (strip (body.sourceSessionId.getD "")))) =
      given (some (strip (body.sourceSessionId.getD ""))) := by simp [given, Option.filter_filter]
  rw [liteScope_eq, ResumeRequest.liteSession]
  simp only [sessionEntries, resolveScope, qualified_none, Option.or_self, hgiven]
  cases body.legacySessionScope with
  | true => cases given (some body.sessionId) <;> simp
  | false => cases given (some (strip (body.sourceSessionId.getD ""))) <;> simp

theorem map_ok {ε α β : Type} {f : α → β} {x : Except ε α} {y : β} (h : x.map f = .ok y) :
    ∃ a, x = .ok a ∧ f a = y := by
  cases x with
  | error e => cases h
  | ok a => exact ⟨a, rfl, Except.ok.inj h⟩

/-- Lite selects what can be resumed, of an owner with a name. -/
theorem lite_selects_iff {auth : Auth} {inherited : Option String} {retentionDays : Int} {body : ResumeRequest}
    {now : Instant} {record : HandoffRecord} {statement : Builder} (hname : strip (body.owner auth) ≠ "")
    (hiso : isoformat now < isoformat record.expiresAt ↔ now < record.expiresAt)
    (h : handoffsScopePredicate isoformat .sqlite (liteScope auth inherited retentionDays body) (some body.sessionId)
      (some now) none = .ok statement) :
    selects statement (record.reading isoformat projectOf .sqlite) = true ↔
      Resumable auth body body.liteSession now record := by
  have hunbound : (liteScope auth inherited retentionDays body).projectBinding ≠ "bound" := by
    rw [liteScope_eq]
    exact resolveScope_unbound auth inherited (some body.sessionId) (given (some body.target)) body.continuityIntent
      (given (some (strip (body.sourceSessionId.getD "")))) body.legacySessionScope retentionDays
  have hworkspace : (liteScope auth inherited retentionDays body).workspaceId = auth.workspaceId := by
    rw [liteScope_eq]
    rfl
  have howners : handoffOwners (liteScope auth inherited retentionDays body) = [body.owner auth] := by
    rw [handoffOwners, sqlOwnerIds_singleton (by rw [liteScope_eq])]
    simp [hname]
  obtain ⟨entries, hentries, rfl⟩ := map_ok h
  have hlabels := handoffs_labels hentries
  obtain ⟨session, hsession, hall⟩ := bind_ok hentries
  have hreader : ¬(body.legacySessionScope = true ∧ body.liteSession = none) := by
    intro hnone
    rw [sessionEntries_lite, if_pos hnone] at hsession
    cases hsession
  rw [sessionEntries_lite, if_neg hreader] at hsession
  obtain rfl := Except.ok.inj hsession
  obtain rfl := Except.ok.inj hall
  rw [selects_render _ hlabels, howners, hworkspace, resumable_iff]
  cases hproject : given (liteScope auth inherited retentionDays body).projectId <;>
    cases hsession : body.liteSession <;> cases body.legacySessionScope <;>
    simp [Entry.clause, Slot.test, boundNow, hiso, hunbound]

theorem strip_owner_ne {auth : Auth} (body : ResumeRequest) (h : strip auth.userId ≠ "") :
    strip (body.owner auth) ≠ "" := by
  rw [ResumeRequest.owner]
  split_ifs with hintent
  · have htarget : strip body.target = body.target := strip_strip _
    rw [htarget]
    simpa using (Bool.and_eq_true_iff.mp hintent).2
  · exact h

section Results
variable {records : List HandoffRecord} {auth : Auth} {body : ResumeRequest} {now : Instant} {times : Set Instant}

/-- What a resume chooses from, in either runtime, is of the caller's workspace and of the one owner the resume is
about: the one the request names where it asks across users, the caller otherwise. -/
theorem resume_isolated (inherited : Option String) (retentionDays : Int) (hiso : StrictMonoOn isoformat times)
    (hnow : now ∈ times) (htimes : ∀ record ∈ records, record.expiresAt ∈ times)
    (hname : strip auth.userId ≠ "")
    {candidates : List HandoffRecord}
    (h : candidates = fullCandidates isoformat projectOf records auth inherited retentionDays body now ∨
      liteCandidates isoformat projectOf records auth inherited retentionDays body now = .ok candidates) :
    ∀ record ∈ candidates, record ∈ records ∧ record.workspaceId = auth.workspaceId ∧
      record.ownerId = body.owner auth ∧ now < record.expiresAt := by
  intro record hrecord
  obtain rfl | h := h
  · have hmem := List.mem_of_mem_take hrecord
    rw [List.mem_insertionSort, List.mem_filter, full_selects_iff] at hmem
    exact ⟨hmem.1, hmem.2.workspace, hmem.2.owner, hmem.2.current⟩
  · obtain ⟨statement, hstatement, hcandidates⟩ := bind_ok h
    obtain rfl := Except.ok.inj hcandidates
    have hmem := List.mem_of_mem_take hrecord
    rw [List.mem_insertionSort, List.mem_filter] at hmem
    have hresumable := (lite_selects_iff (strip_owner_ne body hname)
      (hiso.lt_iff_lt hnow (htimes record hmem.1)) hstatement).mp hmem.2
    exact ⟨hmem.1, hresumable.workspace, hresumable.owner, hresumable.current⟩

section Example

/-- The first two days of 2026. -/
def sampleTimes : Set Instant := {63902822400000000, 63902908800000000}

def sampleIsoformat (time : Instant) : String :=
  if time = 63902822400000000 then "2026-01-01T00:00:00+00:00" else "2026-01-02T00:00:00+00:00"

theorem sampleIsoformat_strictMono : StrictMonoOn sampleIsoformat sampleTimes := by
  intro a ha b hb hab
  simp only [sampleTimes, Set.mem_insert_iff, Set.mem_singleton_iff] at ha hb
  obtain rfl | rfl := ha <;> obtain rfl | rfl := hb
  · exact absurd hab (lt_irrefl _)
  · decide
  · exact absurd hab (by decide)
  · exact absurd hab (lt_irrefl _)

def sampleRecord (id ownerId : String) : HandoffRecord where
  id := id
  workspaceId := "personal"
  ownerId := ownerId
  sessionId := "s1"
  directiveId := none
  ts := 63902822400000000
  status := "succeeded"
  source := "native"
  eventId := id
  expiresAt := 63902908800000000
  executorId := none

def sampleRecords : List HandoffRecord := [sampleRecord "a" "claude", sampleRecord "b" "codex"]

def sampleAuth : Auth := ⟨"claude", "personal", "claude", "claude"⟩

/-- A resume that asks for the work of another. -/
def sampleRequest : ResumeRequest := ⟨some " codex ", "s2", 5, true, some "s1", false⟩

theorem sampleRecords_times :
    ∀ record ∈ sampleRecords, record.expiresAt ∈ sampleTimes ∧ record.ts ∈ sampleTimes := by
  intro record hrecord
  simp only [sampleRecords, List.mem_cons, List.not_mem_nil, or_false] at hrecord
  obtain rfl | rfl := hrecord <;> simp [sampleRecord, sampleTimes]

end Example

theorem resume_isolated_example :
    let candidates := fullCandidates sampleIsoformat (fun _ => none) sampleRecords sampleAuth none 90 sampleRequest
      63902822400000000
    candidates.map HandoffRecord.id = ["b"] ∧ ∀ record ∈ candidates, record ∈ sampleRecords ∧
      record.workspaceId = "personal" ∧ record.ownerId = "codex" ∧ 63902822400000000 < record.expiresAt :=
  ⟨by decide +kernel, @resume_isolated sampleIsoformat (fun _ => none) sampleRecords sampleAuth sampleRequest _ _ none 90
    sampleIsoformat_strictMono (by simp [sampleTimes]) (fun record hrecord => (sampleRecords_times record hrecord).1)
    (by decide) _ (Or.inl rfl)⟩

/-- Both runtimes choose from the same records, where the caller has a name and the sessions of the request are none
or without blanks around them. -/
theorem resume_same (inherited : Option String) (retentionDays : Int) (hiso : StrictMonoOn isoformat times)
    (hnow : now ∈ times) (htimes : ∀ record ∈ records, record.expiresAt ∈ times ∧ record.ts ∈ times)
    (hname : strip auth.userId ≠ "") (hsession : body.legacySessionScope = true → body.sessionId ≠ "")
    (hsource : ∀ source, body.sourceSessionId = some source → strip source = source) :
    liteCandidates isoformat projectOf records auth inherited retentionDays body now =
      .ok (fullCandidates isoformat projectOf records auth inherited retentionDays body now) := by
  have hsame : body.liteSession = body.fullSession := by
    rw [ResumeRequest.liteSession, ResumeRequest.fullSession]
    split_ifs with hlegacy
    · exact given_some (hsession hlegacy)
    · cases hsourceId : body.sourceSessionId with
      | none => rfl
      | some source => rw [Option.getD_some, hsource source hsourceId]
  have hreader : ¬(body.legacySessionScope = true ∧ body.liteSession = none) := by
    intro ⟨hlegacy, hnone⟩
    rw [ResumeRequest.liteSession, if_pos hlegacy, given_some (hsession hlegacy)] at hnone
    cases hnone
  have hentries : ∃ statement, handoffsScopePredicate isoformat .sqlite (liteScope auth inherited retentionDays body)
      (some body.sessionId) (some now) none = .ok statement := by
    simp only [handoffsScopePredicate, handoffsEntries, sessionEntries_lite, if_neg hreader, bind, Except.bind,
      Except.map]
    exact ⟨_, rfl⟩
  obtain ⟨statement, hstatement⟩ := hentries
  have hselect : records.filter (fun record => selects statement (record.reading isoformat projectOf .sqlite)) =
      records.filter fun record => selects (render .postgres
        (fullEntries auth (fullScope auth inherited retentionDays body) body now))
        (record.reading isoformat projectOf .postgres) := by
    refine List.filter_congr fun record hrecord => Bool.eq_iff_iff.mpr ?_
    rw [full_selects_iff, lite_selects_iff (strip_owner_ne body hname)
      (hiso.lt_iff_lt hnow (htimes record hrecord).1) hstatement, hsame]
  have horder (kept : List HandoffRecord) (hkept : ∀ record ∈ kept, record ∈ records) :
      kept.insertionSort (fun a b => isoformat b.ts ≤ isoformat a.ts) =
        kept.insertionSort fun a b => b.ts ≤ a.ts := by
    have hsort := List.map_insertionSort (fun a b : HandoffRecord => isoformat b.ts ≤ isoformat a.ts)
      (fun a b : HandoffRecord => b.ts ≤ a.ts) id kept fun a ha b hb =>
        hiso.le_iff_le (htimes b (hkept b hb)).2 (htimes a (hkept a ha)).2
    rwa [List.map_id, List.map_id] at hsort
  rw [liteCandidates, hstatement]
  simp only [fullCandidates, bind, Except.bind, hselect]
  rw [horder _ fun record hrecord => List.mem_of_mem_filter hrecord]

theorem resume_same_example :
    liteCandidates sampleIsoformat (fun _ => none) sampleRecords sampleAuth none 90 sampleRequest 63902822400000000 =
      .ok [sampleRecord "b" "codex"] := by
  rw [@resume_same sampleIsoformat (fun _ => none) sampleRecords sampleAuth sampleRequest _ _ none 90
    sampleIsoformat_strictMono (by simp [sampleTimes]) sampleRecords_times (by decide) (by decide)
    (by simp [sampleRequest]; decide)]
  decide +kernel

end Results

end OpenTimeline.Handoff
