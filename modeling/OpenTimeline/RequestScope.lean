import OpenTimeline.Library.Conditions
import OpenTimeline.Library.OrderedDict
import OpenTimeline.Planning.Scope

/-! The scope of a request, as both databases are asked for it.

A scope comes from the credentials. Four predicates say what rows it covers, and each is rendered with named values
for one database and with values in order for the other: either statement is one list of clauses
(`render_condition`), so what a row needs is said once (`events_selects_iff`, `goals_selects_iff`). -/
namespace OpenTimeline.RequestScope
open Library Library.Conditions
open Planning (ResolvedScope sortedSet mem_sortedSet)

variable (host : Host)

/-! ### Scopes -/

/-- `AuthLike` -/
structure Auth where
  consumer : String
  workspaceId : String
  userId : String
  behaviorSubjectId : String
deriving DecidableEq, Repr

/-- A text that is there and is not empty. -/
def given (value : Option String) : Option String := value.filter (· ≠ "")

/-- `normalize_owner_token` -/
def normalizeOwnerToken (value : String) : String := host.lower (strip value)

/-- The owners of `resolve_scope`: a set. -/
def ownerIds (auth : Auth) (targetOwner : Option String) (continuityIntent : Bool) : List String :=
  match given targetOwner with
  | some target => if continuityIntent ∧ strip target ≠ "" then [auth.userId, strip target] else [auth.userId]
  | none => [auth.userId]

/-- `resolve_scope`, by the project ids of the hint and of the session. -/
def resolveScope (auth : Auth) (hinted inherited taskId targetOwner : Option String) (continuityIntent : Bool)
    (sourceSessionId : Option String) (legacySessionScope : Bool) (retentionDays : Int) : ResolvedScope where
  workspaceId := auth.workspaceId
  executorId := auth.consumer
  ownerId := auth.userId
  subjectUserId := auth.behaviorSubjectId
  projectId := (given hinted).or (given inherited)
  projectBinding := if (given hinted).isSome then "bound" else if (given inherited).isSome then "inherited"
    else "unbound"
  taskId := taskId
  ownerIds := ownerIds auth targetOwner continuityIntent
  continuityIntent := continuityIntent
  sourceSessionId := sourceSessionId
  legacySessionScope := legacySessionScope
  retentionDays := retentionDays

/-- `narrowed_to_owner` -/
def narrowedToOwner (scope : ResolvedScope) (targetOwner : Option String) : ResolvedScope :=
  let target := strip (targetOwner.getD "")
  if target = "" ∨ target ∉ scope.ownerIds then scope else { scope with ownerIds := [target] }

/-- `is_bound` -/
def isBound (scope : ResolvedScope) : Bool := scope.projectBinding ∈ ["bound", "inherited"]

/-! ### Predicates -/

inductive ScopeDialect
  | postgres
  | sqlite
deriving DecidableEq, Repr

/-- `_qualified` -/
def qualified (column : String) (tableAlias : Option String) : Term :=
  .column (match given tableAlias with
    | some tableAlias => tableAlias ++ "." ++ column
    | none => column)

/-- The rendered predicate: named values for Postgres, values in order for SQLite. -/
def render (dialect : ScopeDialect) (entries : List Entry) : Builder :=
  (Builder.start (dialect = .postgres)).addAll entries

def workspaceTag : String := "_tce_workspace"
def ownerTag : String := "_tce_owner"
def projectTag : String := "project_id"

/-- The owners an event may be of. -/
def eventOwners (scope : ResolvedScope) : List String :=
  sortedSet ((scope.ownerIds.map (normalizeOwnerToken host)).filter (· ≠ ""))

/-- The clause on the workspace tag. -/
def workspaceEntry (scope : ResolvedScope) (strict : Bool) (contextColumn : String) : Entry :=
  let workspace : Term := .json contextColumn workspaceTag
  let slot : Slot := .equals "scope_workspace" (.text scope.workspaceId)
  if strict then { term := workspace, slot := slot }
  else { before := [(workspace, .isNull), (workspace, .isBlank)], term := workspace, slot := slot }

/-- The clause on the owner tag, where there are owners. -/
def ownerEntries (scope : ResolvedScope) (strict : Bool) (contextColumn : String) : List Entry :=
  let owner : Term := .json contextColumn ownerTag
  let owners := eventOwners host scope
  if owners = [] then []
  else if strict then [{ term := .trimmedLower owner, slot := .oneOf "scope_owners" owners }]
  else [{ before := [(owner, .isNull), (.trimmed owner, .isBlank)], term := .trimmedLower owner,
          slot := .oneOf "scope_owners" owners }]

/-- The clause on the project tag, where it is asked for and the scope is bound. -/
def projectEntries (scope : ResolvedScope) (contextColumn : String) (includeProject : Bool) : List Entry :=
  match given scope.projectId with
  | some projectId => if includeProject && isBound scope then
      [{ term := .json contextColumn projectTag, slot := .equals "scope_project" (.text projectId) }] else []
  | none => []

/-- The clauses of `events_scope_predicate` -/
def eventsEntries (scope : ResolvedScope) (strict : Bool) (contextColumn : String) (includeProject : Bool) :
    List Entry :=
  workspaceEntry scope strict contextColumn ::
    (ownerEntries host scope strict contextColumn ++ projectEntries scope contextColumn includeProject)

/-- `events_scope_predicate` -/
def eventsScopePredicate (dialect : ScopeDialect) (scope : ResolvedScope) (strict : Bool) (contextColumn : String)
    (includeProject : Bool) : Builder :=
  render dialect (eventsEntries host scope strict contextColumn includeProject)

/-- The clauses of `goals_scope_predicate` -/
def goalsEntries (scope : ResolvedScope) (sessionId tableAlias : Option String) : List Entry :=
  [{ term := qualified "workspace_id" tableAlias, slot := .equals "scope_workspace" (.text scope.workspaceId) },
    { term := qualified "user_id" tableAlias, slot := .equals "scope_owner" (.text scope.ownerId) }] ++
  match given sessionId with
  | some sessionId =>
    [{ term := qualified "session_id" tableAlias, slot := .equals "scope_session" (.text sessionId) }]
  | none => []

/-- `goals_scope_predicate` -/
def goalsScopePredicate (dialect : ScopeDialect) (scope : ResolvedScope) (sessionId tableAlias : Option String) :
    Builder := render dialect (goalsEntries scope sessionId tableAlias)

/-- The owners a handoff may be of. -/
def handoffOwners (scope : ResolvedScope) : List String := scope.sqlOwnerIds.filter fun owner => strip owner ≠ ""

/-- The clause of `handoffs_scope_predicate` on sessions. It raises without a reader. -/
def sessionEntries (scope : ResolvedScope) (readerSessionId tableAlias : Option String) :
    Except PyError (List Entry) :=
  if scope.legacySessionScope then
    match (given readerSessionId).or (given scope.taskId) with
    | some reader =>
      .ok [{ term := qualified "session_id" tableAlias, slot := .equals "scope_session" (.text reader) }]
    | none => .error .valueError
  else
    .ok (match given scope.sourceSessionId with
      | some source =>
        [{ term := qualified "session_id" tableAlias, slot := .equals "scope_source_session" (.text source) }]
      | none => [])

/-- The clauses of `handoffs_scope_predicate`; `now` is the value that is bound. -/
def handoffsEntries (scope : ResolvedScope) (readerSessionId : Option String) (now : Option Value)
    (tableAlias : Option String) : Except PyError (List Entry) := do
  let session ← sessionEntries scope readerSessionId tableAlias
  let project := qualified "project_id" tableAlias
  .ok ([{ term := qualified "workspace_id" tableAlias, slot := .equals "scope_workspace" (.text scope.workspaceId) }] ++
    (if handoffOwners scope = [] then []
      else [{ term := qualified "owner_id" tableAlias, slot := .oneOf "scope_owners" (handoffOwners scope) }]) ++
    (match now with
      | some now => [{ term := qualified "expires_at" tableAlias, slot := .after "scope_now" now }]
      | none => []) ++
    session ++
    match given scope.projectId with
    | some projectId => if scope.projectBinding = "bound" then
        [{ term := project, slot := .equals "scope_project" (.text projectId), rest := [(project, .isNull)] }] else []
    | none => [])

/-- The time as it is bound: SQLite is given a text. -/
def boundNow (isoformat : Instant → String) : ScopeDialect → Instant → Value
  | .postgres, now => .instant now
  | .sqlite, now => .text (isoformat now)

/-- `handoffs_scope_predicate` -/
def handoffsScopePredicate (isoformat : Instant → String) (dialect : ScopeDialect) (scope : ResolvedScope)
    (readerSessionId : Option String) (now : Option Instant) (tableAlias : Option String) : Except PyError Builder :=
  (handoffsEntries scope readerSessionId (now.map (boundNow isoformat dialect)) tableAlias).map (render dialect)

/-- The clauses of `observations_scope_predicate` -/
def observationsEntries (scope : ResolvedScope) (tableAlias : Option String) (includeProject allowNullProject : Bool) :
    List Entry :=
  let project := qualified "project_id" tableAlias
  [{ term := qualified "workspace_id" tableAlias, slot := .equals "scope_workspace" (.text scope.workspaceId) },
    { term := qualified "subject_user_id" tableAlias, slot := .equals "scope_subject" (.text scope.subjectUserId) }] ++
  match given scope.projectId with
  | some projectId => if includeProject && isBound scope then
      [{ term := project, slot := .equals "scope_project" (.text projectId),
         rest := if allowNullProject then [(project, .isNull)] else [] }] else []
  | none => []

/-- `observations_scope_predicate` -/
def observationsScopePredicate (dialect : ScopeDialect) (scope : ResolvedScope) (tableAlias : Option String)
    (includeProject allowNullProject : Bool) : Builder :=
  render dialect (observationsEntries scope tableAlias includeProject allowNullProject)

/-! ### One rule -/

variable {host}

/-- Either database makes the clauses of a statement. -/
theorem render_condition (dialect : ScopeDialect) {entries : List Entry}
    (h : (entries.map fun entry => entry.slot.label).Nodup) :
    (render dialect entries).condition = some (entries.map Entry.clause) := Builder.condition_addAll _ entries h

theorem events_labels (scope : ResolvedScope) (strict : Bool) (contextColumn : String) (includeProject : Bool) :
    ((eventsEntries host scope strict contextColumn includeProject).map fun entry => entry.slot.label).Nodup := by
  rw [eventsEntries, workspaceEntry, ownerEntries, projectEntries]
  cases strict <;> cases given scope.projectId <;> by_cases howners : eventOwners host scope = [] <;>
    by_cases hbound : (includeProject && isBound scope) = true <;> simp [howners, hbound]

theorem goals_labels (scope : ResolvedScope) (sessionId tableAlias : Option String) :
    ((goalsEntries scope sessionId tableAlias).map fun entry => entry.slot.label).Nodup := by
  rw [goalsEntries]
  cases given sessionId <;> simp

theorem observations_labels (scope : ResolvedScope) (tableAlias : Option String)
    (includeProject allowNullProject : Bool) :
    ((observationsEntries scope tableAlias includeProject allowNullProject).map
      fun entry => entry.slot.label).Nodup := by
  rw [observationsEntries]
  cases given scope.projectId <;> by_cases hbound : (includeProject && isBound scope) = true <;>
    simp [hbound]

theorem handoffs_labels {scope : ResolvedScope} {readerSessionId : Option String} {now : Option Value}
    {tableAlias : Option String} {entries : List Entry}
    (h : handoffsEntries scope readerSessionId now tableAlias = .ok entries) :
    (entries.map fun entry => entry.slot.label).Nodup := by
  obtain ⟨session, hsession, hentries⟩ := bind_ok h
  obtain rfl := Except.ok.inj hentries
  have hlabels : session.map (fun entry => entry.slot.label) ∈ [[], ["scope_session"], ["scope_source_session"]] := by
    rw [sessionEntries] at hsession
    split_ifs at hsession
    · cases hreader : (given readerSessionId).or (given scope.taskId) <;> simp only [hreader] at hsession
      · cases hsession
      · obtain rfl := Except.ok.inj hsession
        simp
    · obtain rfl := Except.ok.inj hsession
      cases given scope.sourceSessionId <;> simp
  simp only [List.mem_cons, List.not_mem_nil, or_false] at hlabels
  by_cases howners : handoffOwners scope = [] <;> by_cases hbound : scope.projectBinding = "bound" <;>
    cases now <;> cases given scope.projectId <;> rcases hlabels with hlabels | hlabels | hlabels <;>
    simp [howners, hbound, hlabels]

/-- The row is one of the statement's. -/
def selects (statement : Builder) (row : Reading) : Bool := statement.condition.any (admits row)

theorem selects_render (dialect : ScopeDialect) {entries : List Entry}
    (h : (entries.map fun entry => entry.slot.label).Nodup) (row : Reading) :
    selects (render dialect entries) row = entries.all fun entry => clauseHolds row entry.clause := by
  rw [selects, render_condition dialect h, Option.any_some, admits, List.all_map]
  rfl

/-! ### Events -/

/-- What a database makes of texts, and the text it has for a JSON value that is none. -/
structure TextFunctions where
  lower : String → String
  text : Json → String

/-- `->>` of Postgres and `json_extract` of SQLite. -/
def jsonCell (db : TextFunctions) : ScopeDialect → Json → Cell
  | _, .null => .null
  | _, .str s => .text s
  | .postgres, value => .text (db.text value)
  | .sqlite, .arr items => .text (db.text (.arr items))
  | .sqlite, .obj fields => .text (db.text (.obj fields))
  | .sqlite, value => .other (db.text value)

/-- The blanks of `btrim` and of `trim`. -/
def isSqlBlank (c : Char) : Bool := c.toNat ∈ [32, 9, 10, 11, 12, 13]

def sqlTrim (s : String) : String := String.ofList (stripChars isSqlBlank s.toList)

/-- The row of an event. -/
def eventReading (db : TextFunctions) (dialect : ScopeDialect) (context : Payload) : Reading where
  column _ := .null
  json _ key := jsonCell db dialect (context.get key)
  trim := sqlTrim
  lower := db.lower

/-- The tags that are asked for are texts where they are there. -/
def Tagged (includeProject : Bool) (context : Payload) : Prop :=
  ∀ key ∈ workspaceTag :: ownerTag :: (if includeProject then [projectTag] else []),
    context.get key = .null ∨ ∃ s, context.get key = .str s

/-- Whom an event is for: the caller's workspace and one of the owners; a tag that is missing or blank is no bar to
an ordinary search. -/
structure Covered (db : TextFunctions) (host : Host) (scope : ResolvedScope) (strict includeProject : Bool)
    (context : Payload) : Prop where
  workspace : context.get workspaceTag = .str scope.workspaceId ∨
    strict = false ∧ context.get workspaceTag ∈ [.null, .str ""]
  owner : eventOwners host scope ≠ [] → (∃ s, context.get ownerTag = .str s ∧
      (db.lower (sqlTrim s) ∈ eventOwners host scope ∨ strict = false ∧ sqlTrim s = "")) ∨
    strict = false ∧ context.get ownerTag = .null
  project : ∀ projectId, given scope.projectId = some projectId → includeProject = true → isBound scope = true →
    context.get projectTag = .str projectId

section Events
variable {db : TextFunctions} {dialect : ScopeDialect} {context : Payload}

theorem jsonCell_eq_text {value : Json} (h : value = .null ∨ ∃ s, value = .str s) (s : String) :
    jsonCell db dialect value = .text s ↔ value = .str s := by
  obtain rfl | ⟨t, rfl⟩ := h
  · simp [jsonCell]
  · simp [jsonCell]

theorem jsonCell_eq_null {value : Json} (h : value = .null ∨ ∃ s, value = .str s) :
    jsonCell db dialect value = .null ↔ value = .null := by
  obtain rfl | ⟨t, rfl⟩ := h
  · simp [jsonCell]
  · simp [jsonCell]

theorem workspaceEntry_iff (scope : ResolvedScope) (strict : Bool) (contextColumn : String)
    (h : context.get workspaceTag = .null ∨ ∃ s, context.get workspaceTag = .str s) :
    clauseHolds (eventReading db dialect context) (workspaceEntry scope strict contextColumn).clause = true ↔
      context.get workspaceTag = .str scope.workspaceId ∨
        strict = false ∧ context.get workspaceTag ∈ [.null, .str ""] := by
  cases strict with
  | true => simp [workspaceEntry, Entry.clause, Slot.test, Term.cell, eventReading, jsonCell_eq_text h]
  | false =>
    simp [workspaceEntry, Entry.clause, Slot.test, Bare.test, Term.cell, eventReading, jsonCell_eq_text h,
      jsonCell_eq_null h]
    tauto

theorem ownerEntries_iff (scope : ResolvedScope) (strict : Bool) (contextColumn : String)
    (h : context.get ownerTag = .null ∨ ∃ s, context.get ownerTag = .str s) :
    ((ownerEntries host scope strict contextColumn).all fun entry =>
        clauseHolds (eventReading db dialect context) entry.clause) = true ↔
      (eventOwners host scope ≠ [] → (∃ s, context.get ownerTag = .str s ∧
          (db.lower (sqlTrim s) ∈ eventOwners host scope ∨ strict = false ∧ sqlTrim s = "")) ∨
        strict = false ∧ context.get ownerTag = .null) := by
  rw [ownerEntries]
  by_cases howners : eventOwners host scope = []
  · simp [howners]
  · obtain hnull | ⟨s, hs⟩ := h
    · cases strict <;> simp [howners, Entry.clause, Slot.test, Bare.test, Term.cell, eventReading, hnull, jsonCell,
        Cell.map]
    · cases strict with
      | true => simp [howners, Entry.clause, Slot.test, Term.cell, eventReading, hs, jsonCell, Cell.map]
      | false =>
        simp [howners, Entry.clause, Slot.test, Bare.test, Term.cell, eventReading, hs, jsonCell, Cell.map, or_comm]

theorem projectEntries_iff (scope : ResolvedScope) (contextColumn : String) (includeProject : Bool)
    (h : includeProject = true → context.get projectTag = .null ∨ ∃ s, context.get projectTag = .str s) :
    ((projectEntries scope contextColumn includeProject).all fun entry =>
        clauseHolds (eventReading db dialect context) entry.clause) = true ↔
      ∀ projectId, given scope.projectId = some projectId → includeProject = true → isBound scope = true →
        context.get projectTag = .str projectId := by
  rw [projectEntries]
  cases given scope.projectId with
  | none => simp
  | some projectId =>
    by_cases hbound : includeProject = true ∧ isBound scope = true
    · have h := h hbound.1
      simp [hbound, Entry.clause, Slot.test, Term.cell, eventReading, jsonCell_eq_text h]
    · simp [hbound]
      tauto

/-- Either database selects the same tagged events, those the scope covers. -/
theorem events_selects_iff (scope : ResolvedScope) (strict : Bool) (contextColumn : String) (includeProject : Bool)
    (htagged : Tagged includeProject context) :
    selects (eventsScopePredicate host dialect scope strict contextColumn includeProject)
        (eventReading db dialect context) = true ↔
      Covered db host scope strict includeProject context := by
  rw [eventsScopePredicate, selects_render dialect (events_labels scope strict contextColumn includeProject),
    eventsEntries, List.all_cons, List.all_append, Bool.and_eq_true, Bool.and_eq_true,
    workspaceEntry_iff scope strict contextColumn (htagged workspaceTag (by simp)),
    ownerEntries_iff scope strict contextColumn (htagged ownerTag (by simp)),
    projectEntries_iff scope contextColumn includeProject (fun h => htagged projectTag (by simp [h]))]
  exact ⟨fun ⟨hworkspace, howner, hproject⟩ => ⟨hworkspace, howner, hproject⟩,
    fun h => ⟨h.workspace, h.owner, h.project⟩⟩

/-- The context of an event as it is stored, with the tags of whoever sent it. -/
def stamped (auth : Auth) (context : Payload) : Payload :=
  assign ownerTag (.str auth.userId) (assign workspaceTag (.str auth.workspaceId) context)

theorem get_stamped_workspace (auth : Auth) (context : Payload) :
    (stamped auth context).get workspaceTag = .str auth.workspaceId := by
  simp [Payload.get, stamped, lookup_assign, workspaceTag, ownerTag]

theorem get_stamped_owner (auth : Auth) (context : Payload) :
    (stamped auth context).get ownerTag = .str auth.userId := by
  simp [Payload.get, stamped, lookup_assign]

theorem stamped_tagged (auth : Auth) (context : Payload) : Tagged false (stamped auth context) := by
  intro key hkey
  simp only [Bool.false_eq_true, if_false, List.mem_cons, List.not_mem_nil, or_false] at hkey
  obtain rfl | rfl := hkey
  · exact Or.inr ⟨_, get_stamped_workspace auth context⟩
  · exact Or.inr ⟨_, get_stamped_owner auth context⟩

theorem mem_eventOwners {scope : ResolvedScope} {token : String} :
    token ∈ eventOwners host scope ↔
      token ≠ "" ∧ ∃ owner ∈ scope.ownerIds, normalizeOwnerToken host owner = token := by
  simp only [eventOwners, mem_sortedSet, List.mem_filter, List.mem_map, decide_eq_true_eq, and_comm]

/-- Whose events a caller is shown: those of the same workspace whose sender the database folds as the code folds an
owner; all of the workspace where no owner is left. -/
theorem stamped_selects_iff (scope : ResolvedScope) (sender : Auth) (strict : Bool) (contextColumn : String)
    (context : Payload) :
    selects (eventsScopePredicate host dialect scope strict contextColumn false)
        (eventReading db dialect (stamped sender context)) = true ↔
      (sender.workspaceId = scope.workspaceId ∨ strict = false ∧ sender.workspaceId = "") ∧
      ((∀ owner ∈ scope.ownerIds, normalizeOwnerToken host owner = "") ∨
        db.lower (sqlTrim sender.userId) ≠ "" ∧
          (∃ owner ∈ scope.ownerIds, normalizeOwnerToken host owner = db.lower (sqlTrim sender.userId)) ∨
        strict = false ∧ sqlTrim sender.userId = "") := by
  rw [events_selects_iff scope strict contextColumn false (stamped_tagged sender context)]
  have howners : eventOwners host scope = [] ↔ ∀ owner ∈ scope.ownerIds, normalizeOwnerToken host owner = "" := by
    rw [List.eq_nil_iff_forall_not_mem]
    simp only [mem_eventOwners, not_and, not_exists]
    exact ⟨fun h owner howner => by_contra fun hne => h _ hne owner howner rfl,
      fun h token hne owner howner heq => hne (heq ▸ h owner howner)⟩
  constructor
  · intro h
    have hworkspace := h.workspace
    have howner := h.owner
    rw [get_stamped_workspace] at hworkspace
    simp only [get_stamped_owner, Json.str.injEq, exists_eq_left', mem_eventOwners, ne_eq, howners, reduceCtorEq,
      and_false, or_false] at howner
    simp only [Json.str.injEq, List.mem_cons, reduceCtorEq, List.not_mem_nil, or_false, false_or] at hworkspace
    exact ⟨hworkspace, or_iff_not_imp_left.mpr howner⟩
  · intro ⟨hworkspace, howner⟩
    constructor
    · simpa [get_stamped_workspace] using hworkspace
    · intro hne
      rw [ne_eq, howners] at hne
      left
      refine ⟨_, get_stamped_owner sender context, ?_⟩
      rw [mem_eventOwners]
      exact (or_iff_not_imp_left.mp howner) hne
    · intro _ _ h
      cases h

end Events

/-! ### Goals and observations -/

section Rows
variable {dialect : ScopeDialect}

theorem goals_selects_iff (scope : ResolvedScope) (sessionId tableAlias : Option String) (row : Reading) :
    selects (goalsScopePredicate dialect scope sessionId tableAlias) row = true ↔
      (qualified "workspace_id" tableAlias).cell row = .text scope.workspaceId ∧
      (qualified "user_id" tableAlias).cell row = .text scope.ownerId ∧
      ∀ session, given sessionId = some session → (qualified "session_id" tableAlias).cell row = .text session := by
  rw [goalsScopePredicate, selects_render dialect (goals_labels scope sessionId tableAlias), goalsEntries]
  cases given sessionId <;> simp [Entry.clause, Slot.test]

theorem observations_selects_iff (scope : ResolvedScope) (tableAlias : Option String)
    (includeProject allowNullProject : Bool) (row : Reading) :
    selects (observationsScopePredicate dialect scope tableAlias includeProject allowNullProject) row = true ↔
      (qualified "workspace_id" tableAlias).cell row = .text scope.workspaceId ∧
      (qualified "subject_user_id" tableAlias).cell row = .text scope.subjectUserId ∧
      ∀ project, given scope.projectId = some project → includeProject = true → isBound scope = true →
        (qualified "project_id" tableAlias).cell row = .text project ∨
          allowNullProject = true ∧ (qualified "project_id" tableAlias).cell row = .null := by
  rw [observationsScopePredicate,
    selects_render dialect (observations_labels scope tableAlias includeProject allowNullProject), observationsEntries]
  cases given scope.projectId with
  | none => simp [Entry.clause, Slot.test]
  | some project =>
    by_cases hbound : includeProject = true ∧ isBound scope = true
    · cases allowNullProject <;> simp [hbound, Entry.clause, Slot.test, Bare.test]
    · have hnone : (includeProject && isBound scope) = false := by simpa using hbound
      simp only [hnone, Bool.false_eq_true, if_false, List.append_nil, List.all_cons, List.all_nil, Bool.and_true,
        Bool.and_eq_true, Option.some.injEq, forall_eq']
      simp only [Entry.clause, Slot.test, bareTests_nil, List.nil_append, clauseHolds_cons, clauseHolds_nil,
        Bool.or_false, holds_equals_text]
      tauto

theorem narrowedToOwner_identity (scope : ResolvedScope) (targetOwner : Option String) :
    let narrowed := narrowedToOwner scope targetOwner
    narrowed.workspaceId = scope.workspaceId ∧ narrowed.ownerId = scope.ownerId ∧
      narrowed.subjectUserId = scope.subjectUserId := by
  simp only [narrowedToOwner]
  split_ifs <;> exact ⟨rfl, rfl, rfl⟩

/-- Whatever owner a request names, it has its goals and its observations from its own credentials. -/
theorem personal_rows_own (auth : Auth) (hinted inherited taskId targetOwner narrowTo : Option String)
    (continuityIntent : Bool) (sourceSessionId : Option String) (legacySessionScope : Bool) (retentionDays : Int)
    (sessionId : Option String) (includeProject allowNullProject : Bool) (row : Reading) :
    let scope := narrowedToOwner (resolveScope auth hinted inherited taskId targetOwner continuityIntent
      sourceSessionId legacySessionScope retentionDays) narrowTo
    (selects (goalsScopePredicate dialect scope sessionId none) row = true →
      row.column "workspace_id" = .text auth.workspaceId ∧ row.column "user_id" = .text auth.userId) ∧
    (selects (observationsScopePredicate dialect scope none includeProject allowNullProject) row = true →
      row.column "workspace_id" = .text auth.workspaceId ∧
      row.column "subject_user_id" = .text auth.behaviorSubjectId) := by
  intro scope
  obtain ⟨hworkspace, howner, hsubject⟩ := narrowedToOwner_identity (resolveScope auth hinted inherited taskId
    targetOwner continuityIntent sourceSessionId legacySessionScope retentionDays) narrowTo
  constructor
  · intro h
    obtain ⟨hrow, huser, -⟩ := (goals_selects_iff scope sessionId none row).mp h
    exact ⟨hrow.trans (congrArg Cell.text hworkspace), huser.trans (congrArg Cell.text howner)⟩
  · intro h
    obtain ⟨hrow, huser, -⟩ := (observations_selects_iff scope none includeProject allowNullProject row).mp h
    exact ⟨hrow.trans (congrArg Cell.text hworkspace), huser.trans (congrArg Cell.text hsubject)⟩

end Rows

end OpenTimeline.RequestScope
