import OpenTimeline.Dream.Store

/-! What a plan is for.

A planning job is stamped with a digest of what its result depends on: the objective, the
contract revision, the scope and the last cancellation. The scope is kept beside it as JSON,
and the worker goes by what it reads back (`taskScopeDigest_fromJson`). -/
namespace OpenTimeline.Planning
open TaskState (digest32 orElse)
open Dream (textOrNull)

variable (host : Host)

def taskStatePolicyRevision : String := "p2-2026-09"
def scopePolicyRevision : String := "p0-2026-09"
def projectUnbound : String := "unbound"

/-! ### Scopes -/

structure ResolvedScope where
  workspaceId : String
  executorId : String
  ownerId : String
  subjectUserId : String
  projectId : Option String
  projectBinding : String
  taskId : Option String
  policyRevision : String := scopePolicyRevision
  /-- A set. -/
  ownerIds : List String
  continuityIntent : Bool := false
  sourceSessionId : Option String := none
  legacySessionScope : Bool := false
  retentionDays : Int := 90
deriving DecidableEq, Repr

/-- `sorted` of a set -/
def sortedSet (items : List String) : List String := items.dedup.insertionSort (· ≤ ·)

/-- `sql_owner_ids` -/
def ResolvedScope.sqlOwnerIds (scope : ResolvedScope) : List String := sortedSet scope.ownerIds

/-- What `resolve_scope` sees to. -/
structure ResolvedScope.Resolved (scope : ResolvedScope) : Prop where
  owner : scope.ownerId ∈ scope.ownerIds
  named : "" ∉ scope.ownerIds
  binding : scope.projectBinding ≠ ""

/-- `resolved_scope_to_json` -/
def resolvedScopeToJson (scope : ResolvedScope) : Payload :=
  [("workspace_id", .str scope.workspaceId), ("executor_id", .str scope.executorId),
    ("owner_id", .str scope.ownerId), ("subject_user_id", .str scope.subjectUserId),
    ("project_id", textOrNull scope.projectId), ("project_binding", .str scope.projectBinding),
    ("task_id", textOrNull scope.taskId), ("policy_revision", .str scope.policyRevision),
    ("owner_ids", .arr (scope.sqlOwnerIds.map .str)), ("continuity_intent", .bool scope.continuityIntent),
    ("source_session_id", textOrNull scope.sourceSessionId), ("legacy_session_scope", .bool scope.legacySessionScope),
    ("retention_days", .int scope.retentionDays)]

/-- `_as_str` -/
def asStr (value : Json) (default : String) : String :=
  match value with
  | .null => default
  | value => pyStr host value

/-- `_as_opt_str` -/
def asOptStr : Json → Option String
  | .null => none
  | value => if pyStr host value = "" then none else some (pyStr host value)

/-- The set `resolved_scope_from_json` makes of `owner_ids`, with the owner in it. -/
def ownerIdsFromJson (raw : Json) (ownerId : String) : List String :=
  let ownerIds := match raw with
    | .arr items => (items.map (pyStr host)).filter (· ≠ "")
    | _ => []
  if ownerId = "" then ownerIds else ownerId :: ownerIds

/-- `resolved_scope_from_json` -/
def resolvedScopeFromJson (data : Payload) : ResolvedScope where
  workspaceId := asStr host (data.get "workspace_id") ""
  executorId := asStr host (data.get "executor_id") ""
  ownerId := asStr host (data.get "owner_id") ""
  subjectUserId := asStr host (data.get "subject_user_id") ""
  projectId := asOptStr host (data.get "project_id")
  projectBinding := orElse (asStr host (data.get "project_binding") projectUnbound) projectUnbound
  taskId := asOptStr host (data.get "task_id")
  policyRevision := orElse (asStr host (data.get "policy_revision") scopePolicyRevision) scopePolicyRevision
  ownerIds := ownerIdsFromJson host (data.get "owner_ids") (asStr host (data.get "owner_id") "")
  continuityIntent := truthy (data.get "continuity_intent")
  sourceSessionId := asOptStr host (data.get "source_session_id")
  legacySessionScope := truthy (data.get "legacy_session_scope")
  retentionDays := match pyInt host (data.get "retention_days") with
    | .ok days => days
    | .error _ => 90

/-! ### Revisions -/

/-- `task_scope_digest` -/
def taskScopeDigest (scope : ResolvedScope) : String :=
  digest32 host (canonicalJson (.obj [("workspace_id", .str scope.workspaceId),
    ("executor_id", .str scope.executorId), ("owner_ids", .arr (scope.sqlOwnerIds.map .str)),
    ("subject_user_id", .str scope.subjectUserId), ("project_id", .str (scope.projectId.getD "")),
    ("project_binding", .str scope.projectBinding)]))

/-- The text `plan_input_revision` digests. -/
def inputText (objectiveHash : Option String) (contractRevision : Int) (scopeDigest : String) (cancelEpoch : Int) :
    String :=
  "|".intercalate [objectiveHash.getD "", toString contractRevision, taskStatePolicyRevision, scopeDigest,
    toString cancelEpoch]

/-- `plan_input_revision`, of the policy in force. -/
def planInputRevision (objectiveHash : Option String) (contractRevision : Int) (scopeDigest : String)
    (cancelEpoch : Int) : String := digest32 host (inputText objectiveHash contractRevision scopeDigest cancelEpoch)

/-! ### What is read back -/

variable {host}

theorem mem_sortedSet {items : List String} {a : String} : a ∈ sortedSet items ↔ a ∈ items := by
  simp [sortedSet]

/-- A set is sorted in one way. -/
theorem sortedSet_congr {items items' : List String} (h : ∀ a, a ∈ items ↔ a ∈ items') :
    sortedSet items = sortedSet items' := by
  have hperm : (sortedSet items).Perm (sortedSet items') := by
    refine (List.perm_insertionSort _ _).trans (((List.perm_ext_iff_of_nodup (List.nodup_dedup _)
      (List.nodup_dedup _)).mpr fun a => ?_).trans (List.perm_insertionSort _ _).symm)
    rw [List.mem_dedup, List.mem_dedup, h]
  exact hperm.eq_of_pairwise (fun _ _ _ _ => le_antisymm) (List.pairwise_insertionSort _ _)
    (List.pairwise_insertionSort _ _)

theorem ownerIds_fromJson {scope : ResolvedScope} (h : scope.Resolved) (a : String) :
    a ∈ (resolvedScopeFromJson host (resolvedScopeToJson scope)).ownerIds ↔ a ∈ scope.ownerIds := by
  have hread : (resolvedScopeFromJson host (resolvedScopeToJson scope)).ownerIds =
      ownerIdsFromJson host (.arr (scope.sqlOwnerIds.map .str)) scope.ownerId := rfl
  have howner : scope.ownerId ≠ "" := fun heq => h.named (heq ▸ h.owner)
  have hsame : (scope.sqlOwnerIds.map Json.str).map (pyStr host) = scope.sqlOwnerIds := by
    rw [List.map_map]
    exact List.map_id _
  rw [hread, ownerIdsFromJson, if_neg howner]
  simp only [hsame]
  rw [List.mem_cons, List.mem_filter, ResolvedScope.sqlOwnerIds, mem_sortedSet, decide_eq_true_eq]
  constructor
  · rintro (rfl | ⟨hmem, _⟩)
    · exact h.owner
    · exact hmem
  · exact fun hmem => Or.inr ⟨hmem, fun heq => h.named (heq ▸ hmem)⟩

/-- The worker digests the scope the job was enqueued with. -/
theorem taskScopeDigest_fromJson {scope : ResolvedScope} (h : scope.Resolved) :
    taskScopeDigest host (resolvedScopeFromJson host (resolvedScopeToJson scope)) = taskScopeDigest host scope := by
  have hids : (resolvedScopeFromJson host (resolvedScopeToJson scope)).sqlOwnerIds = scope.sqlOwnerIds :=
    sortedSet_congr (ownerIds_fromJson h)
  have hproject : (resolvedScopeFromJson host (resolvedScopeToJson scope)).projectId.getD "" =
      scope.projectId.getD "" := by
    show (asOptStr host (textOrNull scope.projectId)).getD "" = _
    cases scope.projectId with
    | none => rfl
    | some projectId =>
      show (if projectId = "" then none else some projectId).getD "" = projectId
      split_ifs with hempty
      · exact hempty.symm
      · rfl
  have hbinding : (resolvedScopeFromJson host (resolvedScopeToJson scope)).projectBinding = scope.projectBinding :=
    if_neg h.binding
  rw [taskScopeDigest, hids, hproject, hbinding]
  rfl

end OpenTimeline.Planning
