import OpenTimeline.Dispatch.Replay

/-! Openings, and the charter they are made under.

An opening takes the tier, the runtime, its version and the surface from the request. Its checks compare the tier
with the task family and with the self-tests, and none of the four with the charter: the row that is inserted is the
request's (`mem_openDispatch`). So it is inside the charter where the request is, or where a check refuses it for
another reason (`opened_inside_iff`). -/
namespace OpenTimeline.Dispatch
open Library Charter

/-! ### Inside a charter -/

/-- The charter's tier, and a runtime it allows. -/
structure InsideCharter (charter : ResolvedCharter) (tier runtimeId runtimeVersion surface : String) : Prop where
  tier : tier = charter.enforcementTier.value
  runtime : charter.allowsRuntime runtimeId runtimeVersion surface

def DispatchRecord.Inside (charter : ResolvedCharter) (record : DispatchRecord) : Prop :=
  InsideCharter charter record.enforcementTier record.runtimeId record.runtimeVersion record.surface

def DispatchOpenRequest.Inside (charter : ResolvedCharter) (body : DispatchOpenRequest) : Prop :=
  InsideCharter charter body.enforcementTier body.runtimeId body.runtimeVersion body.surface

/-! ### What an opening checks -/

/-- The latest self-test of the provider is there, has passed, is fresh and is of the requested profile. -/
def Measured (selfTests : List SandboxSelfTest) (auth : AuthContext) (body : DispatchOpenRequest) (settings : Settings)
    (now : Instant) : Prop :=
  ∃ latest ∈ latestSelfTest selfTests auth.workspaceId body.sandboxProvider, latest.passed = true ∧
    ¬(latest.ranAt : Int) + max 1 settings.sandboxSelfTestMaxAgeSeconds * 1000000 < now ∧
    latest.profileDigest = body.sandboxProfileDigest.getD ""

/-- No check of an opening refuses the request, and there is no row of its attempt or under its new id. -/
structure Admits (reconcileComplete : Bool) (auth : AuthContext) (charter : ResolvedCharter) (body : DispatchOpenRequest)
    (settings : Settings) (now : Instant) (newId : String) (db : Database) : Prop where
  reconciled : reconcileComplete = true
  sandbox : if body.enforcementTier = "advisory" then body.taskFamily ∈ readOnlyTaskFamilies
    else Measured db.selfTests auth body settings now
  attempt : db.dispatches.findAttempt body.attemptKey = none
  room : HasRoom auth charter body settings db.dispatches.rows
  request : 0 ≤ body.requestMinorUnits.getD settings.budgetDefaultMinorUnits
  surface : ∃ matrix, runtimeCapabilities.lookup body.surface = some matrix
  id : newId ∉ db.dispatches.rows.map DispatchRecord.id

variable {auth : AuthContext} {charter : ResolvedCharter} {body : DispatchOpenRequest} {settings : Settings} {now : Instant}

theorem openGate_ok_iff {reconcileComplete : Bool} {selfTests : List SandboxSelfTest} :
    (∃ selfTestId, openGate reconcileComplete selfTests auth body settings now = .ok selfTestId) ↔
      reconcileComplete = true ∧
        (if body.enforcementTier = "advisory" then body.taskFamily ∈ readOnlyTaskFamilies
          else Measured selfTests auth body settings now) := by
  unfold openGate Measured refuse
  cases reconcileComplete with
  | false => simp
  | true =>
    by_cases hadvisory : body.enforcementTier = "advisory"
    · by_cases hfamily : body.taskFamily ∈ readOnlyTaskFamilies <;> simp [hadvisory, hfamily]
    · cases latestSelfTest selfTests auth.workspaceId body.sandboxProvider with
      | none => simp [hadvisory]
      | some latest =>
        simp only [hadvisory, Bool.not_true, Bool.false_eq_true, if_false, true_and, Option.mem_def, Option.some.injEq,
          exists_eq_left']
        split_ifs with hpassed hstale hdigest
        · simp_all
        · simp_all
        · simp_all
        · simp_all

theorem reserveOrRefuse_ok_iff {cap already request : Int} {currency surface : String} :
    (∃ reservation, reserveOrRefuse cap already request currency surface = .ok reservation) ↔
      0 ≤ request ∧ already + request ≤ cap := by
  constructor
  · rintro ⟨reservation, h⟩
    exact (reserveOrRefuse_ok h).2
  · rintro ⟨hnonneg, hroom⟩
    unfold reserveOrRefuse reserve
    rw [if_neg (not_lt.mpr hnonneg), if_neg (not_lt.mpr hroom)]
    exact ⟨_, rfl⟩

theorem insert_isSome_iff {t : DispatchTable} {record : DispatchRecord} : (∃ t', t.insert record = some t') ↔
    record.id ∉ t.rows.map DispatchRecord.id ∧ record.attemptKey ∉ t.rows.map DispatchRecord.attemptKey := by
  unfold DispatchTable.insert
  split_ifs with hid hattempt
  · simp [hid]
  · simp [hattempt]
  · simp [hid, hattempt]

theorem findAttempt_eq_none_iff {t : DispatchTable} {key : String × Int} :
    t.findAttempt key = none ↔ key ∉ t.rows.map DispatchRecord.attemptKey := by
  simp [DispatchTable.findAttempt]

/-! ### What an opening inserts -/

section Opening
variable {reconcileComplete : Bool} {newId : String} {db : Database}

/-- The row has the tier, the runtime, its version and the surface of the request. -/
structure Copies (body : DispatchOpenRequest) (record : DispatchRecord) : Prop where
  tier : record.enforcementTier = body.enforcementTier
  runtimeId : record.runtimeId = body.runtimeId
  runtimeVersion : record.runtimeVersion = body.runtimeVersion
  surface : record.surface = body.surface

theorem Copies.inside_iff {record : DispatchRecord} (h : Copies body record) :
    record.Inside charter ↔ body.Inside charter := by
  unfold DispatchRecord.Inside DispatchOpenRequest.Inside
  rw [h.tier, h.runtimeId, h.runtimeVersion, h.surface]

/-- A section that finds no row of the attempt inserts the request's row, or refuses. -/
theorem openSection_new {selfTestId : Option String} {db' : Database} {record : DispatchRecord}
    (hattempt : db.dispatches.findAttempt body.attemptKey = none)
    (h : openSection auth charter body settings now selfTestId newId db = .ok (db', record)) :
    HasRoom auth charter body settings db.dispatches.rows ∧
      0 ≤ body.requestMinorUnits.getD settings.budgetDefaultMinorUnits ∧
      (∃ matrix, runtimeCapabilities.lookup body.surface = some matrix) ∧
      newId ∉ db.dispatches.rows.map DispatchRecord.id ∧ Copies body record ∧
      db'.dispatches.rows = db.dispatches.rows ++ [record] := by
  simp only [openSection, hattempt] at h
  split_ifs at h with hfull
  · cases h
  obtain ⟨reservation, hreserve, h⟩ := bind_ok h
  obtain ⟨matrix, hmatrix, h⟩ := bind_ok h
  obtain ⟨hnonneg, hbudget⟩ := reserveOrRefuse_ok_iff.mp ⟨reservation, hreserve⟩
  have hsurface : ∃ matrix, runtimeCapabilities.lookup body.surface = some matrix := by
    unfold capabilityMatrixJson at hmatrix
    split at hmatrix
    · exact ⟨_, ‹_›⟩
    · cases hmatrix
  split at h
  · cases h
  · rename_i dispatches hinsert
    cases h
    have hfresh := (insert_isSome_iff.mp ⟨dispatches, hinsert⟩).1
    exact ⟨⟨not_le.mp hfull, hbudget⟩, hnonneg, hsurface, hfresh, ⟨rfl, rfl, rfl, rfl⟩, DispatchTable.insert_eq_some hinsert⟩

/-- A new row is the request's, and no check has refused it. -/
theorem mem_openDispatch {record : DispatchRecord}
    (hmem : record ∈ (openDispatch reconcileComplete auth charter body settings now newId db).1.dispatches.rows)
    (hnew : record ∉ db.dispatches.rows) :
    Admits reconcileComplete auth charter body settings now newId db ∧ Copies body record := by
  unfold openDispatch at hmem
  cases hgate : openGate reconcileComplete db.selfTests auth body settings now with
  | error e =>
    rw [hgate] at hmem
    exact absurd hmem hnew
  | ok selfTestId =>
    rw [hgate] at hmem
    obtain ⟨hreconciled, hsandbox⟩ := openGate_ok_iff.mp ⟨selfTestId, hgate⟩
    cases hsection : openSection auth charter body settings now selfTestId newId db with
    | error e =>
      simp only [runCasSection, hsection] at hmem
      exact absurd hmem hnew
    | ok result =>
      obtain ⟨db', opened⟩ := result
      simp only [runCasSection, hsection] at hmem
      obtain ⟨-, rfl⟩ | ⟨hattempt, -, -⟩ := openSection_cases hsection
      · exact absurd hmem hnew
      · obtain ⟨hroom, hrequest, hsurface, hid, hcopies, hrows⟩ := openSection_new hattempt hsection
        rw [hrows] at hmem
        obtain rfl := List.mem_singleton.mp ((List.mem_append.mp hmem).resolve_left hnew)
        exact ⟨⟨hreconciled, hsandbox, hattempt, hroom, hrequest, hsurface, hid⟩, hcopies⟩

/-- Where nothing refuses it, the request's row is inserted. -/
theorem Admits.inserts (h : Admits reconcileComplete auth charter body settings now newId db) :
    ∃ record ∈ (openDispatch reconcileComplete auth charter body settings now newId db).1.dispatches.rows,
      record ∉ db.dispatches.rows ∧ Copies body record := by
  obtain ⟨selfTestId, hgate⟩ := openGate_ok_iff.mpr ⟨h.reconciled, h.sandbox⟩
  obtain ⟨reservation, hreserve⟩ := @reserveOrRefuse_ok_iff charter.caps.budgetMinorUnits
    (openReservationTotal db.dispatches.rows auth.workspaceId auth.userId) (body.requestMinorUnits.getD settings.budgetDefaultMinorUnits)
    settings.budgetCurrency body.surface |>.mpr ⟨h.request, h.room.2⟩
  obtain ⟨matrix, hmatrix⟩ := h.surface
  have hmatrix : capabilityMatrixJson body.surface = .ok matrix := by
    simp only [capabilityMatrixJson, hmatrix]
  obtain ⟨dispatches, hinsert⟩ := @insert_isSome_iff db.dispatches
    (body.row auth charter reservation matrix selfTestId body.sessionOrDefault newId now) |>.mpr
      ⟨h.id, findAttempt_eq_none_iff.mp h.attempt⟩
  have hsection : openSection auth charter body settings now selfTestId newId db =
      .ok ({db with dispatches, directives := linkDispatch db.directives body.directiveId newId charter.charterId},
        body.row auth charter reservation matrix selfTestId body.sessionOrDefault newId now) := by
    simp only [openSection, h.attempt, if_neg (not_le.mpr h.room.1), hreserve, hmatrix]
    simp [bind, Except.bind, hinsert, pure, Except.pure]
  refine ⟨body.row auth charter reservation matrix selfTestId body.sessionOrDefault newId now, ?_, ?_, ⟨rfl, rfl, rfl, rfl⟩⟩
  · simp only [openDispatch, hgate, runCasSection, hsection]
    rw [DispatchTable.insert_eq_some hinsert]
    exact List.mem_append_right _ (List.mem_singleton_self _)
  · exact fun hmem => h.id (List.mem_map.mpr ⟨_, hmem, rfl⟩)

end Opening

/-- A row an opening inserts is inside the charter, if the request is or is refused for something else, and not
otherwise. -/
theorem opened_inside_iff (reconcileComplete : Bool) (auth : AuthContext) (charter : ResolvedCharter)
    (body : DispatchOpenRequest) (settings : Settings) (now : Instant) (newId : String) (db : Database) :
    (∀ record ∈ (openDispatch reconcileComplete auth charter body settings now newId db).1.dispatches.rows,
      record ∉ db.dispatches.rows → record.Inside charter) ↔
        (Admits reconcileComplete auth charter body settings now newId db → body.Inside charter) := by
  constructor
  · intro hinside hadmits
    obtain ⟨record, hmem, hnew, hcopies⟩ := hadmits.inserts
    exact hcopies.inside_iff.mp (hinside record hmem hnew)
  · intro h record hmem hnew
    obtain ⟨hadmits, hcopies⟩ := mem_openDispatch hmem hnew
    exact hcopies.inside_iff.mpr (h hadmits)

/-- An unwrapped run of a runtime no charter allows, under a charter for the sandbox. -/
theorem opens_outside : ∃ record ∈ (openDispatch true exampleAuth exampleCharter (exampleBody "d") exampleSettings epoch "x"
      ⟨.empty, [], []⟩).1.dispatches.rows,
    record ∉ DispatchTable.empty.rows ∧ ¬record.Inside exampleCharter := by
  let outside (record : DispatchRecord) : Bool := record.enforcementTier = "advisory"
  obtain ⟨record, hmem, hout⟩ := List.any_eq_true.mp (show ((openDispatch true exampleAuth exampleCharter (exampleBody "d")
    exampleSettings epoch "x" ⟨.empty, [], []⟩).1.dispatches.rows.any outside) = true by decide +kernel)
  have htier : record.enforcementTier = "advisory" := of_decide_eq_true hout
  refine ⟨record, hmem, List.not_mem_nil, fun h => ?_⟩
  exact absurd (htier.symm.trans h.tier) (by decide)

end OpenTimeline.Dispatch
