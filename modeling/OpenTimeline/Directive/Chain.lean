import OpenTimeline.Charter.Lifecycle
import OpenTimeline.Charter.Gate
import OpenTimeline.Directive.Report

/-! Chains of retries.

A report of a failure mints the next attempt of its directive, one attempt up, in the transaction that ends the
directive: so a chain of retries is a line, its last directive is the only one that can still be reported, and its
length is the attempt of that one (`Linear`). What stops it is the configured maximum and the strategy of the next
attempt. The charter's cap on attempts is not read. A chain stays under the cap as long as no report of an attempt at
the cap gets past the other two (`chain_within`). -/
namespace OpenTimeline.Directive
open Library Charter

/-! ### Claims of reported directives -/

namespace ReportDatabase

def sessions (db : ReportDatabase) : PermitDatabase where
  permits := db.permits
  directives := {
    rows := db.directives.rows.map (·.toSessionDirective)
    nodup := by
      rw [List.map_map]
      exact db.directives.nodup }

/-- The row with what a claim has made of it. -/
def reread (claimed : Table fun d : SessionDirective => d.directiveId) (row : ReportedDirective) : ReportedDirective :=
  {row with toSessionDirective := (claimed.find row.directiveId).getD row.toSessionDirective}

theorem reread_directiveId (claimed : Table fun d : SessionDirective => d.directiveId) (row : ReportedDirective) :
    (reread claimed row).directiveId = row.directiveId := by
  unfold reread
  cases hfind : claimed.find row.directiveId with
  | none => rfl
  | some d => exact (Table.find_eq_some_iff.mp hfind).2

/-- `claim_execution` -/
def claim (host : Host) (settings : Settings) (gate : SessionDirective → Except Failure Unit) (call : ClaimCall)
    (db : ReportDatabase) : ReportDatabase :=
  let claimed := (claimExecutionLite host settings gate call db.sessions).1
  { db with
    permits := claimed.permits
    directives := db.directives.update (reread claimed.directives) (reread_directiveId claimed.directives) }

end ReportDatabase

variable {host : Host} {settings : Settings} {gate : SessionDirective → Except Failure Unit} {call : ClaimCall}

/-- What the two writes of a claim keep of every directive, a claim keeps. -/
theorem claim_keeps_directives {P : SessionDirective → Prop} {db : PermitDatabase}
    (hattach : ∀ d permitId now, P d → P {d with permitId := some permitId, updatedAt := now})
    (hclaim : ∀ (update : FencedUpdate) d, ¬ update.state.isTerminal → P d → P (update.onSession d)) (h : ∀ d ∈ db.directives.rows, P d) :
    ∀ d ∈ (claimExecutionLite host settings gate call db).1.directives.rows, P d := by
  have hattached (d : SessionDirective) : ∀ row ∈ (call.attached db d).directives.rows, P row := by
    unfold ClaimCall.attached
    split
    · dsimp only [PermitDatabase.attach]
      exact Table.forall_updateWhere h fun row _ hrow _ => hattach row _ _ hrow
    · exact h
  unfold claimExecutionLite runCasSection
  split
  swap
  · exact h
  rename_i db' moved hsection
  unfold claimSection at hsection
  split at hsection
  · cases hsection
  rename_i d _
  obtain ⟨_, _, hsection⟩ := bind_ok hsection
  cases hreply : claimExecution host settings (call.request db d) d.toDirectiveExecution with
  | refused reason message =>
    rw [hreply] at hsection
    cases hsection
  | raised e =>
    rw [hreply] at hsection
    cases hsection
  | unchanged =>
    rw [hreply] at hsection
    cases hsection
    exact h
  | writes update =>
    rw [hreply] at hsection
    cases hsection
    obtain ⟨_, _, _, _, _, hperforms⟩ := claimExecution_performs host hreply
    dsimp only
    exact Table.forall_updateWhere (hattached d) fun row _ hrow _ => hclaim update row hperforms.not_terminal hrow

/-- A claim leaves the attempt of a directive, and a directive that is terminal. -/
theorem claim_keeps_attempt {db : ReportDatabase} {row : ReportedDirective} (hrow : row ∈ db.directives.rows) :
    let row' := ReportDatabase.reread (claimExecutionLite host settings gate call db.sessions).1.directives row
    row'.attempt = row.attempt ∧ (row.state.isTerminal → row'.state.isTerminal) := by
  dsimp only
  have hkept := @claim_keeps_directives host settings gate call
    (fun d => d.directiveId = row.directiveId → d.attempt = row.attempt ∧ (row.state.isTerminal → d.state.isTerminal))
    db.sessions (fun _ _ _ h => h) (fun update d hopen h hsame => ?_) ?_
  · unfold ReportDatabase.reread
    cases hfind : (claimExecutionLite host settings gate call db.sessions).1.directives.find row.directiveId with
    | none => exact ⟨rfl, id⟩
    | some d =>
      obtain ⟨hmem, hid⟩ := Table.find_eq_some_iff.mp hfind
      exact hkept d hmem hid
  · obtain ⟨hattempt, hterminal⟩ := h ((update.onSession_directiveId d).symm.trans hsame)
    refine ⟨hattempt, fun hrow => ?_⟩
    unfold FencedUpdate.onSession
    cases happly : update.apply d.toDirectiveExecution with
    | none => exact hterminal hrow
    | some claimed =>
      obtain ⟨hstate, -⟩ := FencedUpdate.apply_eq_some happly
      exact absurd (hstate ▸ hterminal hrow) hopen
  · intro d hd hsame
    obtain ⟨source, hsource, rfl⟩ := List.mem_map.mp hd
    rw [List.inj_on_of_nodup_map db.directives.nodup hsource hrow hsame]
    exact ⟨rfl, id⟩

/-! ### Runs -/

structure ChainState where
  charters : CharterDatabase
  db : ReportDatabase
  /-- The first directive, and those minted under a `retry_of` that names one before. -/
  chain : List String

/-- The delivery, at the time of the call. -/
def Delivery.timed (delivery : Delivery) (now : Utc) : Delivery := {delivery with now := datetimeOf now}

inductive ChainCall
  | claim (settings : Settings) (gate : SessionDirective → Except Failure Unit) (call : ClaimCall)
  | report (report : ExecutionReport) (now : Utc) (delivery : Delivery)
  | narrow (auth : AuthContext) (body : CharterNarrowingRequest) (now : Utc) (newId : String)

namespace ChainState
variable (host : StoreHost)

/-- What a call has minted over the chain. -/
def minted (s : ChainState) (after : ReportDatabase) : List String :=
  ((after.directives.rows.drop s.db.directives.rows.length).filter fun row => row.retryOf.any (· ∈ s.chain)).map
    (·.directiveId)

def next (s : ChainState) : ChainCall → ChainState
  | .claim settings gate call => {s with db := s.db.claim host.toHost settings gate call}
  | .report report now delivery =>
    let db := (report.deliver (delivery.timed now) s.db).1
    {s with db, chain := s.chain ++ s.minted db}
  | .narrow auth body now newId =>
    {s with charters := (runCasSection (narrowSection host auth body now newId) s.charters).1}

def run (s : ChainState) (calls : List ChainCall) : ChainState := calls.foldl (next host) s

/-- The charter that is the reporter's at a report, with its narrowings. -/
def charter (s : ChainState) (report : ExecutionReport) (now : Utc) : Option ResolvedCharter :=
  (s.charters.loadActiveCharter host report.auth.workspaceId report.auth.userId now).toOption.join

/-- The smaller of the charter's attempts and the configured ones. -/
def most (s : ChainState) (report : ExecutionReport) (now : Utc) (delivery : Delivery) : Int :=
  match s.charter host report now with
  | some charter => min delivery.retry.takeoverRetryMaxAttempts charter.caps.maxAttempts
  | none => delivery.retry.takeoverRetryMaxAttempts

end ChainState

/-! ### What a report does to the directives -/

namespace ExecutionReport
variable {report : ExecutionReport} {delivery : Delivery} {db : ReportDatabase} {d : ReportedDirective}

/-- The directives that are open in the session since the start of the window, besides the report's own. -/
def openBeside (report : ExecutionReport) (delivery : Delivery) (db : ReportDatabase) : Nat :=
  let start := subSeconds delivery.now ((max 1 delivery.retry.takeoverRetryWindowMinutes).toNat * 60)
  (db.directives.rows.filter fun d => d.directiveId ≠ report.directiveId && (d.sessionId = report.sessionId &&
    d.workspaceId = report.auth.workspaceId && d.userId = report.auth.userId && start.instant ≤ d.createdAt.instant &&
    d.state ∈ [DirectiveState.pending, .inProgress])).length

/-- The directive of a report that ends it does not count. -/
theorem openCount_marked {update : FencedUpdate} {failureClass : Option FailureClass} {retryStrategy : Option RetryStrategy}
    {retryOf : Option String} {reportResult : Option ReportResult}
    (hset : update.set = fun row => {row with state := report.written, updatedAt := delivery.now})
    (hended : report.written ∈ [DirectiveState.failed, .blocked]) :
    report.openCount delivery (report.marked update failureClass retryStrategy retryOf reportResult db) =
      report.openBeside delivery db := by
  have hclosed : report.written ∉ [DirectiveState.pending, .inProgress] := by
    revert hended
    cases report.written <;> decide
  unfold openCount openBeside marked Table.updateWhere Table.update
  dsimp only
  rw [List.filter_map, List.length_map]
  refine congrArg List.length (List.filter_congr fun row _ => ?_)
  by_cases hown : row.directiveId = report.directiveId
  · simp only [Function.comp, hown, decide_true, if_true, mark, hset, hclosed]
    simp
  · simp [Function.comp, hown]

/-- What an accepted report makes of the rows there are. -/
structure Ends (report : ExecutionReport) (f : ReportedDirective → ReportedDirective) : Prop where
  directiveId : ∀ row, (f row).directiveId = row.directiveId
  attempt : ∀ row, (f row).attempt = row.attempt
  other : ∀ row, row.directiveId ≠ report.directiveId → f row = row
  own : ∀ row, row.directiveId = report.directiveId → (f row).state = report.written

theorem ends_marked {update : FencedUpdate} {failureClass : Option FailureClass} {retryStrategy : Option RetryStrategy}
    {retryOf : Option String} {reportResult : Option ReportResult}
    (hset : update.set = fun row => {row with state := report.written, updatedAt := delivery.now}) :
    ∃ f, report.Ends f ∧
      (report.marked update failureClass retryStrategy retryOf reportResult db).rows = db.directives.rows.map f := by
  refine ⟨_, ?_, rfl⟩
  constructor
  · intro row
    split_ifs
    · exact report.mark_directiveId update _ _ _ _ row
    · rfl
  · intro row
    split_ifs <;> rfl
  · intro row hother
    simp [hother]
  · intro row hown
    simp [hown, mark, hset]

theorem Ends.record {f : ReportedDirective → ReportedDirective} {result : ReportResult} (h : report.Ends f) :
    ∃ g, report.Ends g ∧ ∀ (db : ReportDatabase) (rows extra : List ReportedDirective), db.directives.rows = rows.map f ++ extra →
      (∀ row ∈ extra, row.directiveId ≠ report.directiveId) →
        (report.record result db).directives.rows = rows.map g ++ extra := by
  refine ⟨fun row => if row.directiveId = report.directiveId then {f row with reportResult := some result} else f row, ?_, ?_⟩
  · constructor
    · intro row
      split_ifs
      · exact h.directiveId row
      · exact h.directiveId row
    · intro row
      split_ifs
      · exact h.attempt row
      · exact h.attempt row
    · intro row hother
      rw [if_neg hother]
      exact h.other row hother
    · intro row hown
      rw [if_pos hown]
      exact h.own row hown
  · intro db rows extra hrows hextra
    dsimp only [ExecutionReport.record, Table.updateWhere, Table.update]
    rw [hrows, List.map_append, List.map_map]
    congr 1
    · refine List.map_congr_left fun row _ => ?_
      simp only [Function.comp, h.directiveId, decide_eq_true_eq]
    · refine (List.map_congr_left fun row hrow => ?_).trans (List.map_id _)
      simp [hextra row hrow]

/-- Of the commits that may follow the first, the last one alone writes directives. -/
theorem take_commits {first : ReportDatabase → ReportDatabase} {outboxId : String} {result : ReportResult} {reached : Nat} :
    let ran := ([first, id, id, delivery.handOff outboxId, id, report.record result].take (reached + 1)).foldl
      (fun db commit => commit db) db
    ran.directives = (first db).directives ∨
      ∃ db', db'.directives = (first db).directives ∧ ran = report.record result db' := by
  dsimp only
  rcases reached with _ | _ | _ | _ | _ | later
  · exact Or.inl rfl
  · exact Or.inl rfl
  · exact Or.inl rfl
  · exact Or.inl rfl
  · exact Or.inl rfl
  · refine Or.inr ⟨delivery.handOff outboxId (first db), rfl, ?_⟩
    rw [List.take_of_length_le (by simp)]
    rfl

/-- A delivery leaves the directives as they are, or ends the report's own one and may add its next attempt. -/
theorem deliver_directives (hd : report.directive db = some d) :
    (report.deliver delivery db).1.directives = db.directives ∨
      ((report.request delivery.now db d).decision delivery.settings d.toDirectiveExecution).allowed ∧
        ∃ f extra, report.Ends f ∧ (report.deliver delivery db).1.directives.rows = db.directives.rows.map f ++ extra ∧
          (extra = [] ∨ extra = [report.retryRow delivery report.written d] ∧
            ∃ marked, report.openCount delivery marked = report.openBeside delivery db ∧
              report.retries delivery report.written d marked = true) := by
  unfold deliver
  rw [hd]
  dsimp only
  cases hreply : reportExecution delivery.settings (report.request delivery.now db d) d.toDirectiveExecution with
  | refused | raised | unchanged => exact Or.inl rfl
  | writes update =>
    dsimp only
    by_cases happly : (update.apply d.toDirectiveExecution).isNone = true
    · rw [if_pos happly]
      exact Or.inl rfl
    rw [if_neg happly, request_written]
    cases hcommits : report.commits delivery report.written update db d with
    | error => exact Or.inl rfl
    | ok accepted =>
      obtain ⟨result, steps⟩ := accepted
      obtain ⟨hallowed, -⟩ := reportExecution_writes hreply
      have hset := reportExecution_set hreply
      dsimp only
      cases hreached : delivery.reached with
      | zero => exact Or.inl rfl
      | succ reached =>
        refine Or.inr ⟨hallowed, ?_⟩
        obtain ⟨-, -, rfl⟩ | ⟨hcancel, failureClass, handoffs, completion, directives, -, rfl, -, hminted⟩ :=
          commits_cases hcommits
        · obtain ⟨f, hends, hrows⟩ := @ends_marked report delivery db update d.failureClass d.retryStrategy none (some result) hset
          refine ⟨f, [], hends, ?_, Or.inl rfl⟩
          rw [List.take_of_length_le (by simp), List.append_nil]
          exact hrows
        obtain ⟨f, hends, hrows⟩ := @ends_marked report delivery db update failureClass
          (report.strategy delivery report.written d) report.detailsRetryOf report.detailsReportResult hset
        -- the table of the first commit
        obtain ⟨extra, hdirectives, hextra⟩ : ∃ extra, directives.rows = db.directives.rows.map f ++ extra ∧
            (extra = [] ∨ extra = [report.retryRow delivery report.written d] ∧
              ∃ marked, report.openCount delivery marked = report.openBeside delivery db ∧
                report.retries delivery report.written d marked = true) := by
          obtain ⟨-, -, rfl⟩ | ⟨hretries, -, hinsert⟩ := hminted
          · exact ⟨[], hrows.trans (List.append_nil _).symm, Or.inl rfl⟩
          · refine ⟨[report.retryRow delivery report.written d], ?_, Or.inr ⟨rfl, _, openCount_marked hset ?_, hretries⟩⟩
            · rw [Table.insert_eq_some hinsert, hrows]
            · simp only [retries, Bool.and_eq_true, decide_eq_true_eq] at hretries
              exact hretries.1.1.1.2
        -- the report's own row is among the others
        have hother : ∀ row ∈ extra, row.directiveId ≠ report.directiveId := by
          intro row hrow hsame
          have hnodup := directives.nodup
          rw [hdirectives, List.map_append, List.nodup_append] at hnodup
          obtain ⟨hmem, hid⟩ := Table.find_eq_some_iff.mp (Option.filter_eq_some_iff.mp hd).1
          refine hnodup.2.2 (f d).directiveId (List.mem_map_of_mem (List.mem_map_of_mem hmem)) row.directiveId
            (List.mem_map_of_mem hrow) ?_
          rw [hends.directiveId, hsame]
          exact hid
        obtain ⟨g, hends', hrecord⟩ := @Ends.record report f result hends
        obtain hsame | ⟨db', hdb', hlast⟩ := @take_commits report delivery db (fun db => {db with directives, handoffs})
          completion.id result reached
        · exact ⟨f, extra, hends, by rw [hsame, hdirectives], hextra⟩
        · exact ⟨g, extra, hends', by rw [hlast, hrecord db' _ _ (by rw [hdb', hdirectives]) hother], hextra⟩

end ExecutionReport

/-! ### The chain -/

/-- The chain is a line: its length is the attempt of its last directive, and the others are terminal. -/
structure Linear (s : ChainState) : Prop where
  last : ∃ before id d, s.chain = before ++ [id] ∧ s.db.directives.find id = some d ∧ d.attempt = s.chain.length ∧
    ∀ other ∈ before, ∃ e, s.db.directives.find other = some e ∧ e.state.isTerminal

/-- What leaves the attempts of the directives, and ends none that is terminal, leaves the line. -/
theorem Linear.of_find {s s' : ChainState} (h : Linear s) (hchain : s'.chain = s.chain)
    (hfind : ∀ id d, s.db.directives.find id = some d → ∃ d', s'.db.directives.find id = some d' ∧ d'.attempt = d.attempt ∧
      (d.state.isTerminal → d'.state.isTerminal)) : Linear s' := by
  obtain ⟨before, id, d, hline, hd, hattempt, hbefore⟩ := h.last
  obtain ⟨d', hd', hsame, -⟩ := hfind id d hd
  refine ⟨before, id, d', hchain.trans hline, hd', ?_, fun other hother => ?_⟩
  · rw [hsame, hattempt, hchain]
  · obtain ⟨e, he, hterminal⟩ := hbefore other hother
    obtain ⟨e', he', -, hkept⟩ := hfind other e he
    exact ⟨e', he', hkept hterminal⟩

variable {host : StoreHost} {s : ChainState} {report : ExecutionReport} {now : Utc} {delivery : Delivery}

/-- What a call has minted where it adds `extra` to the rows. -/
theorem minted_of_rows {after : ReportDatabase} {f : ReportedDirective → ReportedDirective} {extra : List ReportedDirective}
    (h : after.directives.rows = s.db.directives.rows.map f ++ extra) :
    s.minted after = (extra.filter fun row => row.retryOf.any (· ∈ s.chain)).map (·.directiveId) := by
  unfold ChainState.minted
  rw [h, ← @List.length_map _ _ s.db.directives.rows f, List.drop_left]

theorem find_of_rows {db after : ReportDatabase} {f : ReportedDirective → ReportedDirective} {extra : List ReportedDirective}
    (hends : report.Ends f) (h : after.directives.rows = db.directives.rows.map f ++ extra) {id : String} {d : ReportedDirective}
    (hd : db.directives.find id = some d) : after.directives.find id = some (f d) := by
  obtain ⟨hmem, hid⟩ := Table.find_eq_some_iff.mp hd
  refine Table.find_eq_some_iff.mpr ⟨?_, (hends.directiveId d).trans hid⟩
  rw [h]
  exact List.mem_append_left _ (List.mem_map_of_mem hmem)

/-- A report keeps the line, and makes it longer only by the next attempt of its last directive. -/
theorem Linear.deliver (h : Linear s) :
    let s' := s.next host (.report report now delivery)
    let delivery := delivery.timed now
    Linear s' ∧ (s'.chain = s.chain ∨ ∃ d marked, report.directive s.db = some d ∧ (s'.chain.length : Int) = d.attempt + 1 ∧
      ((report.request delivery.now s.db d).decision delivery.settings d.toDirectiveExecution).allowed ∧
      report.openCount delivery marked = report.openBeside delivery s.db ∧
      report.retries delivery report.written d marked = true) := by
  dsimp only [ChainState.next]
  generalize delivery.timed now = delivery
  have hunchanged (hsame : (report.deliver delivery s.db).1.directives = s.db.directives) :
      Linear {s with
        db := (report.deliver delivery s.db).1
        chain := s.chain ++ s.minted (report.deliver delivery s.db).1 } ∧
        s.chain ++ s.minted (report.deliver delivery s.db).1 = s.chain := by
    have hminted : s.minted (report.deliver delivery s.db).1 = [] := by
      rw [@minted_of_rows s (report.deliver delivery s.db).1 id [] (by rw [hsame]; simp)]
      rfl
    rw [hminted, List.append_nil]
    exact ⟨h.of_find rfl fun id d hd => ⟨d, by rw [hsame]; exact hd, rfl, fun ht => ht⟩, rfl⟩
  cases hd : report.directive s.db with
  | none =>
    obtain ⟨hlinear, hchain⟩ := hunchanged (by unfold ExecutionReport.deliver; rw [hd])
    exact ⟨hlinear, Or.inl hchain⟩
  | some d =>
    obtain hsame | ⟨hallowed, f, extra, hends, hrows, hextra⟩ := @ExecutionReport.deliver_directives report delivery s.db d hd
    · obtain ⟨hlinear, hchain⟩ := hunchanged hsame
      exact ⟨hlinear, Or.inl hchain⟩
    obtain ⟨t, ht⟩ := grantedBy_of_allowed hallowed
    have hopen : ¬ d.state.isTerminal := ht.not_terminal
    have hown : s.db.directives.find report.directiveId = some d := (Option.filter_eq_some_iff.mp hd).1
    -- the rows there were, after the report
    have hkept (id : String) (row : ReportedDirective) (hrow : s.db.directives.find id = some row) :
        ∃ row', (report.deliver delivery s.db).1.directives.find id = some row' ∧ row'.attempt = row.attempt ∧
          (row.state.isTerminal → row'.state.isTerminal) := by
      refine ⟨f row, find_of_rows hends hrows hrow, hends.attempt row, fun hterminal => ?_⟩
      by_cases hsame : row.directiveId = report.directiveId
      · rw [← hsame, (Table.find_eq_some_iff.mp hrow).2, hrow] at hown
        cases hown
        exact absurd hterminal hopen
      · rwa [hends.other row hsame]
    rw [minted_of_rows hrows]
    by_cases hextends : extra = [report.retryRow delivery report.written d] ∧ report.directiveId ∈ s.chain
    swap
    · have hminted : (extra.filter fun row => row.retryOf.any (· ∈ s.chain)).map (·.directiveId) = [] := by
        obtain rfl | ⟨rfl, -⟩ := hextra
        · rfl
        · have hnot : report.directiveId ∉ s.chain := fun hmem => hextends ⟨rfl, hmem⟩
          simp [ExecutionReport.retryRow, hnot]
      rw [hminted, List.append_nil]
      exact ⟨h.of_find rfl hkept, Or.inl rfl⟩
    obtain ⟨rfl, hmem⟩ := hextends
    obtain hnil | ⟨-, marked, hcount, hretries⟩ := hextra
    · cases hnil
    obtain ⟨before, id, last, hline, hlast, hattempt, hbefore⟩ := h.last
    -- the others are terminal
    have hid : report.directiveId = id := by
      rw [hline, List.mem_append, List.mem_singleton] at hmem
      obtain hmem | hid := hmem
      · obtain ⟨e, he, hterminal⟩ := hbefore _ hmem
        rw [hown] at he
        cases he
        exact absurd hterminal hopen
      · exact hid
    subst hid
    rw [hown] at hlast
    cases hlast
    have hminted : ([report.retryRow delivery report.written d].filter fun row => row.retryOf.any (· ∈ s.chain)).map
        (·.directiveId) = [delivery.newRetryId] := by
      simp [ExecutionReport.retryRow, hmem]
    rw [hminted]
    have hlength : ((s.chain ++ [delivery.newRetryId]).length : Int) = d.attempt + 1 := by
      rw [hattempt]
      simp
    refine ⟨⟨s.chain, delivery.newRetryId, report.retryRow delivery report.written d, rfl, ?_, hlength.symm, ?_⟩,
      Or.inr ⟨d, marked, rfl, hlength, hallowed, hcount, hretries⟩⟩
    · refine Table.find_eq_some_iff.mpr ⟨?_, rfl⟩
      rw [hrows]
      exact List.mem_append_right _ (List.mem_singleton_self _)
    · intro other hother
      rw [hline, List.mem_append, List.mem_singleton] at hother
      obtain hother | rfl := hother
      · obtain ⟨e, he, hterminal⟩ := hbefore other hother
        obtain ⟨e', he', -, hstays⟩ := hkept other e he
        exact ⟨e', he', hstays hterminal⟩
      · refine ⟨f d, find_of_rows hends hrows hown, ?_⟩
        rw [hends.own d (Table.find_eq_some_iff.mp hown).2]
        simp only [ExecutionReport.retries, Bool.and_eq_true, decide_eq_true_eq] at hretries
        have hended := hretries.1.1.1.2
        revert hended
        cases report.written <;> decide

/-- A claim keeps the line, and the chain. -/
theorem Linear.claim {settings : Settings} {gate : SessionDirective → Except Failure Unit} {call : ClaimCall} (h : Linear s) :
    Linear (s.next host (.claim settings gate call)) := by
  refine h.of_find rfl fun id d hd => ?_
  obtain ⟨hattempt, hterminal⟩ := @claim_keeps_attempt host.toHost settings gate call s.db d (Table.find_eq_some_iff.mp hd).1
  refine ⟨_, ?_, hattempt, hterminal⟩
  dsimp only [ChainState.next, ReportDatabase.claim]
  rw [Table.find_update, hd]
  rfl

theorem Linear.next (h : Linear s) (call : ChainCall) : Linear (s.next host call) := by
  cases call with
  | claim settings gate call => exact h.claim
  | report report now delivery => exact h.deliver.1
  | narrow auth body now newId => exact h.of_find rfl fun id d hd => ⟨d, hd, rfl, fun hterminal => hterminal⟩

theorem Linear.run (h : Linear s) (calls : List ChainCall) : Linear (s.run host calls) := by
  induction calls generalizing s with
  | nil => exact h
  | cons call rest ih => exact ih (h.next call)

/-! ### The cap -/

/-- The report gets no next attempt, whatever the charter says. -/
def ExecutionReport.Halts (report : ExecutionReport) (delivery : Delivery) (db : ReportDatabase) (d : ReportedDirective) :
    Prop :=
  ((report.request delivery.now db d).decision delivery.settings d.toDirectiveExecution).allowed = false ∨
    delivery.retry.takeoverRetryEnabled = false ∨ delivery.paused = true ∨
    report.written ∉ [DirectiveState.failed, .blocked] ∨ delivery.retry.takeoverRetryMaxAttempts ≤ d.attempt ∨
    retryStrategyForAttempt (d.attempt + 1) report.failureClass report.rollbackAvailable = .escalate ∨
    delivery.retry.takeoverRetryWindowLimit ≤ report.openBeside delivery db

instance (report : ExecutionReport) (delivery : Delivery) (db : ReportDatabase) (d : ReportedDirective) :
    Decidable (report.Halts delivery db d) := inferInstanceAs (Decidable (_ ∨ _))

/-- A report of an attempt that is at the charter's cap halts. -/
def ChainState.Capped (host : StoreHost) (s : ChainState) : ChainCall → Prop
  | .report report now delivery => ∀ d charter, report.directive s.db = some d → s.charter host report now = some charter →
      charter.caps.maxAttempts ≤ d.attempt → report.Halts (delivery.timed now) s.db d
  | _ => True

theorem not_halts {d : ReportedDirective} {db : ReportDatabase}
    {marked : Table fun d : ReportedDirective => d.directiveId}
    (hallowed : ((report.request delivery.now db d).decision delivery.settings d.toDirectiveExecution).allowed)
    (hcount : report.openCount delivery marked = report.openBeside delivery db)
    (hretries : report.retries delivery report.written d marked = true) : ¬ report.Halts delivery db d := by
  unfold ExecutionReport.retries ExecutionReport.strategy at hretries
  rw [hcount] at hretries
  simp only [Bool.and_eq_true, Bool.not_eq_true', decide_eq_true_eq] at hretries
  obtain ⟨⟨⟨⟨⟨henabled, hpaused⟩, hended⟩, hattempt⟩, hstrategy⟩, hwindow⟩ := hretries
  rintro (hrefused | hdisabled | hpause | hstate | hmost | hescalates | hfull)
  · rw [hrefused] at hallowed
    cases hallowed
  · rw [hdisabled] at henabled
    cases henabled
  · rw [hpause] at hpaused
    cases hpaused
  · exact hstate hended
  · omega
  · rw [hescalates] at hstrategy
    split_ifs at hstrategy <;> simp at hstrategy
  · omega

/-- A capped report leaves the chain, or makes it as long as the charter and the configuration allow at most. -/
theorem Linear.within (h : Linear s) (hcapped : s.Capped host (.report report now delivery)) :
    (s.next host (.report report now delivery)).chain = s.chain ∨
      ((s.next host (.report report now delivery)).chain.length : Int) ≤ s.most host report now delivery := by
  obtain ⟨-, hsame | ⟨d, marked, hd, hlength, hallowed, hcount, hretries⟩⟩ := @Linear.deliver host s report now delivery h
  · exact Or.inl hsame
  refine Or.inr ?_
  rw [hlength]
  have hconfigured : d.attempt < delivery.retry.takeoverRetryMaxAttempts := by
    simp only [ExecutionReport.retries, Bool.and_eq_true, decide_eq_true_eq] at hretries
    exact hretries.1.1.2
  unfold ChainState.most
  cases hcharter : s.charter host report now with
  | none =>
    dsimp only
    omega
  | some charter =>
    have hcap : ¬ charter.caps.maxAttempts ≤ d.attempt := fun hcap =>
      not_halts hallowed hcount hretries (hcapped d charter hd hcharter hcap)
    dsimp only
    omega

/-- In every run of claims, reports and narrowings from a first directive: where each report of an attempt at the charter's
cap halts, each next attempt that is minted leaves the chain within the charter's cap and the configured maximum of that
moment, so the chain is never longer than the most that these allow in the run. -/
theorem chain_within {calls : List ChainCall} {first : String} {d : ReportedDirective} (hchain : s.chain = [first])
    (hfirst : s.db.directives.find first = some d) (hattempt : d.attempt = 1)
    (hcapped : ∀ before call after, calls = before ++ call :: after → (s.run host before).Capped host call) :
    (∀ before report now delivery after, calls = before ++ .report report now delivery :: after →
      let mid := s.run host before
      let next := mid.next host (.report report now delivery)
      next.chain = mid.chain ∨ (next.chain.length : Int) ≤ mid.most host report now delivery) ∧
    ∀ most : Int, 1 ≤ most → (∀ before report now delivery after, calls = before ++ .report report now delivery :: after →
      (s.run host before).most host report now delivery ≤ most) → ((s.run host calls).chain.length : Int) ≤ most := by
  have hlinear : Linear s := by
    refine ⟨⟨[], first, d, hchain, hfirst, ?_, fun other hother => absurd hother List.not_mem_nil⟩⟩
    rw [hattempt, hchain]
    rfl
  have hwithin (before report now delivery after) (hsplit : calls = before ++ .report report now delivery :: after) :=
    (hlinear.run before).within (hcapped before _ after hsplit)
  refine ⟨hwithin, fun most hmost hbound => ?_⟩
  -- along the run
  have hprefix : ∀ before after, calls = before ++ after → ((s.run host before).chain.length : Int) ≤ most := by
    intro before
    induction before using List.reverseRecOn with
    | nil =>
      intro _ _
      show (s.chain.length : Int) ≤ most
      rw [hchain]
      exact hmost
    | append_singleton before call ih =>
      intro after hsplit
      rw [List.append_assoc, List.singleton_append] at hsplit
      have hmid := ih _ hsplit
      unfold ChainState.run at hmid ⊢
      rw [List.foldl_append, List.foldl_cons, List.foldl_nil]
      cases call with
      | claim settings gate call => exact hmid
      | narrow auth body now newId => exact hmid
      | report report now delivery =>
        obtain hsame | hle := hwithin before report now delivery after hsplit
        · exact (congrArg (fun chain : List String => (chain.length : Int)) hsame).trans_le hmid
        · exact hle.trans (hbound before report now delivery after hsplit)
  exact hprefix calls [] (List.append_nil _).symm

/-- A host under which a charter lasts to the end of the hour. -/
def lastingHost : StoreHost := {exampleStoreHost with addSeconds := fun _ _ => Charter.exampleMinute 59}

/-- The first directive of a chain, in progress under an active charter. -/
def chainStart : Option ChainState := do
  let charters ← (charterSystem lastingHost).run ⟨⟨[], List.nodup_nil⟩, [], [⟨"r", "w", "o", "o"⟩], []⟩
    [exampleCreation "x", .approve exampleStoreAuth "x" (Charter.exampleMinute 1)]
  return ⟨charters, {reportDatabase with directives := ⟨[{reportedDirective with userId := "o"}], List.nodup_singleton _⟩}, ["d"]⟩

/-- The owner lowers the attempts of the charter. -/
def lowering (maxAttempts : Int) : ChainCall :=
  .narrow exampleStoreAuth
    { charterId := "x", sessionId := "s", sourceReceiptId := "r", removeRoots := [], removeCapabilities := []
      addProtectedWritePrefixes := [], addDeniedReadPaths := [], enforcementTier := none, egressMode := none
      budgetMinorUnits := none, maxAttempts := some maxAttempts, maxWallSeconds := none, maxConcurrentDispatches := none
      expiresAt := none, reason := "" } (Charter.exampleMinute 2) "n"

def ownReport : ExecutionReport := {failureReport with auth := ⟨"w", "o", "o", "executor"⟩}

def failing : ChainCall := .report ownReport (Charter.exampleMinute 3) (deliveryOf 6)

/-- The reporter's charter allows a second attempt, and the first one fails. -/
theorem chain_within_second : ∃ s, chainStart = some s ∧
    (∀ before report now delivery after, [failing] = before ++ .report report now delivery :: after →
      let mid := s.run lastingHost before
      let next := mid.next lastingHost (.report report now delivery)
      next.chain = mid.chain ∨ (next.chain.length : Int) ≤ mid.most lastingHost report now delivery) ∧
    ∀ most : Int, 1 ≤ most →
      (∀ before report now delivery after, [failing] = before ++ .report report now delivery :: after →
        (s.run lastingHost before).most lastingHost report now delivery ≤ most) →
          ((s.run lastingHost [failing]).chain.length : Int) ≤ most := by
  let checked (s : ChainState) : Bool := s.chain = ["d"] &&
    (s.db.directives.find "d").any (fun d => d.attempt = 1) &&
    (ownReport.directive s.db).all (fun d => (s.charter lastingHost ownReport (Charter.exampleMinute 3)).all
      fun charter => d.attempt < charter.caps.maxAttempts)
  obtain ⟨s, hstart, hchecked⟩ := (Option.any_eq_true _ _).mp (show chainStart.any checked from by decide +kernel)
  simp only [checked, Bool.and_eq_true, decide_eq_true_eq] at hchecked
  obtain ⟨⟨hchain, hfirst⟩, hcap⟩ := hchecked
  obtain ⟨d, hd, hattempt⟩ := (Option.any_eq_true _ _).mp hfirst
  refine ⟨s, hstart, @chain_within lastingHost s [failing] "d" d hchain hd (of_decide_eq_true hattempt) ?_⟩
  intro before call after hsplit
  cases before with
  | nil =>
    cases hsplit
    intro d charter hd hcharter hreached
    have hbelow := (Option.all_eq_true _ _).mp ((Option.all_eq_true _ _).mp hcap d hd) charter hcharter
    exact absurd (of_decide_eq_true hbelow) (Int.not_lt.mpr hreached)
  | cons first before => exact absurd (congrArg List.length hsplit) (by simp)

/-- The owner lowers the charter to one attempt, and the failure of the first still mints a second. -/
theorem chain_outruns : ¬ ∀ (s : ChainState) (first : String) (d : ReportedDirective) (calls : List ChainCall)
    (report : ExecutionReport) (now : Utc) (delivery : Delivery), s.chain = [first] →
      s.db.directives.find first = some d → d.attempt = 1 →
        let mid := s.run lastingHost calls
        let next := mid.next lastingHost (.report report now delivery)
        next.chain = mid.chain ∨ (next.chain.length : Int) ≤ mid.most lastingHost report now delivery := by
  intro h
  let checked (s : ChainState) : Bool := s.chain = ["d"] && (s.db.directives.find "d").any (fun d => d.attempt = 1) &&
    ((s.run lastingHost [lowering 1]).next lastingHost failing).chain = ["d", "r"] &&
    (s.run lastingHost [lowering 1]).chain = ["d"] &&
    (s.run lastingHost [lowering 1]).most lastingHost ownReport (Charter.exampleMinute 3) (deliveryOf 6) = 1
  obtain ⟨s, -, hchecked⟩ := (Option.any_eq_true _ _).mp (show chainStart.any checked from by decide +kernel)
  simp only [checked, Bool.and_eq_true, decide_eq_true_eq] at hchecked
  obtain ⟨⟨⟨⟨hchain, hfirst⟩, hnext⟩, hmid⟩, hmost⟩ := hchecked
  obtain ⟨d, hd, hattempt⟩ := (Option.any_eq_true _ _).mp hfirst
  have houtruns := h s "d" d [lowering 1] ownReport (Charter.exampleMinute 3) (deliveryOf 6) hchain hd
    (of_decide_eq_true hattempt)
  dsimp only at houtruns
  rw [show ChainCall.report ownReport (Charter.exampleMinute 3) (deliveryOf 6) = failing from rfl, hnext, hmid, hmost]
    at houtruns
  exact absurd houtruns (by decide)

end OpenTimeline.Directive
