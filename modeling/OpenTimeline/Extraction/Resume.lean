import OpenTimeline.Extraction.Recorded
import OpenTimeline.Extraction.Worker

/-! An extraction that is resumed.

An attempt may stop after any commit, or stall while another takes its receipt over and then
go on. An attempt that finds a candidate unfinished goes on with the observation the row
names; where it names none, there may be one all the same, committed before the checkpoint
that would have named it, and a second is written. Where no attempt writes the observation of
a candidate it has not inserted itself, and every candidate is unfinished when its end is
committed, each has at most one observation and at most one resolution, and names its own
(`resumed_once`). -/
namespace OpenTimeline.Extraction
open Library

variable {host : TextHost} {maybeDecryptPayload : Payload → Except String Payload} {uuid4 : Uuid4}

/-! ### What is owed -/

/-- The observations that were written for a candidate. -/
def observationsOf (writtenFor : String → Option String) (db : CaptureDb) (candidateId : String) : List String :=
  (db.observations.rows.map (·.id)).filter fun id => writtenFor id = some candidateId

def resolutionsOf (db : CaptureDb) (candidateId : String) : List ResolutionRow :=
  db.resolutions.rows.filter (·.candidateId = some candidateId)

/-- Each candidate has one observation and one resolution at most; the observation its row
names is the one, and the one its resolution names. -/
structure ResumedOnce (writtenFor : String → Option String) (db : CaptureDb) : Prop where
  observed : ∀ row ∈ db.candidates.rows, (observationsOf writtenFor db row.id).length ≤ 1
  resolved : ∀ row ∈ db.candidates.rows, (resolutionsOf db row.id).length ≤ 1
  reused : ∀ row ∈ db.candidates.rows, ∀ o, row.promotedObservationId = some o →
    o ∈ observationsOf writtenFor db row.id
  carried : ∀ row ∈ db.candidates.rows, ∀ r ∈ resolutionsOf db row.id,
    ∃ o ∈ observationsOf writtenFor db row.id, r.observationId = some o

/-- An end that is committed is of a candidate that is unfinished. -/
def Write.fits : Write → CaptureDb → Bool
  | .insert _, _ => true
  | .finish ending, db => db.candidates.rows.any fun row => row.id = ending.candidateId && row.status = .new

section Alone
variable {ι : Type} [DecidableEq ι]

/-- The attempt whose writes a step commits. -/
def WorkerStep.commits (s : WorkerState ι) : WorkerStep ι → Option ι
  | .save i => some i
  | .finish i => some i
  | .settle i =>
    match s.attempts i with
    | some ⟨_, _, .recorded _ _ pending _⟩ =>
      match pending.branch with
      | .hold _ => some i
      | _ => none
    | _ => none
  | _ => none

/-- The step writes an observation only for a candidate its attempt has inserted. -/
def WorkerStep.writesOwn (s : WorkerState ι) : WorkerStep ι → Bool
  | .save i =>
    match s.attempts i with
    | some ⟨_, _, .entered _ _ _ inserted⟩ => inserted
    | _ => true
  | _ => true

variable (host uuid4) in
/-- No other attempt has been at what the step writes or commits. -/
def WorkerStep.alone (s : WorkerState ι) (step : WorkerStep ι) : Bool :=
  step.writesOwn s && (step.commits s).all fun i =>
    Transactions.meets (Write.apply host uuid4) Write.fits (s.store.own i) s.store.db

end Alone

/-! ### What is kept -/

def Write.insertedId : Write → Option String
  | .insert row => some row.id
  | .finish _ => none

/-- The candidates that are inserted and not committed. -/
def insertedIds (ws : List Write) : List String := ws.filterMap Write.insertedId

/-- The candidate is not one that is still to be inserted. -/
def Past (drawn : List String) (ws : List Write) (candidateId : String) : Prop :=
  candidateId ∈ drawn ∧ candidateId ∉ insertedIds ws

structure Kept (writtenFor : String → Option String) (drawn : List String) (db : CaptureDb) (ws : List Write) :
    Prop where
  nodup : (insertedIds ws).Nodup
  known : ∀ id ∈ insertedIds ws, id ∈ drawn
  committed : ∀ row ∈ db.candidates.rows, Past drawn ws row.id
  written : ∀ o c, writtenFor o = some c → o ∈ db.observations.rows.map (·.id) ∧ Past drawn ws c
  observed : ∀ c, (observationsOf writtenFor db c).length ≤ 1
  named : ∀ row ∈ db.candidates.rows, ∀ o, row.promotedObservationId = some o → writtenFor o = some row.id
  resolved : ∀ r ∈ db.resolutions.rows, ∀ c, r.candidateId = some c → Past drawn ws c ∧
    (∀ row ∈ db.candidates.rows, row.id = c → row.status ≠ .new) ∧
    ∃ o, r.observationId = some o ∧ writtenFor o = some c
  once : ∀ c, (resolutionsOf db c).length ≤ 1
  unnamed : ∀ row, .insert row ∈ ws → row.promotedObservationId = none
  endings : ∀ ending, .finish ending ∈ ws → writtenFor ending.observationId = some ending.candidateId

section Kept
variable {writtenFor : String → Option String} {drawn : List String} {db db' : CaptureDb} {ws ws' : List Write}
  {w : Write} {c : String}

theorem Past.perm (h : Past drawn ws c) (hperm : ws.Perm ws') : Past drawn ws' c :=
  ⟨h.1, fun hmem => h.2 ((hperm.filterMap _).mem_iff.mpr hmem)⟩

theorem insertedIds_cons_subset : insertedIds ws ⊆ insertedIds (w :: ws) :=
  fun _ hid => List.mem_filterMap.mpr <| (List.mem_filterMap.mp hid).imp fun _ h => ⟨List.mem_cons_of_mem _ h.1, h.2⟩

theorem Past.tail (h : Past drawn (w :: ws) c) : Past drawn ws c :=
  ⟨h.1, fun hmem => h.2 (insertedIds_cons_subset hmem)⟩

theorem Kept.toResumedOnce (h : Kept writtenFor drawn db ws) : ResumedOnce writtenFor db where
  observed row _ := h.observed row.id
  resolved row _ := h.once row.id
  reused row hrow o ho := by
    have hwritten := h.named row hrow o ho
    exact List.mem_filter.mpr ⟨(h.written o row.id hwritten).1, by simpa using hwritten⟩
  carried row _ r hr := by
    obtain ⟨hmem, hof⟩ := List.mem_filter.mp hr
    obtain ⟨_, _, o, ho, hwritten⟩ := h.resolved r hmem row.id (by simpa using hof)
    exact ⟨o, List.mem_filter.mpr ⟨(h.written o row.id hwritten).1, by simpa using hwritten⟩, ho⟩

theorem Kept.perm (h : Kept writtenFor drawn db ws) (hperm : ws.Perm ws') : Kept writtenFor drawn db ws' where
  nodup := (hperm.filterMap _).nodup_iff.mp h.nodup
  known id hid := h.known id ((hperm.filterMap _).mem_iff.mpr hid)
  committed row hrow := (h.committed row hrow).perm hperm
  written o c ho := ⟨(h.written o c ho).1, (h.written o c ho).2.perm hperm⟩
  observed := h.observed
  named := h.named
  resolved r hr c hc := ⟨(h.resolved r hr c hc).1.perm hperm, (h.resolved r hr c hc).2⟩
  once := h.once
  unnamed row hrow := h.unnamed row (hperm.mem_iff.mpr hrow)
  endings ending hending := h.endings ending (hperm.mem_iff.mpr hending)

theorem Kept.tail (h : Kept writtenFor drawn db (w :: ws)) : Kept writtenFor drawn db ws where
  nodup := by
    have hnodup := h.nodup
    cases w with
    | insert row => exact (List.nodup_cons.mp hnodup).2
    | finish ending => exact hnodup
  known id hid := h.known id (insertedIds_cons_subset hid)
  committed row hrow := (h.committed row hrow).tail
  written o c ho := ⟨(h.written o c ho).1, (h.written o c ho).2.tail⟩
  observed := h.observed
  named := h.named
  resolved r hr c hc := ⟨(h.resolved r hr c hc).1.tail, (h.resolved r hr c hc).2⟩
  once := h.once
  unnamed row hrow := h.unnamed row (List.mem_cons_of_mem _ hrow)
  endings ending hending := h.endings ending (List.mem_cons_of_mem _ hending)

/-- What touches neither the candidates nor what is written of them. -/
theorem Kept.frame (h : Kept writtenFor drawn db ws) (hc : db'.candidates = db.candidates)
    (ho : db'.observations = db.observations) (hr : db'.resolutions = db.resolutions) :
    Kept writtenFor drawn db' ws := by
  constructor
  · exact h.nodup
  · exact h.known
  · exact hc ▸ h.committed
  · exact ho ▸ h.written
  · intro c
    rw [observationsOf, ho]
    exact h.observed c
  · exact hc ▸ h.named
  · exact hr ▸ hc ▸ h.resolved
  · intro c
    rw [resolutionsOf, hr]
    exact h.once c
  · exact h.unnamed
  · exact h.endings

/-- A candidate is committed. -/
theorem Kept.insert {row : CandidateRow} (h : Kept writtenFor drawn db (.insert row :: ws)) :
    Kept writtenFor drawn (Write.apply host uuid4 (.insert row) db) ws := by
  have htail := h.tail
  cases hinsert : db.candidates.insert row with
  | none => exact htail.frame (by simp [Write.apply, hinsert]) rfl rfl
  | some candidates =>
    have hpast : Past drawn ws row.id := ⟨h.known _ (by simp [insertedIds, Write.insertedId]),
      (List.nodup_cons.mp h.nodup).1⟩
    have hset : (Write.apply host uuid4 (.insert row) db).candidates = candidates := by
      simp [Write.apply, hinsert]
    refine {htail with committed := ?_, named := ?_, resolved := ?_}
    · rw [hset]
      exact Table.forall_insert hinsert htail.committed hpast
    · rw [hset]
      refine Table.forall_insert hinsert htail.named fun o ho => ?_
      rw [h.unnamed row List.mem_cons_self] at ho
      cases ho
    · intro r hr c hc
      obtain ⟨hpastc, hstatus, hnames⟩ := h.resolved r hr c hc
      rw [hset]
      refine ⟨hpastc.tail, Table.forall_insert hinsert hstatus ?_, hnames⟩
      rintro rfl
      exact absurd (by simp [insertedIds, Write.insertedId]) hpastc.2

section Ending
variable {ending : Ending}

theorem Ending.apply_resolutions : (ending.apply host uuid4 db).resolutions = db.resolutions ∨
    ∃ r : ResolutionRow, (ending.apply host uuid4 db).resolutions.rows = db.resolutions.rows ++ [r] ∧
      r.candidateId = some ending.candidateId ∧ r.observationId = some ending.observationId := by
  cases hresolution : ending.resolution with
  | none => exact Or.inl (by simp only [Ending.apply, hresolution])
  | some resolution => exact Or.inr (by simp only [Ending.apply, hresolution]; exact ⟨_, rfl, rfl, rfl⟩)

theorem Ending.status_ne_new : ending.status ≠ .new := by
  unfold Ending.status
  split <;> decide

theorem forall_endCandidate {P : CandidateRow → Prop} {candidates : Table CandidateRow.spanKey} {id o : String}
    {status : CandidateStatus} {reviewId : Option String} (hP : ∀ row ∈ candidates.rows, P row)
    (hset : ∀ row ∈ candidates.rows, row.id = id →
      P {row with status, promotedObservationId := some o, reviewId := reviewId.or row.reviewId}) :
    ∀ row ∈ (endCandidate id status o reviewId candidates).rows, P row := by
  rw [endCandidate]
  exact Table.forall_updateWhere hP fun row hrow _ hid => hset row hrow (by simpa using hid)

/-- A candidate is brought to an end. -/
theorem Kept.finish (h : Kept writtenFor drawn db (.finish ending :: ws)) (hfits : (Write.finish ending).fits db) :
    Kept writtenFor drawn (ending.apply host uuid4 db) ws := by
  have htail := h.tail
  have hwritten := h.endings ending List.mem_cons_self
  obtain ⟨row, hrow, hnew⟩ := List.any_eq_true.mp hfits
  simp only [Bool.and_eq_true, decide_eq_true_eq] at hnew
  have hpast : Past drawn ws ending.candidateId := hnew.1 ▸ htail.committed row hrow
  -- the candidate is unfinished, so nothing has resolved it
  have hnone : ∀ r ∈ db.resolutions.rows, r.candidateId ≠ some ending.candidateId := fun r hr hc =>
    (h.resolved r hr _ hc).2.1 row hrow hnew.1 hnew.2
  have hresolutions := @Ending.apply_resolutions host uuid4 db ending
  have hended : ∀ row ∈ (ending.apply host uuid4 db).candidates.rows, row.id = ending.candidateId → row.status ≠ .new := by
    intro row hrow
    obtain ⟨before, _, rfl⟩ := List.mem_map.mp hrow
    split_ifs with hid
    · exact fun _ => Ending.status_ne_new
    · exact fun hsame => absurd (by simpa using hsame) hid
  have hkept : ∀ c, (∀ row ∈ db.candidates.rows, row.id = c → row.status ≠ .new) →
      ∀ row ∈ (ending.apply host uuid4 db).candidates.rows, row.id = c → row.status ≠ .new := by
    exact fun c hstatus => forall_endCandidate hstatus fun _ _ _ _ => Ending.status_ne_new
  refine {htail with committed := ?_, named := ?_, resolved := ?_, once := ?_}
  · exact forall_endCandidate htail.committed fun row hrow _ => htail.committed row hrow
  · refine forall_endCandidate htail.named fun row _ hid o ho => ?_
    cases ho
    rw [hwritten, hid]
  · intro r hr c hc
    rcases hresolutions with hsame | hadded
    · rw [hsame] at hr
      obtain ⟨hpastc, hstatus, hnames⟩ := htail.resolved r hr c hc
      exact ⟨hpastc, hkept c hstatus, hnames⟩
    · obtain ⟨new, hrows, hcandidate, hobservation⟩ := hadded
      rw [hrows] at hr
      rcases List.mem_append.mp hr with hold | hr
      · obtain ⟨hpastc, hstatus, hnames⟩ := htail.resolved r hold c hc
        exact ⟨hpastc, hkept c hstatus, hnames⟩
      · rw [List.mem_singleton.mp hr] at hc ⊢
        obtain rfl : ending.candidateId = c := Option.some.inj (hcandidate.symm.trans hc)
        exact ⟨hpast, hended, _, hobservation, hwritten⟩
  · intro c
    rcases hresolutions with hsame | hadded
    · rw [resolutionsOf, hsame]
      exact h.once c
    · obtain ⟨new, hrows, hcandidate, _⟩ := hadded
      rw [resolutionsOf, hrows, List.filter_append]
      by_cases hc : c = ending.candidateId
      · have hnil : db.resolutions.rows.filter (·.candidateId = some c) = [] :=
          List.filter_eq_nil_iff.mpr fun r hr => by simpa [hc] using hnone r hr
        rw [hnil]
        exact List.length_filter_le _ _
      · have hother : [new].filter (·.candidateId = some c) = [] := by simp [hcandidate, Ne.symm hc]
        rw [hother, List.append_nil]
        exact h.once c

end Ending

/-- What a write keeps, a commit does. -/
theorem keeps_kept : Transactions.Keeps (Write.apply host uuid4) Write.fits (Kept writtenFor drawn) where
  perm _ _ _ hperm h := h.perm hperm
  applied _ w _ h hfits := by
    cases w with
    | insert row => exact h.insert
    | finish ending => exact h.finish hfits
  dropped _ _ _ h := h.tail

/-- What an attempt sees its candidates name was written for them. -/
theorem Kept.view_named {ι : Type} [DecidableEq ι] {store : Transactions CaptureDb ι Write}
    (h : Kept writtenFor drawn store.db store.writes) (i : ι) :
    ∀ row ∈ (store.view (Write.apply host uuid4) i).candidates.rows, ∀ o, row.promotedObservationId = some o →
      writtenFor o = some row.id := by
  have hall : ∀ (ws : List Write) (db : CaptureDb), ws ⊆ store.writes →
      (∀ row ∈ db.candidates.rows, ∀ o, row.promotedObservationId = some o → writtenFor o = some row.id) →
      ∀ row ∈ (Transactions.applyAll (Write.apply host uuid4) db ws).candidates.rows, ∀ o,
        row.promotedObservationId = some o → writtenFor o = some row.id := by
    intro ws
    induction ws with
    | nil => exact fun _ _ hnamed => hnamed
    | cons w ws ih =>
      intro db hsub hnamed
      rw [List.cons_subset] at hsub
      refine ih (w.apply host uuid4 db) hsub.2 ?_
      cases w with
      | insert row =>
        cases hinsert : db.candidates.insert row with
        | none => simpa [Write.apply, hinsert] using hnamed
        | some candidates =>
          have hrows := Table.forall_insert hinsert hnamed fun o ho => by
            rw [h.unnamed row hsub.1] at ho
            cases ho
          simpa [Write.apply, hinsert] using hrows
      | finish ending =>
        refine forall_endCandidate hnamed fun row _ hid o ho => ?_
        cases ho
        rw [h.endings ending hsub.1, hid]
  exact hall _ _ (store.own_subset i) h.named

/-! ### What is written of a candidate -/

theorem saveBehaviorEvidence_ids (evidence : Evidence) (observations : Table ObservationRow.id) :
    (saveBehaviorEvidence uuid4 evidence observations).1.rows.map (·.id) =
        observations.rows.map (·.id) ++ [(saveBehaviorEvidence uuid4 evidence observations).2] ∧
      (saveBehaviorEvidence uuid4 evidence observations).2 ∉ observations.rows.map (·.id) := by
  refine ⟨?_, uuid4.draw_notMem _⟩
  unfold saveBehaviorEvidence
  simp only
  split
  · simp [Table.add]
  · refine (Table.map_updateWhere _ ?_).trans ?_
    · exact fun _ => rfl
    · simp [Table.add]

/-- An observation is added: of a candidate that has none, or of none. -/
theorem Kept.observe (h : Kept writtenFor drawn db ws) {o : String} {candidate : Option String}
    (hids : db'.observations.rows.map (·.id) = db.observations.rows.map (·.id) ++ [o])
    (hfresh : o ∉ db.observations.rows.map (·.id)) (hc : db'.candidates = db.candidates)
    (hr : db'.resolutions = db.resolutions)
    (hcandidate : ∀ c, candidate = some c → Past drawn ws c ∧ ∀ o, writtenFor o ≠ some c) :
    Kept (Function.update writtenFor o candidate) drawn db' ws := by
  have hgrows : ∀ o' c, writtenFor o' = some c → Function.update writtenFor o candidate o' = some c := by
    intro o' c hwritten
    have hne : o' ≠ o := by
      rintro rfl
      exact hfresh (h.written o' c hwritten).1
    rw [Function.update_of_ne hne, hwritten]
  constructor
  · exact h.nodup
  · exact h.known
  · exact hc ▸ h.committed
  · intro o' c hwritten
    rw [hids]
    by_cases ho : o' = o
    · subst ho
      rw [Function.update_self] at hwritten
      exact ⟨by simp, (hcandidate c hwritten).1⟩
    · rw [Function.update_of_ne ho] at hwritten
      exact ⟨List.mem_append_left _ (h.written o' c hwritten).1, (h.written o' c hwritten).2⟩
  · intro c
    have hbefore : (db.observations.rows.map (·.id)).filter (fun id => Function.update writtenFor o candidate id = some c) =
        observationsOf writtenFor db c := by
      refine List.filter_congr fun id hid => ?_
      have hne : id ≠ o := by
        rintro rfl
        exact hfresh hid
      rw [Function.update_of_ne hne]
    rw [observationsOf, hids, List.filter_append, hbefore]
    by_cases hof : candidate = some c
    · have hnil : observationsOf writtenFor db c = [] :=
        List.filter_eq_nil_iff.mpr fun id _ => by simpa using (hcandidate c hof).2 id
      rw [hnil]
      exact List.length_filter_le _ _
    · have hother : [o].filter (fun id => Function.update writtenFor o candidate id = some c) = [] := by simp [hof]
      rw [hother, List.append_nil]
      exact h.observed c
  · rw [hc]
    exact fun row hrow o' ho' => hgrows o' row.id (h.named row hrow o' ho')
  · rw [hc, hr]
    intro r hmem c hof
    obtain ⟨hpast, hstatus, o', ho', hwritten⟩ := h.resolved r hmem c hof
    exact ⟨hpast, hstatus, o', ho', hgrows o' c hwritten⟩
  · intro c
    rw [resolutionsOf, hr]
    exact h.once c
  · exact h.unnamed
  · exact fun ending hending => hgrows _ _ (h.endings ending hending)

/-- A resolution is added that is of no candidate. -/
theorem Kept.resolve (h : Kept writtenFor drawn db ws) {r : ResolutionRow} (hnone : r.candidateId = none)
    (hrows : db'.resolutions.rows = db.resolutions.rows ++ [r]) (hc : db'.candidates = db.candidates)
    (ho : db'.observations = db.observations) : Kept writtenFor drawn db' ws := by
  have hframe : Kept writtenFor drawn {db' with resolutions := db.resolutions} ws := h.frame hc ho rfl
  refine {hframe with resolved := ?_, once := ?_}
  · rw [hrows, List.forall_mem_append, List.forall_mem_singleton]
    refine ⟨hframe.resolved, fun c hof => ?_⟩
    rw [hnone] at hof
    cases hof
  · intro c
    have hsame : resolutionsOf db' c = resolutionsOf db c := by simp [resolutionsOf, hrows, hnone]
    rw [hsame]
    exact h.once c

/-- A candidate comes to name what was written for it. -/
theorem Kept.record (h : Kept writtenFor drawn db ws) {o : String} (hwritten : writtenFor o = some c) :
    Kept writtenFor drawn {db with candidates := recordObservation c o db.candidates} ws := by
  have hrows : ∀ {P : CandidateRow → Prop}, (∀ row ∈ db.candidates.rows, P row) →
      (∀ row ∈ db.candidates.rows, row.id = c → P {row with promotedObservationId := some o}) →
      ∀ row ∈ (recordObservation c o db.candidates).rows, P row := by
    intro P hP hset
    rw [recordObservation]
    exact Table.forall_updateWhere hP fun row hrow _ hid => hset row hrow (by simpa using hid)
  refine {h with committed := ?_, named := ?_, resolved := ?_}
  · exact hrows h.committed fun row hrow _ => h.committed row hrow
  · refine hrows h.named fun row _ hid o' ho' => ?_
    cases ho'
    rw [hwritten, hid]
  · intro r hr c' hc'
    obtain ⟨hpast, hstatus, hnames⟩ := h.resolved r hr c' hc'
    exact ⟨hpast, hrows hstatus fun row hrow _ => hstatus row hrow, hnames⟩

/-- A candidate is inserted under a new id. -/
theorem Kept.write_insert (h : Kept writtenFor drawn db ws) {row : CandidateRow} (hfresh : row.id ∉ drawn)
    (hnone : row.promotedObservationId = none) : Kept writtenFor (row.id :: drawn) db (ws ++ [.insert row]) := by
  have hids : insertedIds (ws ++ [.insert row]) = insertedIds ws ++ [row.id] := by
    simp [insertedIds, Write.insertedId]
  have hpast : ∀ c, Past drawn ws c → Past (row.id :: drawn) (ws ++ [.insert row]) c := by
    rintro c ⟨hdrawn, hnot⟩
    refine ⟨List.mem_cons_of_mem _ hdrawn, ?_⟩
    rw [hids, List.mem_append, List.mem_singleton, not_or]
    refine ⟨hnot, ?_⟩
    rintro rfl
    exact hfresh hdrawn
  constructor
  · rw [hids, List.nodup_append]
    refine ⟨h.nodup, List.nodup_singleton _, fun id hid id' hid' heq => hfresh ?_⟩
    rw [List.mem_singleton.mp hid'] at heq
    exact heq ▸ h.known id hid
  · rw [hids, List.forall_mem_append, List.forall_mem_singleton]
    exact ⟨fun id hid => List.mem_cons_of_mem _ (h.known id hid), List.mem_cons_self⟩
  · exact fun row' hrow' => hpast _ (h.committed row' hrow')
  · exact fun o c ho => ⟨(h.written o c ho).1, hpast c (h.written o c ho).2⟩
  · exact h.observed
  · exact h.named
  · exact fun r hr c hc => ⟨hpast c (h.resolved r hr c hc).1, (h.resolved r hr c hc).2⟩
  · exact h.once
  · intro row' hrow'
    rcases List.mem_append.mp hrow' with hold | hnew
    · exact h.unnamed row' hold
    · cases List.mem_singleton.mp hnew
      exact hnone
  · intro ending hending
    rcases List.mem_append.mp hending with hold | hnew
    · exact h.endings ending hold
    · cases List.mem_singleton.mp hnew

theorem Kept.write_finish (h : Kept writtenFor drawn db ws) {ending : Ending}
    (hwritten : writtenFor ending.observationId = some ending.candidateId) :
    Kept writtenFor drawn db (ws ++ [.finish ending]) := by
  have hids : insertedIds (ws ++ [.finish ending]) = insertedIds ws := by simp [insertedIds, Write.insertedId]
  have hpast : ∀ c, Past drawn ws c → Past drawn (ws ++ [.finish ending]) c := fun c h => ⟨h.1, hids ▸ h.2⟩
  constructor
  · exact hids ▸ h.nodup
  · exact hids ▸ h.known
  · exact fun row hrow => hpast _ (h.committed row hrow)
  · exact fun o c ho => ⟨(h.written o c ho).1, hpast c (h.written o c ho).2⟩
  · exact h.observed
  · exact h.named
  · exact fun r hr c hc => ⟨hpast c (h.resolved r hr c hc).1, (h.resolved r hr c hc).2⟩
  · exact h.once
  · intro row hrow
    rcases List.mem_append.mp hrow with hold | hnew
    · exact h.unnamed row hold
    · cases List.mem_singleton.mp hnew
  · intro ending' hending'
    rcases List.mem_append.mp hending' with hold | hnew
    · exact h.endings ending' hold
    · cases List.mem_singleton.mp hnew
      exact hwritten

theorem Kept.markExtractionError (h : Kept writtenFor drawn db ws) (call : ExtractCall) (receipt : ReceiptRow)
    (receipts : Table ReceiptRow.id) :
    Kept writtenFor drawn (call.markExtractionError receipt {db with receipts}) ws := by
  unfold ExtractCall.markExtractionError
  split_ifs
  · exact h.frame rfl rfl rfl
  · exact h.frame rfl rfl rfl

theorem Kept.store_finish {ι : Type} [DecidableEq ι] {store : Transactions CaptureDb ι Write}
    (h : Kept writtenFor drawn store.db store.writes) (i : ι) {ending : Ending}
    (hwritten : writtenFor ending.observationId = some ending.candidateId) :
    Kept writtenFor drawn (store.write i (.finish ending)).db (store.write i (.finish ending)).writes := by
  rw [Transactions.writes_write]
  exact h.write_finish hwritten

end Kept

/-! ### Runs -/

section Runs
variable {ι : Type} [DecidableEq ι] {s s' : WorkerState ι} {writtenFor writtenFor' : String → Option String}

/-- What an attempt goes by is its own, or was written for its candidate. -/
def WorkerPhase.Sound (writtenFor : String → Option String) (own : List Write) : WorkerPhase → Prop
  | .entered _ _ taken inserted => inserted → taken.candidateId ∈ insertedIds own
  | .saved _ _ pending => writtenFor pending.observationId = some pending.candidateId
  | .recorded _ _ pending _ => writtenFor pending.observationId = some pending.candidateId
  | _ => True

theorem WorkerPhase.Sound.mono {own own' : List Write} {phase : WorkerPhase} (h : phase.Sound writtenFor own)
    (hgrows : ∀ o c, writtenFor o = some c → writtenFor' o = some c) (hown : insertedIds own ⊆ insertedIds own') :
    phase.Sound writtenFor' own' := by
  cases phase with
  | claimed => trivial
  | between => trivial
  | entered => exact fun hinserted => hown (h hinserted)
  | saved => exact hgrows _ _ h
  | recorded => exact hgrows _ _ h

structure WorkerState.Sound (s : WorkerState ι) : Prop where
  kept : Kept s.writtenFor s.drawn s.store.db s.store.writes
  attempts : ∀ i attempt, s.attempts i = some attempt → attempt.phase.Sound s.writtenFor (s.store.own i)

namespace WorkerState

@[simp] theorem set_self (s : WorkerState ι) (i : ι) (attempt : Option WorkerAttempt) :
    (s.set i attempt).attempts i = attempt := Function.update_self _ _ _

theorem set_of_ne (s : WorkerState ι) {i j : ι} (hj : j ≠ i) (attempt : Option WorkerAttempt) :
    (s.set i attempt).attempts j = s.attempts j := Function.update_of_ne hj _ _

namespace Sound

theorem setDb (h : s.Sound) {db : CaptureDb} (hkept : Kept s.writtenFor s.drawn db s.store.writes) :
    (s.setDb db).Sound := ⟨hkept, h.attempts⟩

/-- A step of one attempt. -/
theorem step_of (h : s.Sound) {i : ι} (hothers : ∀ j ≠ i, s'.attempts j = s.attempts j)
    (hown : ∀ j ≠ i, s'.store.own j = s.store.own j)
    (hgrows : ∀ o c, s.writtenFor o = some c → s'.writtenFor o = some c)
    (hkept : Kept s'.writtenFor s'.drawn s'.store.db s'.store.writes)
    (hphase : ∀ attempt, s'.attempts i = some attempt → attempt.phase.Sound s'.writtenFor (s'.store.own i)) :
    s'.Sound := by
  refine ⟨hkept, fun j attempt hattempt => ?_⟩
  by_cases hj : j = i
  · subst hj
    exact hphase attempt hattempt
  · rw [hothers j hj] at hattempt
    rw [hown j hj]
    exact (h.attempts j attempt hattempt).mono hgrows (List.Subset.refl _)

/-- An attempt gets to another phase, and nothing is written. -/
theorem set (h : s.Sound) {i : ι} {attempt : Option WorkerAttempt}
    (hphase : ∀ a, attempt = some a → a.phase.Sound s.writtenFor (s.store.own i)) : (s.set i attempt).Sound := by
  refine step_of h (fun j hj => s.set_of_ne hj attempt) (fun _ _ => rfl) (fun _ _ h => h) h.kept fun a ha => ?_
  rw [set_self] at ha
  exact hphase a ha

theorem take (h : s.Sound) {i : ι} {attempt : WorkerAttempt} {loaded : Loaded} {candidate : DecisionCandidate}
    {todo : List DecisionCandidate} {candidateId : String} {existing : Option String} {inserted : Bool}
    (hexisting : ∀ o, existing = some o → s.writtenFor o = some candidateId)
    (hinserted : inserted → candidateId ∈ insertedIds (s.store.own i)) :
    (s.take host uuid4 i attempt loaded candidate todo candidateId existing inserted).Sound := by
  unfold WorkerState.take
  split
  · refine h.set fun a ha => ?_
    cases ha
    trivial
  · cases existing with
    | none =>
      refine h.set fun a ha => ?_
      cases ha
      exact hinserted
    | some o =>
      refine h.set fun a ha => ?_
      cases ha
      exact hexisting o rfl

theorem enter (h : s.Sound) {i : ι} {attempt : WorkerAttempt} {loaded : Loaded} {candidate : DecisionCandidate}
    {todo : List DecisionCandidate} (hnext : s.enter host uuid4 i attempt loaded candidate todo = some s') :
    s'.Sound := by
  unfold WorkerState.enter at hnext
  split at hnext
  · next row hfind =>
    split_ifs at hnext
    · cases hnext
      refine h.set fun a ha => ?_
      cases ha
      trivial
    · cases hnext
      refine h.take (fun o ho => ?_) fun hinserted => ?_
      · exact h.kept.view_named i row (Table.find_eq_some_iff.mp hfind).1 o ho
      · cases hinserted
  · split_ifs at hnext
    cases hnext
    let row := insertedCandidate attempt.call loaded candidate (uuid4.draw s.drawn)
    have hwritten : ({s with store := s.store.write i (.insert row), drawn := row.id :: s.drawn} : WorkerState ι).Sound := by
      refine step_of h (fun _ _ => rfl) (fun j hj => s.store.own_write_of_ne i hj _) (fun _ _ h => h) ?_ ?_
      · show Kept s.writtenFor (row.id :: s.drawn) s.store.db (s.store.write i (.insert row)).writes
        rw [Transactions.writes_write]
        exact h.kept.write_insert (uuid4.draw_notMem _) rfl
      · intro a ha
        refine (h.attempts i a ha).mono (fun _ _ h => h) fun id hid => ?_
        show id ∈ insertedIds ((s.store.write i (.insert row)).own i)
        rw [Transactions.own_write_self, insertedIds, List.filterMap_append]
        exact List.mem_append_left _ hid
    refine hwritten.take (fun o ho => ?_) fun _ => ?_
    · cases ho
    · simp [insertedIds, Write.insertedId, row, insertedCandidate]

theorem save (h : s.Sound) {i : ι} {attempt : WorkerAttempt} {loaded : Loaded} {todo : List DecisionCandidate}
    {taken : Taken} (hinserted : taken.candidateId ∈ insertedIds (s.store.own i))
    (hmeets : Transactions.meets (Write.apply host uuid4) Write.fits (s.store.own i) s.store.db) :
    (s.save host uuid4 i attempt loaded todo taken).Sound := by
  have hcommit := keeps_kept.commit h.kept hmeets
  obtain ⟨hids, hfresh⟩ := @saveBehaviorEvidence_ids uuid4 (taken.evidence attempt.call loaded.receipt)
    (s.store.commit (Write.apply host uuid4) i).db.observations
  obtain ⟨observations, o, hsaved⟩ : ∃ observations o, saveBehaviorEvidence uuid4
    (taken.evidence attempt.call loaded.receipt) (s.store.commit (Write.apply host uuid4) i).db.observations =
      (observations, o) := ⟨_, _, rfl⟩
  rw [hsaved] at hids hfresh
  have hmem : taken.candidateId ∈ insertedIds s.store.writes := by
    obtain ⟨w, hw, hid⟩ := List.mem_filterMap.mp hinserted
    exact List.mem_filterMap.mpr ⟨w, s.store.own_subset i hw, hid⟩
  -- the candidate was inserted by the transaction, and is not by another
  have hpast : Past s.drawn (s.store.rollback i).writes taken.candidateId := by
    have hnodup := (h.kept.perm (s.store.writes_perm i)).nodup
    rw [insertedIds, List.filterMap_append, List.nodup_append] at hnodup
    exact ⟨h.kept.known _ hmem, fun hother => hnodup.2.2 _ hinserted _ hother rfl⟩
  have hkept : Kept (Function.update s.writtenFor o (some taken.candidateId)) s.drawn
      {(s.store.commit (Write.apply host uuid4) i).db with observations} (s.store.rollback i).writes := by
    refine hcommit.observe hids hfresh rfl rfl fun c hc => ?_
    cases hc
    exact ⟨hpast, fun o ho => (h.kept.written o _ ho).2.2 hmem⟩
  unfold WorkerState.save
  simp only [WorkerState.commit, hsaved]
  refine step_of h (fun j hj => set_of_ne _ hj _) (fun j hj => s.store.own_rollback_of_ne i hj) ?_ hkept ?_
  · intro o' c ho
    have hne : o' ≠ o := by
      rintro rfl
      exact hfresh (hcommit.written o' c ho).1
    exact (Function.update_of_ne hne _ _).trans ho
  · intro a ha
    rw [set_self] at ha
    cases ha
    exact Function.update_self _ _ _

theorem checkpoint (h : s.Sound) {i : ι} {call : ExtractCall} {receipt : ReceiptRow} {loaded : Loaded}
    {todo : List DecisionCandidate} {pending : Pending}
    (hattempt : s.attempts i = some ⟨call, receipt, .saved loaded todo pending⟩) :
    let candidates := recordObservation pending.candidateId pending.observationId s.store.db.candidates
    ((s.setDb {s.store.db with candidates}).set i
      (some ⟨call, receipt, .recorded loaded todo pending false⟩)).Sound := by
  intro candidates
  have hwritten : s.writtenFor pending.observationId = some pending.candidateId := h.attempts i _ hattempt
  refine (h.setDb (h.kept.record hwritten)).set fun a ha => ?_
  cases ha
  exact hwritten

theorem settle (h : s.Sound) {i : ι} {attempt : WorkerAttempt} {loaded : Loaded} {todo : List DecisionCandidate}
    {pending : Pending} {resumed : Bool}
    (hwritten : s.writtenFor pending.observationId = some pending.candidateId)
    (hmeets : ∀ target, pending.branch = .hold target →
      Transactions.meets (Write.apply host uuid4) Write.fits (s.store.own i) s.store.db) :
    (s.settle host uuid4 i attempt loaded todo pending resumed).Sound := by
  have hbetween : ∀ {s' : WorkerState ι} {a : WorkerAttempt} {own : List Write},
      (s'.set i (some {attempt with phase := .between loaded todo})).attempts i = some a →
      a.phase.Sound s.writtenFor own := by
    intro s' a own ha
    rw [set_self] at ha
    cases ha
    trivial
  unfold WorkerState.settle
  simp only
  split
  · next target hbranch =>
    refine step_of h (fun j hj => set_of_ne _ hj _) (fun j hj => ?_) (fun _ _ h => h) ?_ fun a ha => hbetween ha
    · exact (Transactions.own_write_of_ne _ i hj _).trans (s.store.own_rollback_of_ne i hj)
    · have hcommit := keeps_kept.commit h.kept (hmeets target hbranch)
      generalize createMemoryReview uuid4 _ _ _ _ _ _ _ _ = reviewed
      let store : Transactions CaptureDb ι Write := {s.store.commit (Write.apply host uuid4) i with
        db := {(s.store.commit (Write.apply host uuid4) i).db with reviews := reviewed.1} }
      have hstore : Kept s.writtenFor s.drawn store.db store.writes := hcommit.frame rfl rfl rfl
      refine hstore.store_finish i ?_
      exact hwritten
  · refine step_of h (fun j hj => set_of_ne _ hj _) (fun j hj => s.store.own_write_of_ne i hj _) (fun _ _ h => h) ?_
      fun a ha => hbetween ha
    refine h.kept.store_finish i ?_
    exact hwritten

theorem step (h : s.Sound) {step : WorkerStep ι} (halone : step.alone host uuid4 s)
    (hnext : s.next host maybeDecryptPayload uuid4 step = some s') : s'.Sound := by
  obtain ⟨hown, hcommits⟩ := (Bool.and_eq_true _ _).mp halone
  cases step with
  | ask question now =>
    cases hnext
    exact h.setDb (h.kept.frame rfl rfl rfl)
  | ingest capture =>
    cases hnext
    exact h.setDb (h.kept.frame rfl rfl rfl)
  | relay opportunityId now =>
    cases hnext
    exact h.setDb (h.kept.frame rfl rfl rfl)
  | sweep settings now =>
    cases hnext
    exact h.setDb (h.kept.frame rfl rfl rfl)
  | close workspaceId subjectUserId sessionId abandoned now =>
    cases hnext
    exact h.setDb (h.kept.frame rfl rfl rfl)
  | feedback evidence resolution =>
    obtain ⟨hids, hfresh⟩ := @saveBehaviorEvidence_ids uuid4 evidence s.store.db.observations
    obtain ⟨observations, o, hsaved⟩ : ∃ observations o,
      saveBehaviorEvidence uuid4 evidence s.store.db.observations = (observations, o) := ⟨_, _, rfl⟩
    rw [hsaved] at hids hfresh
    have hsame : Function.update s.writtenFor o none = s.writtenFor := by
      rw [Function.update_eq_self_iff]
      cases hwritten : s.writtenFor o with
      | none => rfl
      | some c => exact absurd (h.kept.written o c hwritten).1 hfresh
    have hkept : Kept (Function.update s.writtenFor o none) s.drawn {s.store.db with observations} s.store.writes := by
      refine h.kept.observe hids hfresh rfl rfl fun c hc => ?_
      cases hc
    rw [hsame] at hkept
    simp only [next, hsaved] at hnext
    cases hnext
    exact h.setDb (hkept.resolve rfl rfl rfl rfl)
  | claim i call =>
    simp only [next] at hnext
    split at hnext
    · cases hnext
    · split_ifs at hnext
      · obtain ⟨receipt, _, rfl⟩ := Option.map_eq_some_iff.mp hnext
        have hkept : Kept s.writtenFor s.drawn {s.store.db with receipts := call.claim s.store.db.receipts}
            s.store.writes := h.kept.frame rfl rfl rfl
        refine (h.setDb hkept).set fun a ha => ?_
        cases ha
        trivial
      · cases hnext
        exact h
  | read i =>
    simp only [next] at hnext
    split at hnext
    · split at hnext
      · cases hnext
        refine h.set fun a ha => ?_
        cases ha
        trivial
      · cases hnext
    · cases hnext
  | enter i =>
    simp only [next] at hnext
    split at hnext
    · exact h.enter hnext
    · cases hnext
  | save i =>
    simp only [next] at hnext
    split at hnext
    · next call receipt loaded todo taken inserted hattempt =>
      cases hnext
      simp only [WorkerStep.writesOwn, hattempt] at hown
      exact h.save (h.attempts i _ hattempt hown) hcommits
    · cases hnext
  | checkpoint i =>
    simp only [next] at hnext
    split at hnext
    · cases hnext
      exact h.checkpoint ‹_›
    · cases hnext
  | settle i =>
    simp only [next] at hnext
    split at hnext
    · next call receipt loaded todo pending resumed hattempt =>
      cases hnext
      refine h.settle (h.attempts i _ hattempt) fun target hbranch => ?_
      simpa [WorkerStep.commits, hattempt, hbranch] using hcommits
    · cases hnext
  | finish i =>
    simp only [next] at hnext
    split at hnext
    · next call receipt loaded hattempt =>
      cases hnext
      have hcommit := keeps_kept.commit h.kept hcommits
      let db := (s.store.commit (Write.apply host uuid4) i).db
      have hkept : Kept s.writtenFor s.drawn {db with receipts := call.finish db.receipts}
          (s.store.rollback i).writes := hcommit.frame rfl rfl rfl
      refine step_of h (fun j hj => set_of_ne _ hj _) (fun j hj => s.store.own_rollback_of_ne i hj) (fun _ _ h => h)
        hkept fun a ha => ?_
      rw [set_self] at ha
      cases ha
    · cases hnext
  | fail i error =>
    obtain ⟨attempt, hattempt, rfl⟩ := Option.map_eq_some_iff.mp hnext
    have hrolled : Kept s.writtenFor s.drawn (s.store.rollback i).db (s.store.rollback i).writes :=
      (@keeps_kept host uuid4 _ _).rollback h.kept
    refine step_of h (fun j hj => set_of_ne _ hj _) (fun j hj => s.store.own_rollback_of_ne i hj) (fun _ _ h => h)
      (hrolled.markExtractionError attempt.call attempt.receipt _) fun a ha => ?_
    rw [set_self] at ha
    cases ha
  | crash i =>
    cases hnext
    refine step_of h (fun j hj => set_of_ne _ hj _) (fun j hj => s.store.own_rollback_of_ne i hj) (fun _ _ h => h)
      ((@keeps_kept host uuid4 _ _).rollback h.kept) fun a ha => ?_
    rw [set_self] at ha
    cases ha

end Sound
end WorkerState

theorem empty_kept : Kept (fun _ => none) [] CaptureDb.empty [] := by
  constructor
  · exact List.nodup_nil
  · intro _ h
    cases h
  · intro _ h
    cases h
  · intro _ _ h
    cases h
  · exact fun _ => Nat.zero_le _
  · intro _ h
    cases h
  · intro _ h
    cases h
  · exact fun _ => Nat.zero_le _
  · intro _ h
    cases h
  · intro _ h
    cases h

/-- **In a run in which each observation is written by the attempt that has inserted its
candidate, and each end is committed of a candidate that is unfinished, a candidate has one
observation and one resolution at most**, wherever the attempts stop and start again. -/
theorem resumed_once (hs : ((workerSystem host maybeDecryptPayload uuid4 ι).restrict
    fun s step => step.alone host uuid4 s).Reachable s) : ResumedOnce s.writtenFor s.store.db := by
  have hsound : s.Sound := by
    refine hs.invariant (fun s hinit => ?_) fun s step s' _ hsound hnext => ?_
    · obtain rfl : s = _ := hinit
      refine ⟨empty_kept, fun i attempt hattempt => ?_⟩
      cases hattempt
    · obtain ⟨halone, hnext⟩ := System.restrict_next hnext
      exact hsound.step halone hnext
  exact hsound.kept.toResumedOnce

end Runs

/-! ### Two attempts, two observations -/

def exampleWorkers : WorkerState Unit := ⟨{db := .empty}, fun _ => none, [], fun _ => none⟩

/-- A question is asked and answered, and an attempt gets as far as the first commit of a
candidate. -/
def exampleAttempt : List (WorkerStep Unit) := [
  .ask exampleAsked epoch, .ingest (exampleMessage "Use postgres."),
  .claim () {receiptId := "u", now := epoch + 3, version := "dc-v1"}, .read (), .enter (), .save ()]

/-- The attempt stops after the checkpoint, and another goes on from there. -/
theorem resumed_once_example : ∃ s, ((workerSystem exampleTextHost .ok exampleUuid4 Unit).restrict
    fun s step => step.alone exampleTextHost exampleUuid4 s).run exampleWorkers (exampleAttempt ++
      [.checkpoint (), .crash (), .claim () {receiptId := "u", now := epoch + 3600000000, version := "dc-v1"},
        .read (), .enter (), .settle (), .finish ()]) = some s ∧
    s.store.db.resolutions.rows.length = 1 ∧ ResumedOnce s.writtenFor s.store.db := by
  have hone : (((workerSystem exampleTextHost .ok exampleUuid4 Unit).restrict
      fun s step => step.alone exampleTextHost exampleUuid4 s).run exampleWorkers (exampleAttempt ++
        [.checkpoint (), .crash (), .claim () {receiptId := "u", now := epoch + 3600000000, version := "dc-v1"},
          .read (), .enter (), .settle (), .finish ()])).any fun s => s.store.db.resolutions.rows.length = 1 := by
    decide +kernel
  obtain ⟨s, hrun, hs⟩ := (Option.any_eq_true _ _).mp hone
  exact ⟨s, hrun, by simpa using hs, resumed_once (System.Reachable.run (.init rfl) hrun)⟩

/-- The attempt stops before the checkpoint, and another writes the observation again. -/
theorem observed_twice : ¬ ∀ s, (workerSystem exampleTextHost .ok exampleUuid4 Unit).Reachable s →
    ResumedOnce s.writtenFor s.store.db := by
  intro hall
  have htwo : ((workerSystem exampleTextHost .ok exampleUuid4 Unit).run exampleWorkers (exampleAttempt ++
      [.crash (), .claim () {receiptId := "u", now := epoch + 3600000000, version := "dc-v1"}, .read (), .enter (),
        .save ()])).any fun s => s.store.db.candidates.rows.any fun row =>
          1 < (observationsOf s.writtenFor s.store.db row.id).length := by
    decide +kernel
  obtain ⟨s, hrun, hs⟩ := (Option.any_eq_true _ _).mp htwo
  obtain ⟨row, hrow, hlength⟩ := List.any_eq_true.mp hs
  have hreach : (workerSystem exampleTextHost .ok exampleUuid4 Unit).Reachable s :=
    System.Reachable.run (.init rfl) hrun
  exact absurd ((hall s hreach).observed row hrow) (by simpa using hlength)

end OpenTimeline.Extraction
