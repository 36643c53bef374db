import OpenTimeline.Library.OrderedDict
import OpenTimeline.Library.Paging
import OpenTimeline.Library.Transition
import OpenTimeline.TaskState.Records

/-! The index of embeddings.

An embedding is a row of the database, and a point of an index that searches ask. A job takes the rows after the
cursor to the index, a page at a time, and moves the cursor behind each page it has sent; any number of jobs may be
at it, each can end anywhere, and the two halves of the cursor are written one after the other. Still no row is left
behind, and each point is of the event it names (`synced_behind_cursor`), where rows are committed in the order of their
times; and a job left alone sends all there is (`sync_completes`). -/
namespace OpenTimeline.VectorIndex
open Library
open TaskState (orElse)

/-! ### Points -/

/-- What an event says of itself in the index. -/
structure Event where
  /-- `context->>'_tce_workspace'` -/
  workspace : Option String
  /-- `context->>'_tce_owner'` -/
  owner : Option String
  domain : String
  taskType : String
  tsEpoch : Int
deriving DecidableEq, Repr

structure PointPayload where
  eventId : String
  workspaceId : String
  ownerId : String
  domain : String
  taskType : String
  tsEpoch : Int
  longterm : Bool
deriving DecidableEq, Repr

/-- A point, of a vector of numbers `F`. -/
structure Point (F : Type) where
  id : String
  vector : List F
  payload : PointPayload
deriving DecidableEq, Repr

def payloadOf (event : Event) (eventId : String) : PointPayload where
  eventId := eventId
  workspaceId := event.workspace.getD "personal"
  ownerId := event.owner.getD "local-user"
  domain := event.domain
  taskType := event.taskType
  tsEpoch := event.tsEpoch
  longterm := true

/-- A row of `event_embeddings`. -/
structure Embedding where
  eventId : String
  createdAt : Int
  text : String
deriving DecidableEq, Repr

/-- The order of the rows, and a place among them. -/
abbrev Place := Int ×ₗ String

def Embedding.place (row : Embedding) : Place := toLex (row.createdAt, row.eventId)

variable {F : Type} (float : String → Option F) (events : String → Event)

/-- `_parse_vector_text`, of a parser of numbers that is `none` where it raises. -/
def parseVectorText (raw : String) : Option (List F) :=
  let token := strip raw
  let inner := if token.toList.head? = some '[' ∧ token.toList.getLast? = some ']' ∧ 1 < token.length then
    token.toList.tail.dropLast else token.toList
  if inner = [] then none
  else (((inner.splitOn ',').map String.ofList).filter (· ≠ "")).mapM float

/-- The points of a page: those without a vector, and those with one of another size than the first, are left out. -/
def batchPoints : Option Nat → List Embedding → List (Point F)
  | _, [] => []
  | expected, row :: rows => match parseVectorText float row.text with
    | none => batchPoints expected rows
    | some [] => batchPoints expected rows
    | some (first :: rest) =>
      let size := expected.getD (rest.length + 1)
      if rest.length + 1 ≠ size ∨ strip row.eventId = "" then batchPoints (some size) rows
      else ⟨strip row.eventId, first :: rest, payloadOf (events row.eventId) (strip row.eventId)⟩ ::
        batchPoints (some size) rows

/-! ### Jobs -/

/-- A job, between two of its accesses. -/
inductive Job (F : Type)
  /-- `run` has read the time of the cursor. -/
  | opened (ts : Int) (batches size : Nat)
  /-- It asks for the rows after a place. -/
  | asking (place : Place) (batches size : Nat)
  /-- It has points to send, up to a place. -/
  | sending (place : Place) (batches size : Nat) (left : List (Point F))
  /-- It has saved the time of a place. -/
  | saving (place : Place) (batches size : Nat)
  /-- `sync_event_embedding` has read the row of one event. -/
  | sendingOne (point : Point F)

structure State (F : Type) where
  rows : List Embedding
  index : List (String × Point F)
  savedTs : Int
  savedId : String
  jobs : List (Job F)
  /-- The latest time of a row so far. -/
  clock : Int

inductive Action
  /-- `embedding.run` commits the vector of an event. -/
  | embed (eventId : String) (createdAt : Int) (text : String)
  /-- An event is deleted. -/
  | forget (eventId : String)
  | start (batches size : Nat)
  | sync (eventId : String)
  /-- The job of this number makes its next access. -/
  | advance (job : Nat)
  /-- It ends: an access failed, or its process did. -/
  | stop (job : Nat)
deriving Repr

namespace State
variable (s : State F)

/-- `PUT /points` -/
def put (points : List (Point F)) : State F :=
  {s with index := points.foldl (fun index point => assign point.id point index) s.index}

def setJob (i : Nat) (job : Job F) : State F := {s with jobs := s.jobs.set i job}

def endJob (i : Nat) : State F := {s with jobs := s.jobs.eraseIdx i}

/-- What the job of a number does next. -/
def advance (i : Nat) : Job F → State F
  | .opened ts batches size => s.setJob i (.asking (toLex (ts, strip s.savedId)) batches size)
  | .asking _ 0 _ => s.endJob i
  | .asking place (batches + 1) size =>
    let batch := page Embedding.place s.rows place size
    match batch.getLast? with
    | none => s.endJob i
    | some last => s.setJob i (.sending
        (toLex (last.createdAt, strip (orElse last.eventId (ofLex place).2))) batches size
        (batchPoints float events none batch))
  | .sending place batches size [] => {s with savedTs := (ofLex place).1}.setJob i (.saving place batches size)
  | .sending place batches size (point :: rest) =>
    (s.put ((point :: rest).take 128)).setJob i (.sending place batches size ((point :: rest).drop 128))
  | .saving place batches size => {s with savedId := (ofLex place).2}.setJob i (.asking place batches size)
  | .sendingOne point => (s.put [point]).endJob i

end State

/-- A vector of the database's: its column has one size. -/
def IsVector (dimensions : Nat) (text : String) : Prop :=
  ∃ first rest, parseVectorText float text = some (first :: rest) ∧ rest.length + 1 = dimensions

instance (dimensions : Nat) (text : String) : Decidable (IsVector float dimensions text) :=
  decidable_of_iff ((parseVectorText float text).any fun vector => vector ≠ [] ∧ vector.length = dimensions) <| by
    rw [IsVector]
    cases parseVectorText float text with
    | none => simp
    | some vector => cases vector <;> simp

/-- The jobs and the embeddings of one table, whose rows are committed in the order of their times. -/
def system (dimensions : Nat) : System (State F) Action where
  init s := s = ⟨[], [], 0, "", [], 0⟩
  next s action := match action with
    | .embed eventId createdAt text =>
      if s.clock < createdAt ∧ IsVector float dimensions text ∧ strip eventId = eventId ∧ eventId ≠ "" then
        some {s with rows := s.rows.filter (·.eventId ≠ eventId) ++ [⟨eventId, createdAt, text⟩], clock := createdAt}
      else none
    | .forget eventId => some {s with rows := s.rows.filter (·.eventId ≠ eventId)}
    | .start batches size => some {s with jobs := s.jobs ++ [.opened s.savedTs (max 1 batches) (max 50 size)]}
    | .sync eventId => match (s.rows.find? (·.eventId = eventId)).bind fun row => parseVectorText float row.text with
      | some (first :: rest) => some {s with
          jobs := s.jobs ++ [.sendingOne ⟨eventId, first :: rest, payloadOf (events eventId) eventId⟩] }
      | _ => some s
    | .advance i => s.jobs[i]?.map (s.advance float events i)
    | .stop i => some (s.endJob i)

/-! ### What is behind the cursor -/

variable {float events} {dimensions : Nat} {s s' : State F}

def State.Indexed (s : State F) (eventId : String) : Prop := (s.index.lookup eventId).isSome

/-- What a point says is what its event says. -/
def Truthful (events : String → Event) (point : Point F) : Prop := point.payload = payloadOf (events point.id) point.id

/-- Every row up to a time is in the index, but for what is left to send. -/
structure State.Owes (s : State F) (ts : Int) (left : List (Point F)) : Prop where
  clock : ts ≤ s.clock
  sent : ∀ row ∈ s.rows, row.createdAt ≤ ts → s.Indexed row.eventId ∨ ∃ point ∈ left, point.id = row.eventId

def Job.Owed (events : String → Event) (s : State F) : Job F → Prop
  | .opened ts _ _ => s.Owes ts []
  | .asking place _ _ => s.Owes (ofLex place).1 []
  | .sending place _ _ left => s.Owes (ofLex place).1 left ∧ ∀ point ∈ left, Truthful events point
  | .saving place _ _ => s.Owes (ofLex place).1 []
  | .sendingOne point => Truthful events point

/-- A row as the database has it. -/
structure Embedding.Sound (float : String → Option F) (dimensions : Nat) (row : Embedding) : Prop where
  vector : IsVector float dimensions row.text
  stripped : strip row.eventId = row.eventId
  named : row.eventId ≠ ""

structure Sound (float : String → Option F) (events : String → Event) (dimensions : Nat) (s : State F) : Prop where
  rows : ∀ row ∈ s.rows, row.Sound float dimensions ∧ row.createdAt ≤ s.clock
  distinct : ∀ row ∈ s.rows, ∀ row' ∈ s.rows, row.createdAt = row'.createdAt → row = row'
  saved : s.Owes s.savedTs []
  jobs : ∀ job ∈ s.jobs, job.Owed events s
  points : ∀ entry ∈ s.index, entry.2.id = entry.1 ∧ Truthful events entry.2

/-- One state is later than another: the index has not lost a point, and new rows have new times. -/
structure Later (s s' : State F) : Prop where
  clock : s.clock ≤ s'.clock
  rows : ∀ row ∈ s'.rows, row ∈ s.rows ∨ s.clock < row.createdAt
  index : ∀ eventId, s.Indexed eventId → s'.Indexed eventId

theorem State.Owes.later {ts : Int} {left : List (Point F)} (h : s.Owes ts left) (hlater : Later s s') :
    s'.Owes ts left where
  clock := h.clock.trans hlater.clock
  sent row hrow hts := by
    obtain hold | hnew := hlater.rows row hrow
    · exact (h.sent row hold hts).imp_left (hlater.index row.eventId)
    · have hclock := h.clock
      omega

theorem Job.Owed.later {job : Job F} (h : job.Owed events s) (hlater : Later s s') : job.Owed events s' := by
  cases job with
  | opened ts batches size => exact State.Owes.later h hlater
  | asking place batches size => exact State.Owes.later h hlater
  | sending place batches size left => exact ⟨h.1.later hlater, h.2⟩
  | saving place batches size => exact State.Owes.later h hlater
  | sendingOne point => exact h

theorem Later.of_eq (hrows : s'.rows = s.rows) (hindex : s'.index = s.index) (hclock : s'.clock = s.clock) :
    Later s s' where
  clock := hclock.ge
  rows row hrow := Or.inl (hrows ▸ hrow)
  index eventId h := by
    rw [State.Indexed, hindex]
    exact h

/-! ### Sending -/

theorem lookup_foldl_assign {points : List (Point F)} {index : List (String × Point F)} {eventId : String}
    (h : (index.lookup eventId).isSome ∨ ∃ point ∈ points, point.id = eventId) :
    ((points.foldl (fun index point => assign point.id point index) index).lookup eventId).isSome := by
  induction points generalizing index with
  | nil =>
    obtain hsome | ⟨point, hpoint, -⟩ := h
    · exact hsome
    · cases hpoint
  | cons first rest ih =>
    rw [List.foldl_cons]
    apply ih
    rw [lookup_assign]
    split_ifs with hfirst
    · exact Or.inl rfl
    · refine h.imp_right fun hpoint => ?_
      obtain ⟨point, hpoint, hid⟩ := hpoint
      obtain rfl | hrest := List.mem_cons.mp hpoint
      · exact absurd hid.symm hfirst
      · exact ⟨point, hrest, hid⟩

theorem put_later (s : State F) (points : List (Point F)) : Later s (s.put points) where
  clock := le_rfl
  rows _ hrow := Or.inl hrow
  index _ h := lookup_foldl_assign (Or.inl h)

/-- What is sent is no longer left. -/
theorem State.Owes.put {ts : Int} {left rest : List (Point F)} (h : s.Owes ts (left ++ rest)) :
    (s.put left).Owes ts rest where
  clock := h.clock
  sent row hrow hts := by
    obtain hindexed | ⟨point, hpoint, hid⟩ := h.sent row hrow hts
    · exact Or.inl (lookup_foldl_assign (Or.inl hindexed))
    · obtain hleft | hrest := List.mem_append.mp hpoint
      · exact Or.inl (lookup_foldl_assign (Or.inr ⟨point, hleft, hid⟩))
      · exact Or.inr ⟨point, hrest, hid⟩

theorem forall_foldl_assign {points : List (Point F)} {index : List (String × Point F)}
    (hindex : ∀ entry ∈ index, entry.2.id = entry.1 ∧ Truthful events entry.2)
    (hpoints : ∀ point ∈ points, Truthful events point) :
    ∀ entry ∈ points.foldl (fun index point => assign point.id point index) index,
      entry.2.id = entry.1 ∧ Truthful events entry.2 := by
  induction points generalizing index with
  | nil => exact hindex
  | cons first rest ih =>
    have hfirst : first.id = first.id ∧ Truthful events first := ⟨rfl, hpoints first List.mem_cons_self⟩
    rw [List.foldl_cons]
    apply ih
    · exact forall_upsert (P := fun eventId point => point.id = eventId ∧ Truthful events point) hindex hfirst
        fun _ _ => hfirst
    · exact fun point hpoint => hpoints point (List.mem_cons_of_mem _ hpoint)

theorem Sound.put (h : Sound float events dimensions s) {points : List (Point F)}
    (hpoints : ∀ point ∈ points, Truthful events point) : Sound float events dimensions (s.put points) where
  rows := h.rows
  distinct := h.distinct
  saved := h.saved.later (put_later s points)
  jobs job hjob := (h.jobs job hjob).later (put_later s points)
  points := forall_foldl_assign h.points hpoints

theorem Sound.setJob (h : Sound float events dimensions s) (i : Nat) {job : Job F} (hjob : job.Owed events s) :
    Sound float events dimensions (s.setJob i job) where
  rows := h.rows
  distinct := h.distinct
  saved := h.saved.later (.of_eq rfl rfl rfl)
  jobs other hother := by
    have hlater : Later s (s.setJob i job) := .of_eq rfl rfl rfl
    obtain hmem | rfl := List.mem_or_eq_of_mem_set hother
    · exact (h.jobs other hmem).later hlater
    · exact hjob.later hlater
  points := h.points

theorem Sound.endJob (h : Sound float events dimensions s) (i : Nat) : Sound float events dimensions (s.endJob i) where
  rows := h.rows
  distinct := h.distinct
  saved := h.saved.later (.of_eq rfl rfl rfl)
  jobs job hjob := (h.jobs job (List.mem_of_mem_eraseIdx hjob)).later (.of_eq rfl rfl rfl)
  points := h.points

theorem Sound.addJob (h : Sound float events dimensions s) {job : Job F} (hjob : job.Owed events s) :
    Sound float events dimensions {s with jobs := s.jobs ++ [job]} where
  rows := h.rows
  distinct := h.distinct
  saved := h.saved.later (.of_eq rfl rfl rfl)
  jobs other hother := by
    have hlater : Later s {s with jobs := s.jobs ++ [job]} := .of_eq rfl rfl rfl
    obtain hmem | hnew := List.mem_append.mp hother
    · exact (h.jobs other hmem).later hlater
    · obtain rfl := List.mem_singleton.mp hnew
      exact hjob.later hlater
  points := h.points

/-! ### Pages -/

/-- Every row of a page becomes a point of its event. -/
theorem batchPoints_sound {rows : List Embedding} (h : ∀ row ∈ rows, row.Sound float dimensions) {expected : Option Nat}
    (hexpected : expected.getD dimensions = dimensions) :
    (∀ row ∈ rows, ∃ point ∈ batchPoints float events expected rows, point.id = row.eventId) ∧
      ∀ point ∈ batchPoints float events expected rows, Truthful events point := by
  induction rows generalizing expected with
  | nil => exact ⟨fun _ hrow => absurd hrow List.not_mem_nil, fun _ hpoint => absurd hpoint List.not_mem_nil⟩
  | cons row rows ih =>
    have hrow := h row List.mem_cons_self
    obtain ⟨first, rest, hvector, hsize⟩ := hrow.vector
    have hkept : ¬ (dimensions ≠ dimensions ∨ row.eventId = "") := fun hor => hor.elim (fun hne => hne rfl) hrow.named
    have hpoints : batchPoints float events expected (row :: rows) =
        ⟨row.eventId, first :: rest, payloadOf (events row.eventId) row.eventId⟩ ::
          batchPoints float events (some dimensions) rows := by
      rw [batchPoints, hvector]
      simp only [hrow.stripped, hsize, hexpected, if_neg hkept]
    have hnext : (some dimensions).getD dimensions = dimensions := rfl
    obtain ⟨hall, htruthful⟩ := ih (fun other hother => h other (List.mem_cons_of_mem _ hother)) hnext
    rw [hpoints]
    constructor
    · intro other hother
      obtain rfl | hrest := List.mem_cons.mp hother
      · exact ⟨_, List.mem_cons_self, rfl⟩
      · obtain ⟨point, hpoint, hid⟩ := hall other hrest
        exact ⟨point, List.mem_cons_of_mem _ hpoint, hid⟩
    · intro point hpoint
      obtain rfl | hrest := List.mem_cons.mp hpoint
      · rfl
      · exact htruthful point hrest

theorem batch_owes (h : Sound float events dimensions s) {place : Place} {size : Nat} {last : Embedding}
    (hplace : s.Owes (ofLex place).1 []) (hlast : (page Embedding.place s.rows place size).getLast? = some last) :
    s.Owes last.createdAt (batchPoints float events none (page Embedding.place s.rows place size)) where
  clock := (h.rows last (mem_of_mem_page (List.mem_of_getLast? hlast)).1).2
  sent row hrow hts := by
    have hmem := List.mem_of_getLast? hlast
    by_cases hbefore : row.createdAt ≤ (ofLex place).1
    · exact Or.inl ((hplace.sent row hrow hbefore).resolve_right (by simp))
    · have hkey : ∀ row ∈ s.rows, ∀ row' ∈ s.rows, row.place = row'.place → row = row' := by
        intro row hrow row' hrow' heq
        exact h.distinct row hrow row' hrow' (Prod.mk.inj (toLex.injective heq)).1
      have hafter : place < row.place := Prod.Lex.lt_iff.mpr (Or.inl (not_le.mp hbefore))
      have hupto : row.place ≤ last.place := by
        obtain hlt | heq := hts.lt_or_eq
        · exact (Prod.Lex.lt_iff.mpr (Or.inl hlt)).le
        · rw [h.distinct row hrow last (mem_of_mem_page hmem).1 heq]
      have hpage := mem_page_of_le hkey hmem hrow hafter hupto
      exact Or.inr ((batchPoints_sound (fun other hother => (h.rows other (mem_of_mem_page hother).1).1) rfl).1 row hpage)

/-! ### Steps -/

/-- What is left to send is left where the time of the cursor is saved only with nothing left. -/
theorem Sound.advance (h : Sound float events dimensions s) {i : Nat} {job : Job F} (hjob : job.Owed events s) :
    Sound float events dimensions (s.advance float events i job) := by
  cases job with
  | opened ts batches size => exact h.setJob i hjob
  | asking place batches size =>
    cases batches with
    | zero => exact h.endJob i
    | succ batches =>
      simp only [State.advance]
      split
      · exact h.endJob i
      · rename_i last hlast
        exact h.setJob i ⟨batch_owes h hjob hlast,
          (batchPoints_sound (fun row hrow => (h.rows row (mem_of_mem_page hrow).1).1) rfl).2⟩
  | sending place batches size left =>
    cases left with
    | nil =>
      have hsaved : Sound float events dimensions {s with savedTs := (ofLex place).1} :=
        ⟨h.rows, h.distinct, hjob.1.later (.of_eq rfl rfl rfl),
          fun other hother => (h.jobs other hother).later (.of_eq rfl rfl rfl), h.points⟩
      exact hsaved.setJob i (State.Owes.later hjob.1 (.of_eq rfl rfl rfl))
    | cons point rest =>
      have hput : Sound float events dimensions (s.put ((point :: rest).take 128)) :=
        h.put fun other hother => hjob.2 other (List.mem_of_mem_take hother)
      refine hput.setJob i ⟨State.Owes.put ?_, fun other hother => hjob.2 other (List.mem_of_mem_drop hother)⟩
      rw [List.take_append_drop]
      exact hjob.1
  | saving place batches size =>
    have hsaved : Sound float events dimensions {s with savedId := (ofLex place).2} :=
      ⟨h.rows, h.distinct, h.saved.later (.of_eq rfl rfl rfl),
        fun other hother => (h.jobs other hother).later (.of_eq rfl rfl rfl), h.points⟩
    exact hsaved.setJob i (State.Owes.later hjob (.of_eq rfl rfl rfl))
  | sendingOne point =>
    exact (h.put fun other hother => (List.mem_singleton.mp hother) ▸ hjob).endJob i

/-- New rows have new times. -/
theorem Sound.embed (h : Sound float events dimensions s) (row : Embedding) (hclock : s.clock < row.createdAt)
    (hrow : row.Sound float dimensions) :
    Sound float events dimensions
      {s with rows := s.rows.filter (·.eventId ≠ row.eventId) ++ [row], clock := row.createdAt} := by
  have hmem : ∀ other ∈ s.rows.filter (·.eventId ≠ row.eventId) ++ [row], other ∈ s.rows ∨ other = row := by
    intro other hother
    obtain hold | hnew := List.mem_append.mp hother
    · exact Or.inl (List.mem_of_mem_filter hold)
    · exact Or.inr (List.mem_singleton.mp hnew)
  have hlater : Later s {s with
      rows := s.rows.filter (·.eventId ≠ row.eventId) ++ [row], clock := row.createdAt} := by
    refine ⟨hclock.le, fun other hother => (hmem other hother).imp_right ?_, fun _ hindexed => hindexed⟩
    rintro rfl
    exact hclock
  constructor
  · intro other hother
    obtain hold | rfl := hmem other hother
    · exact ⟨(h.rows other hold).1, ((h.rows other hold).2.trans_lt hclock).le⟩
    · exact ⟨hrow, le_rfl⟩
  · intro one hone other hother htime
    obtain hold | rfl := hmem one hone
    · obtain hold' | rfl := hmem other hother
      · exact h.distinct one hold other hold' htime
      · have hle := (h.rows one hold).2
        omega
    · obtain hold' | rfl := hmem other hother
      · have hle := (h.rows other hold').2
        omega
      · rfl
  · exact h.saved.later hlater
  · exact fun job hjob => (h.jobs job hjob).later hlater
  · exact h.points

theorem Sound.forget (h : Sound float events dimensions s) (eventId : String) :
    Sound float events dimensions {s with rows := s.rows.filter (·.eventId ≠ eventId)} := by
  have hlater : Later s {s with rows := s.rows.filter (·.eventId ≠ eventId)} :=
    ⟨le_rfl, fun row hrow => Or.inl (List.mem_of_mem_filter hrow), fun _ hindexed => hindexed⟩
  constructor
  · exact fun row hrow => h.rows row (List.mem_of_mem_filter hrow)
  · exact fun row hrow row' hrow' => h.distinct row (List.mem_of_mem_filter hrow) row' (List.mem_of_mem_filter hrow')
  · exact h.saved.later hlater
  · exact fun job hjob => (h.jobs job hjob).later hlater
  · exact h.points

theorem Sound.next (h : Sound float events dimensions s) {action : Action}
    (hnext : (system float events dimensions).next s action = some s') : Sound float events dimensions s' := by
  cases action with
  | embed eventId createdAt text =>
    simp only [system] at hnext
    split_ifs at hnext with hguard
    obtain rfl := Option.some.inj hnext
    exact h.embed ⟨eventId, createdAt, text⟩ hguard.1 ⟨hguard.2.1, hguard.2.2.1, hguard.2.2.2⟩
  | forget eventId =>
    obtain rfl := Option.some.inj hnext
    exact h.forget eventId
  | start batches size =>
    obtain rfl := Option.some.inj hnext
    exact h.addJob h.saved
  | sync eventId =>
    simp only [system] at hnext
    split at hnext
    · obtain rfl := Option.some.inj hnext
      exact h.addJob rfl
    · obtain rfl := Option.some.inj hnext
      exact h
  | advance i =>
    obtain ⟨job, hjob, rfl⟩ := Option.map_eq_some_iff.mp hnext
    exact h.advance (h.jobs job (List.mem_of_getElem? hjob))
  | stop i =>
    obtain rfl := Option.some.inj hnext
    exact h.endJob i

theorem sound_reachable (h : (system float events dimensions).Reachable s) : Sound float events dimensions s := by
  refine h.invariant (fun s hs => ?_) fun s _ s' _ hsound hnext => hsound.next hnext
  obtain rfl := hs
  constructor
  · simp
  · simp
  · exact ⟨le_rfl, by simp⟩
  · simp
  · simp

/-- **No row is left behind the cursor**, whatever jobs there are, wherever they end and in whatever order they write:
a row up to the saved time has its point. And a point of an event says what the event says, whose it is above all. -/
theorem synced_behind_cursor (float : String → Option F) (events : String → Event) (dimensions : Nat) (s : State F)
    (h : (system float events dimensions).Reachable s) :
    (∀ row ∈ s.rows, row.createdAt ≤ s.savedTs → ∃ point, s.index.lookup row.eventId = some point) ∧
      ∀ entry ∈ s.index, entry.2.payload = payloadOf (events entry.1) entry.1 := by
  have hsound := sound_reachable h
  constructor
  · intro row hrow hts
    exact Option.isSome_iff_exists.mp ((hsound.saved.sent row hrow hts).resolve_right (by simp))
  · intro entry hentry
    obtain ⟨hid, htruthful⟩ := hsound.points entry hentry
    rw [htruthful, hid]

def sampleEvents (_ : String) : Event := ⟨some "team", none, "dev", "fix", 0⟩

/-- Numbers of one digit. -/
def sampleFloat (text : String) : Option Nat := [("1", 1), ("2", 2)].lookup text

def sampleSystem : System (State Nat) Action := system sampleFloat sampleEvents 2

/-- Two jobs at one row: the first ends after it has saved half of the cursor. -/
def sampleActions : List Action :=
  [.embed "a" 5 "[1,2]", .start 1 50, .start 1 50, .advance 0, .advance 0, .advance 0, .advance 0, .stop 0, .advance 0]

theorem sampleActions_run : (sampleSystem.run ⟨[], [], 0, "", [], 0⟩ sampleActions).map (fun s => (s.rows, s.savedTs)) =
    some ([⟨"a", 5, "[1,2]"⟩], 5) := by decide +kernel

theorem synced_behind_cursor_example :
    ∃ s, sampleSystem.run ⟨[], [], 0, "", [], 0⟩ sampleActions = some s ∧ s.savedTs = 5 ∧
      ∃ point, s.index.lookup "a" = some point := by
  obtain ⟨s, hrun, hview⟩ := Option.map_eq_some_iff.mp sampleActions_run
  obtain ⟨hrows, hts⟩ := Prod.mk.inj hview
  refine ⟨s, hrun, hts, ?_⟩
  exact (synced_behind_cursor _ _ _ s (System.Reachable.run (.init rfl) hrun)).1 ⟨"a", 5, "[1,2]"⟩
    (hrows ▸ List.mem_singleton_self _) hts.ge

/-! ### A job left alone -/

/-- One state comes from another by accesses of one job. -/
def Alone (float : String → Option F) (events : String → Event) (dimensions i : Nat) (s s' : State F) : Prop :=
  ∃ accesses, (system float events dimensions).run s (List.replicate accesses (.advance i)) = some s'

theorem Alone.refl (i : Nat) (s : State F) : Alone float events dimensions i s s := ⟨0, rfl⟩

theorem Alone.step {i : Nat} {job : Job F} (hjob : s.jobs[i]? = some job)
    (h : Alone float events dimensions i (s.advance float events i job) s') : Alone float events dimensions i s s' := by
  obtain ⟨accesses, hrun⟩ := h
  refine ⟨accesses + 1, ?_⟩
  rw [List.replicate_succ, System.run, List.foldlM_cons]
  have hnext : (system float events dimensions).next s (.advance i) = some (s.advance float events i job) := by
    simp [system, hjob]
  rw [hnext]
  exact hrun

theorem Alone.sound {i : Nat} (h : Alone float events dimensions i s s') (hs : Sound float events dimensions s) :
    Sound float events dimensions s' := by
  obtain ⟨accesses, hrun⟩ := h
  exact System.run_keeps (fun _ _ _ hs hnext => Sound.next hs hnext) hrun hs

theorem Alone.trans {i : Nat} {mid : State F} (h : Alone float events dimensions i s mid)
    (h' : Alone float events dimensions i mid s') : Alone float events dimensions i s s' := by
  obtain ⟨accesses, hrun⟩ := h
  obtain ⟨accesses', hrun'⟩ := h'
  refine ⟨accesses + accesses', ?_⟩
  rw [List.replicate_add, System.run, List.foldlM_append]
  exact Option.bind_eq_some_iff.mpr ⟨mid, hrun, hrun'⟩

variable {jobs : List (Job F)} {place : Place} {batches size : Nat}

theorem getElem?_last (job : Job F) : (jobs ++ [job])[jobs.length]? = some job := by simp

theorem set_last (job job' : Job F) : (jobs ++ [job]).set jobs.length job' = jobs ++ [job'] := by simp

theorem eraseIdx_last (job : Job F) : (jobs ++ [job]).eraseIdx jobs.length = jobs := by
  rw [List.eraseIdx_append_of_length_le le_rfl]
  simp

/-- All points of a page are sent, and then the cursor is saved. -/
theorem alone_sending (left : List (Point F)) (hjobs : s.jobs = jobs ++ [.sending place batches size left]) :
    ∃ s', Alone float events dimensions jobs.length s s' ∧ s'.jobs = jobs ++ [.asking place batches size] ∧
      s'.rows = s.rows := by
  induction hlength : left.length using Nat.strong_induction_on generalizing left s with
  | _ length ih =>
    cases left with
    | nil =>
      have hjob : s.jobs[jobs.length]? = some (.sending place batches size []) := by rw [hjobs, getElem?_last]
      have hsaving : (s.advance float events jobs.length (.sending place batches size [])).jobs =
          jobs ++ [.saving place batches size] := by
        show s.jobs.set jobs.length _ = _
        rw [hjobs, set_last]
      have hjob' : (s.advance float events jobs.length (.sending place batches size [])).jobs[jobs.length]? =
          some (.saving place batches size) := by rw [hsaving, getElem?_last]
      refine ⟨_, Alone.step hjob (Alone.step hjob' (Alone.refl _ _)), ?_, rfl⟩
      show (State.jobs _).set jobs.length _ = _
      rw [hsaving, set_last]
    | cons point rest =>
      have hnext : (s.advance float events jobs.length (.sending place batches size (point :: rest))).jobs =
          jobs ++ [.sending place batches size ((point :: rest).drop 128)] := by
        show s.jobs.set jobs.length _ = _
        rw [hjobs, set_last]
      have hfewer : ((point :: rest).drop 128).length < length := by
        rw [List.length_drop, ← hlength, List.length_cons]
        omega
      obtain ⟨s', halone, hend, hrows⟩ := ih _ hfewer _ hnext rfl
      exact ⟨s', Alone.step (hjobs ▸ getElem?_last _) halone, hend, hrows⟩

theorem asking_owed (hs : Sound float events dimensions s) (hjobs : s.jobs = jobs ++ [.asking place batches size]) :
    s.Owes (ofLex place).1 [] :=
  hs.jobs (.asking place batches size) (hjobs ▸ List.mem_append_right jobs (List.mem_singleton_self _))

/-- A job ends with everything sent where nothing is after its place. -/
theorem alone_done (hs : Sound float events dimensions s) (hjobs : s.jobs = jobs ++ [.asking place batches size])
    (hend : s.advance float events jobs.length (.asking place batches size) = s.endJob jobs.length)
    (hall : ∀ row ∈ s.rows, row.place ≤ place) :
    ∃ s', Alone float events dimensions jobs.length s s' ∧ s'.jobs = jobs ∧ s'.rows = s.rows ∧
      ∀ row ∈ s.rows, s'.Indexed row.eventId := by
  have hjob : s.jobs[jobs.length]? = some (.asking place batches size) := by rw [hjobs, getElem?_last]
  have halone : Alone float events dimensions jobs.length s (s.endJob jobs.length) :=
    Alone.step hjob (hend ▸ Alone.refl _ _)
  refine ⟨s.endJob jobs.length, halone, ?_, rfl, fun row hrow => ?_⟩
  · show s.jobs.eraseIdx jobs.length = jobs
    rw [hjobs, eraseIdx_last]
  · have hts : row.createdAt ≤ (ofLex place).1 := by
      obtain hlt | ⟨heq, -⟩ := Prod.Lex.le_iff.mp (hall row hrow)
      · exact hlt.le
      · exact heq.le
    exact ((asking_owed hs hjobs).sent row hrow hts).resolve_right (by simp)

/-- A job that may ask for as many rows as there are after its place sends them all. -/
theorem alone_asking (hs : Sound float events dimensions s) (hjobs : s.jobs = jobs ++ [.asking place batches size])
    (hsize : 0 < size) (hleft : s.rows.countP (fun row => place < row.place) ≤ batches * size) :
    ∃ s', Alone float events dimensions jobs.length s s' ∧ s'.jobs = jobs ∧ s'.rows = s.rows ∧
      ∀ row ∈ s.rows, s'.Indexed row.eventId := by
  induction batches generalizing s place with
  | zero =>
    refine alone_done hs hjobs rfl fun row hrow => ?_
    rw [Nat.zero_mul, Nat.le_zero, List.countP_eq_zero] at hleft
    simpa using hleft row hrow
  | succ batches ih =>
    cases hlast : (page Embedding.place s.rows place size).getLast? with
    | none =>
      refine alone_done hs hjobs ?_ (le_of_page_eq_nil hsize (List.getLast?_eq_none_iff.mp hlast))
      simp only [State.advance, hlast]
    | some last =>
      obtain ⟨hmem, -⟩ := mem_of_mem_page (List.mem_of_getLast? hlast)
      obtain ⟨-, hstripped, hnamed⟩ := (hs.rows last hmem).1
      have hplace : (toLex (last.createdAt, strip (orElse last.eventId (ofLex place).2)) : Place) = last.place := by
        rw [orElse, if_neg hnamed, hstripped, Embedding.place]
      have hadvance : s.advance float events jobs.length (.asking place (batches + 1) size) =
          s.setJob jobs.length (.sending last.place batches size
            (batchPoints float events none (page Embedding.place s.rows place size))) := by
        simp only [State.advance, hlast, hplace]
      have hjob : s.jobs[jobs.length]? = some (.asking place (batches + 1) size) := by rw [hjobs, getElem?_last]
      have hsending : (s.advance float events jobs.length (.asking place (batches + 1) size)).jobs =
          jobs ++ [.sending last.place batches size
            (batchPoints float events none (page Embedding.place s.rows place size))] := by
        rw [hadvance]
        show s.jobs.set jobs.length _ = _
        rw [hjobs, set_last]
      obtain ⟨mid, hmid, hmidjobs, hmidrows⟩ := alone_sending _ hsending
      have hmid' : Alone float events dimensions jobs.length s mid := Alone.step hjob hmid
      have hrows : mid.rows = s.rows := by
        rw [hmidrows, hadvance]
        rfl
      have hfewer : mid.rows.countP (fun row => last.place < row.place) ≤ batches * size := by
        have hpage := countP_after_page hlast
        rw [hrows]
        rw [Nat.succ_mul] at hleft
        omega
      obtain ⟨s', halone, hend, hrows', hindexed⟩ := ih (hmid'.sound hs) hmidjobs hfewer
      exact ⟨s', hmid'.trans halone, hend, hrows'.trans hrows, fun row hrow => hindexed row (hrows ▸ hrow)⟩

/-- **A job left alone sends all there is**, and ends, where it may take as many rows as there are. -/
theorem sync_completes (float : String → Option F) (events : String → Event) (dimensions : Nat) (s : State F)
    (h : (system float events dimensions).Reachable s) (batches size : Nat)
    (henough : s.rows.length ≤ max 1 batches * max 50 size) :
    ∃ accesses s', (system float events dimensions).run s
        (.start batches size :: List.replicate accesses (.advance s.jobs.length)) = some s' ∧
      s'.jobs = s.jobs ∧ s'.rows = s.rows ∧ ∀ row ∈ s.rows, ∃ point, s'.index.lookup row.eventId = some point := by
  have hs := sound_reachable h
  have howed : Job.Owed events s (.opened s.savedTs (max 1 batches) (max 50 size)) := hs.saved
  have hopened : (s.jobs ++ [Job.opened s.savedTs (max 1 batches) (max 50 size)])[s.jobs.length]? =
      some (.opened s.savedTs (max 1 batches) (max 50 size)) := getElem?_last _
  have hasking : (State.advance float events {s with
      jobs := s.jobs ++ [Job.opened s.savedTs (max 1 batches) (max 50 size)] } s.jobs.length
      (.opened s.savedTs (max 1 batches) (max 50 size))).jobs =
      s.jobs ++ [.asking (toLex (s.savedTs, strip s.savedId)) (max 1 batches) (max 50 size)] := set_last _ _
  obtain ⟨s', halone, hjobs, hrows, hindexed⟩ := alone_asking ((hs.addJob howed).advance (howed.later (.of_eq rfl rfl rfl))) hasking
    (by omega) (List.countP_le_length.trans henough)
  obtain ⟨accesses, hrun⟩ := Alone.step hopened halone
  exact ⟨accesses, s', hrun, hjobs, hrows, fun row hrow => Option.isSome_iff_exists.mp (hindexed row hrow)⟩

theorem sync_completes_example :
    ∃ s accesses s', sampleSystem.run ⟨[], [], 0, "", [], 0⟩ [.embed "a" 5 "[1,2]"] = some s ∧
      sampleSystem.run s (.start 1 50 :: List.replicate accesses (.advance 0)) = some s' ∧
      ∃ point, s'.index.lookup "a" = some point := by
  have hembed : (sampleSystem.run ⟨[], [], 0, "", [], 0⟩ [.embed "a" 5 "[1,2]"]).map
      (fun s => (s.rows, s.jobs.length)) = some ([⟨"a", 5, "[1,2]"⟩], 0) := by decide +kernel
  obtain ⟨s, hrun, hview⟩ := Option.map_eq_some_iff.mp hembed
  obtain ⟨hrows, hjobs⟩ := Prod.mk.inj hview
  have henough : s.rows.length ≤ max 1 1 * max 50 50 := by
    rw [hrows]
    decide
  obtain ⟨accesses, s', hsync, -, -, hindexed⟩ :=
    sync_completes sampleFloat sampleEvents 2 s (System.Reachable.run (.init rfl) hrun) 1 50 henough
  rw [hjobs] at hsync
  exact ⟨s, accesses, s', hrun, hsync, hindexed ⟨"a", 5, "[1,2]"⟩ (hrows ▸ List.mem_singleton_self _)⟩

end OpenTimeline.VectorIndex
