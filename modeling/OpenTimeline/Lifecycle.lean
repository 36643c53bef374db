import OpenTimeline.Library.Calendar
import OpenTimeline.Library.OrderedDict
import OpenTimeline.Library.Ranking
import OpenTimeline.Library.Transition

/-! The lifecycle of events.

Events are in partitions, one a month, and in a default one for the months that have none. A lifecycle run takes the
partitions whose month is over before its cutoff, writes each to a file of the archive and drops it, and deletes old
events of the default partition; all it does to the database is one transaction, its files are not. Events come in
meanwhile. Every event is accounted for at any time (`events_accounted`): it is there, or it is older than the cutoff
of a run and in the archive; what is not was in the default partition, dropped with the archive off, or came in between
the reading of its partition and the drop. -/
namespace OpenTimeline.Lifecycle
open Library

/-! ### Partitions -/

/-- Every month has a first day. -/
theorem first_day (year : Nat) {month : Nat} (hmonth : 1 ≤ month ∧ month ≤ 12) :
    1 ≤ 1 ∧ 1 ≤ daysInMonth year month := by
  obtain ⟨hlow, hhigh⟩ := hmonth
  have hlengths : ∀ leap, ∀ m < 12, 1 ≤ (monthLengths leap).getD m 0 := by decide
  exact ⟨le_rfl, hlengths (isLeap year) (month - 1) (by omega)⟩

theorem midnight : 0 < 24 ∧ 0 < 60 ∧ 0 < 60 ∧ 0 < 1000000 := by decide

/-- The first moment of a month. -/
def firstOf (year month : Nat) (hyear : 1 ≤ year ∧ year ≤ 9999) (hmonth : 1 ≤ month ∧ month ≤ 12) : Clock where
  year := year
  month := month
  day := 1
  hour := 0
  minute := 0
  second := 0
  microsecond := 0
  year_bounds := hyear
  month_bounds := hmonth
  day_bounds := first_day year hmonth
  time_bounds := midnight

/-- The month after. -/
def nextMonth (year month : Nat) : Nat × Nat := if month = 12 then (year + 1, 1) else (year, month + 1)

def stem : List Char := "events_v2_".toList

/-- `events_v2_` and the year and the month in digits. -/
def partitionName (year month : Nat) : String := String.ofList (stem ++ (pad 4 year ++ pad 2 month))

/-- `int(digits)` -/
def digitsValue (digits : List Char) : Nat := digits.foldl (fun n c => 10 * n + (c.toNat - 48)) 0

/-- What `_PARTITION_RE` finds in a name. -/
def partitionDigits (name : String) : Option (List Char) :=
  if stem.isPrefixOf name.toList then
    let digits := name.toList.drop 10
    if digits.length = 6 ∧ digits.all Char.isDigit then some digits else none
  else none

/-- `_month_end_from_partition`, in microseconds: `some none` where the name is not that of a month, `none` where
`datetime` raises. -/
def monthEndFromPartition (name : String) : Option (Option Int) :=
  match partitionDigits name with
  | none => some none
  | some digits =>
    let next := nextMonth (digitsValue (digits.take 4)) (digitsValue (digits.drop 4))
    if h : (1 ≤ next.1 ∧ next.1 ≤ 9999) ∧ 1 ≤ next.2 ∧ next.2 ≤ 12 then
      some (some (firstOf next.1 next.2 h.1 h.2).micros)
    else none

/-- A month that has one after it. -/
structure Month where
  year : Nat
  month : Nat
  year_bounds : 1 ≤ year ∧ year < 9999
  month_bounds : 1 ≤ month ∧ month ≤ 12

namespace Month
variable (m : Month)

theorem next_bounds : (1 ≤ (nextMonth m.year m.month).1 ∧ (nextMonth m.year m.month).1 ≤ 9999) ∧
    1 ≤ (nextMonth m.year m.month).2 ∧ (nextMonth m.year m.month).2 ≤ 12 := by
  obtain ⟨hlow, hhigh⟩ := m.year_bounds
  obtain ⟨hlow', hhigh'⟩ := m.month_bounds
  rw [nextMonth]
  split_ifs <;> simp only <;> omega

def name : String := partitionName m.year m.month

def start : Int := (firstOf m.year m.month ⟨m.year_bounds.1, m.year_bounds.2.le⟩ m.month_bounds).micros

def ended : Int :=
  (firstOf (nextMonth m.year m.month).1 (nextMonth m.year m.month).2 m.next_bounds.1 m.next_bounds.2).micros

/-- `FOR VALUES FROM (start) TO (ended)` -/
def Covers (ts : Int) : Prop := m.start ≤ ts ∧ ts < m.ended

instance (ts : Int) : Decidable (m.Covers ts) := inferInstanceAs (Decidable (_ ∧ _))

end Month

/-- An event, and its line of the archive. -/
structure Event where
  id : String
  ts : Int
  line : String
deriving DecidableEq, Repr

/-- The partition of a month has events of the month only. -/
structure Partition where
  month : Month
  rows : List Event
  rows_in : ∀ event ∈ rows, month.Covers event.ts

def Partition.insert (p : Partition) (event : Event) (h : p.month.Covers event.ts) : Partition where
  month := p.month
  rows := p.rows ++ [event]
  rows_in other hother := by
    obtain hold | hnew := List.mem_append.mp hother
    · exact p.rows_in other hold
    · exact List.mem_singleton.mp hnew ▸ h

/-! ### Runs -/

/-- The settings of a run, as it has read them. -/
structure Settings where
  cutoff : Int
  archiveEnabled : Bool
  dryRun : Bool
  maxPartitions : Int
  maxRows : Int

/-- A run under way. -/
structure Run where
  settings : Settings
  /-- The partitions that are still to do. -/
  todo : List String
  /-- The first of them has been read, and written to the archive. -/
  read : Bool
  /-- The partitions dropped in the transaction. -/
  dropped : List String

structure State where
  partitions : List Partition
  default : List Event
  /-- The files of the archive, in lines. -/
  files : List (String × List String)
  run : Option Run
  /-- The events that ever came in. -/
  inserted : List Event
  /-- The settings of the runs so far. -/
  runs : List Settings
  /-- The events deleted from the default partition. -/
  expired : List Event
  /-- The events of partitions that were dropped with the archive off. -/
  unarchived : List Event
  /-- The events that came in after a run had read their partition and before it dropped it. -/
  late : List Event

inductive Action
  | insert (event : Event)
  | begin (settings : Settings)
  /-- The first partition is counted and read, and its file written. -/
  | archive
  /-- The run dies while it writes the file, so many lines on. -/
  | tear (lines : Nat)
  | drop
  /-- The run deletes what is old outside partitions, and commits. -/
  | finish
  /-- The run dies. -/
  | abort

/-- The partitions whose month is over before the cutoff; `none` where a name makes the run raise. -/
def candidates (cutoff : Int) : List String → Option (List String)
  | [] => some []
  | name :: names =>
    match monthEndFromPartition name with
    | none => none
    | some ended => (candidates cutoff names).map fun rest => if ended.any (· < cutoff) then name :: rest else rest

namespace State
variable (s : State)

def names : List String := s.partitions.map (·.month.name)

def events : List Event := s.partitions.flatMap (·.rows) ++ s.default

/-- The events of the partition of a name. -/
def rowsOf (name : String) : List Event := (s.partitions.filter (·.month.name = name)).flatMap (·.rows)

/-- The partitions of a run that is to begin. -/
def todoOf (settings : Settings) : Option (List String) :=
  (candidates settings.cutoff (sortOn id (s.names ++ ["events_default"]))).map
    (·.take settings.maxPartitions.toNat)

/-- Old events of the default partition, the oldest first, so many at most. -/
def doomed (settings : Settings) : List Event :=
  (sortOn Event.ts (s.default.filter (·.ts < settings.cutoff))).take (max 1 settings.maxRows).toNat

def isDoomed (settings : Settings) (event : Event) : Bool :=
  (s.doomed settings).any fun old => old.id = event.id ∧ old.ts = event.ts

/-- What a run leaves: the dropped partitions are gone, and the old events of the default one. -/
def finished (run : Run) : State :=
  {s with
    partitions := s.partitions.filter (·.month.name ∉ run.dropped)
    default := s.default.filter fun event => !s.isDoomed run.settings event
    run := none
    expired := s.expired ++ s.default.filter (s.isDoomed run.settings)
    unarchived := if run.settings.archiveEnabled then s.unarchived else s.unarchived ++ run.dropped.flatMap s.rowsOf }

/-- An event goes to the partition that covers it, or to the default one. -/
def stored (event : Event) : List Partition → Option (List Partition)
  | [] => none
  | p :: rest =>
    if h : p.month.Covers event.ts then some (p.insert event h :: rest) else (stored event rest).map (p :: ·)

/-- Whether an event would come in between the reading of its partition and the drop. -/
def isLate (event : Event) : Bool := s.run.any fun run => run.read ∧ run.todo.head?.any fun name =>
  s.partitions.any fun p => p.month.name = name ∧ p.month.Covers event.ts

/-- A state with one event more. -/
def received (event : Event) (partitions : List Partition) (default : List Event) : State :=
  {s with
    partitions, default
    inserted := s.inserted ++ [event]
    late := if s.isLate event then s.late ++ [event] else s.late }

/-- A drop locks the table till the run ends. -/
def insert (event : Event) : Option State :=
  if s.run.any fun run => run.dropped ≠ [] then none
  else match stored event s.partitions with
    | some partitions => some (s.received event partitions s.default)
    | none => some (s.received event s.partitions (s.default ++ [event]))

def begin (settings : Settings) : Option State :=
  match s.run with
  | some _ => none
  | none => (s.todoOf settings).map fun todo =>
    {s with run := some ⟨settings, todo, false, []⟩, runs := s.runs ++ [settings]}

/-- Whether a partition gets a file. -/
def Writes (settings : Settings) (name : String) : Prop :=
  settings.archiveEnabled ∧ settings.dryRun = false ∧ s.rowsOf name ≠ []

instance (settings : Settings) (name : String) : Decidable (s.Writes settings name) :=
  inferInstanceAs (Decidable (_ ∧ _))

/-- The file of a partition, so many lines of it. -/
def write (name : String) (lines : List String) : State := {s with files := assign name lines s.files}

def linesOf (name : String) : List String := (s.rowsOf name).map (·.line)

def archive : Option State :=
  match s.run with
  | some ⟨settings, name :: rest, false, dropped⟩ =>
    let s' := if s.Writes settings name then s.write name (s.linesOf name) else s
    some {s' with run := some ⟨settings, name :: rest, true, dropped⟩}
  | _ => none

def tear (lines : Nat) : Option State :=
  match s.run with
  | some ⟨settings, name :: _, false, _⟩ =>
    if s.Writes settings name then some {s.write name ((s.linesOf name).take lines) with run := none} else none
  | _ => none

def drop : Option State :=
  match s.run with
  | some ⟨settings, name :: rest, true, dropped⟩ =>
    some {s with run := some ⟨settings, rest, false, if settings.dryRun then dropped else dropped ++ [name]⟩}
  | _ => none

def finish : Option State :=
  match s.run with
  | some ⟨settings, [], read, dropped⟩ =>
    some (if settings.dryRun then {s with run := none} else s.finished ⟨settings, [], read, dropped⟩)
  | _ => none

end State

/-- The events of a database and the runs of the lifecycle, one at a time. -/
def system : System State Action where
  init s := s.run = none ∧ s.inserted = s.events
  next s action := match action with
    | .insert event => s.insert event
    | .begin settings => s.begin settings
    | .archive => s.archive
    | .tear lines => s.tear lines
    | .drop => s.drop
    | .finish => s.finish
    | .abort => some {s with run := none}

/-! ### Names -/

theorem digitsValue_pad {width n : Nat} (hn : n < 10 ^ width) : digitsValue (pad width n) = n := by
  have hdigit : ∀ d < 10, (digit d).toNat - 48 = d := by decide
  have hfold : ∀ (width n start : Nat), n < 10 ^ width →
      (pad width n).foldl (fun n c => 10 * n + (c.toNat - 48)) start = start * 10 ^ width + n := by
    intro width
    induction width with
    | zero =>
      intro n start hn
      have hzero : n = 0 := by simpa using hn
      simp [pad, hzero]
    | succ width ih =>
      intro n start hn
      have hfirst : n / 10 ^ width < 10 := Nat.div_lt_of_lt_mul (by rwa [pow_succ] at hn)
      rw [pad, List.foldl_cons, ih _ _ (Nat.mod_lt _ (Nat.pow_pos (by decide))), hdigit _ hfirst, pow_succ]
      have hsplit := Nat.div_add_mod n (10 ^ width)
      calc (10 * start + n / 10 ^ width) * 10 ^ width + n % 10 ^ width
          = start * (10 ^ width * 10) + (10 ^ width * (n / 10 ^ width) + n % 10 ^ width) := by ring
        _ = start * (10 ^ width * 10) + n := by rw [hsplit]
  rw [digitsValue, hfold width n 0 hn, Nat.zero_mul, Nat.zero_add]

theorem length_pad (width n : Nat) : (pad width n).length = width := by
  induction width generalizing n with
  | zero => rfl
  | succ width ih => rw [pad, List.length_cons, ih]

theorem all_isDigit_pad {width n : Nat} (hn : n < 10 ^ width) : (pad width n).all Char.isDigit = true := by
  have hdigit : ∀ d < 10, (digit d).isDigit = true := by decide
  induction width generalizing n with
  | zero => rfl
  | succ width ih =>
    have hfirst : n / 10 ^ width < 10 := Nat.div_lt_of_lt_mul (by rwa [pow_succ] at hn)
    rw [pad, List.all_cons, hdigit _ hfirst, ih (Nat.mod_lt _ (Nat.pow_pos (by decide)))]
    rfl

/-- The name of a partition is read back as its month's end. -/
theorem monthEnd_name (m : Month) : monthEndFromPartition m.name = some (some m.ended) := by
  obtain ⟨hyear, hmonth⟩ := And.intro m.year_bounds m.month_bounds
  have hdigits : partitionDigits m.name = some (pad 4 m.year ++ pad 2 m.month) := by
    have hname : m.name.toList = stem ++ (pad 4 m.year ++ pad 2 m.month) := String.toList_ofList
    have hlength : stem.length = 10 := by decide +kernel
    have hdrop : m.name.toList.drop 10 = pad 4 m.year ++ pad 2 m.month := by
      rw [hname, ← hlength, List.drop_left]
    have hprefix : stem.isPrefixOf m.name.toList = true := by
      rw [hname, List.isPrefixOf_iff_prefix]
      exact List.prefix_append _ _
    rw [partitionDigits, if_pos hprefix]
    simp only [hdrop]
    rw [if_pos]
    refine ⟨by rw [List.length_append, length_pad, length_pad], ?_⟩
    rw [List.all_append, all_isDigit_pad (by omega), all_isDigit_pad (by omega)]
    rfl
  have htake : (pad 4 m.year ++ pad 2 m.month).take 4 = pad 4 m.year := List.take_left' (length_pad 4 m.year)
  have hdrop : (pad 4 m.year ++ pad 2 m.month).drop 4 = pad 2 m.month := List.drop_left' (length_pad 4 m.year)
  have hyearvalue : digitsValue (pad 4 m.year) = m.year := digitsValue_pad (by omega)
  have hmonthvalue : digitsValue (pad 2 m.month) = m.month := digitsValue_pad (by omega)
  rw [monthEndFromPartition, hdigits]
  simp only [htake, hdrop, hyearvalue, hmonthvalue]
  rw [dif_pos m.next_bounds]
  rfl

/-! ### Candidates -/

/-- The months of the partitions a run is to take are over before its cutoff. -/
theorem over_of_candidates {cutoff : Int} {names todo : List String} (h : candidates cutoff names = some todo) :
    ∀ name ∈ todo, ∃ ended, monthEndFromPartition name = some (some ended) ∧ ended < cutoff := by
  induction names generalizing todo with
  | nil =>
    cases h
    exact fun _ hname => absurd hname List.not_mem_nil
  | cons name names ih =>
    rw [candidates] at h
    cases hended : monthEndFromPartition name with
    | none =>
      rw [hended] at h
      cases h
    | some ended =>
      rw [hended] at h
      obtain ⟨rest, hrest, rfl⟩ := Option.map_eq_some_iff.mp h
      split_ifs with hover
      · intro other hother
        obtain rfl | hmem := List.mem_cons.mp hother
        · obtain ⟨moment, rfl, hlt⟩ := (Option.any_eq_true _ _).mp hover
          exact ⟨moment, hended, of_decide_eq_true hlt⟩
        · exact ih hrest other hmem
      · exact ih hrest

/-! ### What becomes of an event -/

namespace State

/-- The archive has an event: the file of its month has its line, and the month has no partition. -/
def Archived (s : State) (event : Event) : Prop :=
  ∃ month : Month, month.Covers event.ts ∧ month.name ∉ s.names ∧ event.line ∈ (s.files.lookup month.name).getD []

/-- A run was to take events as old, and the event is in the archive or was not to be or could not be. -/
def Gone (s : State) (event : Event) : Prop :=
  ∃ settings ∈ s.runs, settings.dryRun = false ∧ event.ts < settings.cutoff ∧
    (s.Archived event ∨ event ∈ s.unarchived ∨ event ∈ s.expired ∨ event ∈ s.late)

/-- The file of a partition has what the partition has, but for what came in late. -/
def Written (s : State) (name : String) : Prop :=
  ∀ event ∈ s.rowsOf name, event ∈ s.late ∨ event.line ∈ (s.files.lookup name).getD []

/-- What a run under way has done and has to do. -/
structure Underway (s : State) (run : Run) : Prop where
  listed : run.settings ∈ s.runs
  dry : run.settings.dryRun → run.dropped = []
  due : ∀ name ∈ run.todo ++ run.dropped,
    ∃ ended, monthEndFromPartition name = some (some ended) ∧ ended < run.settings.cutoff
  written : run.settings.archiveEnabled → ∀ name ∈ run.dropped, s.Written name
  head : run.settings.archiveEnabled → run.settings.dryRun = false → run.read → ∀ name ∈ run.todo.head?, s.Written name

structure Kept (s : State) : Prop where
  accounted : ∀ event ∈ s.inserted, event ∈ s.events ∨ s.Gone event
  underway : ∀ run ∈ s.run, s.Underway run

end State

variable {s s' : State} {event : Event} {run : Run}

theorem mem_rowsOf {name : String} :
    event ∈ s.rowsOf name ↔ ∃ p ∈ s.partitions, p.month.name = name ∧ event ∈ p.rows := by
  simp only [State.rowsOf, List.mem_flatMap, List.mem_filter, decide_eq_true_eq, and_assoc]

theorem mem_events : event ∈ s.events ↔ (∃ p ∈ s.partitions, event ∈ p.rows) ∨ event ∈ s.default := by
  rw [State.events, List.mem_append, List.mem_flatMap]

/-- What is gone stays gone where the names, the files and the notes are as before or say more. -/
theorem State.Gone.mono (h : s.Gone event) (hruns : s.runs ⊆ s'.runs) (hunarchived : s.unarchived ⊆ s'.unarchived)
    (hexpired : s.expired ⊆ s'.expired) (hlate : s.late ⊆ s'.late) (hnames : s'.names ⊆ s.names)
    (hfiles : ∀ name ∉ s.names, s'.files.lookup name = s.files.lookup name) : s'.Gone event := by
  obtain ⟨settings, hmem, hdry, hold, hwhy⟩ := h
  refine ⟨settings, hruns hmem, hdry, hold, ?_⟩
  obtain ⟨month, hcovers, hname, hline⟩ | hout | hout | hout := hwhy
  · refine Or.inl ⟨month, hcovers, fun hback => hname (hnames hback), ?_⟩
    rwa [hfiles month.name hname]
  · exact Or.inr (Or.inl (hunarchived hout))
  · exact Or.inr (Or.inr (Or.inl (hexpired hout)))
  · exact Or.inr (Or.inr (Or.inr (hlate hout)))

/-! ### Insertion -/

theorem names_stored {partitions after : List Partition} (h : State.stored event partitions = some after) :
    after.map (·.month.name) = partitions.map (·.month.name) := by
  induction partitions generalizing after with
  | nil => cases h
  | cons p rest ih =>
    rw [State.stored] at h
    split_ifs at h with hcovers
    · cases h
      rfl
    · obtain ⟨rest', hrest, rfl⟩ := Option.map_eq_some_iff.mp h
      rw [List.map_cons, List.map_cons, ih hrest]

/-- A partition after an insertion is one before it, or one with the event at its end. -/
theorem mem_stored {partitions after : List Partition} (h : State.stored event partitions = some after) {q : Partition}
    (hq : q ∈ after) : q ∈ partitions ∨ ∃ p ∈ partitions, ∃ hcovers, q = p.insert event hcovers := by
  induction partitions generalizing after with
  | nil => cases h
  | cons p rest ih =>
    rw [State.stored] at h
    split_ifs at h with hcovers
    · cases h
      obtain rfl | hmem := List.mem_cons.mp hq
      · exact Or.inr ⟨p, List.mem_cons_self, hcovers, rfl⟩
      · exact Or.inl (List.mem_cons_of_mem p hmem)
    · obtain ⟨rest', hrest, rfl⟩ := Option.map_eq_some_iff.mp h
      obtain rfl | hmem := List.mem_cons.mp hq
      · exact Or.inl List.mem_cons_self
      · obtain hold | ⟨other, hother, hcovers', heq⟩ := ih hrest hmem
        · exact Or.inl (List.mem_cons_of_mem p hold)
        · exact Or.inr ⟨other, List.mem_cons_of_mem p hother, hcovers', heq⟩

/-- The rows of the partitions after an insertion are those before it and the event. -/
theorem rows_stored {partitions after : List Partition} (h : State.stored event partitions = some after)
    (other : Event) :
    (∃ q ∈ after, other ∈ q.rows) ↔ other = event ∨ ∃ p ∈ partitions, other ∈ p.rows := by
  induction partitions generalizing after with
  | nil => cases h
  | cons p rest ih =>
    rw [State.stored] at h
    split_ifs at h with hcovers
    · cases h
      simp only [List.exists_mem_cons_iff, Partition.insert, List.mem_append, List.mem_singleton]
      tauto
    · obtain ⟨rest', hrest, rfl⟩ := Option.map_eq_some_iff.mp h
      simp only [List.exists_mem_cons_iff, ih hrest]
      tauto

theorem isLate_iff : s.isLate event ↔ ∃ run ∈ s.run, run.read ∧ ∃ name ∈ run.todo.head?,
    ∃ p ∈ s.partitions, p.month.name = name ∧ p.month.Covers event.ts := by
  simp only [State.isLate, Option.any_eq_true, decide_eq_true_eq, List.any_eq_true, Option.mem_def]

/-- A state with one event more, which goes to its partition, is late where it is, and meets no drop. -/
theorem State.Kept.received {after : List Partition} {rest : List Event} (hk : s.Kept)
    (hfree : ∀ run ∈ s.run, run.dropped = [])
    (hnames : after.map (·.month.name) = s.partitions.map (·.month.name))
    (hmem : ∀ q ∈ after, q ∈ s.partitions ∨ ∃ p ∈ s.partitions, ∃ hcovers, q = p.insert event hcovers)
    (hrows : ∀ other, (∃ q ∈ after, other ∈ q.rows) ∨ other ∈ rest ↔ other = event ∨ other ∈ s.events) :
    (s.received event after rest).Kept := by
  have hlate : s.late ⊆ if s.isLate event then s.late ++ [event] else s.late := by
    split_ifs
    · exact List.subset_append_left _ _
    · exact List.Subset.refl _
  refine ⟨fun other hother => ?_, fun run hrun => ?_⟩
  · have hin : other ∈ (s.received event after rest).events ↔ other = event ∨ other ∈ s.events :=
      mem_events.trans (hrows other)
    rw [hin]
    obtain hold | hnew := List.mem_append.mp hother
    · obtain hin | hgone := hk.accounted other hold
      · exact Or.inl (Or.inr hin)
      · exact Or.inr (hgone.mono (List.Subset.refl _) (List.Subset.refl _) (List.Subset.refl _) hlate
          (List.Perm.of_eq hnames).subset fun _ _ => rfl)
    · exact Or.inl (Or.inl (List.mem_singleton.mp hnew))
  · obtain ⟨hlisted, hdry, hdue, -, hhead⟩ := hk.underway run hrun
    have hnone := hfree run hrun
    refine ⟨hlisted, hdry, hdue, fun _ name hname => ?_, fun harchive hwet hread name hname other hother => ?_⟩
    · rw [hnone] at hname
      cases hname
    · obtain ⟨q, hq, hqname, hin⟩ := mem_rowsOf.mp hother
      have hwritten := hhead harchive hwet hread name hname
      obtain hold | ⟨p, hp, hcovers, rfl⟩ := hmem q hq
      · exact (hwritten other (mem_rowsOf.mpr ⟨q, hold, hqname, hin⟩)).imp (fun h => hlate h) id
      · obtain hold | hnew := List.mem_append.mp hin
        · exact (hwritten other (mem_rowsOf.mpr ⟨p, hp, hqname, hold⟩)).imp (fun h => hlate h) id
        · -- it comes in behind the reading of its partition
          obtain rfl := List.mem_singleton.mp hnew
          have hislate : s.isLate other := isLate_iff.mpr ⟨run, hrun, hread, name, hname, p, hp, hqname, hcovers⟩
          left
          show other ∈ if s.isLate other then s.late ++ [other] else s.late
          rw [if_pos hislate]
          exact List.mem_append_right _ (List.mem_singleton_self other)

/-! ### The steps of a run -/

/-- A step that moves no event. -/
theorem State.Kept.same (hk : s.Kept) (hpartitions : s'.partitions = s.partitions) (hdefault : s'.default = s.default)
    (hinserted : s'.inserted = s.inserted) (hruns : s.runs ⊆ s'.runs) (hunarchived : s'.unarchived = s.unarchived)
    (hexpired : s'.expired = s.expired) (hlate : s'.late = s.late)
    (hfiles : ∀ name ∉ s.names, s'.files.lookup name = s.files.lookup name)
    (hunderway : ∀ run ∈ s'.run, s'.Underway run) : s'.Kept := by
  have hnames : s'.names = s.names := by rw [State.names, State.names, hpartitions]
  have hevents : s'.events = s.events := by rw [State.events, State.events, hpartitions, hdefault]
  refine ⟨fun other hother => ?_, hunderway⟩
  rw [hevents]
  exact (hk.accounted other (hinserted ▸ hother)).imp_right fun hgone =>
    hgone.mono hruns (List.Perm.of_eq hunarchived.symm).subset (List.Perm.of_eq hexpired.symm).subset
      (List.Perm.of_eq hlate.symm).subset (List.Perm.of_eq hnames).subset hfiles

/-- Events are where they were, and of a name's file it is known what it has. -/
theorem State.Written.same {name : String} (h : s.Written name) (hpartitions : s'.partitions = s.partitions)
    (hlate : s'.late = s.late) (hfile : s'.files.lookup name = s.files.lookup name) : s'.Written name := by
  intro other hother
  rw [State.rowsOf, hpartitions] at hother
  rw [hlate, hfile]
  exact h other hother

theorem mem_names_of_rowsOf {name : String} (h : s.rowsOf name ≠ []) : name ∈ s.names := by
  obtain ⟨other, hother⟩ := List.exists_mem_of_ne_nil _ h
  obtain ⟨p, hp, hname, -⟩ := mem_rowsOf.mp hother
  exact List.mem_map.mpr ⟨p, hp, hname⟩

theorem due_of_todoOf {settings : Settings} {todo : List String} (h : s.todoOf settings = some todo) :
    ∀ name ∈ todo, ∃ ended, monthEndFromPartition name = some (some ended) ∧ ended < settings.cutoff := by
  obtain ⟨found, hfound, rfl⟩ := Option.map_eq_some_iff.mp h
  exact fun name hname => over_of_candidates hfound name (List.mem_of_mem_take hname)

/-- The end of a run: what was in a partition it drops is gone for one of the reasons, and so is what it deletes. -/
theorem State.Kept.finished (hk : s.Kept) (hrun : s.run = some run) (hwet : run.settings.dryRun = false) :
    (s.finished run).Kept := by
  obtain ⟨hlisted, -, hdue, hwritten, -⟩ := hk.underway run hrun
  have hnames : (s.finished run).names ⊆ s.names := by
    intro name hname
    obtain ⟨p, hp, hpname⟩ := List.mem_map.mp hname
    exact List.mem_map.mpr ⟨p, List.mem_of_mem_filter hp, hpname⟩
  have hexpired : s.expired ⊆ (s.finished run).expired := List.subset_append_left _ _
  have hunarchived : (s.finished run).unarchived =
      if run.settings.archiveEnabled then s.unarchived else s.unarchived ++ run.dropped.flatMap s.rowsOf := rfl
  refine ⟨fun other hother => ?_, fun run' hrun' => absurd hrun' (Option.not_mem_none run')⟩
  obtain hin | hgone := hk.accounted other hother
  · rw [mem_events]
    obtain ⟨p, hp, hrow⟩ | hdefault := mem_events.mp hin
    · by_cases hdropped : p.month.name ∈ run.dropped
      · -- the partition's month was over before the cutoff
        obtain ⟨ended, hended, hlt⟩ := hdue _ (List.mem_append_right _ hdropped)
        rw [monthEnd_name] at hended
        obtain rfl : p.month.ended = ended := by simpa using hended
        have hcovers := p.rows_in other hrow
        refine Or.inr ⟨run.settings, hlisted, hwet, hcovers.2.trans hlt, ?_⟩
        cases harchive : run.settings.archiveEnabled with
        | false =>
          rw [hunarchived, if_neg (Bool.eq_false_iff.mp harchive)]
          refine Or.inr (Or.inl (List.mem_append_right _ (List.mem_flatMap.mpr ⟨_, hdropped, ?_⟩)))
          exact mem_rowsOf.mpr ⟨p, hp, rfl, hrow⟩
        | true =>
          obtain hlate | hline := hwritten harchive _ hdropped other (mem_rowsOf.mpr ⟨p, hp, rfl, hrow⟩)
          · exact Or.inr (Or.inr (Or.inr hlate))
          · refine Or.inl ⟨p.month, hcovers, fun hback => ?_, hline⟩
            obtain ⟨q, hq, hqname⟩ := List.mem_map.mp hback
            have hkept := of_decide_eq_true (List.mem_filter.mp hq).2
            exact hkept (hqname ▸ hdropped)
      · exact Or.inl (Or.inl ⟨p, List.mem_filter.mpr ⟨hp, decide_eq_true hdropped⟩, hrow⟩)
    · cases hdoomed : s.isDoomed run.settings other with
      | false => exact Or.inl (Or.inr (List.mem_filter.mpr ⟨hdefault, by rw [hdoomed]; rfl⟩))
      | true =>
        obtain ⟨old, hold, hsame⟩ := List.any_eq_true.mp hdoomed
        have hmem : old ∈ s.default.filter (·.ts < run.settings.cutoff) :=
          (sortOn_perm _ _).subset (List.mem_of_mem_take hold)
        have hlt : old.ts < run.settings.cutoff := of_decide_eq_true (List.mem_filter.mp hmem).2
        refine Or.inr ⟨run.settings, hlisted, hwet, (of_decide_eq_true hsame).2 ▸ hlt, Or.inr (Or.inr (Or.inl ?_))⟩
        exact List.mem_append_right _ (List.mem_filter.mpr ⟨hdefault, hdoomed⟩)
  · refine Or.inr (hgone.mono (List.Subset.refl _) ?_ hexpired (List.Subset.refl _) hnames fun _ _ => rfl)
    rw [hunarchived]
    split_ifs
    · exact List.Subset.refl _
    · exact List.subset_append_left _ _

theorem State.Kept.insert (hk : s.Kept) (h : s.insert event = some s') : s'.Kept := by
  rw [State.insert] at h
  split_ifs at h with hdropping
  have hfree : ∀ run ∈ s.run, run.dropped = [] := by
    intro run hrun
    by_contra hdropped
    exact hdropping ((Option.any_eq_true _ _).mpr ⟨run, hrun, decide_eq_true hdropped⟩)
  cases hstored : State.stored event s.partitions with
  | some after =>
    rw [hstored] at h
    cases h
    refine hk.received hfree (names_stored hstored) (fun q hq => mem_stored hstored hq) fun other => ?_
    rw [rows_stored hstored, mem_events, or_assoc]
  | none =>
    rw [hstored] at h
    cases h
    refine hk.received hfree rfl (fun q hq => Or.inl hq) fun other => ?_
    rw [List.mem_append, List.mem_singleton, mem_events]
    exact or_assoc.symm.trans or_comm

theorem State.Kept.begin {settings : Settings} (hk : s.Kept) (h : s.begin settings = some s') : s'.Kept := by
  rw [State.begin] at h
  cases hrun : s.run with
  | some run =>
    rw [hrun] at h
    cases h
  | none =>
    rw [hrun] at h
    obtain ⟨todo, htodo, rfl⟩ := Option.map_eq_some_iff.mp h
    refine hk.same rfl rfl rfl (List.subset_append_left _ _) rfl rfl rfl (fun _ _ => rfl) fun run hrun' => ?_
    cases hrun'
    refine ⟨List.mem_append_right _ (List.mem_singleton_self settings), fun _ => rfl, fun name hname => ?_,
      fun _ name hname => absurd hname List.not_mem_nil, fun _ _ hread => absurd hread Bool.false_ne_true⟩
    rw [List.append_nil] at hname
    exact due_of_todoOf htodo name hname

/-- A file is written under the name of a partition that is there. -/
theorem lookup_write {settings : Settings} {name other : String} {lines : List String}
    (hwrites : s.Writes settings name)
    (hother : other ∉ s.names) : (s.write name lines).files.lookup other = s.files.lookup other := by
  show (assign name lines s.files).lookup other = _
  rw [lookup_assign, if_neg]
  rintro rfl
  exact hother (mem_names_of_rowsOf hwrites.2.2)

theorem written_write (name : String) : (s.write name (s.linesOf name)).Written name := by
  intro other hother
  right
  show other.line ∈ ((assign name (s.linesOf name) s.files).lookup name).getD []
  rw [lookup_assign, if_pos rfl]
  exact List.mem_map_of_mem hother

theorem State.Written.write {name other : String} (h : s.Written other) :
    (s.write name (s.linesOf name)).Written other := by
  by_cases hsame : other = name
  · subst hsame
    exact written_write other
  · refine h.same rfl rfl ?_
    show (assign name (s.linesOf name) s.files).lookup other = _
    rw [lookup_assign, if_neg hsame]

theorem State.Kept.archive (hk : s.Kept) (h : s.archive = some s') : s'.Kept := by
  unfold State.archive at h
  split at h
  · rename_i settings name rest dropped hrun
    obtain ⟨hlisted, hdry, hdue, hwritten, -⟩ := hk.underway _ hrun
    split_ifs at h with hwrites
    · cases h
      refine hk.same rfl rfl rfl (List.Subset.refl _) rfl rfl rfl (fun other hother => lookup_write hwrites hother)
        fun run hrun' => ?_
      cases hrun'
      refine ⟨hlisted, hdry, hdue, fun harchive other hother => ?_, fun _ _ _ other hother => ?_⟩
      · have hfile : (s.write name (s.linesOf name)).Written other := (hwritten harchive other hother).write
        exact hfile.same rfl rfl rfl
      · cases hother
        have hfile : (s.write name (s.linesOf name)).Written name := written_write name
        exact hfile.same rfl rfl rfl
    · cases h
      refine hk.same rfl rfl rfl (List.Subset.refl _) rfl rfl rfl (fun _ _ => rfl) fun run hrun' => ?_
      cases hrun'
      refine ⟨hlisted, hdry, hdue, fun harchive other hother => (hwritten harchive other hother).same rfl rfl rfl,
        fun harchive hwet _ other hother row hrow => ?_⟩
      cases hother
      -- a partition that is read and not written is empty
      have hempty : s.rowsOf name = [] := by
        by_contra hrows
        exact hwrites ⟨harchive, hwet, hrows⟩
      have hmem : row ∈ s.rowsOf name := hrow
      rw [hempty] at hmem
      cases hmem
  · cases h

theorem State.Kept.tear {lines : Nat} (hk : s.Kept) (h : s.tear lines = some s') : s'.Kept := by
  unfold State.tear at h
  split at h
  · split_ifs at h with hwrites
    cases h
    exact hk.same rfl rfl rfl (List.Subset.refl _) rfl rfl rfl (fun other hother => lookup_write hwrites hother)
      fun run hrun => absurd hrun (Option.not_mem_none run)
  · cases h

theorem State.Kept.drop (hk : s.Kept) (h : s.drop = some s') : s'.Kept := by
  unfold State.drop at h
  split at h
  · rename_i settings name rest dropped hrun
    obtain ⟨hlisted, hdry, hdue, hwritten, hhead⟩ := hk.underway _ hrun
    cases h
    refine hk.same rfl rfl rfl (List.Subset.refl _) rfl rfl rfl (fun _ _ => rfl) fun run hrun' => ?_
    cases hrun'
    refine ⟨hlisted, fun hdry' => ?_, fun other hother => hdue other ?_, fun harchive other hother => ?_,
      fun _ _ hread => absurd hread Bool.false_ne_true⟩
    · exact (if_pos hdry').trans (hdry hdry')
    · simp only [List.mem_append, List.mem_cons] at hother ⊢
      split_ifs at hother with hdryRun
      · tauto
      · rw [List.mem_append, List.mem_singleton] at hother
        tauto
    · simp only at hother
      split_ifs at hother with hdryRun
      · exact (hwritten harchive other hother).same rfl rfl rfl
      · obtain hold | hnew := List.mem_append.mp hother
        · exact (hwritten harchive other hold).same rfl rfl rfl
        · have hwet : settings.dryRun = false := Bool.eq_false_iff.mpr hdryRun
          exact List.mem_singleton.mp hnew ▸ (hhead harchive hwet rfl name rfl).same rfl rfl rfl
  · cases h

theorem State.Kept.ended (hk : s.Kept) : State.Kept {s with run := none} :=
  hk.same rfl rfl rfl (List.Subset.refl _) rfl rfl rfl (fun _ _ => rfl) fun run hrun =>
    absurd hrun (Option.not_mem_none run)

theorem State.Kept.finish (hk : s.Kept) (h : s.finish = some s') : s'.Kept := by
  unfold State.finish at h
  split at h
  · rename_i settings read dropped hrun
    split_ifs at h with hdryRun
    · cases h
      exact hk.ended
    · cases h
      exact hk.finished hrun (Bool.eq_false_iff.mpr hdryRun)
  · cases h

theorem State.Kept.next {action : Action} (hk : s.Kept) (h : system.next s action = some s') : s'.Kept := by
  cases action with
  | insert event => exact hk.insert h
  | begin settings => exact hk.begin h
  | archive => exact hk.archive h
  | tear lines => exact hk.tear h
  | drop => exact hk.drop h
  | finish => exact hk.finish h
  | abort =>
    cases h
    exact hk.ended

/-- Every event that ever came in is there, or it was older than the cutoff of a run and is in the archive, or it was
not archived for one of three reasons. -/
theorem events_accounted (s : State) (hs : system.Reachable s) (event : Event) (hevent : event ∈ s.inserted) :
    event ∈ s.events ∨ s.Gone event := by
  have hk : s.Kept := by
    refine hs.invariant (fun s hinit => ?_) fun _ _ _ _ hk hnext => hk.next hnext
    obtain ⟨hrun, hinserted⟩ := hinit
    refine ⟨fun other hother => Or.inl (hinserted ▸ hother), fun run hrun' => ?_⟩
    rw [hrun] at hrun'
    cases hrun'
  exact hk.accounted event hevent

def sampleMonth : Month := ⟨2026, 1, by decide, by decide⟩

def sampleEvent : Event := ⟨"a", sampleMonth.start, "a line"⟩

def sampleState : State where
  partitions := [⟨sampleMonth, [], fun _ h => absurd h List.not_mem_nil⟩]
  default := []
  files := []
  run := none
  inserted := []
  runs := []
  expired := []
  unarchived := []
  late := []

/-- An event that is archived, and one that comes in behind. -/
def sampleActions : List Action :=
  [.insert sampleEvent, .begin ⟨sampleMonth.ended + 1, true, false, 1, 1⟩, .archive,
    .insert {sampleEvent with id := "b"}, .drop, .finish]

theorem sampleActions_run : (system.run sampleState sampleActions).map (fun s => (s.events, s.inserted.head?)) =
    some ([], some sampleEvent) := by decide +kernel

theorem events_accounted_example :
    ∃ s, system.run sampleState sampleActions = some s ∧ s.Gone sampleEvent := by
  obtain ⟨s, hrun, hview⟩ := Option.map_eq_some_iff.mp sampleActions_run
  obtain ⟨hempty, hfirst⟩ := Prod.mk.inj hview
  refine ⟨s, hrun, (events_accounted s (System.Reachable.run (.init ⟨rfl, rfl⟩) hrun) sampleEvent ?_).resolve_left ?_⟩
  · exact List.mem_of_mem_head? hfirst
  · rw [hempty]
    exact List.not_mem_nil

end OpenTimeline.Lifecycle
