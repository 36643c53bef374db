import Mathlib

/-! Conditions on rows, with values that are bound by name or by position.

A condition is a list of clauses, all of which hold, and a clause a list of tests, one of which does; an unknown is
not enough. A statement has placeholders where the values go, and the values beside it: in a dictionary, or in a list
from which the placeholders take in the order in which they stand. A builder adds clause by clause, each with one
value to bind. Either way the statement is the condition again once the values are put back
(`Builder.condition_addAll`). -/
namespace OpenTimeline.Library.Conditions

/-! ### Conditions -/

/-- What a row has in a place; a value that is no text may still be read as one. -/
inductive Cell
  | null
  | text (s : String)
  | instant (time : Int)
  | other (s : String)
deriving DecidableEq

inductive Value
  | text (s : String)
  | instant (time : Int)
deriving DecidableEq

inductive Term
  | column (name : String)
  | json (column key : String)
  | trimmed (term : Term)
  | trimmedLower (term : Term)
deriving DecidableEq

/-- A row, with the functions of its database. -/
structure Reading where
  column : String → Cell
  json : String → String → Cell
  trim : String → String
  lower : String → String

/-- A function of texts, on what may be read as one. -/
def Cell.map (f : String → String) : Cell → Cell
  | .text s => .text (f s)
  | .other s => .text (f s)
  | .null => .null
  | .instant time => .instant time

def Term.cell (row : Reading) : Term → Cell
  | .column name => row.column name
  | .json name key => row.json name key
  | .trimmed term => (term.cell row).map row.trim
  | .trimmedLower term => (term.cell row).map fun s => row.lower (row.trim s)

/-- A test of a term. `σ` is a value, or what stands for one; `τ` is a list of texts, or what stands for one. -/
inductive Test (σ τ : Type)
  | isNull
  | isBlank
  | equals (what : σ)
  | after (what : σ)
  | oneOf (which : τ)
deriving DecidableEq

abbrev Clause (σ τ : Type) := List (Term × Test σ τ)

abbrev Condition := List (Clause Value (List String))

/-- A test holds; it does not where it is unknown. -/
def Test.holds (cell : Cell) : Test Value (List String) → Bool
  | .isNull => cell = .null
  | .isBlank => cell = .text ""
  | .equals (.text s) => cell = .text s
  | .equals (.instant time) => cell = .instant time
  | .after (.text s) => match cell with
    | .text t => s < t
    | _ => false
  | .after (.instant time) => match cell with
    | .instant t => time < t
    | _ => false
  | .oneOf texts => match cell with
    | .text t => t ∈ texts
    | _ => false

def clauseHolds (row : Reading) (clause : Clause Value (List String)) : Bool :=
  clause.any fun test => test.2.holds (test.1.cell row)

def admits (row : Reading) (condition : Condition) : Bool := condition.all (clauseHolds row)

@[simp] theorem admits_append (row : Reading) (first second : Condition) :
    admits row (first ++ second) = (admits row first && admits row second) := List.all_append

@[simp] theorem admits_nil (row : Reading) : admits row [] = true := rfl

@[simp] theorem admits_cons (row : Reading) (clause : Clause Value (List String)) (rest : Condition) :
    admits row (clause :: rest) = (clauseHolds row clause && admits row rest) := rfl

@[simp] theorem holds_oneOf (cell : Cell) (texts : List String) :
    Test.holds cell (.oneOf texts) = true ↔ ∃ s ∈ texts, cell = .text s := by
  cases cell <;> simp [Test.holds]

@[simp] theorem holds_equals_text (cell : Cell) (s : String) :
    Test.holds cell (.equals (.text s)) = true ↔ cell = .text s := by simp [Test.holds]

@[simp] theorem holds_after_text (s t : String) : Test.holds (.text t) (.after (.text s)) = decide (s < t) := rfl

@[simp] theorem holds_after_instant (s t : Int) :
    Test.holds (.instant t) (.after (.instant s)) = decide (s < t) := rfl

@[simp] theorem holds_isNull (cell : Cell) : Test.holds cell .isNull = true ↔ cell = .null := by simp [Test.holds]

@[simp] theorem holds_isBlank (cell : Cell) : Test.holds cell .isBlank = true ↔ cell = .text "" := by
  simp [Test.holds]

@[simp] theorem clauseHolds_nil (row : Reading) : clauseHolds row [] = false := rfl

@[simp] theorem clauseHolds_cons (row : Reading) (term : Term) (test : Test Value (List String))
    (rest : Clause Value (List String)) :
    clauseHolds row ((term, test) :: rest) = (test.holds (term.cell row) || clauseHolds row rest) := rfl

/-! ### Statements -/

inductive Placeholder
  | name (name : String)
  | mark
deriving DecidableEq

inductive ListPlaceholder
  | name (name : String)
  | marks (count : Nat)
deriving DecidableEq

/-- A clause as it stands in a statement. -/
abbrev Written := Clause Placeholder ListPlaceholder

/-- The text of a value that is one. -/
def Value.toText : Value → Option String
  | .text s => some s
  | .instant _ => none

/-- A value of a dictionary. -/
inductive Param
  | one (value : Value)
  | list (texts : List String)
deriving DecidableEq

def Param.toValue : Param → Option Value
  | .one value => some value
  | .list _ => none

def Param.toList : Param → Option (List String)
  | .one _ => none
  | .list texts => some texts

/-- The test with its value from the dictionary. -/
def Test.putByName (params : List (String × Param)) : Test Placeholder ListPlaceholder →
    Option (Test Value (List String))
  | .isNull => some .isNull
  | .isBlank => some .isBlank
  | .equals (.name name) => ((params.lookup name).bind Param.toValue).map .equals
  | .after (.name name) => ((params.lookup name).bind Param.toValue).map .after
  | .oneOf (.name name) => ((params.lookup name).bind Param.toList).map .oneOf
  | .equals .mark => none
  | .after .mark => none
  | .oneOf (.marks _) => none

/-- The test with its values from the front of the list, and the values that are left. -/
def Test.putByPosition : Test Placeholder ListPlaceholder → List Value →
    Option (Test Value (List String) × List Value)
  | .isNull, params => some (.isNull, params)
  | .isBlank, params => some (.isBlank, params)
  | .equals .mark, value :: params => some (.equals value, params)
  | .after .mark, value :: params => some (.after value, params)
  | .oneOf (.marks count), params =>
    if params.length < count then none
    else ((params.take count).mapM Value.toText).map fun texts => (.oneOf texts, params.drop count)
  | _, _ => none

def putByName (params : List (String × Param)) : Written → Option (Clause Value (List String))
  | [] => some []
  | (term, test) :: rest =>
    (test.putByName params).bind fun put => (putByName params rest).map ((term, put) :: ·)

def putByPosition : Written → List Value → Option (Clause Value (List String) × List Value)
  | [], params => some ([], params)
  | (term, test) :: rest, params => (test.putByPosition params).bind fun put =>
    (putByPosition rest put.2).map fun others => ((term, put.1) :: others.1, others.2)

/-- Clause after clause. -/
def putAllByName (params : List (String × Param)) : List Written → Option Condition
  | [] => some []
  | clause :: rest => (putByName params clause).bind fun first => (putAllByName params rest).map (first :: ·)

def putAllByPosition : List Written → List Value → Option (Condition × List Value)
  | [], params => some ([], params)
  | clause :: rest, params => (putByPosition clause params).bind fun first =>
    (putAllByPosition rest first.2).map fun others => (first.1 :: others.1, others.2)

/-- A dictionary with more in it has the values that it had. -/
theorem Test.putByName_append {params : List (String × Param)} {test : Test Placeholder ListPlaceholder}
    {put : Test Value (List String)} (more : List (String × Param)) (h : test.putByName params = some put) :
    test.putByName (params ++ more) = some put := by
  have hlookup : ∀ name param, params.lookup name = some param → (params ++ more).lookup name = some param := by
    intro name param hname
    rw [List.lookup_append, hname, Option.some_or]
  cases test with
  | isNull => exact h
  | isBlank => exact h
  | equals what =>
    cases what with
    | mark => cases h
    | name name =>
      simp only [Test.putByName, Option.map_eq_some_iff, Option.bind_eq_some_iff] at h ⊢
      obtain ⟨value, ⟨param, hname, hvalue⟩, hput⟩ := h
      exact ⟨value, ⟨param, hlookup name param hname, hvalue⟩, hput⟩
  | after what =>
    cases what with
    | mark => cases h
    | name name =>
      simp only [Test.putByName, Option.map_eq_some_iff, Option.bind_eq_some_iff] at h ⊢
      obtain ⟨value, ⟨param, hname, hvalue⟩, hput⟩ := h
      exact ⟨value, ⟨param, hlookup name param hname, hvalue⟩, hput⟩
  | oneOf which =>
    cases which with
    | marks count => cases h
    | name name =>
      simp only [Test.putByName, Option.map_eq_some_iff, Option.bind_eq_some_iff] at h ⊢
      obtain ⟨texts, ⟨param, hname, hvalue⟩, hput⟩ := h
      exact ⟨texts, ⟨param, hlookup name param hname, hvalue⟩, hput⟩

theorem putByName_append {params : List (String × Param)} (more : List (String × Param)) {clause : Written}
    {put : Clause Value (List String)} (h : putByName params clause = some put) :
    putByName (params ++ more) clause = some put := by
  induction clause generalizing put with
  | nil => exact h
  | cons entry rest ih =>
    obtain ⟨term, test⟩ := entry
    simp only [putByName, Option.bind_eq_some_iff, Option.map_eq_some_iff] at h ⊢
    obtain ⟨first, hfirst, others, hothers, rfl⟩ := h
    exact ⟨first, Test.putByName_append more hfirst, others, ih hothers, rfl⟩

theorem putAllByName_append {params : List (String × Param)} (more : List (String × Param))
    {clauses : List Written} {condition : Condition} (h : putAllByName params clauses = some condition) :
    putAllByName (params ++ more) clauses = some condition := by
  induction clauses generalizing condition with
  | nil => exact h
  | cons clause rest ih =>
    simp only [putAllByName, Option.bind_eq_some_iff, Option.map_eq_some_iff] at h ⊢
    obtain ⟨first, hfirst, others, hothers, rfl⟩ := h
    exact ⟨first, putByName_append more hfirst, others, ih hothers, rfl⟩

theorem putAllByName_concat {params : List (String × Param)} {clauses : List Written} {condition : Condition}
    {clause : Written} {put : Clause Value (List String)} (h : putAllByName params clauses = some condition)
    (hclause : putByName params clause = some put) :
    putAllByName params (clauses ++ [clause]) = some (condition ++ [put]) := by
  induction clauses generalizing condition with
  | nil =>
    cases h
    simp [putAllByName, hclause]
  | cons first rest ih =>
    simp only [putAllByName, Option.bind_eq_some_iff, Option.map_eq_some_iff] at h
    obtain ⟨firstPut, hfirst, others, hothers, rfl⟩ := h
    simp [putAllByName, hfirst, ih hothers]

theorem putAllByPosition_concat {clauses : List Written} {clause : Written} {params left rest : List Value}
    {condition : Condition} {put : Clause Value (List String)}
    (h : putAllByPosition clauses params = some (condition, left))
    (hclause : putByPosition clause left = some (put, rest)) :
    putAllByPosition (clauses ++ [clause]) params = some (condition ++ [put], rest) := by
  induction clauses generalizing params condition with
  | nil =>
    simp only [putAllByPosition, Option.some.injEq, Prod.mk.injEq] at h
    obtain ⟨rfl, rfl⟩ := h
    simp [putAllByPosition, hclause]
  | cons first others ih =>
    simp only [putAllByPosition, Option.bind_eq_some_iff, Option.map_eq_some_iff, Prod.mk.injEq] at h
    obtain ⟨firstPut, hfirst, othersPut, hothers, rfl, rfl⟩ := h
    simp [putAllByPosition, hfirst, ih hothers]

/-! ### Building -/

structure Builder where
  byName : Bool
  clauses : List Written
  named : List (String × Param)
  positional : List Value
deriving DecidableEq

/-- A test without a value. -/
inductive Bare
  | isNull
  | isBlank
deriving DecidableEq

def Bare.test {σ τ : Type} : Bare → Test σ τ
  | .isNull => .isNull
  | .isBlank => .isBlank

def bareTests {σ τ : Type} (tests : List (Term × Bare)) : Clause σ τ := tests.map fun test => (test.1, test.2.test)

/-- A test with a value to bind, and the name for it. -/
inductive Slot
  | equals (name : String) (value : Value)
  | after (name : String) (value : Value)
  | oneOf (name : String) (texts : List String)
deriving DecidableEq

def Slot.label : Slot → String
  | .equals label _ => label
  | .after label _ => label
  | .oneOf label _ => label

@[simp] theorem Slot.label_equals (label : String) (value : Value) : (Slot.equals label value).label = label := rfl
@[simp] theorem Slot.label_after (label : String) (value : Value) : (Slot.after label value).label = label := rfl
@[simp] theorem Slot.label_oneOf (label : String) (texts : List String) : (Slot.oneOf label texts).label = label := rfl

def Slot.test : Slot → Test Value (List String)
  | .equals _ value => .equals value
  | .after _ value => .after value
  | .oneOf _ texts => .oneOf texts

/-- A clause with one value, and tests without one before and after it. -/
structure Entry where
  before : List (Term × Bare) := []
  term : Term
  slot : Slot
  rest : List (Term × Bare) := []
deriving DecidableEq

def Entry.clause (entry : Entry) : Clause Value (List String) :=
  bareTests entry.before ++ (entry.term, entry.slot.test) :: bareTests entry.rest

namespace Builder
variable (b : Builder)

def start (byName : Bool) : Builder := ⟨byName, [], [], []⟩

def setName (name : String) (param : Param) : Builder :=
  { b with named := b.named.filter (·.1 ≠ name) ++ [(name, param)] }

/-- The placeholder of a value, which is bound. -/
def bind (name : String) (value : Value) : Placeholder × Builder :=
  if b.byName then (.name name, b.setName name (.one value))
  else (.mark, { b with positional := b.positional ++ [value] })

def bindMembership (name : String) (texts : List String) : ListPlaceholder × Builder :=
  if b.byName then (.name name, b.setName name (.list texts))
  else (.marks texts.length, { b with positional := b.positional ++ texts.map .text })

def bindSlot : Slot → Test Placeholder ListPlaceholder × Builder
  | .equals name value => let bound := b.bind name value; (.equals bound.1, bound.2)
  | .after name value => let bound := b.bind name value; (.after bound.1, bound.2)
  | .oneOf name texts => let bound := b.bindMembership name texts; (.oneOf bound.1, bound.2)

def add (clause : Written) : Builder := { b with clauses := b.clauses ++ [clause] }

def addEntry (entry : Entry) : Builder :=
  let bound := b.bindSlot entry.slot
  bound.2.add (bareTests entry.before ++ (entry.term, bound.1) :: bareTests entry.rest)

def addAll (entries : List Entry) : Builder := entries.foldl addEntry b

/-- What the database makes of the statement: nothing where a value is missing, or one is left. -/
def condition : Option Condition :=
  if b.byName then putAllByName b.named b.clauses
  else (putAllByPosition b.clauses b.positional).bind fun put => if put.2 = [] then some put.1 else none

/-- The statement is the condition, whatever values come after its own. -/
structure Renders (b : Builder) (condition : Condition) : Prop where
  byName : b.byName = true → putAllByName b.named b.clauses = some condition
  byPosition : b.byName = false → ∀ more, putAllByPosition b.clauses (b.positional ++ more) = some (condition, more)

theorem Renders.condition_eq {b : Builder} {condition : Condition} (h : b.Renders condition) :
    b.condition = some condition := by
  rw [Builder.condition]
  cases hname : b.byName with
  | true => exact h.byName hname
  | false =>
    have hput := h.byPosition hname []
    rw [List.append_nil] at hput
    simp [hput]

theorem renders_start (byName : Bool) : (start byName).Renders [] := ⟨fun _ => rfl, fun _ _ => rfl⟩

@[simp] theorem addEntry_byName (entry : Entry) : (b.addEntry entry).byName = b.byName := by
  rcases entry with ⟨before, term, slot, rest⟩
  cases slot <;> cases hname : b.byName <;> simp [addEntry, bindSlot, bind, bindMembership, setName, add, hname]

/-- Only the names of the values bound are names of values. -/
theorem mem_names_addEntry {entry : Entry} {name : String} (h : name ∈ (b.addEntry entry).named.map Prod.fst) :
    name = entry.slot.label ∨ name ∈ b.named.map Prod.fst := by
  rcases entry with ⟨before, term, slot, rest⟩
  cases slot <;> cases hname : b.byName <;>
    simp only [addEntry, bindSlot, bind, bindMembership, setName, add, hname, if_true, Bool.false_eq_true, if_false,
      List.map_append, List.mem_append, List.map_cons, List.map_nil, List.mem_singleton] at h ⊢ <;>
    grind [Slot.label]

end Builder

@[simp] theorem Bare.test_putByName (params : List (String × Param)) (bare : Bare) :
    bare.test.putByName params = some bare.test := by cases bare <;> rfl

@[simp] theorem Bare.test_putByPosition (bare : Bare) (params : List Value) :
    bare.test.putByPosition params = some (bare.test, params) := by cases bare <;> rfl

@[simp] theorem bareTests_nil {σ τ : Type} : (bareTests [] : Clause σ τ) = [] := rfl

@[simp] theorem bareTests_cons {σ τ : Type} (test : Term × Bare) (rest : List (Term × Bare)) :
    (bareTests (test :: rest) : Clause σ τ) = (test.1, test.2.test) :: bareTests rest := rfl

theorem putByName_bare (params : List (String × Param)) (tests : List (Term × Bare)) :
    putByName params (bareTests tests) = some (bareTests tests) := by
  induction tests with
  | nil => rfl
  | cons test rest ih => simp [putByName, ih]

theorem putByPosition_bare (tests : List (Term × Bare)) (params : List Value) :
    putByPosition (bareTests tests) params = some (bareTests tests, params) := by
  induction tests with
  | nil => rfl
  | cons test rest ih => simp [putByPosition, ih]

theorem putByName_slot {params : List (String × Param)} {test : Test Placeholder ListPlaceholder}
    {put : Test Value (List String)} (before : List (Term × Bare)) (term : Term) (rest : List (Term × Bare))
    (h : test.putByName params = some put) :
    putByName params (bareTests before ++ (term, test) :: bareTests rest) =
      some (bareTests before ++ (term, put) :: bareTests rest) := by
  induction before with
  | nil => simp [putByName, h, putByName_bare]
  | cons entry others ih => simp [putByName, ih]

theorem putByPosition_slot {test : Test Placeholder ListPlaceholder} {put : Test Value (List String)}
    {params left : List Value} (before : List (Term × Bare)) (term : Term) (rest : List (Term × Bare))
    (h : test.putByPosition params = some (put, left)) :
    putByPosition (bareTests before ++ (term, test) :: bareTests rest) params =
      some (bareTests before ++ (term, put) :: bareTests rest, left) := by
  induction before with
  | nil => simp [putByPosition, h, putByPosition_bare]
  | cons entry others ih => simp [putByPosition, ih]

theorem mapM_toText (texts : List String) : texts.mapM (Value.toText ∘ Value.text) = some texts := by
  induction texts with
  | nil => rfl
  | cons s rest ih => simp [ih, Value.toText]

namespace Builder

/-- A name that is bound to nothing else keeps what is bound. -/
theorem setName_named {b : Builder} {name : String} (param : Param) (h : name ∉ b.named.map Prod.fst) :
    (b.setName name param).named = b.named ++ [(name, param)] := by
  have hkept : b.named.filter (·.1 ≠ name) = b.named := by
    rw [List.filter_eq_self]
    intro entry hentry
    have hne : entry.1 ≠ name := fun heq => h (heq ▸ List.mem_map_of_mem hentry)
    simpa using hne
  rw [setName, hkept]

theorem lookup_setName {b : Builder} {name : String} (param : Param) (h : name ∉ b.named.map Prod.fst) :
    (b.setName name param).named.lookup name = some param := by
  have hnone : b.named.lookup name = none := by
    rw [List.lookup_eq_none_iff]
    intro entry hentry
    have hne : name ≠ entry.1 := fun heq => h (heq ▸ List.mem_map_of_mem hentry)
    simpa using hne
  rw [setName_named param h, List.lookup_append, hnone]
  simp

/-- What was put by name is still put, and the new clause with it. -/
theorem putAllByName_setName {b : Builder} {condition : Condition} {name : String} {param : Param}
    {test : Test Placeholder ListPlaceholder} {put : Test Value (List String)} (before : List (Term × Bare))
    (term : Term) (rest : List (Term × Bare)) (h : putAllByName b.named b.clauses = some condition)
    (hnew : name ∉ b.named.map Prod.fst) (hput : test.putByName (b.setName name param).named = some put) :
    putAllByName (b.setName name param).named (b.clauses ++ [bareTests before ++ (term, test) :: bareTests rest]) =
      some (condition ++ [bareTests before ++ (term, put) :: bareTests rest]) := by
  have hkept : putAllByName (b.setName name param).named b.clauses = some condition := by
    rw [setName_named param hnew]
    exact putAllByName_append _ h
  exact putAllByName_concat hkept (putByName_slot before term rest hput)

/-- One more clause: by name, where the name is a new one, and by position always. -/
theorem Renders.addEntry {b : Builder} {condition : Condition} (h : b.Renders condition) (entry : Entry)
    (hfresh : entry.slot.label ∉ b.named.map Prod.fst) :
    (b.addEntry entry).Renders (condition ++ [entry.clause]) := by
  rcases entry with ⟨before, term, slot, rest⟩
  constructor
  · intro hname
    rw [addEntry_byName] at hname
    have hold := h.byName hname
    cases slot with
    | equals name value =>
      simp only [Builder.addEntry, bindSlot, bind, hname, if_true]
      refine putAllByName_setName before term rest hold hfresh ?_
      rw [Test.putByName, lookup_setName _ (by exact hfresh)]
      rfl
    | after name value =>
      simp only [Builder.addEntry, bindSlot, bind, hname, if_true]
      refine putAllByName_setName before term rest hold hfresh ?_
      rw [Test.putByName, lookup_setName _ (by exact hfresh)]
      rfl
    | oneOf name texts =>
      simp only [Builder.addEntry, bindSlot, bindMembership, hname, if_true]
      refine putAllByName_setName before term rest hold hfresh ?_
      rw [Test.putByName, lookup_setName _ (by exact hfresh)]
      rfl
  · intro hname more
    rw [addEntry_byName] at hname
    cases slot with
    | equals name value =>
      have hold := h.byPosition hname (value :: more)
      simp only [Builder.addEntry, bindSlot, bind, hname, Bool.false_eq_true, if_false, add, List.append_assoc,
        List.singleton_append]
      exact putAllByPosition_concat hold (putByPosition_slot before term rest rfl)
    | after name value =>
      have hold := h.byPosition hname (value :: more)
      simp only [Builder.addEntry, bindSlot, bind, hname, Bool.false_eq_true, if_false, add, List.append_assoc,
        List.singleton_append]
      exact putAllByPosition_concat hold (putByPosition_slot before term rest rfl)
    | oneOf name texts =>
      have hold := h.byPosition hname (texts.map .text ++ more)
      simp only [Builder.addEntry, bindSlot, bindMembership, hname, Bool.false_eq_true, if_false, add,
        List.append_assoc]
      refine putAllByPosition_concat hold (putByPosition_slot before term rest ?_)
      simp [Test.putByPosition, Slot.test, mapM_toText]

/-- Names that differ from each other, and from what is bound already. -/
theorem Renders.addAll {b : Builder} {condition : Condition} (h : b.Renders condition) (entries : List Entry)
    (hnodup : (entries.map fun entry => entry.slot.label).Nodup)
    (hfresh : ∀ entry ∈ entries, entry.slot.label ∉ b.named.map Prod.fst) :
    (b.addAll entries).Renders (condition ++ entries.map Entry.clause) := by
  induction entries generalizing b condition with
  | nil => simpa [Builder.addAll] using h
  | cons entry rest ih =>
    rw [List.map_cons, List.nodup_cons] at hnodup
    have hentry := h.addEntry entry (hfresh entry List.mem_cons_self)
    have hrest : ∀ other ∈ rest, other.slot.label ∉ (b.addEntry entry).named.map Prod.fst := by
      intro other hother hmem
      rcases b.mem_names_addEntry hmem with heq | hmem
      · exact hnodup.1 (List.mem_map.mpr ⟨other, hother, heq⟩)
      · exact hfresh other (List.mem_cons_of_mem entry hother) hmem
    have hall := ih hentry hnodup.2 hrest
    rwa [List.append_assoc] at hall

/-- A statement with differing names is the condition of its clauses, however its values are bound. -/
theorem condition_addAll (byName : Bool) (entries : List Entry)
    (hnodup : (entries.map fun entry => entry.slot.label).Nodup) :
    ((start byName).addAll entries).condition = some (entries.map Entry.clause) :=
  ((renders_start byName).addAll entries hnodup fun _ _ => List.not_mem_nil).condition_eq

end Builder
end OpenTimeline.Library.Conditions
