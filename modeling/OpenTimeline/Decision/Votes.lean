import OpenTimeline.Decision.Policy

/-! The vote of the neighbours.

Each of the nearest eligible rows votes for the option its choice maps onto, and its id is
bound to that option. The dictionaries the loop keeps by option, one for each of the label,
the votes, the supporters, the weights and the actions, have one entry here
(`OptionTally`). Whatever has been voted for is an option on offer, and its supporters are
rows that map onto it (`Votes.Founded`). -/
namespace OpenTimeline.Decision
open Library

variable (host : PolicyHost) {R : Type} [Floats R]

/-! ### Neighbours -/

/-- Nearest first, then newest, then by id. -/
def neighbourKey (scored : R × EvidenceRow) : R ×ₗ R ×ₗ String :=
  let timestamp := (((asDatetime host (scored.2.get "ts") : ℚ) - epoch) / 1000000)
  toLex (-scored.1, toLex (-Floats.near timestamp, scored.2.id host))

/-- Stage 4. -/
def neighbours (request : DecisionRequest) (eligible : List EvidenceRow) : List (R × EvidenceRow) :=
  ((eligible.map fun row => (similarity host (request.query) row request.decisionAt, row)).insertionSort
    fun a b => neighbourKey host a ≤ neighbourKey host b).take maxNeighbours

theorem mem_of_mem_neighbours {request : DecisionRequest} {eligible : List EvidenceRow} {scored : R × EvidenceRow}
    (h : scored ∈ neighbours host request eligible) : scored.2 ∈ eligible := by
  obtain ⟨row, hrow, rfl⟩ := List.mem_map.mp ((List.mem_insertionSort _).mp (List.mem_of_mem_take h))
  exact hrow

/-! ### The tally -/

/-- What has been cast for one option. -/
structure OptionTally (R : Type) where
  label : String
  vote : R
  supporters : List String := []
  weights : List R
  actions : List (String × R) := []

structure Votes (R : Type) where
  /-- By `_choice_key` of the option. -/
  options : List (String × OptionTally R) := []
  rowById : List (String × EvidenceRow) := []
  optionByRowId : List (String × String) := []
  consideredIds : List String := []
  unmappable : Nat := 0

/-- `str(row.get("selected_choice") or row.get("user_response") or "").strip()` -/
def rawChoice (row : EvidenceRow) : String :=
  strip (((row.get "selected_choice").or (row.get "user_response")).text host)

variable (R) in
/-- The option a row votes for. -/
def votedOption (candidateOptions : List String) (row : EvidenceRow) : Option String :=
  let mapped := mapChoice host R (rawChoice host row) candidateOptions
  if rawChoice host row = "" || mapped = "" then none else some mapped

/-- A vote added to what an option has. -/
def OptionTally.add (tally : OptionTally R) (rowId : String) (weight : R) (action : String) : OptionTally R :=
  { tally with
    vote := tally.vote + weight
    supporters := if rowId = "" then tally.supporters else tally.supporters ++ [rowId]
    weights := tally.weights ++ [weight]
    actions := if action = "" then tally.actions
      else upsert action (Floats.near 0 + weight) (· + weight) tally.actions }

/-- What the options have after a row has voted for one. -/
def castFor (mapped : String) (scored : R × EvidenceRow) (options : List (String × OptionTally R)) :
    List (String × OptionTally R) :=
  let cast : OptionTally R → OptionTally R :=
    (·.add (scored.2.id host) (max (Floats.near 0.001) scored.1) (strip ((scored.2.get "action_taken").text host)))
  upsert (choiceKey host mapped) (cast { label := mapped, vote := Floats.near 0, weights := [] }) cast options

/-- One turn of the loop. -/
def castVote (candidateOptions : List String) (votes : Votes R) (scored : R × EvidenceRow) : Votes R :=
  let row := scored.2
  let rowId := row.id host
  let voted := votedOption host R candidateOptions row
  { options := voted.elim votes.options (castFor host · scored votes.options)
    rowById := if rowId = "" then votes.rowById else assign rowId row votes.rowById
    optionByRowId := if rowId = "" then votes.optionByRowId
      else voted.elim votes.optionByRowId fun mapped => assign rowId (choiceKey host mapped) votes.optionByRowId
    consideredIds := if rowId = "" then votes.consideredIds else votes.consideredIds ++ [rowId]
    unmappable := if voted.isNone then votes.unmappable + 1 else votes.unmappable }

/-- Stages 5 and 6. -/
def countVotes (candidateOptions : List String) (scored : List (R × EvidenceRow)) : Votes R :=
  scored.foldl (castVote host candidateOptions) {}

/-- `sorted(votes.items(), key=lambda item: (-item[1], item[0]))` -/
def Votes.ranked (votes : Votes R) : List (String × OptionTally R) :=
  let key : String × OptionTally R → R ×ₗ String := fun entry => toLex (-entry.2.vote, entry.1)
  votes.options.insertionSort fun a b => key a ≤ key b

/-- `ranked_options`, of the options as ranked. -/
def rankOptions (ranked : List (String × OptionTally R)) : List (RankedOption R) :=
  let total := Floats.sum (ranked.map (·.2.vote))
  ranked.map fun entry =>
    { option := entry.2.label
      share := Floats.round6 (entry.2.vote / max total (Floats.near 0.000000001))
      supportingObservationIds := entry.2.supporters }

/-! ### What has been voted for -/

variable (R) in
/-- A row's choice maps onto an option, told apart by its key. -/
def Supports (candidateOptions : List String) (row : EvidenceRow) (option : String) : Prop :=
  ∃ mapped, votedOption host R candidateOptions row = some mapped ∧ choiceKey host mapped = choiceKey host option

/-- An option voted for is on offer, and each of its supporters is the id of one of the
rows that support it. -/
structure OptionTally.Founded (candidateOptions : List String) (rows : List EvidenceRow) (key : String)
    (tally : OptionTally R) : Prop where
  offered : tally.label ∈ candidateOptions
  keyed : choiceKey host tally.label = key
  supported : ∀ id ∈ tally.supporters, ∃ row ∈ rows, row.id host = id ∧
    Supports host R candidateOptions row tally.label

def Votes.Founded (candidateOptions : List String) (rows : List EvidenceRow) (votes : Votes R) : Prop :=
  ∀ entry ∈ votes.options, entry.2.Founded host candidateOptions rows entry.1

variable {host}

theorem votedOption_mem {candidateOptions : List String} (hoffered : candidateOptions ≠ []) {row : EvidenceRow}
    {option : String} (h : votedOption host R candidateOptions row = some option) : option ∈ candidateOptions := by
  unfold votedOption at h
  simp only [Option.ite_none_left_eq_some, Bool.or_eq_true, decide_eq_true_eq, not_or, Option.some.injEq] at h
  obtain ⟨⟨_, hmapped⟩, rfl⟩ := h
  exact mapChoice_mem host R hoffered hmapped

/-- A row's vote founds the option it is for. -/
theorem OptionTally.Founded.add {candidateOptions : List String} {rows : List EvidenceRow} {key : String}
    {tally : OptionTally R} (h : tally.Founded host candidateOptions rows key) {row : EvidenceRow} (hrow : row ∈ rows)
    {mapped : String} (hvoted : votedOption host R candidateOptions row = some mapped)
    (hkey : choiceKey host mapped = key) (weight : R) (action : String) :
    (tally.add (row.id host) weight action).Founded host candidateOptions rows key := by
  refine ⟨h.offered, h.keyed, fun id hid => ?_⟩
  simp only [OptionTally.add] at hid
  split_ifs at hid
  · exact h.supported id hid
  · rcases List.mem_append.mp hid with hold | hnew
    · exact h.supported id hold
    · exact ⟨row, hrow, (List.mem_singleton.mp hnew).symm, mapped, hvoted, hkey.trans h.keyed.symm⟩

theorem Votes.Founded.castVote {candidateOptions : List String} (hoffered : candidateOptions ≠ [])
    {rows : List EvidenceRow} {votes : Votes R} (h : votes.Founded host candidateOptions rows)
    {scored : R × EvidenceRow} (hscored : scored.2 ∈ rows) :
    (castVote host candidateOptions votes scored).Founded host candidateOptions rows := by
  cases hvoted : votedOption host R candidateOptions scored.2 with
  | none =>
    simp only [Founded, Decision.castVote, hvoted, Option.elim_none]
    exact h
  | some mapped =>
    simp only [Founded, Decision.castVote, hvoted, Option.elim_some]
    have hfresh : OptionTally.Founded host candidateOptions rows (choiceKey host mapped)
        ({ label := mapped, vote := Floats.near 0, weights := [] } : OptionTally R) :=
      ⟨votedOption_mem hoffered hvoted, rfl, nofun⟩
    exact forall_upsert h (hfresh.add hscored hvoted rfl _ _) fun _ htally => htally.add hscored hvoted rfl _ _

theorem founded_countVotes {candidateOptions : List String} (hoffered : candidateOptions ≠ [])
    {rows : List EvidenceRow} {scored : List (R × EvidenceRow)} (hscored : ∀ s ∈ scored, s.2 ∈ rows) :
    (countVotes host candidateOptions scored).Founded host candidateOptions rows := by
  have hrun : ∀ (rest : List (R × EvidenceRow)) (votes : Votes R), (∀ s ∈ rest, s.2 ∈ rows) →
      votes.Founded host candidateOptions rows →
      (rest.foldl (castVote host candidateOptions) votes).Founded host candidateOptions rows := by
    intro rest
    induction rest with
    | nil => exact fun _ _ h => h
    | cons first rest ih =>
      intro votes hrest h
      rw [List.foldl_cons]
      have hfirst := h.castVote hoffered (hrest first List.mem_cons_self)
      exact ih _ (fun s hs => hrest s (List.mem_cons_of_mem first hs)) hfirst
  exact hrun scored {} hscored nofun

theorem mem_options_of_mem_ranked {votes : Votes R} {entry : String × OptionTally R} (h : entry ∈ votes.ranked) :
    entry ∈ votes.options := (List.mem_insertionSort _).mp h

end OpenTimeline.Decision
