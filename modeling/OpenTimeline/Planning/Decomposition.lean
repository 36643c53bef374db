import OpenTimeline.Host
import OpenTimeline.Library.Selection

/-! Ordered plan decomposition.

The steps a model names are kept under their ids and put one after the other in passes: a pass places every step
whose dependencies are placed, and a pass that places none ends the order with the rest as they were given. The
passes lose nothing (`linearOrder_perm`). What a plan loses it loses before them, where two steps have one id
(`linearize_loses_none_iff`). -/
namespace OpenTimeline.Planning
open Library

variable (host : Host)

/-- `items[:n]` -/
def takeTo {α : Type} (n : Int) (items : List α) : List α :=
  items.take (if n < 0 then (items.length + n).toNat else n.toNat)

/-- `str(item.get(key) or "").strip()` -/
def fieldText (item : Payload) (key : String) : String := strip (pyStr host ((item.get key).or (.str "")))

structure PlanStep where
  stepIndex : Nat
  title : String
  description : String
deriving DecidableEq, Repr

/-- `_step_from_dict` -/
def stepFromDict (item : Payload) (index : Nat) : Option PlanStep :=
  let title := fieldText host item "title"
  if title = "" then none
  else
    let description := if fieldText host item "description" = "" then title else fieldText host item "description"
    some ⟨index, String.ofList (title.toList.take 180), String.ofList (description.toList.take 400)⟩

/-- The items that are objects with a title. -/
def titledItems (raw : List Json) : List Payload :=
  raw.filterMap fun
    | .obj item => if fieldText host item "title" = "" then none else some item
    | _ => none

/-- The key of a step: the id it was given, or else its position. -/
def stepKey (item : Payload) (position : Nat) : String :=
  if fieldText host item "id" = "" then "__pos" ++ toString position else fieldText host item "id"

def keyedItems (items : List Payload) : List (String × Payload) :=
  items.zipIdx.map fun (item, position) => (stepKey host item position, item)

/-- `by_id`, in the order its keys were set: the first item of a key keeps it. -/
def byId (items : List Payload) : List (String × Payload) := dedupe Prod.fst (keyedItems host items)

/-- The ids an item depends on. -/
def dependencies (item : Payload) : List String :=
  match item.get "depends_on" with
  | .arr deps => deps.map fun dep => strip (pyStr host dep)
  | _ => []

/-- A pass over the steps that wait. -/
structure Pass where
  ordered : List Payload
  placed : List String
  waiting : List (String × Payload) := []
  progressed : Bool := false

/-- One step of a pass: it waits on, or it is placed. -/
def Pass.visit (known : List String) (pass : Pass) (entry : String × Payload) : Pass :=
  if (dependencies host entry.2).any fun dep => dep ∈ known ∧ dep ∉ pass.placed then
    {pass with waiting := pass.waiting ++ [entry]}
  else
    {pass with
      ordered := pass.ordered ++ [entry.2]
      placed := entry.1 :: pass.placed
      progressed := true }

def runPass (known : List String) (ordered : List Payload) (placed : List String) (remaining : List (String × Payload)) :
    Pass :=
  remaining.foldl (Pass.visit host known) {ordered, placed}

/-- What a pass has seen is placed or waits, and it placed one exactly if it says so. -/
structure Pass.Seen (ordered : List Payload) (seen : List (String × Payload)) (pass : Pass) : Prop where
  perm : (pass.ordered ++ pass.waiting.map Prod.snd).Perm (ordered ++ seen.map Prod.snd)
  waits : pass.waiting.length ≤ seen.length
  progressed : pass.progressed = true → pass.waiting.length < seen.length

variable {host}

theorem Pass.Seen.visit {known : List String} {ordered : List Payload} {seen : List (String × Payload)} {pass : Pass}
    (h : pass.Seen ordered seen) (entry : String × Payload) : (pass.visit host known entry).Seen ordered (seen ++ [entry]) := by
  unfold Pass.visit
  rw [apply_ite (Pass.Seen ordered (seen ++ [entry]))]
  split_ifs
  · constructor
    · simpa [← List.append_assoc] using h.perm.append_right [entry.2]
    · simpa using h.waits
    · simpa using h.progressed
  · constructor
    · have hback : (pass.ordered ++ [entry.2] ++ pass.waiting.map Prod.snd).Perm
          (pass.ordered ++ pass.waiting.map Prod.snd ++ [entry.2]) := by
        rw [List.append_assoc, List.append_assoc]
        exact List.perm_append_comm.append_left pass.ordered
      simpa [← List.append_assoc] using hback.trans (h.perm.append_right [entry.2])
    · simpa using h.waits.trans (Nat.le_succ _)
    · intro _
      simpa using h.waits

theorem Pass.Seen.foldl {known : List String} {ordered : List Payload} (rest : List (String × Payload))
    {seen : List (String × Payload)} {pass : Pass} (h : pass.Seen ordered seen) :
    (rest.foldl (Pass.visit host known) pass).Seen ordered (seen ++ rest) := by
  induction rest generalizing seen pass with
  | nil => simpa using h
  | cons entry rest ih => simpa using ih (h.visit entry)

theorem seen_runPass (known : List String) (ordered : List Payload) (placed : List String)
    (remaining : List (String × Payload)) : (runPass host known ordered placed remaining).Seen ordered remaining := by
  have hstart : Pass.Seen ordered [] {ordered, placed} := ⟨by simp, by simp, by simp⟩
  have hseen := @Pass.Seen.foldl host known ordered remaining [] _ hstart
  rwa [List.nil_append] at hseen

variable (host) in
/-- The passes, until none waits or one places nothing. -/
def linearOrder (known : List String) (ordered : List Payload) (placed : List String)
    (remaining : List (String × Payload)) : List Payload :=
  if remaining = [] then ordered
  else
    let pass := runPass host known ordered placed remaining
    if pass.progressed then linearOrder known pass.ordered pass.placed pass.waiting
    -- A cycle: the rest stays in declared order.
    else pass.ordered ++ pass.waiting.map Prod.snd
termination_by remaining.length
decreasing_by exact (seen_runPass known ordered placed remaining).progressed ‹_›

theorem linearOrder_perm (known : List String) (ordered : List Payload) (placed : List String)
    (remaining : List (String × Payload)) :
    (linearOrder host known ordered placed remaining).Perm (ordered ++ remaining.map Prod.snd) := by
  induction ordered, placed, remaining using linearOrder.induct host known with
  | case1 ordered placed => simp [linearOrder]
  | case2 ordered placed remaining hwaits pass hprogressed ih =>
    rw [linearOrder, if_neg hwaits, if_pos hprogressed]
    exact ih.trans (seen_runPass known ordered placed remaining).perm
  | case3 ordered placed remaining hwaits pass hprogressed =>
    rw [linearOrder, if_neg hwaits, if_neg hprogressed]
    exact (seen_runPass known ordered placed remaining).perm

variable (host) in
/-- An item becomes the next step, where it is one. -/
def appendStep (steps : List PlanStep) (item : Payload) : List PlanStep :=
  match stepFromDict host item (steps.length + 1) with
  | some step => steps ++ [step]
  | none => steps

variable (host) in
/-- `linearize_plan_steps` -/
def linearizePlanSteps (raw : List Json) (maxSteps : Int) : List PlanStep :=
  let items := titledItems host raw
  let entries := byId host items
  let ordered := linearOrder host (entries.map Prod.fst) [] [] entries
  (takeTo maxSteps ordered).foldl (appendStep host) []

/-! ### What is lost -/

variable (host) in
/-- The steps are all the items in some order, up to the cap, numbered from one. -/
def LosesNone (items : List Payload) (maxSteps : Int) (steps : List PlanStep) : Prop :=
  ∃ order : List Payload, order.Perm items ∧
    steps.map some = (takeTo maxSteps order).mapIdx fun position item => stepFromDict host item (position + 1)

theorem map_some_appendStep {item : Payload} (h : fieldText host item "title" ≠ "") (steps : List PlanStep) :
    (appendStep host steps item).map some = steps.map some ++ [stepFromDict host item (steps.length + 1)] := by
  simp [appendStep, stepFromDict, h]

/-- Items with titles become steps one for one. -/
theorem map_some_foldl {items : List Payload} (htitled : ∀ item ∈ items, fieldText host item "title" ≠ "") :
    (items.foldl (appendStep host) []).map some = items.mapIdx fun position item => stepFromDict host item (position + 1) := by
  induction items using List.reverseRecOn with
  | nil => rfl
  | append_singleton items item ih =>
    have hprefix := ih fun item hitem => htitled item (List.mem_append_left _ hitem)
    have htitle := htitled item (List.mem_append_right _ (List.mem_singleton_self _))
    have hlength := congrArg List.length hprefix
    rw [List.length_map, List.length_mapIdx] at hlength
    rw [List.foldl_append, List.foldl_cons, List.foldl_nil, map_some_appendStep htitle, hprefix, hlength, List.mapIdx_append]
    simp

theorem titled_of_mem {raw : List Json} {item : Payload} (h : item ∈ titledItems host raw) :
    fieldText host item "title" ≠ "" := by
  obtain ⟨json, -, hitem⟩ := List.mem_filterMap.mp h
  cases json with
  | obj fields =>
    dsimp only at hitem
    split_ifs at hitem with htitle
    cases hitem
    exact htitle
  | null | bool | int | float | str | arr => cases hitem

theorem length_takeTo {α β : Type} {n : Int} {items : List α} {items' : List β} (h : items.length = items'.length) :
    (takeTo n items).length = (takeTo n items').length := by
  simp only [takeTo, List.length_take, h]

/-- A list and a shorter one whose cuts are equally long are cut alike. -/
theorem takeTo_append {α : Type} {n : Int} {items more : List α}
    (h : (takeTo n (items ++ more)).length = (takeTo n items).length) : takeTo n (items ++ more) = takeTo n items := by
  unfold takeTo at h ⊢
  rw [List.length_take, List.length_take, List.length_append] at h
  by_cases hnone : more = []
  · rw [hnone, List.append_nil]
  have hmore := List.length_pos_iff.mpr hnone
  split_ifs at h ⊢ with hneg
  · have hcut : (((items ++ more).length : Int) + n).toNat = 0 ∧ ((items.length : Int) + n).toNat = 0 := by
      rw [List.length_append]
      omega
    rw [hcut.1, hcut.2, List.take_zero, List.take_zero]
  · rw [List.take_append_of_le_length (by omega)]

theorem map_snd_keyedItems (items : List Payload) : (keyedItems host items).map Prod.snd = items := by
  unfold keyedItems
  rw [List.map_map]
  exact List.zipIdx_map_fst 0 items

/-- The items that keep their keys and the others are all of them. -/
theorem byId_perm (items : List Payload) :
    ∃ lost : List Payload, ((byId host items).map Prod.snd ++ lost).Perm items := by
  obtain ⟨lost, hperm⟩ := (dedupe_sublist Prod.fst (keyedItems host items)).exists_perm_append
  refine ⟨lost.map Prod.snd, ?_⟩
  have hitems := hperm.map Prod.snd
  rw [map_snd_keyedItems, List.map_append] at hitems
  exact hitems.symm

variable (host) in
/-- The different keys of the steps. -/
def stepKeys (items : List Payload) : List String := ((keyedItems host items).map Prod.fst).dedup

theorem length_byId (items : List Payload) : (byId host items).length = (stepKeys host items).length := by
  have hperm : ((byId host items).map Prod.fst).Perm (stepKeys host items) := by
    refine (List.perm_ext_iff_of_nodup (dedupe_nodup _ _) (List.nodup_dedup _)).mpr fun key => ?_
    rw [key_mem_dedupe, List.mem_dedup]
  simpa using hperm.length_eq

/-- A plan is made of as many items as there are different keys. -/
theorem linearizePlanSteps_eq (raw : List Json) (maxSteps : Int) :
    ∃ ordered lost : List Payload, (ordered ++ lost).Perm (titledItems host raw) ∧
      ordered.length = (stepKeys host (titledItems host raw)).length ∧
      (linearizePlanSteps host raw maxSteps).map some =
        (takeTo maxSteps ordered).mapIdx fun position item => stepFromDict host item (position + 1) := by
  let entries := byId host (titledItems host raw)
  let ordered := linearOrder host (entries.map Prod.fst) [] [] entries
  have hordered : ordered.Perm (entries.map Prod.snd) := linearOrder_perm (entries.map Prod.fst) [] [] entries
  obtain ⟨lost, hlost⟩ := @byId_perm host (titledItems host raw)
  have hperm := (hordered.append_right lost).trans hlost
  refine ⟨ordered, lost, hperm, ?_, map_some_foldl fun item hitem => @titled_of_mem host raw item ?_⟩
  · rw [hordered.length_eq, List.length_map, length_byId]
  · exact hperm.subset (List.mem_append_left _ (List.mem_of_mem_take hitem))

/-- A plan keeps all its steps, up to the cap, exactly if it has as many different keys as the cap lets through. -/
theorem linearize_loses_none_iff (host : Host) (raw : List Json) (maxSteps : Int) :
    LosesNone host (titledItems host raw) maxSteps (linearizePlanSteps host raw maxSteps) ↔
      (takeTo maxSteps (stepKeys host (titledItems host raw))).length = (takeTo maxSteps (titledItems host raw)).length := by
  obtain ⟨ordered, lost, hperm, hkeys, hsteps⟩ := @linearizePlanSteps_eq host raw maxSteps
  rw [← length_takeTo hkeys]
  constructor
  · rintro ⟨order, horder, hall⟩
    rw [hsteps] at hall
    have hlength := congrArg List.length hall
    rw [List.length_mapIdx, List.length_mapIdx] at hlength
    exact hlength.trans (length_takeTo horder.length_eq)
  · intro hlength
    refine ⟨ordered ++ lost, hperm, ?_⟩
    rw [takeTo_append ((length_takeTo hperm.length_eq).trans hlength.symm), hsteps]

/-- One of two steps with the same id is lost. -/
theorem linearize_loses_twin : ¬ ∀ (host : Host) (raw : List Json) (maxSteps : Int), 0 ≤ maxSteps →
    LosesNone host (titledItems host raw) maxSteps (linearizePlanSteps host raw maxSteps) := by
  intro h
  let twins := [Json.obj [("title", .str "Build it"), ("id", .str "x")], .obj [("title", .str "Test it"), ("id", .str "x")]]
  obtain ⟨order, horder, hall⟩ := h (asciiHost [] []) twins 12 (by decide)
  obtain ⟨ordered, lost, -, hkeys, hsteps⟩ := @linearizePlanSteps_eq (asciiHost [] []) twins 12
  rw [hsteps] at hall
  have hlength := congrArg List.length hall
  rw [List.length_mapIdx, List.length_mapIdx, length_takeTo hkeys, length_takeTo horder.length_eq] at hlength
  revert hlength
  decide

end OpenTimeline.Planning
