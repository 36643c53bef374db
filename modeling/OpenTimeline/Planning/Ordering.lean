import OpenTimeline.Library.Dependencies
import OpenTimeline.Planning.Decomposition

/-! The order of a plan.

A pass places a step whose known dependencies are placed, and one that places none leaves only steps that wait for
each other. So the order the passes come to has every step, and where the dependencies have no cycle it has each
step after those it depends on, at whatever length it is cut (`linearize_ordered`). -/
namespace OpenTimeline.Planning
open Library

variable (host : Host)

/-- The known dependencies of one key on another. -/
def DependsOn (items : List Payload) (key dep : String) : Prop :=
  ∃ item, (key, item) ∈ keyedItems host items ∧ dep ∈ dependencies host item ∧
    dep ∈ (keyedItems host items).map Prod.fst

def Acyclic (items : List Payload) : Prop := ∀ key, ¬ Relation.TransGen (DependsOn host items) key key

/-- Steps under their keys, each after those it depends on. -/
def StepsFirst (known : List String) (order : List (String × Payload)) : Prop :=
  DependenciesFirst Prod.fst (fun entry => dependencies host entry.2) known order

/-- What a pass has come to, with `rest` of it still to be seen: the order holds the steps placed. -/
structure Pass.Traces (known : List String) (entries rest : List (String × Payload)) (pass : Pass)
    (order : List (String × Payload)) : Prop where
  ordered : pass.ordered = order.map Prod.snd
  placed : ∀ key, key ∈ pass.placed ↔ key ∈ order.map Prod.fst
  perm : (order ++ pass.waiting ++ rest).Perm entries
  first : StepsFirst host known order
  blocked : pass.progressed = false → ∀ entry ∈ pass.waiting, ∃ dep ∈ dependencies host entry.2,
    dep ∈ known ∧ dep ∉ pass.placed

variable {host} {known : List String} {entries rest : List (String × Payload)}

theorem Pass.Traces.visit {pass : Pass} {order : List (String × Payload)} {entry : String × Payload}
    (h : pass.Traces host known entries (entry :: rest) order) :
    ∃ order', (pass.visit host known entry).Traces host known entries rest order' := by
  unfold Pass.visit
  by_cases hwaits : (dependencies host entry.2).any fun dep => dep ∈ known ∧ dep ∉ pass.placed
  · rw [if_pos hwaits]
    refine ⟨order, h.ordered, h.placed, ?_, h.first, ?_⟩
    · simpa using h.perm
    · intro hprogressed other hother
      rcases List.mem_append.mp hother with hold | hnew
      · exact h.blocked hprogressed other hold
      · rw [List.mem_singleton.mp hnew]
        simpa using hwaits
  · rw [if_neg hwaits]
    refine ⟨order ++ [entry], ?_, ?_, ?_, ?_, fun hprogressed => by cases hprogressed⟩
    · simp [h.ordered]
    · intro key
      simp [h.placed, or_comm]
    · have hmoved : (order ++ [entry] ++ pass.waiting ++ rest).Perm (order ++ pass.waiting ++ entry :: rest) := by
        rw [List.append_assoc, List.append_assoc, List.append_assoc, List.singleton_append]
        exact List.Perm.append_left order List.perm_middle.symm
      exact hmoved.trans h.perm
    · refine h.first.snoc fun dep hdep hknown => (h.placed dep).mp ?_
      by_contra hunplaced
      exact hwaits (List.any_eq_true.mpr ⟨dep, hdep, by simp [hknown, hunplaced]⟩)

theorem Pass.Traces.foldl {seen : List (String × Payload)} {pass : Pass} {order : List (String × Payload)}
    (h : pass.Traces host known entries seen order) :
    ∃ order', (seen.foldl (Pass.visit host known) pass).Traces host known entries [] order' := by
  induction seen generalizing pass order with
  | nil => exact ⟨order, h⟩
  | cons entry seen ih =>
    obtain ⟨order', h'⟩ := h.visit
    exact ih h'

/-- Steps that wait for each other are in a cycle. -/
theorem Pass.Traces.waiting_eq_nil {items : List Payload} {pass : Pass} {order : List (String × Payload)}
    (h : pass.Traces host ((keyedItems host items).map Prod.fst) (keyedItems host items) [] order)
    (hacyclic : Acyclic host items) (hstuck : pass.progressed = false) : pass.waiting = [] := by
  by_contra hwaits
  obtain ⟨key, hkey, hfree⟩ := exists_source hacyclic (l := pass.waiting.map Prod.fst) (by simpa using hwaits)
  obtain ⟨entry, hentry, rfl⟩ := List.mem_map.mp hkey
  obtain ⟨dep, hdep, hknown, hunplaced⟩ := h.blocked hstuck entry hentry
  have hmem : entry ∈ keyedItems host items := h.perm.subset (by simp [hentry])
  have hwaiting : dep ∈ pass.waiting.map Prod.fst := by
    have hall := (h.perm.map Prod.fst).mem_iff.mpr hknown
    rw [List.append_nil, List.map_append, List.mem_append] at hall
    exact hall.resolve_left fun hplaced => hunplaced ((h.placed dep).mpr hplaced)
  exact hfree dep hwaiting ⟨entry.2, hmem, hdep, hknown⟩

/-- The order the passes come to is of all the steps, and each comes after its dependencies where these have no
cycle. -/
theorem linearOrder_traces {items : List Payload} {ordered : List Payload} {placed : List String}
    {remaining : List (String × Payload)} {order : List (String × Payload)}
    (h : (⟨ordered, placed, [], false⟩ : Pass).Traces host ((keyedItems host items).map Prod.fst)
      (keyedItems host items) remaining order) :
    ∃ order', linearOrder host ((keyedItems host items).map Prod.fst) ordered placed remaining =
        order'.map Prod.snd ∧ order'.Perm (keyedItems host items) ∧
      (Acyclic host items → StepsFirst host ((keyedItems host items).map Prod.fst) order') := by
  induction ordered, placed, remaining using linearOrder.induct host ((keyedItems host items).map Prod.fst)
    generalizing order with
  | case1 ordered placed =>
    refine ⟨order, ?_, by simpa using h.perm, fun _ => h.first⟩
    rw [linearOrder, if_pos rfl]
    exact h.ordered
  | case2 ordered placed remaining hwaits pass hprogressed =>
    rename_i ih
    obtain ⟨order', htraces⟩ : ∃ order', pass.Traces host _ (keyedItems host items) [] order' := h.foldl
    rw [linearOrder, if_neg hwaits, if_pos hprogressed]
    refine @ih order' ⟨htraces.ordered, htraces.placed, ?_, htraces.first, fun _ entry hentry => by cases hentry⟩
    simpa using htraces.perm
  | case3 ordered placed remaining hwaits pass =>
    rename_i hprogressed
    obtain ⟨order', htraces⟩ : ∃ order', pass.Traces host _ (keyedItems host items) [] order' := h.foldl
    rw [linearOrder, if_neg hwaits, if_neg hprogressed]
    refine ⟨order' ++ pass.waiting, ?_, by simpa using htraces.perm, fun hacyclic => ?_⟩
    · rw [List.map_append]
      exact congrArg (· ++ pass.waiting.map Prod.snd) htraces.ordered
    · have hnone : pass.waiting = [] := htraces.waiting_eq_nil hacyclic (by simpa using hprogressed)
      rw [hnone, List.append_nil]
      exact htraces.first

theorem byId_eq {items : List Payload} (hids : ((keyedItems host items).map Prod.fst).Nodup) :
    byId host items = keyedItems host items := by
  refine (dedupe_sublist Prod.fst _).eq_of_length ?_
  rw [← byId, length_byId, stepKeys, hids.dedup, List.length_map]

/-- Steps under distinct ids come in one order, of which a plan is the beginning. It is of all of them; and where
their dependencies have no cycle each step comes after those it depends on, so that these are in every beginning
that the step is in. -/
theorem linearize_ordered (host : Host) (raw : List Json)
    (hids : ((keyedItems host (titledItems host raw)).map Prod.fst).Nodup) :
    ∃ order : List (String × Payload), order.Perm (keyedItems host (titledItems host raw)) ∧
      (∀ maxSteps, (linearizePlanSteps host raw maxSteps).map some =
        (takeTo maxSteps (order.map Prod.snd)).mapIdx fun position item => stepFromDict host item (position + 1)) ∧
      (Acyclic host (titledItems host raw) →
        StepsFirst host ((keyedItems host (titledItems host raw)).map Prod.fst) order ∧
        ∀ n, DependencyClosed Prod.fst (fun entry => dependencies host entry.2)
          ((keyedItems host (titledItems host raw)).map Prod.fst) (order.take n)) := by
  obtain ⟨order, horder, hperm, hfirst⟩ := @linearOrder_traces host (titledItems host raw) [] []
    (keyedItems host (titledItems host raw)) [] ⟨rfl, by simp, by simp, DependenciesFirst.nil, by simp⟩
  refine ⟨order, hperm, fun maxSteps => ?_, fun hacyclic => ⟨hfirst hacyclic, (hfirst hacyclic).take⟩⟩
  have hitems : (order.map Prod.snd).Perm (titledItems host raw) := by
    have hmapped := hperm.map Prod.snd
    rwa [map_snd_keyedItems] at hmapped
  unfold linearizePlanSteps
  dsimp only
  rw [byId_eq hids, horder]
  exact map_some_foldl fun item hitem => titled_of_mem (hitems.subset (List.mem_of_mem_take hitem))

/-! ### Three steps -/

/-- The first of three steps depends on the last. -/
def threeSteps : List Json :=
  [.obj [("title", .str "Ship"), ("id", .str "s"), ("depends_on", .arr [.str "t"])],
    .obj [("title", .str "Build"), ("id", .str "b")],
    .obj [("title", .str "Test"), ("id", .str "t"), ("depends_on", .arr [.str "b"])]]

theorem linearize_ordered_threeSteps :
    ∃ order : List (String × Payload),
      order.Perm (keyedItems (asciiHost [] []) (titledItems (asciiHost [] []) threeSteps)) := by
  obtain ⟨order, hperm, -⟩ := linearize_ordered (asciiHost [] []) threeSteps (by decide)
  exact ⟨order, hperm⟩

/-- Steps that each depend on themselves. -/
def selfish (n : Nat) : List Json :=
  (List.range n).map fun i => .obj [("title", .str (toString i)), ("id", .str (toString i)),
    ("depends_on", .arr [.str (toString i)])]

/-- Of thirteen steps in cycles the thirteenth is not emitted. -/
theorem linearize_cuts_cycle : ¬ ∀ (host : Host) (raw : List Json),
    ((keyedItems host (titledItems host raw)).map Prod.fst).Nodup → ¬ Acyclic host (titledItems host raw) →
      ∃ order : List Payload, order.Perm (titledItems host raw) ∧
        (linearizePlanSteps host raw 12).map some =
          order.mapIdx fun position item => stepFromDict host item (position + 1) := by
  intro h
  have hcycle : ¬ Acyclic (asciiHost [] []) (titledItems (asciiHost [] []) (selfish 13)) := by
    intro hacyclic
    have hfirst : ("0", [("title", Json.str "0"), ("id", .str "0"), ("depends_on", .arr [.str "0"])]) ∈
        keyedItems (asciiHost [] []) (titledItems (asciiHost [] []) (selfish 13)) := List.mem_cons_self
    exact hacyclic "0" (Relation.TransGen.single ⟨_, hfirst, by decide, by decide⟩)
  obtain ⟨order, hperm, hall⟩ := h (asciiHost [] []) (selfish 13) (by decide) hcycle
  obtain ⟨ordered, lost, -, hkeys, hsteps⟩ := @linearizePlanSteps_eq (asciiHost [] []) (selfish 13) 12
  rw [hsteps] at hall
  have hlength := congrArg List.length hall
  rw [List.length_mapIdx, List.length_mapIdx, hperm.length_eq] at hlength
  have hcut : (takeTo 12 ordered).length ≤ 12 := by simp [takeTo]
  rw [hlength] at hcut
  revert hcut
  decide

end OpenTimeline.Planning
