import OpenTimeline.Library.Selection

/-! Orders in which what is depended on comes first.

Elements are told apart by keys, and each names the keys it depends on; of these only the known ones count. A
relation with no cycle leaves, in any finite list, an element that is related to none of it (`exists_source`): so
an order that takes elements whose dependencies are placed never gets stuck. -/
namespace OpenTimeline.Library
variable {α κ : Type} (key : α → κ) (deps : α → List κ) (known : List κ)

/-- Every element comes after all of its known dependencies. -/
def DependenciesFirst (order : List α) : Prop :=
  ∀ before a after, order = before ++ a :: after → ∀ dep ∈ deps a, dep ∈ known → dep ∈ before.map key

/-- With every element the list has all of its known dependencies. -/
def DependencyClosed (l : List α) : Prop := ∀ a ∈ l, ∀ dep ∈ deps a, dep ∈ known → dep ∈ l.map key

variable {key deps known}

theorem DependenciesFirst.nil : DependenciesFirst key deps known [] := by
  intro before a after h
  cases before <;> cases h

/-- An element whose known dependencies are placed may come next. -/
theorem DependenciesFirst.snoc {order : List α} (h : DependenciesFirst key deps known order) {b : α}
    (hb : ∀ dep ∈ deps b, dep ∈ known → dep ∈ order.map key) : DependenciesFirst key deps known (order ++ [b]) := by
  intro before a after hsplit
  rcases snoc_eq_split_iff.mp hsplit with ⟨rfl, rfl, hsame⟩ | ⟨after', -, hold⟩
  · exact hsame ▸ hb
  · exact h before a after' hold

theorem DependenciesFirst.take {order : List α} (h : DependenciesFirst key deps known order) (n : Nat) :
    DependencyClosed key deps known (order.take n) := by
  intro a ha dep hdep hknown
  obtain ⟨before, after, hsplit⟩ := List.append_of_mem ha
  have horder : order = before ++ a :: (after ++ order.drop n) := by
    conv_lhs => rw [← List.take_append_drop n order, hsplit, List.append_assoc, List.cons_append]
  rw [hsplit, List.map_append]
  exact List.mem_append_left _ (h before a _ horder dep hdep hknown)

/-- Some element of the list is related to none of it. -/
theorem exists_source {r : κ → κ → Prop} (hacyclic : ∀ a, ¬ Relation.TransGen r a a) {l : List κ} (hne : l ≠ []) :
    ∃ a ∈ l, ∀ b ∈ l, ¬ r a b := by
  let below (b a : {a // a ∈ l}) : Prop := Relation.TransGen r a.1 b.1
  have htrans : IsTrans _ below := ⟨fun _ _ _ hab hbc => hbc.trans hab⟩
  have hirrefl : Std.Irrefl below := ⟨fun a => hacyclic a.1⟩
  have hfinite : Finite {a // a ∈ l} := List.finite_toSet l
  obtain ⟨first, hfirst⟩ := List.exists_mem_of_ne_nil l hne
  obtain ⟨a, -, hleast⟩ := (Finite.wellFounded_of_trans_of_irrefl below).has_min Set.univ ⟨⟨first, hfirst⟩, trivial⟩
  exact ⟨a.1, a.2, fun b hb hab => hleast ⟨b, hb⟩ trivial (Relation.TransGen.single hab)⟩

end OpenTimeline.Library
