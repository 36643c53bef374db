import Mathlib

/-! Fields of a text.

The fields of a text are its longest runs without a separator. What two texts have for fields
together is what each has, one after the other (`fields_append`), but where the seam is within
a field: there the last field of the one and the first of the other are one (`fields_torn`). -/
namespace OpenTimeline.Library

variable {α : Type} {sep : α → Bool}

variable (sep) in
def fields (text : List α) : List (List α) := (text.splitOnP sep).filter fun field => !field.isEmpty

variable (sep) in
/-- No separator on either side of the seam of two texts. -/
def Torn (u v : List α) : Prop := (∃ a ∈ u.getLast?, sep a = false) ∧ ∃ b ∈ v.head?, sep b = false

instance (u v : List α) : Decidable (Torn sep u v) :=
  decidable_of_iff (u.getLast?.any (!sep ·) ∧ v.head?.any (!sep ·)) (by simp [Torn, Option.any_eq_true])

@[simp] theorem fields_nil : fields sep [] = [] := rfl

theorem fields_append_cons (u v : List α) {a : α} (ha : sep a) :
    fields sep (u ++ a :: v) = fields sep u ++ fields sep v := by
  rw [fields, List.splitOnP_append_cons u v ha, List.filter_append]
  rfl

theorem fields_cons {a : α} (ha : sep a) (text : List α) : fields sep (a :: text) = fields sep text :=
  fields_append_cons [] text ha

theorem fields_concat {a : α} (ha : sep a) (text : List α) : fields sep (text ++ [a]) = fields sep text := by
  rw [fields_append_cons text [] ha, fields_nil, List.append_nil]

theorem fields_field {word : List α} (hne : word ≠ []) (h : ∀ a ∈ word, sep a = false) : fields sep word = [word] := by
  rw [fields, List.splitOnP_eq_singleton h]
  simp [hne]

theorem fields_separators {text : List α} (h : ∀ a ∈ text, sep a) : fields sep text = [] := by
  induction text with
  | nil => rfl
  | cons a rest ih =>
    rw [fields_cons (h a (List.mem_cons_self ..)), ih fun b hb => h b (List.mem_cons_of_mem _ hb)]

/-- A text from its last separator on, or from its start. -/
theorem exists_last_field (u : List α) : ∃ before word, u = before ++ word ∧ (∀ a ∈ word, sep a = false) ∧
    (before = [] ∨ ∃ b a, before = b ++ [a] ∧ sep a) := by
  refine ⟨u.rdropWhile (!sep ·), u.rtakeWhile (!sep ·), List.rdropWhile_append_rtakeWhile.symm, ?_, ?_⟩
  · intro a ha
    simpa using List.mem_rtakeWhile_imp ha
  · by_cases hnil : u.rdropWhile (!sep ·) = []
    · exact Or.inl hnil
    · refine Or.inr ⟨_, _, (List.dropLast_append_getLast hnil).symm, ?_⟩
      simpa using List.rdropWhile_last_not (!sep ·) u hnil

/-- A text up to its first separator, or its end. -/
theorem exists_first_field (v : List α) : ∃ word after, v = word ++ after ∧ (∀ a ∈ word, sep a = false) ∧
    (after = [] ∨ ∃ a b, after = a :: b ∧ sep a) := by
  refine ⟨v.takeWhile (!sep ·), v.dropWhile (!sep ·), List.takeWhile_append_dropWhile.symm, ?_, ?_⟩
  · intro a ha
    simpa using List.mem_takeWhile_imp ha
  · cases hafter : v.dropWhile (!sep ·) with
    | nil => exact Or.inl rfl
    | cons a b =>
      refine Or.inr ⟨a, b, rfl, ?_⟩
      have := List.head_dropWhile_not (fun a => !sep a) (l := v) (by simp [hafter])
      simpa [hafter] using this

theorem fields_behind {before word : List α} (hbefore : before = [] ∨ ∃ b a, before = b ++ [a] ∧ sep a) :
    fields sep (before ++ word) = fields sep before ++ fields sep word := by
  obtain rfl | ⟨b, a, rfl, ha⟩ := hbefore
  · rfl
  · rw [List.append_assoc, List.singleton_append, fields_append_cons _ _ ha, fields_concat ha]

theorem fields_before {word after : List α} (hafter : after = [] ∨ ∃ a b, after = a :: b ∧ sep a) :
    fields sep (word ++ after) = fields sep word ++ fields sep after := by
  obtain rfl | ⟨a, b, rfl, ha⟩ := hafter
  · rw [List.append_nil, fields_nil, List.append_nil]
  · rw [fields_append_cons _ _ ha, fields_cons ha]

theorem fields_separators_append {u : List α} (hu : ∀ a ∈ u, sep a) (v : List α) : fields sep (u ++ v) = fields sep v := by
  cases u using List.reverseRecOn with
  | nil => rfl
  | append_singleton b a =>
    rw [fields_behind (Or.inr ⟨b, a, rfl, hu a (by simp)⟩), fields_separators hu, List.nil_append]

theorem fields_append {u v : List α} (h : ¬ Torn sep u v) : fields sep (u ++ v) = fields sep u ++ fields sep v := by
  by_cases hu : ∃ a ∈ u.getLast?, sep a = false
  · refine fields_before ?_
    cases v with
    | nil => exact Or.inl rfl
    | cons a b => exact Or.inr ⟨a, b, rfl, by simpa using fun ha => h ⟨hu, a, rfl, ha⟩⟩
  · refine fields_behind ?_
    cases u using List.reverseRecOn with
    | nil => exact Or.inl rfl
    | append_singleton b a => exact Or.inr ⟨b, a, rfl, by simpa using hu⟩

theorem fields_torn {u v : List α} (h : Torn sep u v) : ∃ before x y after, x ≠ [] ∧ y ≠ [] ∧
    fields sep u = before ++ [x] ∧ fields sep v = y :: after ∧ fields sep (u ++ v) = before ++ (x ++ y) :: after := by
  obtain ⟨before, x, rfl, hx, hbefore⟩ := @exists_last_field _ sep u
  obtain ⟨y, after, rfl, hy, hafter⟩ := @exists_first_field _ sep v
  obtain ⟨⟨a, ha, hasep⟩, b, hb, hbsep⟩ := h
  have hxne : x ≠ [] := by
    rintro rfl
    obtain rfl | ⟨c, d, rfl, hd⟩ := hbefore
    · cases ha
    · simp only [List.append_nil, List.getLast?_append, List.getLast?_singleton, Option.some_or, Option.mem_def,
        Option.some.injEq] at ha
      rw [ha, hasep] at hd
      cases hd
  have hyne : y ≠ [] := by
    rintro rfl
    obtain rfl | ⟨c, d, rfl, hc⟩ := hafter
    · cases hb
    · simp only [List.nil_append, List.head?_cons, Option.mem_def, Option.some.injEq] at hb
      rw [hb, hbsep] at hc
      cases hc
  refine ⟨fields sep before, x, y, fields sep after, hxne, hyne, ?_, ?_, ?_⟩
  · rw [fields_behind hbefore, fields_field hxne hx]
  · rw [fields_before hafter, fields_field hyne hy]
    rfl
  · have hword : ∀ a ∈ x ++ y, sep a = false := by
      intro a ha
      exact (List.mem_append.mp ha).elim (hx a) (hy a)
    rw [List.append_assoc, fields_behind hbefore, ← List.append_assoc, fields_before hafter,
      fields_field (List.append_ne_nil_of_left_ne_nil hxne _) hword]
    rfl

/-- The fields of a text hold what is no separator. -/
theorem flatten_fields (text : List α) : (fields sep text).flatten = text.filter fun a => !sep a := by
  induction hlength : text.length using Nat.strong_induction_on generalizing text with
  | _ n ih =>
    obtain ⟨word, after, rfl, hword, hafter⟩ := @exists_first_field _ sep text
    have hkept : word.filter (fun a => !sep a) = word := by
      rw [List.filter_eq_self]
      intro a ha
      rw [hword a ha]
      rfl
    have hfirst : (fields sep word).flatten = word := by
      by_cases hne : word = []
      · rw [hne]
        rfl
      · rw [fields_field hne hword, List.flatten_singleton]
    rw [fields_before hafter, List.flatten_append, List.filter_append, hkept, hfirst]
    obtain rfl | ⟨a, rest, rfl, ha⟩ := hafter
    · rfl
    · rw [fields_cons ha, ih rest.length (by simp at hlength; omega) rest rfl, List.filter_cons_of_neg (by simp [ha])]

theorem of_mem_fields {text word : List α} (h : word ∈ fields sep text) : word ≠ [] ∧ ∀ a ∈ word, sep a = false := by
  induction hlength : text.length using Nat.strong_induction_on generalizing text with
  | _ n ih =>
    obtain ⟨first, after, rfl, hfirst, hafter⟩ := @exists_first_field _ sep text
    rw [fields_before hafter] at h
    obtain h | h := List.mem_append.mp h
    · by_cases hne : first = []
      · rw [hne] at h
        cases h
      · rw [fields_field hne hfirst, List.mem_singleton] at h
        rw [h]
        exact ⟨hne, hfirst⟩
    · obtain rfl | ⟨a, rest, rfl, ha⟩ := hafter
      · cases h
      · rw [fields_cons ha] at h
        exact ih rest.length (by simp at hlength; omega) h rfl

/-- Fields by more separators are those of the fields by fewer. -/
theorem fields_flatMap {fine : α → Bool} (hfine : ∀ a, sep a → fine a) (text : List α) :
    fields fine text = (fields sep text).flatMap (fields fine) := by
  induction hlength : text.length using Nat.strong_induction_on generalizing text with
  | _ n ih =>
    obtain ⟨word, after, rfl, hword, hafter⟩ := @exists_first_field _ sep text
    have hfirst : fields fine word = (fields sep word).flatMap (fields fine) := by
      by_cases hne : word = []
      · rw [hne]
        rfl
      · rw [fields_field hne hword, List.flatMap_singleton]
    rw [fields_before hafter, List.flatMap_append, ← hfirst]
    obtain rfl | ⟨a, rest, rfl, ha⟩ := hafter
    · simp
    · rw [fields_append_cons _ _ (hfine a ha), fields_cons ha,
        ih rest.length (by simp at hlength; omega) rest rfl]

/-- A text has a place between any two of its fields. -/
theorem exists_fields_append {text : List α} {u v : List (List α)} (h : fields sep text = u ++ v) :
    ∃ lead follow, text = lead ++ follow ∧ fields sep lead = u ∧ fields sep follow = v := by
  induction u generalizing text with
  | nil => exact ⟨[], text, rfl, rfl, h⟩
  | cons word u ih =>
    induction hlength : text.length using Nat.strong_induction_on generalizing text with
    | _ n ihn =>
      obtain ⟨first, after, rfl, hfirst, hafter⟩ := @exists_first_field _ sep text
      rw [fields_before hafter] at h
      by_cases hne : first = []
      · subst hne
        rw [fields_nil, List.nil_append] at h
        obtain rfl | ⟨a, rest, rfl, ha⟩ := hafter
        · cases h
        · rw [fields_cons ha] at h
          obtain ⟨lead, follow, rfl, hlead, hfollow⟩ := ihn rest.length (by simp at hlength; omega) h rfl
          exact ⟨a :: lead, follow, rfl, by rw [fields_cons ha, hlead], hfollow⟩
      · rw [fields_field hne hfirst, List.singleton_append, List.cons_append] at h
        obtain ⟨rfl, hrest⟩ := List.cons.inj h
        obtain ⟨lead, follow, rfl, hlead, hfollow⟩ := ih hrest
        refine ⟨first ++ lead, follow, by rw [List.append_assoc], ?_, hfollow⟩
        rw [fields_before, fields_field hne hfirst, hlead]
        · rfl
        · obtain hnil | ⟨a, rest, heq, ha⟩ := hafter
          · exact Or.inl (List.append_eq_nil_iff.mp hnil).1
          · cases lead with
            | nil => exact Or.inl rfl
            | cons b lead => exact Or.inr ⟨b, lead, rfl, (List.cons.inj heq).1 ▸ ha⟩

/-- What is put together of the parts between separators is put together of the fields. -/
theorem flatMap_fields {β : Type} {f : List α → List β} (hnil : f [] = [])
    (h : ∀ u a v, sep a → f (u ++ a :: v) = f u ++ f v) (text : List α) : (fields sep text).flatMap f = f text := by
  induction hlength : text.length using Nat.strong_induction_on generalizing text with
  | _ n ih =>
    obtain ⟨word, after, rfl, hword, hafter⟩ := @exists_first_field _ sep text
    have hfirst : (fields sep word).flatMap f = f word := by
      by_cases hne : word = []
      · rw [hne, fields_nil, List.flatMap_nil, hnil]
      · rw [fields_field hne hword, List.flatMap_singleton]
    obtain rfl | ⟨a, rest, rfl, ha⟩ := hafter
    · rw [List.append_nil, hfirst]
    · rw [fields_append_cons _ _ ha, List.flatMap_append, hfirst, h word a rest ha,
        ih rest.length (by simp at hlength; omega) rest rfl]

/-! ### Fields joined -/

theorem intercalate_append (a : α) {xs ys : List (List α)} (hxs : xs ≠ []) (hys : ys ≠ []) :
    [a].intercalate (xs ++ ys) = [a].intercalate xs ++ a :: [a].intercalate ys := by
  induction xs with
  | nil => exact absurd rfl hxs
  | cons x rest ih =>
    cases rest with
    | nil => simp [List.intercalate_cons_of_ne_nil hys]
    | cons y rest =>
      rw [List.cons_append, List.intercalate_cons_of_ne_nil (by simp), ih (List.cons_ne_nil _ _),
        List.intercalate_cons_of_ne_nil (List.cons_ne_nil _ _)]
      simp

/-- A field in two parts, where fields are joined. -/
theorem intercalate_torn (a : α) (before : List (List α)) (x y : List α) (after : List (List α)) :
    [a].intercalate (before ++ (x ++ y) :: after) =
      [a].intercalate (before ++ [x]) ++ [a].intercalate (y :: after) := by
  have hcons : [a].intercalate ((x ++ y) :: after) = x ++ [a].intercalate (y :: after) := by
    cases after with
    | nil => simp
    | cons z rest =>
      rw [List.intercalate_cons_cons, List.intercalate_cons_cons, List.append_assoc, List.append_assoc, List.append_assoc]
  by_cases hbefore : before = []
  · rw [hbefore, List.nil_append, List.nil_append, hcons, List.intercalate_singleton]
  · rw [intercalate_append a hbefore (by simp), intercalate_append a hbefore (by simp), hcons, List.intercalate_singleton]
    simp

/-- Fields joined by a separator are the fields. -/
theorem fields_intercalate {a : α} (ha : sep a) {words : List (List α)}
    (h : ∀ word ∈ words, word ≠ [] ∧ ∀ b ∈ word, sep b = false) : fields sep ([a].intercalate words) = words := by
  induction words with
  | nil => rfl
  | cons word rest ih =>
    obtain ⟨hne, hword⟩ := h word (List.mem_cons_self ..)
    have ih := ih fun other hother => h other (List.mem_cons_of_mem _ hother)
    cases rest with
    | nil => rw [List.intercalate_singleton, fields_field hne hword]
    | cons next rest =>
      rw [List.intercalate_cons_cons, List.append_assoc, List.singleton_append, fields_append_cons _ _ ha,
        fields_field hne hword, ih]
      rfl

/-! ### Separators at the ends -/

theorem fields_dropWhile {p : α → Bool} (hp : ∀ a, p a → sep a) (text : List α) :
    fields sep (text.dropWhile p) = fields sep text := by
  induction text with
  | nil => rfl
  | cons a rest ih =>
    cases ha : p a with
    | true => rw [List.dropWhile_cons_of_pos ha, ih, fields_cons (hp a ha)]
    | false => rw [List.dropWhile_cons_of_neg (by simp [ha])]

theorem fields_rdropWhile {p : α → Bool} (hp : ∀ a, p a → sep a) (text : List α) :
    fields sep (text.rdropWhile p) = fields sep text := by
  induction text using List.reverseRecOn with
  | nil => rfl
  | append_singleton rest a ih =>
    cases ha : p a with
    | true => rw [List.rdropWhile_concat_pos _ _ _ ha, ih, fields_concat (hp a ha)]
    | false => rw [List.rdropWhile_concat_neg _ _ _ (by simp [ha])]

/-! ### Places of a phrase -/

/-- The places where a phrase stands are those behind a part it goes on from. -/
theorem mem_places_iff [DecidableEq α] {items phrase : List α} (h : phrase ≠ []) {idx : Nat} :
    idx ∈ (List.range (items.length + 1 - phrase.length)).filter
        (fun idx => (items.drop idx).take phrase.length = phrase) ↔
      ∃ u v, items = u ++ phrase ++ v ∧ u.length = idx := by
  rw [List.mem_filter, List.mem_range, decide_eq_true_eq]
  constructor
  · rintro ⟨hidx, hhere⟩
    have := List.length_pos_of_ne_nil h
    refine ⟨items.take idx, (items.drop idx).drop phrase.length, ?_, by rw [List.length_take]; omega⟩
    have hsplit := List.take_append_drop phrase.length (items.drop idx)
    rw [hhere] at hsplit
    rw [List.append_assoc, hsplit, List.take_append_drop]
  · rintro ⟨u, v, rfl, rfl⟩
    rw [List.append_assoc, List.drop_left, List.take_left, List.length_append, List.length_append]
    exact ⟨by omega, rfl⟩

end OpenTimeline.Library
