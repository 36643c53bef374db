import OpenTimeline.Library.Matching

/-! What a substitution leaves.

The matches of a pattern are replaced by a text in angle brackets. A word without angle brackets in the result stands
in the replacement, or in the text before between two matches, where no match starts (`Cuts.word_cases`). So the
pattern is found nowhere in the result (`not_found_sub`), and another one only where it was found before
(`found_of_found_sub`): for patterns that do not look around and take no angle bracket, or only where they end in a
run (`Tailed`), which then may reach into a replacement. -/
namespace OpenTimeline.Library.Regex

/-- A character that a word of the pattern may start with. -/
def mayStart : Regex → Char → Bool
  | .char p, c => p c
  | .empty, _ => false
  | .seq r s, c => r.mayStart c || (r.nullable && s.mayStart c)
  | .alt r s, c => r.mayStart c || s.mayStart c
  | .star _ r, c => r.mayStart c
  | .group _ r, c => r.mayStart c
  | .look _, _ => false

theorem Matches.mayStart {r : Regex} {before word after : List Char} {c : Char}
    (hM : r.Matches before (c :: word) after) : r.mayStart c := by
  induction r generalizing before word after with
  | char p =>
    obtain ⟨d, hd, hp⟩ := hM
    obtain ⟨rfl, -⟩ := List.cons.inj hd
    exact hp
  | empty => cases hM
  | seq r s ihr ihs =>
    obtain ⟨u, v, huv, hu, hv⟩ := hM
    rw [Regex.mayStart, Bool.or_eq_true_iff, Bool.and_eq_true_iff]
    cases u with
    | nil =>
      rw [List.nil_append] at huv
      rw [← huv] at hv
      exact Or.inr ⟨hu.nullable, ihs hv⟩
    | cons d u =>
      obtain ⟨rfl, -⟩ := List.cons.inj huv
      exact Or.inl (ihr hu)
  | alt r s ihr ihs =>
    rw [Regex.mayStart, Bool.or_eq_true_iff]
    exact hM.imp ihr ihs
  | star greedy r ih =>
    generalize hword : c :: word = whole at hM
    cases hM with
    | nil => cases hword
    | @cons _ u v _ hne hu _ =>
      cases u with
      | nil => exact absurd rfl hne
      | cons d u =>
        obtain ⟨rfl, -⟩ := List.cons.inj hword
        exact ih hu
  | group name r ih => exact ih hM
  | look p => cases hM.1

/-! ### A word in the result -/

/-- `replacement` in angle brackets. -/
def bracketed (label : List Char) : List Char := '<' :: (label ++ ['>'])

/-- What is left of a text with its matches replaced. -/
def replaced (label : List Char) (pieces : List (List Char × List Char)) (rest : List Char) : List Char :=
  pieces.flatMap (fun piece => piece.1 ++ bracketed label) ++ rest

theorem sub_eq_replaced (r : Regex) (label text : List Char) :
    r.sub (bracketed label) text = replaced label (r.pieces text).1 (r.pieces text).2 := rfl

/-- A word without a character stands on one side of it. -/
theorem word_beside {x w y front back : List Char} {c : Char} (hc : c ∉ w)
    (h : x ++ (w ++ y) = front ++ c :: back) (hw : w ≠ []) :
    (∃ y', front = x ++ (w ++ y') ∧ y = y' ++ c :: back) ∨ ∃ x', x = front ++ c :: x' ∧ back = x' ++ (w ++ y) := by
  rcases List.append_eq_append_iff.mp h with ⟨z, hfront, hrest⟩ | ⟨z, hx, hback⟩
  · rcases List.append_eq_append_iff.mp hrest with ⟨t, hz, hy⟩ | ⟨t, hwz, hback⟩
    · exact Or.inl ⟨t, by rw [hfront, hz], hy⟩
    · cases t with
      | nil => exact Or.inl ⟨[], by rw [hfront, hwz, List.append_nil, List.append_nil], by simpa using hback.symm⟩
      | cons d t =>
        obtain ⟨rfl, -⟩ := List.cons.inj hback
        exact absurd (by rw [hwz]; simp) hc
  · cases z with
    | nil =>
      cases w with
      | nil => exact absurd rfl hw
      | cons d w =>
        obtain ⟨rfl, -⟩ := List.cons.inj hback
        exact absurd List.mem_cons_self hc
    | cons d z =>
      obtain ⟨rfl, htail⟩ := List.cons.inj hback
      exact Or.inr ⟨z, hx, htail⟩

/-- What comes after a word in the result, and came after it in the text: the same, or a match that was replaced. -/
def SameNext (r : Regex) (y y' : List Char) : Prop :=
  ∀ c rest, y = c :: rest → (∃ rest', y' = c :: rest') ∨
    c = '<' ∧ ∃ d word after before, y' = d :: (word ++ after) ∧ r.Matches before (d :: word) after

/-- A word without brackets in the result stands in the label; or it stood in the text, and no match starts there. -/
theorem Cuts.word_cases {r : Regex} {label before text rest : List Char} {pieces : List (List Char × List Char)}
    (h : Cuts r before text pieces rest) {x w y : List Char} (hw : w ≠ []) (hopen : '<' ∉ w) (hclose : '>' ∉ w)
    (hout : x ++ (w ++ y) = replaced label pieces rest) :
    (∃ a b, label = a ++ (w ++ b) ∧ y.head? = (b ++ ['>']).head?) ∨
    ∃ x' y', text = x' ++ (w ++ y') ∧ SameNext r y y' ∧ ¬ r.Starts (x'.reverse ++ before) (w ++ y') := by
  induction h generalizing x with
  | @done before text hnone =>
    refine Or.inr ⟨x, y, hout.symm, fun c rest hy => Or.inl ⟨rest, hy⟩, hnone x (w ++ y) hout.symm⟩
  | @cut before gap word after rest pieces hne hword hnone hrest ih =>
    have hsplit : replaced label ((gap, word) :: pieces) rest =
        gap ++ '<' :: (label ++ '>' :: replaced label pieces rest) := by
      simp [replaced, bracketed]
    rw [hsplit] at hout
    rcases word_beside hopen hout hw with ⟨y', hgap, hy⟩ | ⟨x', -, hback⟩
    · -- in the gap before the match
      refine Or.inr ⟨x, y' ++ (word ++ after), ?_, ?_, ?_⟩
      · rw [hgap, List.append_assoc, List.append_assoc]
      · intro c tail hc
        cases y' with
        | nil =>
          rw [List.nil_append] at hy
          obtain ⟨rfl, -⟩ := List.cons.inj (hc.symm.trans hy)
          cases word with
          | nil => exact absurd rfl hne
          | cons d word => exact Or.inr ⟨rfl, d, word, after, _, rfl, hword⟩
        | cons d y' =>
          obtain ⟨rfl, -⟩ := List.cons.inj (hc.symm.trans hy)
          exact Or.inl ⟨_, rfl⟩
      · have := hnone x (w ++ y') hgap (List.append_ne_nil_of_left_ne_nil hw y')
        rwa [List.append_assoc] at this
    · rcases word_beside hclose hback.symm hw with ⟨y', hlabel, hy⟩ | ⟨x'', -, hlater⟩
      · refine Or.inl ⟨x', y', hlabel, ?_⟩
        rw [hy]
        cases y' <;> rfl
      · rcases ih hlater.symm with hlabel | ⟨x₁, y₁, htext, hnext, hstarts⟩
        · exact Or.inl hlabel
        · refine Or.inr ⟨gap ++ (word ++ x₁), y₁, ?_, hnext, ?_⟩
          · rw [htext]
            simp
          · simpa using hstarts

/-! ### Patterns without brackets -/

/-- A pattern that is matched wherever its word stands, takes no bracket, and is not in the label. -/
structure Plain (label : List Char) (r : Regex) : Prop where
  lookFree : r.lookFree = true
  nullable : r.nullable = false
  brackets : r.mayTake '<' = false ∧ r.mayTake '>' = false
  label : r.found label = false

variable {label text : List Char} {q r : Regex}

theorem not_matches_nil (h : r.nullable = false) (before after : List Char) : ¬ r.Matches before [] after := fun hM => by
  simp [hM.nullable] at h

theorem Plain.not_mem (h : q.Plain label) {before word after : List Char} (hM : q.Matches before word after) :
    '<' ∉ word ∧ '>' ∉ word := by
  refine ⟨fun hmem => ?_, fun hmem => ?_⟩
  · simpa [h.brackets.1] using hM.mayTake _ hmem
  · simpa [h.brackets.2] using hM.mayTake _ hmem

/-- What is found in the result was found in the text, where no match starts. -/
theorem Plain.stood (hq : q.Plain label) (hr : r.nullable = false) (hfound : q.found (r.sub (bracketed label) text)) :
    ∃ x w y, text = x ++ (w ++ y) ∧ q.Matches x.reverse w y ∧ ¬ r.Starts x.reverse (w ++ y) := by
  obtain ⟨x, w, y, hout, hM⟩ := found_iff.mp hfound
  have hw : w ≠ [] := by
    rintro rfl
    exact not_matches_nil hq.nullable _ _ hM
  rw [sub_eq_replaced] at hout
  obtain ⟨hopen, hclose⟩ := hq.not_mem hM
  rcases (cuts_pieces (not_matches_nil hr) text).word_cases hw hopen hclose hout.symm with
    ⟨a, b, hlabel, -⟩ | ⟨x', y', htext, -, hstarts⟩
  · have : q.found label := found_iff.mpr ⟨a, w, b, hlabel, hM.anywhere hq.lookFree⟩
    simp [hq.label] at this
  · rw [List.append_nil] at hstarts
    exact ⟨x', w, y', htext, hM.anywhere hq.lookFree, hstarts⟩

/-- The pattern itself is gone. -/
theorem not_found_sub (h : r.Plain label) (text : List Char) : ¬ r.found (r.sub (bracketed label) text) := by
  intro hfound
  obtain ⟨x, w, y, -, hM, hstarts⟩ := h.stood h.nullable hfound
  exact hstarts ⟨w, y, rfl, hM⟩

/-- No other pattern comes up. -/
theorem found_of_found_sub (hq : q.Plain label) (hr : r.nullable = false)
    (hfound : q.found (r.sub (bracketed label) text)) : q.found text := by
  obtain ⟨x, w, y, htext, hM, -⟩ := hq.stood hr hfound
  exact found_iff.mpr ⟨x, w, y, htext, hM⟩

/-! ### Patterns with a tail -/

/-- A plain pattern and a run of characters after it, an opening bracket perhaps among them. -/
def tailed (q : Regex) (v : Char → Bool) : Regex := .seq q (many1 (.char v))

theorem matches_tailed {v : Char → Bool} {before u after : List Char} {c : Char} (hu : q.lookFree)
    (hM : q.Matches before u (c :: after)) (hc : v c) : (tailed q v).Matches before (u ++ [c]) after :=
  ⟨u, [c], rfl, hM.anywhere hu, [c], [], rfl, ⟨c, rfl, hc⟩, .nil _ _⟩

theorem tailed_cases {v : Char → Bool} {before word after : List Char} (hM : (tailed q v).Matches before word after) :
    ∃ u c rest, word = u ++ c :: rest ∧ q.Matches before u (c :: (rest ++ after)) ∧ v c := by
  obtain ⟨u, z, rfl, hu, a, rest, rfl, ⟨c, rfl, hc⟩, -⟩ := hM
  exact ⟨u, c, rest, rfl, hu, hc⟩

/-- As for a plain pattern, where each match that is replaced starts with a character that the tail takes as well, and
the closing bracket does not come after the pattern in the label. -/
theorem tailed_stood {v : Char → Bool} (hq : q.Plain label) (hr : r.nullable = false)
    (hstart : ∀ c, r.mayStart c → v c) (hfound : (tailed q v).found (r.sub (bracketed label) text)) :
    ∃ x w y, text = x ++ (w ++ y) ∧ (tailed q v).Matches x.reverse w y ∧ ¬ r.Starts x.reverse (w ++ y) := by
  obtain ⟨x, word, after, hout, hM⟩ := found_iff.mp hfound
  obtain ⟨u, c, rest, rfl, hu, hc⟩ := tailed_cases hM
  have hne : u ≠ [] := by
    rintro rfl
    exact not_matches_nil hq.nullable _ _ hu
  rw [sub_eq_replaced, List.append_assoc, List.cons_append] at hout
  obtain ⟨hopen, hclose⟩ := hq.not_mem hu
  rcases (cuts_pieces (not_matches_nil hr) text).word_cases hne hopen hclose hout.symm with
    ⟨a, b, hlabel, -⟩ | ⟨x', y', htext, hnext, hstarts⟩
  · have : q.found label := found_iff.mpr ⟨a, u, b, hlabel, hu.anywhere hq.lookFree⟩
    simp [hq.label] at this
  · rw [List.append_nil] at hstarts
    obtain ⟨d, z, rfl, hd⟩ : ∃ d z, y' = d :: z ∧ v d := by
      rcases hnext c _ rfl with ⟨z, hy⟩ | ⟨-, d, w', z, _, hy, hM'⟩
      · exact ⟨c, z, hy, hc⟩
      · exact ⟨d, w' ++ z, hy, hstart d hM'.mayStart⟩
    refine ⟨x', u ++ [d], z, by rw [htext, List.append_assoc]; rfl, matches_tailed hq.lookFree ?_ hd, ?_⟩
    · exact hu.anywhere hq.lookFree
    · rwa [List.append_assoc, List.singleton_append]

theorem not_found_sub_tailed {v : Char → Bool} (hq : q.Plain label) (hr : r.nullable = false)
    (hstart : ∀ c, r.mayStart c → v c)
    (hsame : ∀ before word after, (tailed q v).Matches before word after → r.Matches before word after)
    (text : List Char) : ¬ (tailed q v).found (r.sub (bracketed label) text) := by
  intro hfound
  obtain ⟨x, w, y, -, hM, hstarts⟩ := tailed_stood hq hr hstart hfound
  exact hstarts ⟨w, y, rfl, hsame _ _ _ hM⟩

theorem tailed_found_of_found_sub {v : Char → Bool} (hq : q.Plain label) (hr : r.nullable = false)
    (hstart : ∀ c, r.mayStart c → v c) (hfound : (tailed q v).found (r.sub (bracketed label) text)) :
    (tailed q v).found text := by
  obtain ⟨x, w, y, htext, hM, -⟩ := tailed_stood hq hr hstart hfound
  exact found_iff.mpr ⟨x, w, y, htext, hM⟩

end OpenTimeline.Library.Regex
