import OpenTimeline.Library.Fields
import OpenTimeline.Library.Regex

/-! Patterns that take runs of characters.

Of such a pattern it is known how many characters it takes at a place by what is after the
place alone (`Takes`). The pieces of a text then follow from those of the rest of it, and what
is split at the runs of a class of characters are the fields of the text (`split_run`). -/
namespace OpenTimeline.Library.Regex

/-- At any place the pattern takes so many of the characters after it, and matches unless it takes none. -/
structure Takes (r : Regex) (count : List Char → Nat) : Prop where
  nil : count [] = 0
  le : ∀ text, count text ≤ text.length
  matchAt : ∀ place : Place, r.matchAt place = if count place.after = 0 then none
    else some ⟨⟨(place.after.take (count place.after)).reverse ++ place.before,
      place.after.drop (count place.after)⟩, []⟩

/-! ### Patterns -/

theorem takes_char (p : Char → Bool) : Takes (.char p) fun text => if text.head?.any p then 1 else 0 where
  nil := rfl
  le text := by
    cases text with
    | nil => exact Nat.le_refl 0
    | cons c rest =>
      split_ifs
      · simp
      · exact Nat.zero_le _
  matchAt place := by
    obtain ⟨before, after⟩ := place
    cases after with
    | nil => rfl
    | cons c rest => cases hc : p c <;> simp [matchAt, ends, hc]

theorem Takes.alt {r s : Regex} {f g : List Char → Nat} (hr : r.Takes f) (hs : s.Takes g) :
    (Regex.alt r s).Takes fun text => if f text = 0 then g text else f text where
  nil := by simp only [hr.nil, hs.nil, if_true]
  le text := by
    split_ifs
    · exact hs.le text
    · exact hr.le text
  matchAt place := by
    have halt : (Regex.alt r s).matchAt place = (r.matchAt place).or (s.matchAt place) := List.head?_append
    rw [halt, hr.matchAt, hs.matchAt]
    by_cases hf : f place.after = 0 <;> simp [hf]

/-- A repeated class of characters takes the run of them that is next. -/
theorem head_repeats (p : Char → Bool) (groups : List (String × List Char)) (depth : Nat) (before after : List Char)
    (h : after.length ≤ depth) : (repeats true (Regex.char p).ends depth ⟨⟨before, after⟩, groups⟩).head? =
      some ⟨⟨(after.takeWhile p).reverse ++ before, after.dropWhile p⟩, groups⟩ := by
  induction depth generalizing before after with
  | zero =>
    rw [List.length_eq_zero_iff.mp (Nat.le_zero.mp h)]
    rfl
  | succ depth ih =>
    cases after with
    | nil => rfl
    | cons c rest =>
      cases hc : p c with
      | false => simp [repeats, ends, hc]
      | true =>
        have hstep : ((Regex.char p).ends ⟨⟨before, c :: rest⟩, groups⟩).filter
            (fun next => next.stop.after.length < (c :: rest).length) = [⟨⟨c :: before, rest⟩, groups⟩] := by
          simp [ends, hc]
        rw [repeats]
        simp only [hstep, if_true, List.flatMap_singleton, List.head?_append, ih (c :: before) rest (by simpa using h),
          Option.some_or, List.takeWhile_cons_of_pos hc, List.dropWhile_cons_of_pos hc, List.reverse_cons,
          List.append_assoc, List.singleton_append]

theorem takes_run (p : Char → Bool) : Takes (many1 (.char p)) fun text => (text.takeWhile p).length where
  nil := rfl
  le text := (List.takeWhile_prefix p).length_le
  matchAt place := by
    obtain ⟨before, after⟩ := place
    cases after with
    | nil => rfl
    | cons c rest =>
      cases hc : p c with
      | false => simp [matchAt, many1, ends, hc]
      | true =>
        have hrun := head_repeats p [] rest.length (c :: before) rest le_rfl
        have hends : (many1 (Regex.char p)).ends ⟨⟨before, c :: rest⟩, []⟩ =
            repeats true (Regex.char p).ends rest.length ⟨⟨c :: before, rest⟩, []⟩ := by
          simp [many1, many, ends, hc]
        have htake : rest.take (rest.takeWhile p).length = rest.takeWhile p :=
          (List.prefix_iff_eq_take.mp (List.takeWhile_prefix p)).symm
        have hdrop : (rest.takeWhile p ++ rest.dropWhile p).drop (rest.takeWhile p).length = rest.dropWhile p :=
          List.drop_left
        rw [List.takeWhile_append_dropWhile] at hdrop
        rw [Regex.matchAt, hends, hrun, List.takeWhile_cons_of_pos hc, List.length_cons, if_neg (Nat.succ_ne_zero _),
          List.take_succ_cons, List.drop_succ_cons, htake, hdrop, List.reverse_cons, List.append_assoc]
        rfl

/-! ### The pieces of a text -/

section
variable {r : Regex} {count : List Char → Nat} (h : r.Takes count)
include h

/-- A search goes to the first place where something is taken. -/
theorem Takes.searchFrom_eq {lead rest : List Char} (hlead : ∀ u v, lead = u ++ v → v ≠ [] → count (v ++ rest) = 0)
    (hrest : count rest ≠ 0) (before : List Char) : r.searchFrom before (lead ++ rest) =
      some (⟨lead.reverse ++ before, rest⟩,
        ⟨⟨(rest.take (count rest)).reverse ++ (lead.reverse ++ before), rest.drop (count rest)⟩, []⟩) := by
  induction lead generalizing before with
  | nil =>
    cases rest with
    | nil => exact absurd h.nil hrest
    | cons c rest =>
      rw [List.nil_append, searchFrom, h.matchAt, if_neg hrest]
      rfl
  | cons c lead ih =>
    have hhere : count (c :: (lead ++ rest)) = 0 := hlead [] (c :: lead) rfl (List.cons_ne_nil _ _)
    rw [List.cons_append, searchFrom, h.matchAt, if_pos hhere]
    dsimp only
    rw [ih fun u v huv hv => hlead (c :: u) v (by rw [huv]; rfl) hv, List.reverse_cons, List.append_assoc]
    rfl

theorem Takes.searchFrom_none {text : List Char} (htext : ∀ u v, text = u ++ v → count v = 0) (before : List Char) :
    r.searchFrom before text = none := by
  induction text generalizing before with
  | nil => rw [searchFrom, h.matchAt, if_pos h.nil]; rfl
  | cons c rest ih =>
    rw [searchFrom, h.matchAt, if_pos (htext [] (c :: rest) rfl)]
    exact ih (fun u v huv => htext (c :: u) v (by rw [huv]; rfl)) (c :: before)

omit h in
/-- Something is taken nowhere in a text, or at a first place. -/
theorem exists_first_taken (count : List Char → Nat) (text : List Char) : (∀ u v, text = u ++ v → count v = 0) ∨
    ∃ lead rest, text = lead ++ rest ∧ (∀ u v, lead = u ++ v → v ≠ [] → count (v ++ rest) = 0) ∧ count rest ≠ 0 := by
  induction text with
  | nil =>
    by_cases hnil : count [] = 0
    · refine Or.inl fun u v huv => ?_
      rw [(List.append_eq_nil_iff.mp huv.symm).2, hnil]
    · exact Or.inr ⟨[], [], rfl, fun u v huv hv => absurd (List.append_eq_nil_iff.mp huv.symm).2 hv, hnil⟩
  | cons c text ih =>
    by_cases hhere : count (c :: text) = 0
    · obtain hnone | ⟨lead, rest, rfl, hlead, hrest⟩ := ih
      · refine Or.inl fun u v huv => ?_
        cases u with
        | nil => rwa [← show c :: text = v from huv]
        | cons d u => exact hnone u v (List.cons.inj huv).2
      · refine Or.inr ⟨c :: lead, rest, rfl, fun u v huv hv => ?_, hrest⟩
        cases u with
        | nil =>
          rw [← show c :: lead = v from huv]
          exact hhere
        | cons d u => exact hlead u v (List.cons.inj huv).2 hv
    · exact Or.inr ⟨[], c :: text, rfl, fun u v huv hv => absurd (List.append_eq_nil_iff.mp huv.symm).2 hv, hhere⟩

theorem Takes.splitFrom_succ {lead rest : List Char} (hlead : ∀ u v, lead = u ++ v → v ≠ [] → count (v ++ rest) = 0)
    (hrest : count rest ≠ 0) (depth : Nat) (before : List Char) : ∃ before',
      r.splitFrom (depth + 1) before (lead ++ rest) =
        ((lead, rest.take (count rest)) :: (r.splitFrom depth before' (rest.drop (count rest))).1,
          (r.splitFrom depth before' (rest.drop (count rest))).2) := by
  refine ⟨(rest.take (count rest)).reverse ++ (lead.reverse ++ before), ?_⟩
  have hle := h.le rest
  have hcut : rest.length - (rest.length - count rest) = count rest := by omega
  rw [splitFrom, h.searchFrom_eq hlead hrest]
  simp only [between, List.length_append, Nat.add_sub_cancel, List.take_left, List.length_drop, hcut]

/-- How a text is cut depends neither on what is before it nor on the depth. -/
theorem Takes.splitFrom_eq {text : List Char} {depth depth' : Nat} (hdepth : text.length < depth)
    (hdepth' : text.length < depth') (before before' : List Char) :
    r.splitFrom depth before text = r.splitFrom depth' before' text := by
  induction depth generalizing text depth' before before' with
  | zero => exact absurd hdepth (Nat.not_lt_zero _)
  | succ depth ih =>
    cases depth' with
    | zero => exact absurd hdepth' (Nat.not_lt_zero _)
    | succ depth' =>
      obtain hnone | ⟨lead, rest, rfl, hlead, hrest⟩ := exists_first_taken count text
      · rw [splitFrom, splitFrom, h.searchFrom_none hnone, h.searchFrom_none hnone]
      · obtain ⟨mid, hcut⟩ := h.splitFrom_succ hlead hrest depth before
        obtain ⟨mid', hcut'⟩ := h.splitFrom_succ hlead hrest depth' before'
        have hle := h.le rest
        rw [List.length_append] at hdepth hdepth'
        have hshort : (rest.drop (count rest)).length < depth ∧ (rest.drop (count rest)).length < depth' := by
          rw [List.length_drop]
          omega
        rw [hcut, hcut', ih hshort.1 hshort.2 mid mid']

/-- The pieces of a text from the first place where something is taken. -/
theorem Takes.pieces_eq {lead rest : List Char} (hlead : ∀ u v, lead = u ++ v → v ≠ [] → count (v ++ rest) = 0)
    (hrest : count rest ≠ 0) : r.pieces (lead ++ rest) =
      ((lead, rest.take (count rest)) :: (r.pieces (rest.drop (count rest))).1, (r.pieces (rest.drop (count rest))).2) := by
  obtain ⟨mid, hcut⟩ := h.splitFrom_succ hlead hrest (lead ++ rest).length []
  have hle := h.le rest
  have hshort : (rest.drop (count rest)).length < (lead ++ rest).length := by
    rw [List.length_drop, List.length_append]
    omega
  rw [pieces, hcut, h.splitFrom_eq hshort (Nat.lt_succ_self _) mid []]
  rfl

theorem Takes.pieces_none {text : List Char} (htext : ∀ u v, text = u ++ v → count v = 0) :
    r.pieces text = ([], text) := by
  rw [pieces, splitFrom, h.searchFrom_none htext]

theorem Takes.findAll_take {text : List Char} (hcount : count text ≠ 0) :
    r.findAll text = text.take (count text) :: r.findAll (text.drop (count text)) := by
  have hfirst : ∀ u v, [] = u ++ v → v ≠ [] → count (v ++ text) = 0 := fun u v huv hv =>
    absurd (List.append_eq_nil_iff.mp huv.symm).2 hv
  have hpieces := h.pieces_eq hfirst hcount
  rw [List.nil_append] at hpieces
  rw [findAll, hpieces]
  rfl

theorem Takes.findAll_skip {c : Char} {text : List Char} (hcount : count (c :: text) = 0) :
    r.findAll (c :: text) = r.findAll text := by
  obtain hnone | ⟨lead, rest, rfl, hlead, hrest⟩ := exists_first_taken count text
  · rw [findAll, findAll, h.pieces_none hnone, h.pieces_none]
    intro u v huv
    cases u with
    | nil => rwa [← show c :: text = v from huv]
    | cons d u => exact hnone u v (List.cons.inj huv).2
  · have hfirst : ∀ u v, c :: lead = u ++ v → v ≠ [] → count (v ++ rest) = 0 := by
      intro u v huv hv
      cases u with
      | nil => rwa [← show c :: lead = v from huv]
      | cons d u => exact hlead u v (List.cons.inj huv).2 hv
    have hpieces := h.pieces_eq hfirst hrest
    rw [List.cons_append] at hpieces
    rw [findAll, findAll, hpieces, h.pieces_eq hlead hrest]
    rfl

theorem Takes.findAll_nil : r.findAll [] = [] := by
  rw [findAll, h.pieces_none]
  · rfl
  · intro u v huv
    rw [(List.append_eq_nil_iff.mp huv.symm).2, h.nil]

/-- Nothing that is found goes over a character nothing is taken at. -/
theorem Takes.findAll_append {c : Char} (hstop : ∀ u v, count (u ++ c :: v) = count u) (u v : List Char) :
    r.findAll (u ++ c :: v) = r.findAll u ++ r.findAll v := by
  induction hlength : u.length using Nat.strong_induction_on generalizing u with
  | _ n ih =>
    cases u with
    | nil => rw [List.nil_append, h.findAll_skip (by rw [← List.nil_append (c :: v), hstop, h.nil]), h.findAll_nil]; rfl
    | cons a u =>
      by_cases hcount : count (a :: u) = 0
      · have hskip : count (a :: (u ++ c :: v)) = 0 := (hstop (a :: u) v).trans hcount
        rw [List.cons_append, h.findAll_skip hskip, h.findAll_skip hcount, ih u.length (by simp at hlength; omega) u rfl]
      · have hle := h.le (a :: u)
        have htake : count (a :: u ++ c :: v) ≠ 0 := by rwa [hstop]
        have hshort : ((a :: u).drop (count (a :: u))).length < n := by
          rw [List.length_drop]
          omega
        rw [h.findAll_take htake, h.findAll_take hcount, hstop, List.take_append_of_le_length hle,
          List.drop_append_of_le_length hle, ih _ hshort _ rfl]
        rfl

end

/-! ### Runs of a class -/

/-- What is between the runs of a class of characters are the fields of a text. -/
theorem split_run (p : Char → Bool) (text : List Char) :
    ((many1 (.char p)).split text).filter (fun part => !part.isEmpty) = fields p text := by
  have h := takes_run p
  induction hlength : text.length using Nat.strong_induction_on generalizing text with
  | _ n ih =>
    obtain ⟨word, after, rfl, hword, hafter⟩ := @exists_first_field _ p text
    have hcount : ∀ u v rest, word = u ++ v → v ≠ [] → ((v ++ rest).takeWhile p).length = 0 := by
      intro u v rest huv hv
      obtain ⟨c, v, rfl⟩ := List.exists_cons_of_ne_nil hv
      rw [List.cons_append, List.takeWhile_cons_of_neg]
      · rfl
      · rw [hword c (by simp [huv])]
        exact Bool.false_ne_true
    have hfirst : [word].filter (fun part => !part.isEmpty) = fields p word := by
      by_cases hne : word = []
      · rw [hne]
        rfl
      · rw [fields_field hne hword]
        simp [hne]
    obtain rfl | ⟨a, rest, rfl, ha⟩ := hafter
    · rw [List.append_nil, split, h.pieces_none]
      · exact hfirst
      · intro u v huv
        by_cases hv : v = []
        · rw [hv]
          rfl
        · simpa using hcount u v [] huv hv
    · have hrest : ((a :: rest).takeWhile p).length ≠ 0 := by
        rw [List.takeWhile_cons_of_pos ha]
        exact Nat.succ_ne_zero _
      have hdrop : ((a :: rest).takeWhile p ++ (a :: rest).dropWhile p).drop ((a :: rest).takeWhile p).length =
          rest.dropWhile p := by
        rw [List.drop_left, List.dropWhile_cons_of_pos ha]
      rw [List.takeWhile_append_dropWhile] at hdrop
      have hshort : (rest.dropWhile p).length < n := by
        have := (List.dropWhile_suffix p (l := rest)).length_le
        simp at hlength
        omega
      have ih := ih _ hshort (rest.dropWhile p) rfl
      rw [split, h.pieces_eq (fun u v huv hv => hcount u v _ huv hv) hrest, hdrop]
      rw [split, fields_dropWhile fun c hc => hc] at ih
      rw [fields_append_cons _ _ ha, ← ih, ← hfirst, ← List.filter_append]
      rfl

end OpenTimeline.Library.Regex
