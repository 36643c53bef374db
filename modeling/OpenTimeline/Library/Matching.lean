import OpenTimeline.Library.Regex

/-! What a pattern matches.

A pattern matches words, each by what is before it and what is after it (`Matches`); the
ends of a backtracking run are those of the words it matches (`mem_ends_iff`), so a pattern
is found where a word of it stands (`found_iff`). A text is cut at the matches of a pattern,
one after the other, and no match starts in what is between them (`cuts_pieces`). -/
namespace OpenTimeline.Library.Regex

/-! ### Words -/

/-- Words one after the other, none of them empty. -/
inductive Repeated (M : List Char → List Char → List Char → Prop) : List Char → List Char → List Char → Prop
  | nil (before after : List Char) : Repeated M before [] after
  | cons {before u v after : List Char} (hne : u ≠ []) (hu : M before u (v ++ after))
      (hv : Repeated M (u.reverse ++ before) v after) : Repeated M before (u ++ v) after

/-- The pattern matches a word, between what is before it (the last character first) and what is after it. -/
def Matches : Regex → List Char → List Char → List Char → Prop
  | .char p, _, word, _ => ∃ c, word = [c] ∧ p c
  | .empty, _, word, _ => word = []
  | .seq r s, before, word, after =>
    ∃ u v, word = u ++ v ∧ r.Matches before u (v ++ after) ∧ s.Matches (u.reverse ++ before) v after
  | .alt r s, before, word, after => r.Matches before word after ∨ s.Matches before word after
  | .star _ r, before, word, after => Repeated r.Matches before word after
  | .group _ r, before, word, after => r.Matches before word after
  | .look p, before, word, after => word = [] ∧ p before after

/-- The place behind a word. -/
def Place.past (place : Place) (word after : List Char) : Place := ⟨word.reverse ++ place.before, after⟩

/-- A step gets behind the words that `M` has. -/
def Follows (M : List Char → List Char → List Char → Prop) (step : Match → List Match) : Prop :=
  ∀ m stop, (∃ next ∈ step m, next.stop = stop) ↔
    ∃ word, m.stop.after = word ++ stop.after ∧ stop = m.stop.past word stop.after ∧ M m.stop.before word stop.after

theorem repeats_follow {M : List Char → List Char → List Char → Prop} {step : Match → List Match} (h : Follows M step)
    (greedy : Bool) (depth : Nat) : ∀ m stop, m.stop.after.length ≤ depth →
      ((∃ next ∈ repeats greedy step depth m, next.stop = stop) ↔
        ∃ word, m.stop.after = word ++ stop.after ∧ stop = m.stop.past word stop.after ∧
          Repeated M m.stop.before word stop.after) := by
  induction depth with
  | zero =>
    intro m stop hdepth
    have hend : m.stop.after = [] := List.length_eq_zero_iff.mp (Nat.le_zero.mp hdepth)
    constructor
    · rintro ⟨next, hnext, rfl⟩
      rw [List.mem_singleton.mp hnext]
      exact ⟨[], rfl, rfl, .nil _ _⟩
    · rintro ⟨word, hword, hstop, -⟩
      rw [hend] at hword
      obtain ⟨rfl, hafter⟩ := List.append_eq_nil_iff.mp hword.symm
      refine ⟨m, List.mem_singleton_self _, ?_⟩
      rw [hstop, hafter]
      exact (congrArg (Place.mk m.stop.before) hend)
  | succ depth ih =>
    intro m stop hdepth
    have hmem : ∀ next, next ∈ repeats greedy step (depth + 1) m ↔ next = m ∨
        ∃ mid ∈ step m, mid.stop.after.length < m.stop.after.length ∧ next ∈ repeats greedy step depth mid := by
      intro next
      rw [repeats]
      cases greedy <;> simp [and_assoc, or_comm]
    constructor
    · rintro ⟨next, hnext, rfl⟩
      obtain rfl | ⟨mid, hmid, hshort, hnext⟩ := (hmem next).mp hnext
      · exact ⟨[], rfl, rfl, .nil _ _⟩
      · obtain ⟨u, hu, hstop, hMu⟩ := (h m mid.stop).mp ⟨mid, hmid, rfl⟩
        obtain ⟨v, hv, hstop', hMv⟩ := (ih mid next.stop (by omega)).mp ⟨next, hnext, rfl⟩
        have hne : u ≠ [] := by
          rintro rfl
          rw [hu] at hshort
          exact absurd hshort (lt_irrefl _)
        rw [hv] at hMu
        rw [hstop] at hMv hstop'
        refine ⟨u ++ v, ?_, ?_, .cons hne hMu hMv⟩
        · rw [hu, hv, List.append_assoc]
        · rw [hstop', Place.past, Place.past, Place.past, List.reverse_append, List.append_assoc]
    · rintro ⟨word, hword, hstop, hrepeated⟩
      cases hrepeated with
      | nil =>
        refine ⟨m, (hmem m).mpr (Or.inl rfl), ?_⟩
        rw [hstop, Place.past, ← List.nil_append stop.after, ← hword]
        rfl
      | @cons _ u v _ hne hu hv =>
        obtain ⟨mid, hmid, hmidstop⟩ := (h m (m.stop.past u (v ++ stop.after))).mpr
          ⟨u, by rw [hword, List.append_assoc]; rfl, rfl, hu⟩
        have hshort : mid.stop.after.length < m.stop.after.length := by
          have := List.length_pos_iff.mpr hne
          rw [hmidstop, hword]
          simp only [Place.past, List.length_append]
          omega
        obtain ⟨next, hnext, hnextstop⟩ := (ih mid stop (by omega)).mpr ⟨v, by rw [hmidstop]; rfl, by
          rw [hstop, hmidstop, Place.past, Place.past, Place.past, List.reverse_append, List.append_assoc], by
          rw [hmidstop]
          exact hv⟩
        exact ⟨next, (hmem next).mpr (Or.inr ⟨mid, hmid, hshort, hnext⟩), hnextstop⟩

/-- A run ends behind the words the pattern matches. -/
theorem mem_ends_iff (r : Regex) : Follows r.Matches r.ends := by
  induction r with
  | char p =>
    rintro ⟨⟨before, _ | ⟨c, after⟩⟩, groups⟩ ⟨before', after'⟩
    · simp [ends, Matches]
    · by_cases hc : p c
      · simp [ends, Matches, hc, Place.past]
        grind
      · simp [ends, Matches, hc, Place.past]
  | empty =>
    rintro ⟨⟨before, after⟩, groups⟩ ⟨before', after'⟩
    simp [ends, Matches, Place.past]
    grind
  | seq r s ihr ihs =>
    intro m stop
    rw [ends]
    constructor
    · rintro ⟨next, hnext, rfl⟩
      obtain ⟨mid, hmid, hnext⟩ := List.mem_flatMap.mp hnext
      obtain ⟨u, hu, hstop, hMu⟩ := (ihr m mid.stop).mp ⟨mid, hmid, rfl⟩
      obtain ⟨v, hv, hstop', hMv⟩ := (ihs mid next.stop).mp ⟨next, hnext, rfl⟩
      rw [hv] at hMu
      rw [hstop] at hMv hstop'
      refine ⟨u ++ v, ?_, ?_, u, v, rfl, hMu, hMv⟩
      · rw [hu, hv, List.append_assoc]
      · rw [hstop', Place.past, Place.past, Place.past, List.reverse_append, List.append_assoc]
    · rintro ⟨word, hword, hstop, u, v, rfl, hu, hv⟩
      obtain ⟨mid, hmid, hmidstop⟩ := (ihr m (m.stop.past u (v ++ stop.after))).mpr
        ⟨u, by rw [hword, List.append_assoc]; rfl, rfl, hu⟩
      obtain ⟨next, hnext, hnextstop⟩ := (ihs mid stop).mpr ⟨v, by rw [hmidstop]; rfl, by
        rw [hstop, hmidstop, Place.past, Place.past, Place.past, List.reverse_append, List.append_assoc], by
        rw [hmidstop]
        exact hv⟩
      exact ⟨next, List.mem_flatMap.mpr ⟨mid, hmid, hnext⟩, hnextstop⟩
  | alt r s ihr ihs =>
    intro m stop
    simp only [ends, List.mem_append, or_and_right, exists_or, ihr m stop, ihs m stop, Matches, and_or_left]
  | star greedy r ih => exact fun m stop => repeats_follow ih greedy _ m stop le_rfl
  | group name r ih =>
    intro m stop
    refine Iff.trans ?_ (ih m stop)
    simp [ends]
  | look p =>
    rintro ⟨⟨before, after⟩, groups⟩ ⟨before', after'⟩
    by_cases hp : p before after
    · simp [ends, Matches, hp, Place.past]
      grind
    · simp [ends, Matches, hp, Place.past]
      grind

/-! ### Searching -/

/-- A match starts at a place. -/
def Starts (r : Regex) (before text : List Char) : Prop := ∃ word after, text = word ++ after ∧ r.Matches before word after

theorem matchAt_isSome_iff {r : Regex} {before text : List Char} :
    (r.matchAt ⟨before, text⟩).isSome ↔ r.Starts before text := by
  rw [matchAt, List.isSome_head?, List.ne_nil_iff_exists_cons]
  constructor
  · rintro ⟨m, rest, hends⟩
    obtain ⟨word, hword, -, hM⟩ := (mem_ends_iff r ⟨⟨before, text⟩, []⟩ m.stop).mp ⟨m, by rw [hends]; simp, rfl⟩
    exact ⟨word, m.stop.after, hword, hM⟩
  · rintro ⟨word, after, rfl, hM⟩
    obtain ⟨m, hm, -⟩ := (mem_ends_iff r ⟨⟨before, word ++ after⟩, []⟩ ⟨word.reverse ++ before, after⟩).mpr
      ⟨word, rfl, rfl, hM⟩
    exact List.exists_cons_of_ne_nil (List.ne_nil_of_mem hm)

/-- The word of the match at a place. -/
theorem matchAt_word {r : Regex} {before text : List Char} {m : Match} (h : r.matchAt ⟨before, text⟩ = some m) :
    ∃ word, text = word ++ m.stop.after ∧ m.stop.before = word.reverse ++ before ∧ r.Matches before word m.stop.after := by
  obtain ⟨word, hword, hstop, hM⟩ := (mem_ends_iff r ⟨⟨before, text⟩, []⟩ m.stop).mp ⟨m, List.mem_of_mem_head? h, rfl⟩
  refine ⟨word, hword, ?_, hM⟩
  rw [hstop]
  rfl

/-- A search without a match: none starts anywhere. -/
theorem searchFrom_eq_none {r : Regex} {before text : List Char} (h : r.searchFrom before text = none) :
    ∀ u v, text = u ++ v → ¬ r.Starts (u.reverse ++ before) v := by
  induction text generalizing before with
  | nil =>
    intro u v huv
    obtain ⟨rfl, rfl⟩ := List.append_eq_nil_iff.mp huv.symm
    rw [searchFrom, Option.map_eq_none_iff] at h
    rw [← matchAt_isSome_iff]
    simp [h]
  | cons c rest ih =>
    rw [searchFrom] at h
    cases hhere : r.matchAt ⟨before, c :: rest⟩ with
    | some m => simp [hhere] at h
    | none =>
      rw [hhere] at h
      intro u v huv
      cases u with
      | nil =>
        rw [← matchAt_isSome_iff, List.reverse_nil, List.nil_append, show v = c :: rest from huv.symm, hhere]
        simp
      | cons d u =>
        obtain ⟨rfl, hrest⟩ := List.cons.inj huv
        rw [List.reverse_cons, List.append_assoc]
        exact ih h u v hrest

/-- A search with a match: it is where it starts, and none starts before it. -/
theorem searchFrom_eq_some {r : Regex} {before text : List Char} {start : Place} {m : Match}
    (h : r.searchFrom before text = some (start, m)) :
    ∃ gap, text = gap ++ start.after ∧ start.before = gap.reverse ++ before ∧ r.matchAt start = some m ∧
      ∀ u v, gap = u ++ v → v ≠ [] → ¬ r.Starts (u.reverse ++ before) (v ++ start.after) := by
  induction text generalizing before with
  | nil =>
    rw [searchFrom, Option.map_eq_some_iff] at h
    obtain ⟨found, hfound, hpair⟩ := h
    obtain ⟨rfl, rfl⟩ := Prod.mk.inj hpair
    exact ⟨[], rfl, rfl, hfound, fun u v huv hv => absurd (List.append_eq_nil_iff.mp huv.symm).2 hv⟩
  | cons c rest ih =>
    rw [searchFrom] at h
    cases hhere : r.matchAt ⟨before, c :: rest⟩ with
    | some found =>
      rw [hhere] at h
      obtain ⟨rfl, rfl⟩ := Prod.mk.inj (Option.some.inj h)
      exact ⟨[], rfl, rfl, hhere, fun u v huv hv => absurd (List.append_eq_nil_iff.mp huv.symm).2 hv⟩
    | none =>
      rw [hhere] at h
      obtain ⟨gap, hgap, hbefore, hmatch, hnone⟩ := ih h
      refine ⟨c :: gap, by rw [hgap]; rfl, by rw [hbefore, List.reverse_cons, List.append_assoc]; rfl, hmatch, ?_⟩
      intro u v huv hv
      cases u with
      | nil =>
        rw [← matchAt_isSome_iff, List.reverse_nil, List.nil_append, show v = c :: gap from huv.symm, List.cons_append,
          ← hgap, hhere]
        simp
      | cons d u =>
        obtain ⟨rfl, hrest⟩ := List.cons.inj huv
        rw [List.reverse_cons, List.append_assoc]
        exact hnone u v hrest hv

/-- The pattern is found where a word of it stands. -/
theorem found_iff {r : Regex} {text : List Char} :
    r.found text ↔ ∃ before word after, text = before ++ (word ++ after) ∧ r.Matches before.reverse word after := by
  rw [found, search]
  cases h : r.searchFrom [] text with
  | none =>
    simp only [Option.isSome_none, Bool.false_eq_true, false_iff]
    rintro ⟨before, word, after, htext, hM⟩
    refine searchFrom_eq_none h before _ htext ⟨word, after, rfl, ?_⟩
    rwa [List.append_nil]
  | some found =>
    simp only [Option.isSome_some, true_iff]
    obtain ⟨gap, hgap, hbefore, hmatch, -⟩ := searchFrom_eq_some h
    obtain ⟨word, hword, -, hM⟩ := matchAt_word hmatch
    refine ⟨gap, word, found.2.stop.after, by rw [hgap, hword], ?_⟩
    rwa [hbefore, List.append_nil] at hM

/-! ### Cutting -/

/-- A text in pieces, each with what is before the match: no match starts in there. -/
inductive Cuts (r : Regex) : List Char → List Char → List (List Char × List Char) → List Char → Prop
  | done {before text : List Char} (hnone : ∀ u v, text = u ++ v → ¬ r.Starts (u.reverse ++ before) v) :
      Cuts r before text [] text
  | cut {before gap word after rest : List Char} {pieces : List (List Char × List Char)} (hne : word ≠ [])
      (hword : r.Matches (gap.reverse ++ before) word after)
      (hnone : ∀ u v, gap = u ++ v → v ≠ [] → ¬ r.Starts (u.reverse ++ before) (v ++ (word ++ after)))
      (hrest : Cuts r (word.reverse ++ (gap.reverse ++ before)) after pieces rest) :
      Cuts r before (gap ++ (word ++ after)) ((gap, word) :: pieces) rest

theorem cuts_splitFrom {r : Regex} (hnull : ∀ before after, ¬ r.Matches before [] after) (depth : Nat)
    (before text : List Char) (hdepth : text.length < depth) :
    Cuts r before text (r.splitFrom depth before text).1 (r.splitFrom depth before text).2 := by
  induction depth generalizing before text with
  | zero => exact absurd hdepth (Nat.not_lt_zero _)
  | succ depth ih =>
    rw [splitFrom]
    cases h : r.searchFrom before text with
    | none => exact .done (searchFrom_eq_none h)
    | some found =>
      obtain ⟨start, m⟩ := found
      obtain ⟨gap, rfl, hbefore, hmatch, hnone⟩ := searchFrom_eq_some h
      obtain ⟨word, hword, hstop, hM⟩ := matchAt_word hmatch
      have hne : word ≠ [] := by
        rintro rfl
        exact hnull _ _ hM
      have hpos := List.length_pos_iff.mpr hne
      have hgap : (gap ++ start.after).take ((gap ++ start.after).length - start.after.length) = gap := by
        rw [List.length_append, Nat.add_sub_cancel]
        exact List.take_left
      have hbetween : between start m.stop = word := by
        rw [between, hword, List.length_append, Nat.add_sub_cancel]
        exact List.take_left
      dsimp only
      rw [hgap, hbetween]
      rw [hbefore] at hM hstop
      rw [hword] at hnone hdepth ⊢
      refine .cut hne hM hnone ?_
      rw [← hstop]
      refine ih m.stop.before m.stop.after ?_
      simp only [List.length_append] at hdepth
      omega

/-- A pattern that takes at least one character cuts a text into its pieces. -/
theorem cuts_pieces {r : Regex} (hnull : ∀ before after, ¬ r.Matches before [] after) (text : List Char) :
    Cuts r [] text (r.pieces text).1 (r.pieces text).2 := cuts_splitFrom hnull _ _ _ (Nat.lt_succ_self _)

/-! ### What a pattern takes -/

/-- The pattern does not look around. -/
def lookFree : Regex → Bool
  | .char _ => true
  | .empty => true
  | .seq r s => r.lookFree && s.lookFree
  | .alt r s => r.lookFree && s.lookFree
  | .star _ r => r.lookFree
  | .group _ r => r.lookFree
  | .look _ => false

/-- The pattern may take the character. -/
def mayTake : Regex → Char → Bool
  | .char p, c => p c
  | .empty, _ => false
  | .seq r s, c => r.mayTake c || s.mayTake c
  | .alt r s, c => r.mayTake c || s.mayTake c
  | .star _ r, c => r.mayTake c
  | .group _ r, c => r.mayTake c
  | .look _, _ => false

/-- The pattern may take no character at all. -/
def nullable : Regex → Bool
  | .char _ => false
  | .empty => true
  | .seq r s => r.nullable && s.nullable
  | .alt r s => r.nullable || s.nullable
  | .star _ _ => true
  | .group _ r => r.nullable
  | .look _ => true

/-- Without looking around, a word is matched wherever it stands. -/
theorem Matches.anywhere {r : Regex} (h : r.lookFree) {before word after before' after' : List Char}
    (hM : r.Matches before word after) : r.Matches before' word after' := by
  induction r generalizing before word after before' after' with
  | char p => exact hM
  | empty => exact hM
  | seq r s ihr ihs =>
    obtain ⟨hr, hs⟩ := Bool.and_eq_true_iff.mp h
    obtain ⟨u, v, rfl, hu, hv⟩ := hM
    exact ⟨u, v, rfl, ihr hr hu, ihs hs hv⟩
  | alt r s ihr ihs =>
    obtain ⟨hr, hs⟩ := Bool.and_eq_true_iff.mp h
    exact hM.imp (ihr hr) (ihs hs)
  | star greedy r ih =>
    have hrepeated : ∀ {before word after}, Repeated r.Matches before word after →
        ∀ before' after', Repeated r.Matches before' word after' := by
      intro before word after hword
      induction hword with
      | nil => exact fun _ _ => .nil _ _
      | cons hne hu _ ihv => exact fun _ _ => .cons hne (ih h hu) (ihv _ _)
    exact hrepeated hM _ _
  | group name r ih => exact ih h hM
  | look p => cases h

/-- A word has only characters that the pattern may take. -/
theorem Matches.mayTake {r : Regex} {before word after : List Char} (hM : r.Matches before word after) :
    ∀ c ∈ word, r.mayTake c := by
  induction r generalizing before word after with
  | char p =>
    obtain ⟨c, rfl, hc⟩ := hM
    intro d hd
    rw [List.mem_singleton.mp hd]
    exact hc
  | empty =>
    rw [show word = [] from hM]
    simp
  | seq r s ihr ihs =>
    obtain ⟨u, v, rfl, hu, hv⟩ := hM
    intro c hc
    rw [Regex.mayTake, Bool.or_eq_true_iff]
    exact (List.mem_append.mp hc).imp (ihr hu c) (ihs hv c)
  | alt r s ihr ihs =>
    intro c hc
    rw [Regex.mayTake, Bool.or_eq_true_iff]
    exact hM.imp (fun hM => ihr hM c hc) (fun hM => ihs hM c hc)
  | star greedy r ih =>
    have hrepeated : ∀ {before word after}, Repeated r.Matches before word after → ∀ c ∈ word, r.mayTake c := by
      intro before word after hword
      induction hword with
      | nil => simp
      | cons hne hu _ ihv =>
        intro c hc
        exact (List.mem_append.mp hc).elim (ih hu c) (ihv c)
    exact hrepeated hM
  | group name r ih => exact ih hM
  | look p =>
    rw [hM.1]
    simp

theorem Matches.nullable {r : Regex} {before after : List Char} (hM : r.Matches before [] after) : r.nullable := by
  induction r generalizing before after with
  | char p =>
    obtain ⟨c, hc, -⟩ := hM
    cases hc
  | empty => rfl
  | seq r s ihr ihs =>
    obtain ⟨u, v, huv, hu, hv⟩ := hM
    obtain ⟨rfl, rfl⟩ := List.append_eq_nil_iff.mp huv.symm
    rw [Regex.nullable, Bool.and_eq_true_iff]
    exact ⟨ihr hu, ihs hv⟩
  | alt r s ihr ihs =>
    rw [Regex.nullable, Bool.or_eq_true_iff]
    exact hM.imp ihr ihs
  | star greedy r ih => rfl
  | group name r ih => exact ih hM
  | look p => rfl

end OpenTimeline.Library.Regex
