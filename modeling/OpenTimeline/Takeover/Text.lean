import OpenTimeline.Library.Fields
import OpenTimeline.Words

/-! The text device of the takeover.

A message is brought to small letters and digits, one blank between its words. Every prefix of
a message is, normalised, a prefix of the whole; a place in the normalised text that ends with
a letter is behind one character of the message (`exists_source`), and the words from there on
are those of what follows in the message (`words_following`). -/
namespace OpenTimeline.Takeover
open Library

/-- What the takeover asks of the language besides. -/
structure TextHost extends Host where
  /-- `str.isalnum` for one character -/
  isAlnum : Char → Bool

variable (host : TextHost)

/-- `normalize_text` -/
def normalizeText (value : String) : String := normalizeWords host.lower host.isAlnum value

/-- `ch.lower()` -/
def lowerChar (c : Char) : List Char := (host.lower (String.singleton c)).toList

/-- What a character is in the cleaned text. -/
def piece (c : Char) : List Char := if host.isAlnum c || isSpace c then lowerChar host c else [' ']

/-- The words of a text, normalised. -/
def words (text : List Char) : List (List Char) := fields isSpace (text.flatMap (piece host))

/-- A small letter of ASCII, but for the i: that comes also of one that has a dot of its own. -/
def isPlain (d : Char) : Bool := 'a' ≤ d && d ≤ 'z' && d ≠ 'i'

/-- What `str.lower` and `str.isalnum` do for a character. -/
structure Lowers : Prop where
  nonempty : ∀ c, lowerChar host c ≠ []
  /-- a blank is no letter, and stays -/
  blank : ∀ c, isSpace c → host.isAlnum c = false ∧ lowerChar host c = [c]
  /-- no blank comes of another character -/
  unblank : ∀ c, ∀ d ∈ lowerChar host c, isSpace d → c = d
  /-- a plain letter comes of a letter, and alone -/
  letter : ∀ c, ∀ d ∈ lowerChar host c, isPlain d → lowerChar host c = [d] ∧ host.isAlnum c

variable {host}

theorem splitBlanks_eq (text : String) : splitBlanks text = (fields isSpace text.toList).map String.ofList := by
  rw [splitBlanks, fields]
  congr 2
  funext word
  cases word <;> rfl

theorem normalizeText_toList (text : String) :
    (normalizeText host text).toList = [' '].intercalate (words host text.toList) := by
  rw [normalizeText, normalizeWords, collapse, splitBlanks_eq, String.toList_ofList, String.toList_intercalate,
    List.map_map]
  simp only [Function.comp_def, String.toList_ofList, List.map_id']
  rfl

/-- The words of a normalised text are its words. -/
theorem splitBlanks_normalizeText (text : String) :
    splitBlanks (normalizeText host text) = (words host text.toList).map String.ofList := by
  rw [splitBlanks_eq, normalizeText_toList, words, fields_intercalate rfl fun word hword => of_mem_fields hword]

/-! ### Words of a text in parts -/

variable (host) in
/-- What is no letter or digit. -/
def isGap (c : Char) : Bool := !host.isAlnum c

section
variable (laws : Lowers host)
include laws

theorem piece_gap {c : Char} (hc : isGap host c) : ∀ d ∈ piece host c, isSpace d := by
  intro d hd
  have hc : host.isAlnum c = false := by simpa [isGap] using hc
  cases hspace : isSpace c with
  | true =>
    rw [piece, hc, hspace, Bool.false_or, if_pos rfl, (laws.blank c hspace).2, List.mem_singleton] at hd
    rw [hd, hspace]
  | false =>
    rw [piece, hc, hspace, Bool.false_or, if_neg Bool.false_ne_true, List.mem_singleton] at hd
    rw [hd]
    rfl

theorem piece_alnum {c : Char} (hc : isGap host c = false) :
    piece host c = lowerChar host c ∧ ∀ d ∈ lowerChar host c, isSpace d = false := by
  have hc : host.isAlnum c = true := by simpa [isGap] using hc
  refine ⟨by rw [piece, hc, Bool.true_or, if_pos rfl], fun d hd => ?_⟩
  rw [Bool.eq_false_iff]
  intro hspace
  have hsame := laws.unblank c d hd hspace
  rw [← hsame] at hspace
  rw [(laws.blank c hspace).1] at hc
  cases hc

theorem piece_ne_nil (c : Char) : piece host c ≠ [] := by
  unfold piece
  split_ifs
  · exact laws.nonempty c
  · exact List.cons_ne_nil _ _

/-- The first and the last of the piece of a character are blank just where the character is a gap. -/
theorem isSpace_piece (c d : Char) (hd : d ∈ piece host c) : isSpace d = isGap host c := by
  cases hc : isGap host c with
  | true => exact piece_gap laws hc d hd
  | false =>
    obtain ⟨hpiece, hnone⟩ := piece_alnum laws hc
    exact hnone d (hpiece ▸ hd)

theorem torn_pieces (u v : List Char) :
    Torn isSpace (u.flatMap (piece host)) (v.flatMap (piece host)) ↔ Torn (isGap host) u v := by
  have hlast : ∀ u : List Char, (∃ a ∈ (u.flatMap (piece host)).getLast?, isSpace a = false) ↔
      ∃ a ∈ u.getLast?, isGap host a = false := by
    intro u
    cases u using List.reverseRecOn with
    | nil => simp
    | append_singleton b a =>
      obtain ⟨d, hd⟩ := Option.isSome_iff_exists.mp (List.getLast?_isSome.mpr (piece_ne_nil laws a))
      have hmem := List.mem_of_getLast? hd
      simp [List.getLast?_append, hd, isSpace_piece laws a d hmem]
  have hhead : ∀ v : List Char, (∃ a ∈ (v.flatMap (piece host)).head?, isSpace a = false) ↔
      ∃ a ∈ v.head?, isGap host a = false := by
    intro v
    cases v with
    | nil => simp
    | cons a b =>
      obtain ⟨d, hd⟩ := Option.isSome_iff_exists.mp (List.isSome_head?.mpr (piece_ne_nil laws a))
      have hmem := List.mem_of_head? hd
      simp [List.head?_append, hd, isSpace_piece laws a d hmem]
  exact and_congr (hlast u) (hhead v)

theorem words_append {u v : List Char} (h : ¬ Torn (isGap host) u v) :
    words host (u ++ v) = words host u ++ words host v := by
  rw [words, List.flatMap_append, fields_append (mt (torn_pieces laws u v).mp h)]
  rfl

theorem words_torn {u v : List Char} (h : Torn (isGap host) u v) : ∃ before x y after, x ≠ [] ∧ y ≠ [] ∧
    words host u = before ++ [x] ∧ words host v = y :: after ∧ words host (u ++ v) = before ++ (x ++ y) :: after := by
  rw [words, words, words, List.flatMap_append]
  exact fields_torn ((torn_pieces laws u v).mpr h)

theorem words_gaps_append {u : List Char} (hu : ∀ c ∈ u, isGap host c) (v : List Char) :
    words host (u ++ v) = words host v := by
  rw [words, List.flatMap_append, fields_separators_append]
  · rfl
  · intro d hd
    obtain ⟨c, hc, hd⟩ := List.mem_flatMap.mp hd
    exact piece_gap laws (hu c hc) d hd

theorem words_gaps {u : List Char} (hu : ∀ c ∈ u, isGap host c) : words host u = [] := by
  have := words_gaps_append laws hu []
  rwa [List.append_nil] at this

theorem words_append_gaps (u : List Char) {v : List Char} (hv : ∀ c ∈ v, isGap host c) :
    words host (u ++ v) = words host u := by
  rw [words_append laws, words_gaps laws hv, List.append_nil]
  rintro ⟨-, b, hb, hgap⟩
  rw [hv b (List.mem_of_head? hb)] at hgap
  cases hgap

/-- Gaps at either end make no words. -/
theorem words_dropWhile {p : Char → Bool} (hp : ∀ c, p c → isGap host c) (text : List Char) :
    words host (text.dropWhile p) = words host text := by
  have hsplit := words_gaps_append laws (u := text.takeWhile p) (fun c hc => hp c (List.mem_takeWhile_imp hc))
    (text.dropWhile p)
  rwa [List.takeWhile_append_dropWhile, eq_comm] at hsplit

theorem words_rdropWhile {p : Char → Bool} (hp : ∀ c, p c → isGap host c) (text : List Char) :
    words host (text.rdropWhile p) = words host text := by
  have hsplit := words_append_gaps laws (text.rdropWhile p) (v := text.rtakeWhile p)
    fun c hc => hp c (List.mem_rtakeWhile_imp hc)
  rwa [List.rdropWhile_append_rtakeWhile, eq_comm] at hsplit

theorem words_strip (text : String) : words host (strip text).toList = words host text.toList := by
  have hgap : ∀ c, isSpace c → isGap host c := fun c hc => by rw [isGap, (laws.blank c hc).1]; rfl
  rw [strip, String.toList_ofList, stripChars, words_rdropWhile laws hgap, words_dropWhile laws hgap]

/-- What the words of a text hold. -/
theorem flatten_words (text : List Char) :
    (words host text).flatten = (text.filter host.isAlnum).flatMap (lowerChar host) := by
  rw [words, flatten_fields]
  induction text with
  | nil => rfl
  | cons c rest ih =>
    rw [List.flatMap_cons, List.filter_append, ih]
    cases hc : isGap host c with
    | true =>
      have halnum : host.isAlnum c = false := by simpa [isGap] using hc
      rw [List.filter_cons_of_neg (by simp [halnum]), List.filter_eq_nil_iff.mpr fun d hd => by
        simp [piece_gap laws hc d hd], List.nil_append]
    | false =>
      have halnum : host.isAlnum c = true := by simpa [isGap] using hc
      obtain ⟨hpiece, hnone⟩ := piece_alnum laws hc
      rw [List.filter_cons_of_pos halnum, List.flatMap_cons, hpiece, List.filter_eq_self.mpr fun d hd => by
        simp [hnone d hd]]

/-- The words of a text are its runs of letters and digits, in small letters. -/
theorem words_eq (text : List Char) : words host text = (fields (isGap host) text).map (·.flatMap (lowerChar host)) := by
  induction hlength : text.length using Nat.strong_induction_on generalizing text with
  | _ n ih =>
    obtain ⟨word, after, rfl, hword, hafter⟩ := @exists_first_field _ (isGap host) text
    have hfirst : words host word = (fields (isGap host) word).map (·.flatMap (lowerChar host)) := by
      by_cases hne : word = []
      · rw [hne]
        rfl
      · have hpieces : word.flatMap (piece host) = word.flatMap (lowerChar host) :=
          List.flatMap_congr fun c hc => (piece_alnum laws (hword c hc)).1
        rw [fields_field hne hword, words, hpieces, fields_field]
        · rfl
        · obtain ⟨c, rest, rfl⟩ := List.exists_cons_of_ne_nil hne
          simp [laws.nonempty c]
        · intro d hd
          obtain ⟨c, hc, hd⟩ := List.mem_flatMap.mp hd
          exact (piece_alnum laws (hword c hc)).2 d hd
    rw [fields_before hafter, List.map_append, ← hfirst]
    obtain rfl | ⟨a, rest, rfl, ha⟩ := hafter
    · simp [words]
    · have htorn : ¬ Torn (isGap host) word (a :: rest) := by
        rintro ⟨-, b, hb, hgap⟩
        obtain rfl : a = b := by simpa using hb
        rw [ha] at hgap
        cases hgap
      have hgap : words host (a :: rest) = words host rest := words_gaps_append laws (u := [a]) (by simpa using ha) rest
      rw [words_append laws htorn, hgap, fields_cons ha, ih rest.length (by simp at hlength; omega) rest rfl]

/-- A text has a place between any two of its words. -/
theorem exists_words_append {text : List Char} {u v : List (List Char)} (h : words host text = u ++ v) :
    ∃ lead follow, text = lead ++ follow ∧ words host lead = u ∧ words host follow = v := by
  rw [words_eq laws, List.map_eq_append_iff] at h
  obtain ⟨u', v', hfields, rfl, rfl⟩ := h
  obtain ⟨lead, follow, htext, rfl, rfl⟩ := exists_fields_append hfields
  exact ⟨lead, follow, htext, words_eq laws lead, words_eq laws follow⟩

/-! ### Places -/

/-- One more character leaves a normalised text as it is, or adds a blank and what it is in small letters. -/
theorem normalized_concat (text : List Char) (c : Char) :
    (isGap host c ∧ words host (text ++ [c]) = words host text) ∨
    isGap host c = false ∧ ∃ gap, (gap = [] ∨ gap = [' ']) ∧ [' '].intercalate (words host (text ++ [c])) =
      [' '].intercalate (words host text) ++ gap ++ lowerChar host c := by
  cases hc : isGap host c with
  | true =>
    exact Or.inl ⟨rfl, words_append_gaps laws text (by simpa using hc)⟩
  | false =>
    right
    obtain ⟨hpiece, hnone⟩ := piece_alnum laws hc
    have hword : words host [c] = [lowerChar host c] := by
      rw [words, List.flatMap_singleton, hpiece, fields_field (laws.nonempty c) hnone]
    refine ⟨rfl, ?_⟩
    by_cases htorn : Torn (isGap host) text [c]
    · obtain ⟨before, x, y, after, -, -, hx, hy, hxy⟩ := words_torn laws htorn
      rw [hword] at hy
      obtain ⟨rfl, rfl⟩ := List.cons.inj hy
      refine ⟨[], Or.inl rfl, ?_⟩
      rw [hxy, hx, intercalate_torn, List.append_nil, List.intercalate_singleton]
    · rw [words_append laws htorn, hword]
      by_cases hnil : words host text = []
      · exact ⟨[], Or.inl rfl, by rw [hnil, List.nil_append, List.intercalate_singleton, List.append_nil]; rfl⟩
      · refine ⟨[' '], Or.inr rfl, ?_⟩
        rw [intercalate_append ' ' hnil (List.cons_ne_nil _ _), List.intercalate_singleton, List.append_assoc]
        rfl

/-- A place in a normalised text that ends with a letter is behind one character of the text. -/
theorem exists_source {text : List Char} {n : Nat} {d : Char} (hd : isPlain d)
    (h : ([' '].intercalate (words host text))[n]? = some d) : ∃ lead c follow, text = lead ++ c :: follow ∧
      isGap host c = false ∧ lowerChar host c = [d] ∧
      [' '].intercalate (words host (lead ++ [c])) = ([' '].intercalate (words host text)).take (n + 1) := by
  induction text using List.reverseRecOn with
  | nil => simp [words] at h
  | append_singleton text c ih =>
    obtain ⟨-, hsame⟩ | ⟨hgap, gap, hblank, hgrown⟩ := normalized_concat laws text c
    · rw [hsame] at h ⊢
      obtain ⟨lead, c', follow, rfl, hc', hlower, htake⟩ := ih h
      exact ⟨lead, c', follow ++ [c], by simp, hc', hlower, htake⟩
    · by_cases hn : n < ([' '].intercalate (words host text)).length
      · have hold : ([' '].intercalate (words host text))[n]? = some d := by
          rwa [hgrown, List.append_assoc, List.getElem?_append_left hn] at h
        obtain ⟨lead, c', follow, rfl, hc', hlower, htake⟩ := ih hold
        refine ⟨lead, c', follow ++ [c], by simp, hc', hlower, ?_⟩
        rw [hgrown, List.append_assoc, List.take_append_of_le_length hn, htake]
      · -- the letter comes of this character
        have hmem : d ∈ lowerChar host c := by
          rw [hgrown, List.append_assoc, List.getElem?_append_right (not_lt.mp hn)] at h
          obtain hd' | hd' := List.mem_append.mp (List.mem_of_getElem? h)
          · obtain rfl | rfl := hblank
            · cases hd'
            · rw [List.mem_singleton.mp hd'] at hd
              exact absurd hd (by decide)
          · exact hd'
        obtain ⟨hlower, -⟩ := laws.letter c d hmem hd
        refine ⟨text, c, [], rfl, hgap, hlower, (List.take_of_length_le ?_).symm⟩
        rw [hgrown, hlower] at h ⊢
        by_cases hgapped : n < ([' '].intercalate (words host text) ++ gap).length
        · rw [List.getElem?_append_left hgapped, List.getElem?_append_right (not_lt.mp hn)] at h
          obtain rfl | rfl := hblank
          · cases h
          · rw [List.mem_singleton.mp (List.mem_of_getElem? h)] at hd
            exact absurd hd (by decide)
        · rw [List.length_append, List.length_singleton]
          omega

/-- Behind what a part of a text is, normalised, are the words of the rest. -/
theorem words_following {lead : List Char} {c : Char} (hc : isGap host c = false) (follow : List Char) :
    [' '].intercalate (words host (lead ++ [c])) <+: [' '].intercalate (words host (lead ++ [c] ++ follow)) ∧
    fields isSpace (([' '].intercalate (words host (lead ++ [c] ++ follow))).drop
      ([' '].intercalate (words host (lead ++ [c]))).length) = words host follow := by
  have hfields : ∀ text, fields isSpace ([' '].intercalate (words host text)) = words host text :=
    fun text => fields_intercalate rfl fun word hword => of_mem_fields hword
  by_cases htorn : Torn (isGap host) (lead ++ [c]) follow
  · obtain ⟨before, x, y, after, -, -, hx, hy, hxy⟩ := words_torn laws htorn
    rw [hxy, hx, intercalate_torn, List.drop_left, ← hy]
    exact ⟨List.prefix_append _ _, hfields follow⟩
  · have hlead : words host (lead ++ [c]) ≠ [] := by
      intro hnil
      have hflat := flatten_words laws (lead ++ [c])
      have halnum : host.isAlnum c = true := by simpa [isGap] using hc
      rw [hnil, List.filter_append, List.flatMap_append, List.filter_cons_of_pos halnum] at hflat
      have := laws.nonempty c
      simp_all
    rw [words_append laws htorn]
    by_cases hfollow : words host follow = []
    · rw [hfollow, List.append_nil, List.drop_length]
      exact ⟨List.prefix_rfl, rfl⟩
    · rw [intercalate_append ' ' hlead hfollow, List.drop_left, fields_cons rfl]
      exact ⟨List.prefix_append _ _, hfields follow⟩

end

/-! ### A host -/

/-- A host for texts in ASCII. -/
def exampleTextHost : TextHost where
  toHost := asciiHost [] []
  isAlnum c := c.isAlphanum

theorem lowerChar_example (c : Char) : lowerChar exampleTextHost c = [c.toLower] := by
  simp [lowerChar, exampleTextHost, asciiHost]

theorem lowers_example : Lowers exampleTextHost where
  nonempty c := by
    rw [lowerChar_example]
    exact List.cons_ne_nil _ _
  blank c hc := ⟨isAlphanum_of_isSpace hc, by rw [lowerChar_example, toLower_of_isSpace hc]⟩
  unblank c d hd hspace := by
    rw [lowerChar_example, List.mem_singleton] at hd
    by_cases halpha : c.isAlpha
    · have hlower : d.isLower := by rw [hd, Char.isLower_toLower_eq_isAlpha, halpha]
      have := isAlphanum_of_isSpace hspace
      rw [Char.isAlphanum, Char.isAlpha, hlower, Bool.or_true, Bool.true_or] at this
      cases this
    · rw [hd, Char.toLower_eq_of_not_isUpper fun hupper => halpha (by rw [Char.isAlpha, hupper]; rfl)]
  letter c d hd hplain := by
    rw [lowerChar_example, List.mem_singleton] at hd
    refine ⟨by rw [lowerChar_example, hd], ?_⟩
    have hlower : d.isLower := by
      simp only [isPlain, Bool.and_eq_true, decide_eq_true_eq] at hplain
      simpa [Char.isLower, Char.le_def] using hplain.1
    rw [hd, Char.isLower_toLower_eq_isAlpha] at hlower
    show c.isAlphanum = true
    rw [Char.isAlphanum, hlower, Bool.true_or]

end OpenTimeline.Takeover
