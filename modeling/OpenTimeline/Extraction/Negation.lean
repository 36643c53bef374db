import OpenTimeline.Extraction.Recorded
import OpenTimeline.Library.Runs

/-! Negation and sentences.

The tokens of a text are those of its sentences, one after the other (`tokens_eq`), and no mark
between the sentences is one of them. So the window before an alternative goes back into the
sentence before, and a negation there turns round what this one affirms
(`negation_within_sentence_iff`). -/
namespace OpenTimeline.Extraction
open Library (fields)
open Library.Regex

variable (host : TextHost)

/-- Case is folded character by character; blanks and the marks between sentences stay. -/
structure Folds : Prop where
  each : ∀ text, (host.casefold text).toList = text.toList.flatMap fun c => (host.casefold (String.singleton c)).toList
  mark : ∀ c, isSpace c ∨ c ∈ ['.', '?', '!', '\n'] → (host.casefold (String.singleton c)).toList = [c]

/-! ### Tokens of sentences -/

/-- A character, folded. -/
def foldChar (c : Char) : List Char :=
  (host.casefold (String.singleton c)).toList.map fun c => if c = '’' then '\'' else c

/-- The tokens of a part of a text. -/
def partTokens (part : List Char) : List String := (tokenPattern.findAll (part.flatMap (foldChar host))).map String.ofList

def isTokenChar (c : Char) : Bool := c ∈ "abcdefghijklmnopqrstuvwxyz0123456789'".toList

/-- How many characters the next token takes. -/
def tokenCount (text : List Char) : Nat :=
  if (text.takeWhile isTokenChar).length = 0 then if text.head?.any (· ∈ [',', ';', ':']) then 1 else 0
  else (text.takeWhile isTokenChar).length

theorem takes_token : tokenPattern.Takes tokenCount := (takes_run _).alt (takes_char _)

/-- What ends a sentence, or is blank. -/
def isMark (c : Char) : Bool := isSpace c || c ∈ ['.', '?', '!', '\n']

theorem mark_no_token {c : Char} (hc : isMark c) :
    isTokenChar c = false ∧ c ∉ [',', ';', ':'] ∧ (if c = '’' then '\'' else c) = c := by
  have hall : ("abcdefghijklmnopqrstuvwxyz0123456789',;:’".toList.all fun d => !isMark d) := by decide
  have hnone : ∀ d ∈ "abcdefghijklmnopqrstuvwxyz0123456789',;:’".toList, c ≠ d := by
    rintro d hd rfl
    have := List.all_eq_true.mp hall c hd
    rw [hc] at this
    cases this
  refine ⟨?_, fun hmem => ?_, if_neg (hnone '’' (by decide))⟩
  · rw [isTokenChar, decide_eq_false_iff_not]
    exact fun hmem => hnone c (List.mem_append_left ",;:’".toList hmem) rfl
  · simp only [List.mem_cons, List.not_mem_nil, or_false] at hmem
    obtain rfl | rfl | rfl := hmem
    · exact hnone ',' (by decide) rfl
    · exact hnone ';' (by decide) rfl
    · exact hnone ':' (by decide) rfl

theorem tokenCount_stop {c : Char} (hc : isMark c) (u v : List Char) : tokenCount (u ++ c :: v) = tokenCount u := by
  obtain ⟨hchar, hclause, -⟩ := mark_no_token hc
  have hrun : (u ++ c :: v).takeWhile isTokenChar = u.takeWhile isTokenChar := by
    induction u with
    | nil => rw [List.nil_append, List.takeWhile_cons_of_neg (by rw [hchar]; exact Bool.false_ne_true)]; rfl
    | cons d u ih => rw [List.cons_append, List.takeWhile_cons, List.takeWhile_cons, ih]
  have hhead : (u ++ c :: v).head?.any (· ∈ [',', ';', ':']) = u.head?.any (· ∈ [',', ';', ':']) := by
    cases u with
    | nil => simpa using hclause
    | cons d u => rfl
  rw [tokenCount, tokenCount, hrun, hhead]

variable {host}

section
variable (laws : Folds host)
include laws

theorem tokens_eq_partTokens (text : String) : tokens host text = partTokens host text.toList := by
  rw [tokens, partTokens, laws.each, List.map_flatMap]
  rfl

theorem partTokens_append {c : Char} (hc : isMark c) (u v : List Char) :
    partTokens host (u ++ c :: v) = partTokens host u ++ partTokens host v := by
  have hfold : foldChar host c = [c] := by
    rw [foldChar, laws.mark c (by simpa [isMark] using hc), List.map_singleton, (mark_no_token hc).2.2]
  rw [partTokens, List.flatMap_append, List.flatMap_cons, hfold, List.singleton_append,
    takes_token.findAll_append (tokenCount_stop hc), List.map_append]
  rfl

omit laws in
theorem partTokens_nil : partTokens host [] = [] := by
  rw [partTokens, List.flatMap_nil, takes_token.findAll_nil]
  rfl

theorem partTokens_strip (text : String) : partTokens host (strip text).toList = partTokens host text.toList := by
  have hspace : ∀ c, isSpace c → isMark c := fun c hc => by rw [isMark, hc]; rfl
  have hdrop : ∀ text, partTokens host (text.dropWhile isSpace) = partTokens host text := by
    intro text
    induction text with
    | nil => rfl
    | cons c rest ih =>
      cases hc : isSpace c with
      | false => rw [List.dropWhile_cons_of_neg (by simp [hc])]
      | true =>
        have := partTokens_append laws (hspace c hc) [] rest
        rw [List.dropWhile_cons_of_pos hc, ih, ← List.nil_append (c :: rest), this, partTokens_nil]
        rfl
  have hrdrop : ∀ text, partTokens host (text.rdropWhile isSpace) = partTokens host text := by
    intro text
    induction text using List.reverseRecOn with
    | nil => rfl
    | append_singleton rest c ih =>
      cases hc : isSpace c with
      | false => rw [List.rdropWhile_concat_neg _ _ _ (by simp [hc])]
      | true => rw [List.rdropWhile_concat_pos _ _ _ hc, ih, partTokens_append laws (hspace c hc) rest [], partTokens_nil,
          List.append_nil]
  rw [strip, String.toList_ofList, stripChars, hrdrop, hdrop]

/-- The tokens of a text are those of its sentences. -/
theorem tokens_eq (text : String) : tokens host text = (sentences text).flatMap (tokens host) := by
  have hparts : ∀ parts : List (List Char),
      ((parts.map fun part => strip (String.ofList part)).filter (· ≠ "")).flatMap (tokens host) =
        (parts.filter fun part => !part.isEmpty).flatMap (partTokens host) := by
    intro parts
    induction parts with
    | nil => rfl
    | cons part parts ih =>
      have hsame : partTokens host (strip (String.ofList part)).toList = partTokens host part := by
        rw [partTokens_strip laws, String.toList_ofList]
      have hleft : ([strip (String.ofList part)].filter (· ≠ "")).flatMap (tokens host) = partTokens host part := by
        by_cases hempty : strip (String.ofList part) = ""
        · rw [← hsame, hempty]
          exact partTokens_nil.symm
        · rw [List.filter_cons_of_pos (by simpa using hempty), List.filter_nil, List.flatMap_singleton,
            tokens_eq_partTokens laws, hsame]
      have hright : ([part].filter fun part => !part.isEmpty).flatMap (partTokens host) = partTokens host part := by
        cases part with
        | nil => exact partTokens_nil.symm
        | cons c rest => rw [List.filter_cons_of_pos rfl, List.filter_nil, List.flatMap_singleton]
      rw [← List.singleton_append, List.map_append, List.filter_append, List.flatMap_append, List.filter_append,
        List.flatMap_append, ih, List.map_singleton, hleft, hright]
  rw [sentences, hparts, sentenceSplitPattern, oneOf, split_run, tokens_eq_partTokens laws]
  refine (Library.flatMap_fields partTokens_nil (fun u c v hc => partTokens_append laws ?_ u v) text.toList).symm
  rw [isMark, hc, Bool.or_true]

end

/-! ### Negation -/

/-- A word or two of negation among tokens. -/
def negates (window : List String) : Bool :=
  window.any (· ∈ negationTokens) || (window.zip window.tail).any negationBigrams.contains

/-- The last of some tokens, up to a break between clauses. -/
def lastTokens (n : Nat) (before : List String) : List String :=
  ((before.reverse.take n).takeWhile (· ∉ clauseBreaks)).reverse

theorem negatedAt_eq (u v : List String) : negatedAt (u ++ v) u.length = negates (lastTokens negationWindow u) := by
  have hbigrams : negationBigrams.contains = fun pair => decide (pair ∈ negationBigrams) :=
    funext fun pair => List.contains_eq_mem pair negationBigrams
  rw [negatedAt, List.take_left, negates, hbigrams]
  rfl

theorem mem_zip_tail {x y : String} {items : List String} : (x, y) ∈ items.zip items.tail ↔ [x, y] <:+: items := by
  induction items with
  | nil => simp
  | cons a rest ih =>
    cases rest with
    | nil =>
      refine iff_of_false (by simp) fun h => ?_
      have := h.length_le
      simp at this
    | cons b rest =>
      rw [List.infix_cons_iff, ← ih, List.tail_cons, List.zip_cons_cons, List.mem_cons, List.cons_prefix_cons,
        List.cons_prefix_cons, Prod.mk.injEq, List.tail_cons]
      simp

/-- A negation in a part is one in the whole. -/
theorem negates_mono {u v : List String} (h : u <:+: v) (hu : negates u) : negates v := by
  simp only [negates, Bool.or_eq_true, List.any_eq_true, decide_eq_true_eq, List.contains_iff_mem, Prod.exists,
    mem_zip_tail] at hu ⊢
  obtain ⟨token, hmem, hnegation⟩ | ⟨x, y, hmem, hnegation⟩ := hu
  · exact Or.inl ⟨token, h.subset hmem, hnegation⟩
  · exact Or.inr ⟨x, y, hmem.trans h, hnegation⟩

/-- A negation before a sentence reaches behind so many of its tokens: there are fewer than the window has, no break
between clauses among them, and with what of the window is left for the sentences before there is a negation. -/
def Crossed (before u : List String) : Prop :=
  u.length < negationWindow ∧ (∀ token ∈ u, token ∉ clauseBreaks) ∧
    negates (lastTokens (negationWindow - u.length) before ++ u)

theorem negates_append_iff {u : List String} (h : negates u = false) (before : List String) :
    negates (lastTokens negationWindow (before ++ u)) ↔ Crossed before u := by
  have hclear : ∀ window, window <:+ u → ¬ negates window := fun window hsuffix hnegates => by
    rw [negates_mono hsuffix.isInfix hnegates] at h
    cases h
  have hreverse : ∀ part, part <+: u.reverse → part.reverse <:+ u := fun part hpart => by
    rwa [← List.reverse_prefix, List.reverse_reverse]
  rw [lastTokens, List.reverse_append, List.take_append, List.length_reverse]
  by_cases hroom : u.length < negationWindow
  · rw [List.take_of_length_le (by rw [List.length_reverse]; exact hroom.le), List.takeWhile_append]
    by_cases hbreak : ∀ token ∈ u, token ∉ clauseBreaks
    · have hall : u.reverse.takeWhile (· ∉ clauseBreaks) = u.reverse := by
        rw [List.takeWhile_eq_self_iff]
        simpa using hbreak
      rw [Crossed, and_iff_right hroom, and_iff_right hbreak, hall, if_pos rfl, List.reverse_append,
        List.reverse_reverse]
      rfl
    · have hshort : (u.reverse.takeWhile (· ∉ clauseBreaks)).length ≠ u.reverse.length := by
        intro hlength
        refine hbreak fun token htoken => ?_
        have hall := (List.takeWhile_prefix _).eq_of_length hlength
        rw [List.takeWhile_eq_self_iff] at hall
        simpa using hall token (List.mem_reverse.mpr htoken)
      rw [if_neg hshort]
      exact iff_of_false (hclear _ (hreverse _ (List.takeWhile_prefix _))) fun hcrossed => hbreak hcrossed.2.1
  · rw [Nat.sub_eq_zero_of_le (not_lt.mp hroom), List.take_zero, List.append_nil]
    exact iff_of_false (hclear _ (hreverse _ ((List.takeWhile_prefix _).trans (List.take_prefix _ _))))
      fun hcrossed => hroom hcrossed.1

/-! ### What a sentence affirms -/

variable (host) in
/-- An alternative stands in a text behind some tokens. -/
def StandsBehind (text alternative : String) (before : List String) : Prop :=
  ∃ after, tokens host text = before ++ tokens host alternative ++ after

variable (host) in
/-- Some sentence that holds an alternative with no negation before it has it affirmed in the text. -/
def NegationKept (text : String) (alternatives : List String) : Prop :=
  ∀ sentence ∈ sentences text, ∀ alternative ∈ alternatives, ∀ before, tokens host alternative ≠ [] →
    StandsBehind host sentence alternative before → negates before = false →
    (alternative, false) ∈ matchAlternatives host text alternatives

variable (host) in
/-- What a sentence affirms is what is recorded as the answer, if one is. -/
def NeverOther (text : String) (alternatives : List String) : Prop :=
  ∀ sentence ∈ sentences text, ∀ alternative ∈ alternatives, ∀ before, tokens host alternative ≠ [] →
    StandsBehind host sentence alternative before → negates before = false →
    ∀ (b : Builder) (opportunity : DecisionOpportunity), opportunity.alternatives = alternatives →
      ∀ candidate, b.answer host text opportunity = some candidate →
        ∀ selected, candidate.selectedOption = some selected → selected = alternative

/-- A text affirms an alternative just where it stands once with no negation shortly before it. -/
theorem affirmed_iff {text alternative : String} {alternatives : List String} (hmem : alternative ∈ alternatives)
    (hphrase : tokens host alternative ≠ []) : (alternative, false) ∈ matchAlternatives host text alternatives ↔
      ∃ before, StandsBehind host text alternative before ∧ negates (lastTokens negationWindow before) = false := by
  have hplaces : (∃ idx ∈ spanIndices (tokens host text) (tokens host alternative), negatedAt (tokens host text) idx = false) ↔
      ∃ before, StandsBehind host text alternative before ∧ negates (lastTokens negationWindow before) = false := by
    rw [spanIndices, if_neg hphrase]
    constructor
    · rintro ⟨idx, hidx, hclear⟩
      obtain ⟨u, v, hsplit, rfl⟩ := (Library.mem_places_iff hphrase).mp hidx
      rw [hsplit, List.append_assoc, negatedAt_eq] at hclear
      exact ⟨u, ⟨v, hsplit⟩, hclear⟩
    · rintro ⟨u, ⟨v, hsplit⟩, hclear⟩
      refine ⟨u.length, (Library.mem_places_iff hphrase).mpr ⟨u, v, hsplit, rfl⟩, ?_⟩
      rwa [hsplit, List.append_assoc, negatedAt_eq]
  rw [← hplaces, matchAlternatives, List.mem_filterMap]
  constructor
  · rintro ⟨other, -, hmatch⟩
    split at hmatch
    · cases hmatch
    · obtain ⟨rfl, hall⟩ := Prod.mk.inj (Option.some.inj hmatch)
      simpa using hall
  · intro hclear
    refine ⟨alternative, hmem, ?_⟩
    split
    · next hnone =>
      rw [hnone] at hclear
      simp at hclear
    · simpa using hclear

/-- An answer to a question one of whose alternatives a text affirms selects that one or none. -/
theorem answer_of_affirmed {b : Builder} {opportunity : DecisionOpportunity} {text alternative selected : String}
    {candidate : DecisionCandidate} (haffirmed : (alternative, false) ∈ matchAlternatives host text opportunity.alternatives)
    (h : b.answer host text opportunity = some candidate) (hselected : candidate.selectedOption = some selected) :
    selected = alternative := by
  have hside : alternative ∈ (Builder.sides host text opportunity.alternatives).1 := by
    rw [Builder.sides, List.mem_map]
    exact ⟨(alternative, false), by simpa [List.partition_eq_filter_filter] using haffirmed, rfl⟩
  unfold Builder.answer at h
  simp only at h
  split at h
  · cases h
  · next only _ hsides =>
    cases h
    rw [hsides, List.mem_singleton] at hside
    rw [hside]
    exact (Option.some.inj hselected).symm
  · cases h
    cases hselected
  · next hsides =>
    rw [hsides] at hside
    cases hside

/-- What a sentence affirms with no negation before it is affirmed in the text, and never answered by another
alternative, just where each such alternative that a negation of an earlier sentence reaches stands elsewhere in the text
with none shortly before it. -/
theorem negation_within_sentence_iff (laws : Folds host) (text : String) (alternatives : List String) :
    (NegationKept host text alternatives ∧ NeverOther host text alternatives) ↔
    ∀ earlier sentence later, sentences text = earlier ++ sentence :: later →
      ∀ alternative ∈ alternatives, ∀ before, tokens host alternative ≠ [] →
      StandsBehind host sentence alternative before → negates before = false →
      Crossed (earlier.flatMap (tokens host)) before →
      ∃ elsewhere, StandsBehind host text alternative elsewhere ∧ negates (lastTokens negationWindow elsewhere) = false := by
  constructor
  · rintro ⟨hkept, -⟩ earlier sentence later hsentences alternative hmem before hphrase hstands hclear -
    have hsentence : sentence ∈ sentences text := by simp [hsentences]
    exact (affirmed_iff hmem hphrase).mp (hkept sentence hsentence alternative hmem before hphrase hstands hclear)
  · intro hcrossed
    have hkept : NegationKept host text alternatives := by
      intro sentence hsentence alternative hmem before hphrase hstands hclear
      obtain ⟨earlier, later, hsentences⟩ := List.append_of_mem hsentence
      rw [affirmed_iff hmem hphrase]
      by_cases hreached : Crossed (earlier.flatMap (tokens host)) before
      · exact hcrossed earlier sentence later hsentences alternative hmem before hphrase hstands hclear hreached
      · obtain ⟨after, hafter⟩ := hstands
        refine ⟨earlier.flatMap (tokens host) ++ before, ⟨after ++ later.flatMap (tokens host), ?_⟩, ?_⟩
        · rw [tokens_eq laws, hsentences, List.flatMap_append, List.flatMap_cons, hafter]
          simp only [List.append_assoc]
        · rw [Bool.eq_false_iff]
          exact mt (negates_append_iff hclear _).mp hreached
    refine ⟨hkept, ?_⟩
    rintro sentence hsentence alternative hmem before hphrase hstands hclear b opportunity rfl candidate hanswer selected
      hselected
    exact answer_of_affirmed (hkept sentence hsentence alternative hmem before hphrase hstands hclear) hanswer hselected

theorem folds_example : Folds exampleTextHost where
  each text := by simp [exampleTextHost, List.map_eq_flatMap]
  mark c hc := by
    have hsame : c.toLower = c := by
      obtain hspace | hmark := hc
      · exact toLower_of_isSpace hspace
      · simp only [List.mem_cons, List.not_mem_nil, or_false] at hmark
        obtain rfl | rfl | rfl | rfl := hmark <;> rfl
    simp [exampleTextHost, hsame]

theorem negation_within_sentence_iff_example :
    (NegationKept exampleTextHost "Not today. Use postgres." ["postgres", "redis"] ∧
      NeverOther exampleTextHost "Not today. Use postgres." ["postgres", "redis"]) ↔
    ∀ earlier sentence later, sentences "Not today. Use postgres." = earlier ++ sentence :: later →
      ∀ alternative ∈ ["postgres", "redis"], ∀ before, tokens exampleTextHost alternative ≠ [] →
      StandsBehind exampleTextHost sentence alternative before → negates before = false →
      Crossed (earlier.flatMap (tokens exampleTextHost)) before →
      ∃ elsewhere, StandsBehind exampleTextHost "Not today. Use postgres." alternative elsewhere ∧
        negates (lastTokens negationWindow elsewhere) = false :=
  negation_within_sentence_iff folds_example "Not today. Use postgres." ["postgres", "redis"]

def exampleChoice : DecisionOpportunity where
  opportunityId := "o"
  questionText := "Which one?"
  alternatives := ["postgres", "redis"]
  status := .open
  frozenAt := epoch
  expiresAt := none

/-- The answer to a question is the alternative that no sentence names. -/
theorem negation_crosses :
    "Use postgres" ∈ sentences "No. Use postgres." ∧
    StandsBehind exampleTextHost "Use postgres" "postgres" ["use"] ∧ negates ["use"] = false ∧
    matchAlternatives exampleTextHost "No. Use postgres." ["postgres", "redis"] = [("postgres", true)] ∧
    ((extractCandidates exampleTextHost ⟨"No. Use postgres.", some .humanInput, none, none⟩ [] [exampleChoice] "v").map
      fun candidate => (candidate.kind, candidate.selectedOption)) = [(.answer, some "redis")] := by
  refine ⟨by decide +kernel, ⟨[], by decide +kernel⟩, ?_⟩
  decide +kernel

end OpenTimeline.Extraction
