import OpenTimeline.Library.Segments
import OpenTimeline.Host

/-! The words of a text.

A text is split at runs of blanks. Joined again by one blank each, its words begin and end
with no blank (`strip_collapse`). -/
namespace OpenTimeline

/-- `text.split()` -/
def splitBlanks (text : String) : List String :=
  ((text.toList.splitOnP isSpace).filter (· ≠ [])).map String.ofList

/-- `" ".join(text.split())` -/
def collapse (text : String) : String := " ".intercalate (splitBlanks text)

/-- `takeover.normalize_text`, by `str.lower` and `str.isalnum` for one character. -/
def normalizeWords (lower : String → String) (isAlnum : Char → Bool) (value : String) : String :=
  collapse (String.ofList (value.toList.flatMap fun c =>
    if isAlnum c || isSpace c then (lower (String.singleton c)).toList else [' ']))

theorem of_mem_splitOnP {p : Char → Bool} {cs word : List Char} (h : word ∈ cs.splitOnP p) :
    ∀ c ∈ word, p c = false := by
  induction cs generalizing word with
  | nil => simp_all
  | cons c rest ih =>
    rw [List.splitOnP_cons_eq_if_modifyHead] at h
    split_ifs at h with hc
    · obtain rfl | h := List.mem_cons.mp h
      · simp
      · exact ih h
    · obtain ⟨first, others, hsplit⟩ := List.exists_cons_of_ne_nil (List.splitOnP_ne_nil p rest)
      rw [hsplit, List.modifyHead_cons] at h
      rw [hsplit] at ih
      obtain rfl | h := List.mem_cons.mp h
      · intro d hd
        obtain rfl | hd := List.mem_cons.mp hd
        · simpa using hc
        · exact ih (List.mem_cons_self ..) d hd
      · exact ih (List.mem_cons_of_mem _ h)

theorem splitBlanks_word {text word : String} (h : word ∈ splitBlanks text) :
    word.toList ≠ [] ∧ ∀ c ∈ word.toList, isSpace c = false := by
  obtain ⟨cs, hcs, rfl⟩ := List.mem_map.mp h
  obtain ⟨hmem, hne⟩ := List.mem_filter.mp hcs
  rw [String.toList_ofList]
  exact ⟨by simpa using hne, of_mem_splitOnP hmem⟩

/-- Nothing that `p` accepts at either end. -/
structure Trimmed (p : Char → Bool) (cs : List Char) : Prop where
  head : ∀ h : cs ≠ [], p (cs.head h) = false
  last : ∀ h : cs ≠ [], p (cs.getLast h) = false

theorem Trimmed.stripChars {p : Char → Bool} {cs : List Char} (h : Trimmed p cs) : stripChars p cs = cs := by
  have hdrop : cs.dropWhile p = cs := by
    cases cs with
    | nil => rfl
    | cons c rest => exact List.dropWhile_cons_of_neg (by simpa using h.head (List.cons_ne_nil _ _))
  rw [OpenTimeline.stripChars, hdrop, List.rdropWhile_eq_self_iff]
  intro hne
  simpa using h.last hne

theorem trimmed_intercalate {words : List String}
    (h : ∀ word ∈ words, word.toList ≠ [] ∧ ∀ c ∈ word.toList, isSpace c = false) :
    Trimmed isSpace (" ".intercalate words).toList ∧ (words ≠ [] → (" ".intercalate words).toList ≠ []) := by
  induction words with
  | nil => exact ⟨⟨fun hne => absurd rfl hne, fun hne => absurd rfl hne⟩, fun hne => absurd rfl hne⟩
  | cons word rest ih =>
    obtain ⟨hword, hblank⟩ := h word (List.mem_cons_self ..)
    cases rest with
    | nil =>
      rw [String.intercalate_singleton]
      exact ⟨⟨fun hne => hblank _ (List.head_mem hne), fun hne => hblank _ (List.getLast_mem hne)⟩, fun _ => hword⟩
    | cons next rest =>
      obtain ⟨htrimmed, hne⟩ := ih fun w hw => h w (List.mem_cons_of_mem _ hw)
      have hne := hne (List.cons_ne_nil _ _)
      rw [String.intercalate_cons_cons, String.toList_append, String.toList_append]
      refine ⟨⟨fun _ => ?_, fun _ => ?_⟩, fun _ => by simp [hword]⟩
      · simp only [List.append_assoc, List.head_append_of_ne_nil hword]
        exact hblank _ (List.head_mem hword)
      · simp only [List.getLast_append_of_ne_nil _ hne]
        exact htrimmed.last hne

theorem strip_strip (text : String) : strip (strip text) = strip text := by
  rw [strip, strip, String.toList_ofList, stripChars, stripChars, Library.trim_trim]

theorem strip_collapse (text : String) : strip (collapse text) = collapse text := by
  rw [strip, collapse, (trimmed_intercalate fun _ => splitBlanks_word).1.stripChars, String.ofList_toList]

/-! ### Blanks in ASCII -/

theorem isAlphanum_of_isSpace {c : Char} (h : isSpace c) : c.isAlphanum = false := by
  have hmem : c.toNat ∈ _ := of_decide_eq_true h
  have hall := List.all_eq_true (p := fun n => !(Char.ofNat n).isAlphanum).mp (by decide) _ hmem
  simpa using hall

theorem toLower_of_isSpace {c : Char} (h : isSpace c) : c.toLower = c := by
  refine Char.toLower_eq_of_not_isUpper fun hupper => ?_
  have := isAlphanum_of_isSpace h
  rw [Char.isAlphanum, Char.isAlpha, hupper] at this
  cases this

end OpenTimeline
