import OpenTimeline.Takeover.Text

/-! The objective in an activation message.

`_strip_activation_prefix` looks for the marker in the normalised text and cuts the message at
the place it finds. The two agree where the message has up to its marker no more characters
than its normalised text (`stripActivationPrefix_iff`). -/
namespace OpenTimeline.Takeover
open Library

variable (host : TextHost)

/-! ### The code -/

def activationMarkers : List String := ["take over", "takeover"]

/-- `text.find(part)` -/
def find (text part : String) : Option Nat := text.toList.tails.findIdx? (part.toList.isPrefixOf ·)

/-- The place behind the first marker of a normalised text. -/
def markerEnd (normalized : String) : Option Nat :=
  activationMarkers.findSome? fun marker => (find normalized marker).map (· + marker.length)

def connectives : List String := ["and ", "then ", "now ", "please "]

/-- One turn of the loop over the connectives. -/
def dropConnective (after connective : String) : String :=
  if startsWith (host.lower after) connective then strip (String.ofList (after.toList.drop connective.length)) else after

/-- What the marker's place leaves of a message, without the marks at its start. -/
def cutAt (text : List Char) (stop : Nat) : String :=
  String.ofList ((strip (String.ofList (text.drop stop))).toList.dropWhile (· ∈ ".!?,;:- ".toList))

/-- `_strip_activation_prefix` -/
def stripActivationPrefix (text : String) : String :=
  match markerEnd (normalizeText host text) with
  | some stop => connectives.foldl (dropConnective host) (cutAt text.toList stop)
  | none => ""

/-! ### What is extracted -/

/-- The content is, normalised, the text from a place on, less one leading connective at most. -/
def Extracts (text : String) (stop : Nat) (content : String) : Prop :=
  let following := splitBlanks (String.ofList ((normalizeText host text).toList.drop stop))
  following = splitBlanks (normalizeText host content) ∨
    ∃ connective ∈ connectives, following = strip connective :: splitBlanks (normalizeText host content)

/-- The words the loop drops. -/
def droppedConnectives : List String → String → List String
  | [], _ => []
  | connective :: rest, after =>
    if startsWith (host.lower after) connective then
      strip connective :: droppedConnectives rest (strip (String.ofList (after.toList.drop connective.length)))
    else droppedConnectives rest after

/-- A cut of what follows the marker loses nothing of it but a connective: the words before the cut, and those the loop
drops behind it, are one connective at most, and the cut is not within a word. -/
def Spares (follow : List Char) (n : Nat) : Prop :=
  let lost := splitBlanks (normalizeText host (String.ofList (follow.take n))) ++
    droppedConnectives host connectives (cutAt follow n)
  ¬ Torn (isGap host) (follow.take n) (follow.drop n) ∧ lost.length ≤ 1 ∧ ∀ word ∈ lost, word ∈ connectives.map strip

/-- The laws of the language, with one for `lower` of a text that begins with a connective. -/
structure ActivationLaws : Prop extends Lowers host where
  mark : ∀ c ∈ ".!?,;:- ".toList, host.isAlnum c = false
  start : ∀ text, ∀ connective ∈ connectives, startsWith (host.lower text) connective ↔
    connective.toList <+: text.toList.flatMap (lowerChar host)

variable {host} (laws : ActivationLaws host)
include laws

/-! ### The loop -/

/-- A text that begins with small letters and blanks when lowered begins with as many characters. -/
theorem exists_start {start text : List Char} (hstart : ∀ d ∈ start, isPlain d ∨ d = ' ')
    (h : start <+: text.flatMap (lowerChar host)) : ∃ u rest, text = u ++ rest ∧ u.length = start.length ∧
      u.flatMap (piece host) = start := by
  induction start generalizing text with
  | nil => exact ⟨[], text, rfl, rfl, rfl⟩
  | cons d start ih =>
    cases text with
    | nil => simp at h
    | cons c text =>
      obtain ⟨e, es, hlower⟩ := List.exists_cons_of_ne_nil (laws.nonempty c)
      rw [List.flatMap_cons, hlower, List.cons_append, List.cons_prefix_cons] at h
      obtain ⟨rfl, h⟩ := h
      have hpiece : piece host c = [d] ∧ lowerChar host c = [d] := by
        have hmem : d ∈ lowerChar host c := hlower ▸ List.mem_cons_self ..
        by_cases hspace : isSpace d
        · obtain rfl := laws.unblank c d hmem hspace
          have hsame := (laws.blank c hspace).2
          exact ⟨by rw [piece, hspace, Bool.or_true, if_pos rfl, hsame], hsame⟩
        · have hletter := (hstart d (List.mem_cons_self ..)).resolve_right fun heq => hspace (heq ▸ rfl)
          obtain ⟨hsame, halnum⟩ := laws.letter c d hmem hletter
          exact ⟨by rw [piece, halnum, Bool.true_or, if_pos rfl, hsame], hsame⟩
      rw [hpiece.2] at hlower
      obtain ⟨-, rfl⟩ := List.cons.inj hlower
      obtain ⟨u, rest, rfl, hlength, hpieces⟩ := ih (fun e he => hstart e (List.mem_cons_of_mem _ he)) h
      exact ⟨c :: u, rest, rfl, by simp [hlength], by rw [List.flatMap_cons, hpiece.1, hpieces]; rfl⟩

omit laws in
theorem connective_shape {connective : String} (h : connective ∈ connectives) :
    (∀ d ∈ connective.toList, isPlain d ∨ d = ' ') ∧ connective.toList = (strip connective).toList ++ [' '] ∧
      (strip connective).toList ≠ [] ∧ ∀ d ∈ (strip connective).toList, isSpace d = false := by
  have hall : connectives.all fun connective => (connective.toList.all fun d => isPlain d || d = ' ') &&
      connective.toList = (strip connective).toList ++ [' '] && (strip connective).toList ≠ [] &&
      (strip connective).toList.all fun d => !isSpace d := by decide
  simpa only [Bool.and_eq_true, List.all_eq_true, Bool.or_eq_true, decide_eq_true_eq, Bool.not_eq_true', and_assoc]
    using List.all_eq_true.mp hall connective h

theorem words_connective {connective after : String} (hconnective : connective ∈ connectives)
    (h : startsWith (host.lower after) connective) :
    words host after.toList =
      (strip connective).toList :: words host (strip (String.ofList (after.toList.drop connective.length))).toList := by
  obtain ⟨hletters, hsplit, hne, hnone⟩ := connective_shape hconnective
  obtain ⟨u, rest, htext, hlength, hpieces⟩ := exists_start laws hletters ((laws.start after connective hconnective).mp h)
  have hrest : after.toList.drop connective.length = rest := by
    rw [htext, ← String.length_toList, ← hlength, List.drop_left]
  rw [words_strip laws.toLowers, String.toList_ofList, hrest, words, htext, List.flatMap_append, hpieces, hsplit,
    List.append_assoc, List.singleton_append, fields_append_cons _ _ rfl, fields_field hne hnone]
  rfl

/-- The loop drops words, and leaves the words behind them. -/
theorem words_dropped {names : List String} (hnames : names ⊆ connectives) (after : String) :
    words host after.toList = (droppedConnectives host names after).map String.toList ++
      words host (names.foldl (dropConnective host) after).toList := by
  induction names generalizing after with
  | nil => rfl
  | cons connective names ih =>
    have ih := ih fun name hname => hnames (List.mem_cons_of_mem _ hname)
    rw [List.foldl_cons, droppedConnectives, dropConnective]
    split_ifs with h
    · rw [words_connective laws (hnames (List.mem_cons_self ..)) h, ih]
      rfl
    · exact ih after

omit laws in
theorem mem_dropped {names : List String} {after word : String} (h : word ∈ droppedConnectives host names after) :
    word ∈ names.map strip := by
  induction names generalizing after with
  | nil => cases h
  | cons connective names ih =>
    rw [droppedConnectives] at h
    split_ifs at h
    · obtain rfl | h := List.mem_cons.mp h
      · exact List.mem_cons_self ..
      · exact List.mem_cons_of_mem _ (ih h)
    · exact List.mem_cons_of_mem _ (ih h)

/-- The marks at the ends make no words. -/
theorem words_cutAt (text : List Char) (stop : Nat) : words host (cutAt text stop).toList = words host (text.drop stop) := by
  have hmark : ∀ c, decide (c ∈ ".!?,;:- ".toList) → isGap host c := fun c hc => by
    rw [isGap, laws.mark c (of_decide_eq_true hc)]
    rfl
  rw [cutAt, String.toList_ofList, words_dropWhile laws.toLowers hmark, words_strip laws.toLowers, String.toList_ofList]

/-! ### The cut -/

omit laws in
/-- No connective ends another. -/
theorem connective_suffix {x y : List Char} (hxy : x ++ y ∈ (connectives.map strip).map String.toList)
    (hy : y ∈ (connectives.map strip).map String.toList) : x = [] := by
  have hall : ((connectives.map strip).map String.toList).all fun a =>
      ((connectives.map strip).map String.toList).all fun b => !b.isSuffixOf a || b = a := by decide
  have := List.all_eq_true.mp (List.all_eq_true.mp hall _ hxy) _ hy
  rw [Bool.or_eq_true, Bool.not_eq_true', decide_eq_true_eq] at this
  obtain hnot | hsame := this
  · rw [Bool.eq_false_iff, ne_eq, List.isSuffixOf_iff_suffix] at hnot
    exact absurd (List.suffix_append x y) hnot
  · exact List.append_left_eq_self.mp hsame.symm

/-- A cut behind the marker: what is left of the words is all of them, or all but a leading connective, just where the
cut spares them. -/
theorem spares_iff (follow : List Char) (n : Nat) :
    (words host follow = words host (connectives.foldl (dropConnective host) (cutAt follow n)).toList ∨
      ∃ w ∈ (connectives.map strip).map String.toList, words host follow =
        w :: words host (connectives.foldl (dropConnective host) (cutAt follow n)).toList) ↔ Spares host follow n := by
  have hdropped := words_dropped laws (List.Subset.refl connectives) (cutAt follow n)
  have hmem : ∀ w ∈ (droppedConnectives host connectives (cutAt follow n)).map String.toList,
      w ∈ (connectives.map strip).map String.toList := by
    intro w hw
    obtain ⟨word, hword, rfl⟩ := List.mem_map.mp hw
    exact List.mem_map_of_mem (mem_dropped hword)
  have hlost : splitBlanks (normalizeText host (String.ofList (follow.take n))) =
      (words host (follow.take n)).map String.ofList := by rw [splitBlanks_normalizeText, String.toList_ofList]
  have hsparing : Spares host follow n ↔ ¬ Torn (isGap host) (follow.take n) (follow.drop n) ∧
      (words host (follow.take n) ++ (droppedConnectives host connectives (cutAt follow n)).map String.toList).length ≤ 1 ∧
      ∀ w ∈ words host (follow.take n) ++ (droppedConnectives host connectives (cutAt follow n)).map String.toList,
        w ∈ (connectives.map strip).map String.toList := by
    have hlist : (words host (follow.take n)).map String.ofList ++ droppedConnectives host connectives (cutAt follow n) =
        (words host (follow.take n) ++ (droppedConnectives host connectives (cutAt follow n)).map String.toList).map
          String.ofList := by
      simp [Function.comp_def]
    have hnamed : ∀ w : List Char, String.ofList w ∈ connectives.map strip ↔
        w ∈ (connectives.map strip).map String.toList := by
      intro w
      constructor
      · intro h
        exact List.mem_map.mpr ⟨_, h, String.toList_ofList⟩
      · intro h
        obtain ⟨word, hword, rfl⟩ := List.mem_map.mp h
        rwa [String.ofList_toList]
    simp only [Spares, hlost, hlist, List.length_map, List.forall_mem_map, hnamed]
  rw [words_cutAt laws] at hdropped
  rw [hsparing]
  generalize (droppedConnectives host connectives (cutAt follow n)).map String.toList = dropped at *
  generalize words host (connectives.foldl (dropConnective host) (cutAt follow n)).toList = left at *
  by_cases htorn : Torn (isGap host) (follow.take n) (follow.drop n)
  · -- a word is torn: what is left of it is neither the word nor missing as a whole
    refine iff_of_false ?_ fun h => h.1 htorn
    obtain ⟨before, x, y, after, hx, -, hgone, hrest, hwords⟩ := words_torn laws.toLowers htorn
    rw [List.take_append_drop] at hwords
    rw [hrest] at hdropped
    rw [hwords]
    cases dropped with
    | nil =>
      rw [List.nil_append] at hdropped
      rw [← hdropped]
      rintro (hsame | ⟨w, -, hsame⟩)
      · have hlength := congrArg List.length hsame
        simp only [List.length_append, List.length_cons] at hlength
        rw [List.eq_nil_of_length_eq_zero (by omega : before.length = 0), List.nil_append] at hsame
        exact hx (List.append_left_eq_self.mp (List.cons.inj hsame).1)
      · have hlength := congrArg List.length hsame
        simp only [List.length_append, List.length_cons] at hlength
        obtain ⟨b, rfl⟩ := List.length_eq_one_iff.mp (by omega : before.length = 1)
        exact hx (List.append_left_eq_self.mp (List.cons.inj (List.cons.inj hsame).2).1)
    | cons d ds =>
      obtain ⟨rfl, rfl⟩ := List.cons.inj hdropped
      rintro (hsame | ⟨w, hw, hsame⟩)
      · have hlength := congrArg List.length hsame
        simp only [List.append_eq, List.length_append, List.length_cons] at hlength
        omega
      · have hlength := congrArg List.length hsame
        simp only [List.append_eq, List.length_append, List.length_cons] at hlength
        rw [List.eq_nil_of_length_eq_zero (by omega : before.length = 0), List.nil_append] at hsame
        rw [← (List.cons.inj hsame).1] at hw
        exact hx (connective_suffix hw (hmem y (List.mem_cons_self ..)))
  · have hwords : words host follow = words host (follow.take n) ++ dropped ++ left := by
      have := words_append laws.toLowers htorn
      rwa [List.take_append_drop, hdropped, ← List.append_assoc] at this
    rw [hwords]
    rw [and_iff_right htorn]
    cases words host (follow.take n) ++ dropped with
    | nil => simp
    | cons w rest =>
      cases rest with
      | nil => simp
      | cons v rest =>
        refine iff_of_false ?_ (by simp)
        rintro (hsame | ⟨u, -, hsame⟩)
        · have := congrArg List.length hsame
          simp at this
          omega
        · have := congrArg List.length hsame
          simp at this
          omega

/-- A cut before the end of the marker leaves a letter of it. -/
theorem cut_before {lead follow : List Char} {c : Char} {n : Nat} (hgap : isGap host c = false)
    (hlower : lowerChar host c = ['r']) (hn : n ≤ lead.length) :
    ¬ (words host follow =
        words host (connectives.foldl (dropConnective host) (cutAt (lead ++ c :: follow) n)).toList ∨
      ∃ w ∈ (connectives.map strip).map String.toList, words host follow =
        w :: words host (connectives.foldl (dropConnective host) (cutAt (lead ++ c :: follow) n)).toList) := by
  have hdropped := words_dropped laws (List.Subset.refl connectives) (cutAt (lead ++ c :: follow) n)
  rw [words_cutAt laws, List.drop_append_of_le_length hn] at hdropped
  generalize (connectives.foldl (dropConnective host) (cutAt (lead ++ c :: follow) n)) = left at *
  have hnone : 'r' ∉ ((droppedConnectives host connectives (cutAt (lead ++ c :: follow) n)).map String.toList).flatten := by
    intro hmem
    obtain ⟨w, hw, hr⟩ := List.mem_flatten.mp hmem
    obtain ⟨word, hword, rfl⟩ := List.mem_map.mp hw
    have hall : (connectives.map strip).all fun word => !word.toList.contains 'r' := by decide
    have := List.all_eq_true.mp hall word (mem_dropped hword)
    rw [Bool.not_eq_true', List.contains_eq_mem, decide_eq_false_iff_not] at this
    exact this hr
  -- what is left of the lead, its letter and the words that follow are what is dropped and what is left
  have hflat := congrArg List.flatten hdropped
  have halnum : host.isAlnum c = true := by simpa [isGap] using hgap
  rw [flatten_words laws.toLowers, List.flatten_append, List.filter_append, List.flatMap_append,
    List.filter_cons_of_pos halnum, List.flatMap_cons, hlower, ← flatten_words laws.toLowers follow] at hflat
  rintro (hsame | ⟨w, -, hsame⟩)
  · rw [← hsame, ← List.append_assoc] at hflat
    refine hnone ?_
    rw [← List.append_cancel_right hflat]
    simp
  · rw [hsame, List.flatten_cons, ← List.append_assoc, ← List.append_assoc] at hflat
    refine hnone ?_
    rw [← List.append_cancel_right hflat]
    simp

omit laws in
/-- A marker ends with an r. -/
theorem markerEnd_spec {normalized : String} {stop : Nat} (h : markerEnd normalized = some stop) :
    ∃ n, stop = n + 1 ∧ normalized.toList[n]? = some 'r' := by
  obtain ⟨marker, hmarker, hfound⟩ := List.exists_of_findSome?_eq_some h
  obtain ⟨start, hstart, rfl⟩ := Option.map_eq_some_iff.mp hfound
  obtain ⟨hlt, hhere, -⟩ := List.findIdx?_eq_some_iff_getElem.mp hstart
  rw [List.getElem_tails, List.isPrefixOf_iff_prefix] at hhere
  obtain ⟨rest, hrest⟩ := hhere
  have hsplit : normalized.toList.drop start = marker.toList ++ rest := hrest.symm
  simp only [activationMarkers, List.mem_cons, List.not_mem_nil, or_false] at hmarker
  obtain rfl | rfl := hmarker
  · refine ⟨start + 8, rfl, ?_⟩
    rw [← List.getElem?_drop, hsplit]
    rfl
  · refine ⟨start + 7, rfl, ?_⟩
    rw [← List.getElem?_drop, hsplit]
    rfl

/-- The content of an activation message is the text behind its marker just where the marker's place in the normalised
text is, in the message, not before the marker's end, and the cut there spares what follows. -/
theorem stripActivationPrefix_iff (text : String) (stop : Nat) (h : markerEnd (normalizeText host text) = some stop) :
    ∃ lead follow, text.toList = lead ++ follow ∧
      (normalizeText host (String.ofList lead)).toList = (normalizeText host text).toList.take stop ∧
      (∃ c ∈ lead.getLast?, host.isAlnum c) ∧
      splitBlanks (normalizeText host (String.ofList follow)) =
        splitBlanks (String.ofList ((normalizeText host text).toList.drop stop)) ∧
      (Extracts host text stop (stripActivationPrefix host text) ↔
        lead.length ≤ stop ∧ Spares host follow (stop - lead.length)) := by
  obtain ⟨n, rfl, hletter⟩ := markerEnd_spec h
  rw [normalizeText_toList] at hletter
  obtain ⟨lead, c, follow, htext, hgap, hlower, htake⟩ := exists_source laws.toLowers rfl hletter
  have hsplit : text.toList = lead ++ [c] ++ follow := by rw [htext, List.append_assoc]; rfl
  have hlength : ([' '].intercalate (words host (lead ++ [c]))).length = n + 1 := by
    rw [htake, List.length_take_of_le]
    exact (List.getElem?_eq_some_iff.mp hletter).1
  have hfollowing : fields isSpace ((normalizeText host text).toList.drop (n + 1)) = words host follow := by
    have := (@words_following _ laws.toLowers lead _ hgap follow).2
    rwa [hlength, ← hsplit, ← normalizeText_toList] at this
  have hextracts : ∀ content : String, Extracts host text (n + 1) content ↔
      (words host follow = words host content.toList ∨
        ∃ w ∈ (connectives.map strip).map String.toList, words host follow = w :: words host content.toList) := by
    intro content
    have hinj : Function.Injective (List.map String.ofList) := List.map_injective_iff.mpr fun a b hab => by
      rw [← String.toList_ofList (l := a), hab, String.toList_ofList]
    have hconnective : ∀ connective : String, (words host follow).map String.ofList =
        strip connective :: (words host content.toList).map String.ofList ↔
        words host follow = (strip connective).toList :: words host content.toList := by
      intro connective
      rw [← hinj.eq_iff (b := (strip connective).toList :: words host content.toList), List.map_cons, String.ofList_toList]
    simp only [Extracts, splitBlanks_eq (String.ofList _), String.toList_ofList, hfollowing, splitBlanks_normalizeText,
      hinj.eq_iff, hconnective, List.mem_map, exists_exists_and_eq_and]
  refine ⟨lead ++ [c], follow, hsplit, ?_, ⟨c, by simp, by simpa [isGap] using hgap⟩, ?_, ?_⟩
  · rw [normalizeText_toList, String.toList_ofList, htake, normalizeText_toList]
  · rw [splitBlanks_normalizeText, String.toList_ofList, splitBlanks_eq, String.toList_ofList, hfollowing]
  · rw [hextracts, stripActivationPrefix, h]
    by_cases hstop : (lead ++ [c]).length ≤ n + 1
    · have hcut : cutAt text.toList (n + 1) = cutAt follow (n + 1 - (lead ++ [c]).length) := by
        rw [cutAt, cutAt, hsplit, List.drop_append, List.drop_of_length_le hstop, List.nil_append]
      rw [and_iff_right hstop, ← spares_iff laws, ← hcut]
    · refine iff_of_false ?_ fun h => hstop h.1
      rw [htext]
      rw [List.length_append, List.length_singleton] at hstop
      exact cut_before laws hgap hlower (by omega)

omit laws in
theorem activationLaws_example : ActivationLaws exampleTextHost where
  toLowers := lowers_example
  mark c hc := by
    have hall : ".!?,;:- ".toList.all fun c => !exampleTextHost.isAlnum c := by decide
    simpa using List.all_eq_true.mp hall c hc
  start text connective _ := by
    have hlower : (exampleTextHost.lower text).toList = text.toList.flatMap (lowerChar exampleTextHost) := by
      rw [funext lowerChar_example]
      exact (String.toList_ofList ..).trans List.map_eq_flatMap
    rw [startsWith, List.isPrefixOf_iff_prefix, hlower]

omit laws in
theorem stripActivationPrefix_iff_example :
    markerEnd (normalizeText exampleTextHost "beru take over. and fix it") = some 14 ∧
    ∃ lead follow, "beru take over. and fix it".toList = lead ++ follow ∧
      (normalizeText exampleTextHost (String.ofList lead)).toList =
        (normalizeText exampleTextHost "beru take over. and fix it").toList.take 14 ∧
      (∃ c ∈ lead.getLast?, exampleTextHost.isAlnum c) ∧
      splitBlanks (normalizeText exampleTextHost (String.ofList follow)) = splitBlanks
        (String.ofList ((normalizeText exampleTextHost "beru take over. and fix it").toList.drop 14)) ∧
      (Extracts exampleTextHost "beru take over. and fix it" 14
          (stripActivationPrefix exampleTextHost "beru take over. and fix it") ↔
        lead.length ≤ 14 ∧ Spares exampleTextHost follow (14 - lead.length)) :=
  ⟨by decide +kernel, stripActivationPrefix_iff activationLaws_example "beru take over. and fix it" 14 (by decide +kernel)⟩

omit laws in
/-- Of an emoji before the marker the end of the marker stays, of a second connective nothing. -/
theorem stripActivationPrefix_shifted :
    (markerEnd (normalizeText exampleTextHost "🎉🎉 take over fix the bug") = some 9 ∧
      stripActivationPrefix exampleTextHost "🎉🎉 take over fix the bug" = "ver fix the bug" ∧
      ¬ Extracts exampleTextHost "🎉🎉 take over fix the bug" 9
        (stripActivationPrefix exampleTextHost "🎉🎉 take over fix the bug")) ∧
    stripActivationPrefix exampleTextHost "take over and then fix it" = "fix it" ∧
    ¬ Extracts exampleTextHost "take over and then fix it" 9
      (stripActivationPrefix exampleTextHost "take over and then fix it") := by
  unfold Extracts
  decide +kernel

end OpenTimeline.Takeover
