import OpenTimeline.Library.Substitution
import OpenTimeline.Redaction

/-! What redaction leaves.

Each pass puts a name in angle brackets in place of what it finds, and the passes after it see the brackets. No token,
e-mail address or private key has a bracket, so none comes up again where a pass has cut a text; the value of a key
may have one, but then there was a value before. So of four of the five patterns nothing is found in a redacted text,
nor in any part that is cut out of it (`redactText_leaves`). The credentials of a URL are not among the four: they may
have brackets anywhere.

A payload is redacted at every depth, but below the keys that are let through, and a hint of a project lets none
through (`redactPayload_leaves`). -/
namespace OpenTimeline
open Library (Regex)
open Library.Regex

/-! ### The patterns and the labels -/

/-- `[^\s,;]` -/
def isKeyValueChar (c : Char) : Bool := !isSpace c && c ≠ ',' && c ≠ ';'

/-- The name of a key and what separates it from its value. -/
def keyPattern : Regex :=
  .seq (any [all [litFold "api", opt (oneOf "_-".toList), litFold "key"], litFold "token", litFold "secret",
    litFold "password"]) (many1 (oneOf "\"' :=".toList))

theorem plain_of_decide {r : Regex} {label : String} (h : r.lookFree && !r.nullable && !r.mayTake '<' &&
    !r.mayTake '>' && !r.found label.toList) : r.Plain label.toList := by
  simp only [Bool.and_eq_true, Bool.not_eq_true'] at h
  exact ⟨h.1.1.1.1, h.1.1.1.2, ⟨h.1.1.2, h.1.2⟩, h.2⟩

/-- What replaces the matches of the passes after the first, and of a hint. -/
def laterLabels : List String :=
  ["REDACTED:TOKEN", "REDACTED:EMAIL", "REDACTED:API_KEY", "REDACTED:PRIVATE_KEY", "REDACTED:HINT"]

theorem plain_labels : ∀ label ∈ laterLabels, tokenPattern.Plain label.toList ∧ emailPattern.Plain label.toList ∧
    keyPattern.Plain label.toList ∧ privateKeyPattern.Plain label.toList := by
  have hall : laterLabels.all (fun label => [tokenPattern, emailPattern, keyPattern, privateKeyPattern].all fun r =>
      r.lookFree && !r.nullable && !r.mayTake '<' && !r.mayTake '>' && !r.found label.toList) = true := by
    decide +kernel
  intro label hlabel
  have hpatterns := List.all_eq_true.mp (List.all_eq_true.mp hall label hlabel)
  exact ⟨plain_of_decide (hpatterns _ (by simp)), plain_of_decide (hpatterns _ (by simp)),
    plain_of_decide (hpatterns _ (by simp)), plain_of_decide (hpatterns _ (by simp))⟩

/-- The pattern of a key with its value, in two ways to bracket it. -/
theorem matches_apiKey_iff {before word after : List Char} :
    apiKeyPattern.Matches before word after ↔ (tailed keyPattern isKeyValueChar).Matches before word after := by
  constructor
  · rintro ⟨k, rest, rfl, hk, s, v, rfl, hs, hv⟩
    rw [List.append_assoc] at hk
    refine ⟨k ++ s, v, by rw [List.append_assoc], ⟨k, s, rfl, hk, hs⟩, ?_⟩
    rw [List.reverse_append, List.append_assoc]
    exact hv
  · rintro ⟨ks, v, rfl, ⟨k, s, rfl, hk, hs⟩, hv⟩
    rw [List.reverse_append, List.append_assoc] at hv
    refine ⟨k, s ++ v, by rw [List.append_assoc], ?_, s, v, rfl, hs, hv⟩
    rwa [List.append_assoc]

theorem found_apiKey_iff {text : List Char} :
    apiKeyPattern.found text ↔ (tailed keyPattern isKeyValueChar).found text := by
  simp only [found_iff, matches_apiKey_iff]

/-- The characters that no value of a key has. -/
def separatorCodes : List Nat :=
  [9, 10, 11, 12, 13, 28, 29, 30, 31, 32, 133, 160, 5760, 8192, 8193, 8194, 8195, 8196, 8197, 8198, 8199, 8200, 8201,
    8202, 8232, 8233, 8239, 8287, 12288, 44, 59]

theorem mem_separatorCodes {c : Char} (h : isKeyValueChar c = false) : c ∈ separatorCodes.map Char.ofNat := by
  refine List.mem_map.mpr ⟨c.toNat, ?_, Char.ofNat_toNat c⟩
  rw [isKeyValueChar, Bool.and_eq_false_iff, Bool.and_eq_false_iff] at h
  rcases h with (hspace | hcomma) | hsemicolon
  · rw [Bool.not_eq_false', isSpace, decide_eq_true_eq] at hspace
    exact List.mem_append_left [44, 59] hspace
  · obtain rfl : c = ',' := by simpa using hcomma
    decide
  · obtain rfl : c = ';' := by simpa using hsemicolon
    decide

/-- A key starts with a letter, which its value may have. -/
theorem isKeyValueChar_of_mayStart {c : Char} (h : keyPattern.mayStart c) : isKeyValueChar c := by
  have hletter : foldCase c = 'a' ∨ foldCase c = 't' ∨ foldCase c = 's' ∨ foldCase c = 'p' := by
    simpa [keyPattern, any, all, litFold, opt, mayStart, Regex.nullable, foldCase] using h
  by_contra hnone
  have hall : (separatorCodes.map Char.ofNat).all (fun c => foldCase c ∉ ['a', 't', 's', 'p']) = true := by decide
  have hnot := List.all_eq_true.mp hall c (mem_separatorCodes (by simpa using hnone))
  simp only [List.mem_cons, List.not_mem_nil, or_false, decide_eq_true_eq] at hnot
  exact hnot hletter

/-! ### Pass after pass -/

section Pass
variable {state : List Char × List String} {name replacement label : String} {q r : Regex}

/-- One pass: the text is as it was, with nothing found, or its matches are replaced. -/
theorem redactPattern_fst (state : List Char × List String) (name : String) (r : Regex)
    (hlabel : replacement.toList = bracketed label.toList) :
    (r.found state.1 = false ∧ (redactPattern state (name, r, replacement)).1 = state.1) ∨
      (redactPattern state (name, r, replacement)).1 = r.sub (bracketed label.toList) state.1 := by
  cases hfound : r.found state.1 with
  | false => exact Or.inl ⟨rfl, by simp [redactPattern, hfound]⟩
  | true => exact Or.inr (by simp [redactPattern, hfound, hlabel])

theorem redactPattern_gone (hlabel : replacement.toList = bracketed label.toList) (hr : r.Plain label.toList) :
    ¬ r.found (redactPattern state (name, r, replacement)).1 := by
  rcases redactPattern_fst state name r hlabel with ⟨hnone, hsame⟩ | hsub
  · simp [hsame, hnone]
  · rw [hsub]
    exact not_found_sub hr _

theorem redactPattern_stays (hlabel : replacement.toList = bracketed label.toList) (hq : q.Plain label.toList)
    (hr : r.nullable = false) (h : ¬ q.found state.1) : ¬ q.found (redactPattern state (name, r, replacement)).1 := by
  rcases redactPattern_fst state name r hlabel with ⟨-, hsame⟩ | hsub
  · rwa [hsame]
  · rw [hsub]
    exact fun hfound => h (found_of_found_sub hq hr hfound)

theorem redactPattern_apiKey (hlabel : replacement.toList = bracketed label.toList) (hq : keyPattern.Plain label.toList) :
    ¬ apiKeyPattern.found (redactPattern state (name, apiKeyPattern, replacement)).1 := by
  rcases redactPattern_fst state name apiKeyPattern hlabel with ⟨hnone, hsame⟩ | hsub
  · simp [hsame, hnone]
  · rw [hsub, found_apiKey_iff]
    refine not_found_sub_tailed hq (by decide) (fun c hc => isKeyValueChar_of_mayStart ?_)
      (fun _ _ _ => matches_apiKey_iff.mpr) _
    simpa [apiKeyPattern, keyPattern, all, any, litFold, opt, mayStart, Regex.nullable] using hc

theorem redactPattern_apiKey_stays (hlabel : replacement.toList = bracketed label.toList)
    (hq : keyPattern.Plain label.toList) (hr : r.nullable = false) (hstart : ∀ c, r.mayStart c → isKeyValueChar c)
    (h : ¬ apiKeyPattern.found state.1) : ¬ apiKeyPattern.found (redactPattern state (name, r, replacement)).1 := by
  rcases redactPattern_fst state name r hlabel with ⟨-, hsame⟩ | hsub
  · rwa [hsame]
  · rw [found_apiKey_iff] at h ⊢
    rw [hsub]
    exact fun hfound => h (tailed_found_of_found_sub hq hr hstart hfound)

end Pass

/-- The patterns that the passes leave nothing of, apart from the one with a tail. -/
def plainPatterns : List Regex := [tokenPattern, emailPattern, privateKeyPattern]

/-- Nothing is found of the four patterns after the five passes. -/
theorem passes_leave (text : List Char) : let redacted := (secretPatterns.foldl redactPattern (text, [])).1
    (∀ r ∈ plainPatterns, ¬ r.found redacted) ∧ ¬ apiKeyPattern.found redacted := by
  obtain ⟨htoken, -, -, -⟩ := plain_labels "REDACTED:TOKEN" (by decide)
  obtain ⟨htokenEmail, hemail, -, -⟩ := plain_labels "REDACTED:EMAIL" (by decide)
  obtain ⟨htokenKey, hemailKey, hkey, -⟩ := plain_labels "REDACTED:API_KEY" (by decide)
  obtain ⟨htokenLast, hemailLast, hkeyLast, hprivate⟩ := plain_labels "REDACTED:PRIVATE_KEY" (by decide)
  have hstart : ∀ c, privateKeyPattern.mayStart c → isKeyValueChar c := by
    intro c hc
    obtain rfl : c = '-' := by simpa [privateKeyPattern, all, lit, mayStart, Regex.nullable] using hc
    decide
  simp only [secretPatterns, List.foldl_cons, List.foldl_nil]
  refine ⟨?_, redactPattern_apiKey_stays rfl hkeyLast rfl hstart (redactPattern_apiKey rfl hkey)⟩
  simp only [plainPatterns, List.mem_cons, List.not_mem_nil, or_false, forall_eq_or_imp, forall_eq]
  refine ⟨?_, ?_, redactPattern_gone rfl hprivate⟩
  · refine redactPattern_stays rfl htokenLast rfl (redactPattern_stays rfl htokenKey rfl ?_)
    exact redactPattern_stays rfl htokenEmail rfl (redactPattern_gone rfl htoken)
  · exact redactPattern_stays rfl hemailLast rfl (redactPattern_stays rfl hemailKey rfl (redactPattern_gone rfl hemail))

/-! ### Hints -/

theorem nullable_lit {word : String} (h : word ≠ "") : (lit word).nullable = false := by
  rw [lit]
  cases hword : word.toList with
  | nil => exact absurd (String.toList_eq_nil_iff.mp hword) h
  | cons c cs => rfl

theorem mayStart_lit {word : String} {c : Char} (h : (lit word).mayStart c) : word.toList.head? = some c := by
  rw [lit] at h
  cases hword : word.toList with
  | nil => simp [hword, mayStart] at h
  | cons d cs =>
    rw [hword] at h
    simpa [mayStart, Regex.nullable, eq_comm] using h

theorem redactHint_fst (state : List Char × List String) (hint : String) : (redactHint state hint).1 = state.1 ∨
    hint ≠ "" ∧ (redactHint state hint).1 = (lit hint).sub (bracketed "REDACTED:HINT".toList) state.1 := by
  rw [redactHint]
  split_ifs with h
  · exact Or.inr ⟨by simpa using (Bool.and_eq_true_iff.mp h).1, rfl⟩
  · exact Or.inl rfl

theorem hints_leave_plain {r : Regex} (hr : r ∈ plainPatterns) (hints : List String) (state : List Char × List String)
    (h : ¬ r.found state.1) : ¬ r.found (hints.foldl redactHint state).1 := by
  have hplain : r.Plain "REDACTED:HINT".toList := by
    obtain ⟨htoken, hemail, -, hprivate⟩ := plain_labels "REDACTED:HINT" (by decide)
    simp only [plainPatterns, List.mem_cons, List.not_mem_nil, or_false] at hr
    rcases hr with rfl | rfl | rfl
    · exact htoken
    · exact hemail
    · exact hprivate
  induction hints generalizing state with
  | nil => exact h
  | cons hint rest ih =>
    refine ih _ ?_
    rcases redactHint_fst state hint with hsame | ⟨hne, hsub⟩
    · rwa [hsame]
    · rw [hsub]
      exact fun hfound => h (found_of_found_sub hplain (nullable_lit hne) hfound)

theorem hints_leave_apiKey {hints : List String} (hhints : ∀ hint ∈ hints, ∀ c ∈ hint.toList.head?, isKeyValueChar c)
    (state : List Char × List String) (h : ¬ apiKeyPattern.found state.1) :
    ¬ apiKeyPattern.found (hints.foldl redactHint state).1 := by
  obtain ⟨-, -, hkey, -⟩ := plain_labels "REDACTED:HINT" (by decide)
  induction hints generalizing state with
  | nil => exact h
  | cons hint rest ih =>
    refine ih (fun hint hmem => hhints hint (List.mem_cons_of_mem _ hmem)) _ ?_
    rcases redactHint_fst state hint with hsame | ⟨hne, hsub⟩
    · rwa [hsame]
    · rw [hsub, found_apiKey_iff]
      rw [found_apiKey_iff] at h
      exact fun hfound => h (tailed_found_of_found_sub hkey (nullable_lit hne)
        (fun c hc => hhints hint List.mem_cons_self c (mayStart_lit hc)) hfound)

/-! ### A redacted text -/

/-- What is found in a part is found in the whole. -/
theorem found_of_part {r : Regex} (hr : r.lookFree) {part text : List Char} (hpart : part <:+: text)
    (h : r.found part) : r.found text := by
  obtain ⟨before, after, rfl⟩ := hpart
  obtain ⟨x, w, y, rfl, hM⟩ := found_iff.mp h
  exact found_iff.mpr ⟨before ++ x, w, y ++ after, by simp, hM.anywhere hr⟩

/-- No part of a redacted text has a token, an e-mail address or a private key, whatever the hints; nor a key with its
value, where no hint starts with what separates values. -/
theorem redactText_leaves (text : String) (hints : List String) {part : List Char}
    (hpart : part <:+: (redactText text hints).1.toList) :
    (∀ r ∈ plainPatterns, ¬ r.found part) ∧
    ((∀ hint ∈ hints, ∀ c ∈ hint.toList.head?, isKeyValueChar c) → ¬ apiKeyPattern.found part) := by
  obtain ⟨hplain, hkey⟩ := passes_leave text.toList
  rw [redactText, String.toList_ofList] at hpart
  constructor
  · intro r hr hfound
    have hlook : r.lookFree := by
      simp only [plainPatterns, List.mem_cons, List.not_mem_nil, or_false] at hr
      rcases hr with rfl | rfl | rfl <;> rfl
    exact hints_leave_plain hr hints _ (hplain r hr) (found_of_part hlook hpart hfound)
  · intro hhints hfound
    exact hints_leave_apiKey hhints _ hkey (found_of_part rfl hpart hfound)

/-- A text that is redacted and then cut shows nothing of what the cut goes through. -/
theorem redactText_leaves_cut : (redactText "login token=sk-abcdefghijklmnop" []).1 = "login <REDACTED:API_KEY>" ∧
    ¬ apiKeyPattern.found "login <REDACTED".toList := by
  have hredacted : (redactText "login token=sk-abcdefghijklmnop" []).1 = "login <REDACTED:API_KEY>" := by
    decide +kernel
  refine ⟨hredacted, (redactText_leaves "login token=sk-abcdefghijklmnop" [] ?_).2 (by simp)⟩
  rw [hredacted]
  exact ⟨[], ":API_KEY>".toList, by decide⟩

/-- Passes that each leave the state alone or note a name. -/
theorem foldl_unchanged {α : Type} {pass : List Char × List String → α → List Char × List String}
    (hpass : ∀ state entry, pass state entry = state ∨ (pass state entry).2 ≠ []) (entries : List α)
    (state : List Char × List String) (h : (entries.foldl pass state).2 = []) : entries.foldl pass state = state := by
  induction entries generalizing state with
  | nil => rfl
  | cons entry rest ih =>
    have hrest := ih (pass state entry) h
    rw [List.foldl_cons, hrest] at h ⊢
    exact (hpass state entry).resolve_right fun hne => hne h

/-- Without a name applied the text is as it was. -/
theorem redactText_unchanged {text : String} {hints : List String} (h : (redactText text hints).2 = []) :
    (redactText text hints).1 = text := by
  have hpattern : ∀ state entry, redactPattern state entry = state ∨ (redactPattern state entry).2 ≠ [] := by
    intro state entry
    rw [redactPattern]
    split_ifs
    · exact Or.inr (by simp)
    · exact Or.inl rfl
  have hhint : ∀ state hint, redactHint state hint = state ∨ (redactHint state hint).2 ≠ [] := by
    intro state hint
    rw [redactHint]
    split_ifs
    · exact Or.inr (by simp)
    · exact Or.inl rfl
  rw [redactText] at h ⊢
  have happlied : (hints.foldl redactHint (secretPatterns.foldl redactPattern (text.toList, []))).2 = [] := by
    have hlength := congrArg List.length h
    rwa [List.length_insertionSort, List.length_nil, List.length_eq_zero_iff, List.dedup_eq_nil] at hlength
  have hhints := foldl_unchanged hhint hints _ happlied
  rw [hhints] at happlied
  rw [hhints, foldl_unchanged hpattern secretPatterns _ happlied, String.ofList_toList]

/-! ### Payloads -/

def defaultAllowlistKeys : List String := ["project", "repo", "branch", "stack", "env", "issue", "pr", "docs"]

/-- `sorted(set(applied))` -/
def sortedNames (applied : List String) : List String := applied.dedup.insertionSort (· ≤ ·)

mutual

def redactPayload (hints allowlist : List String) : Json → Json × List String
  | .obj fields =>
    let redacted := redactPayloadFields hints allowlist fields
    (.obj redacted.1, sortedNames redacted.2)
  | .arr items =>
    let redacted := redactPayloadItems hints allowlist items
    (.arr redacted.1, sortedNames redacted.2)
  | .str text =>
    let redacted := redactText text hints
    (.str redacted.1, redacted.2)
  | value => (value, [])

def redactPayloadFields (hints allowlist : List String) : List (String × Json) → List (String × Json) × List String
  | [] => ([], [])
  | (key, value) :: rest =>
    let field := if key ∈ allowlist then (value, []) else redactPayload hints allowlist value
    let others := redactPayloadFields hints allowlist rest
    ((key, field.1) :: others.1, field.2 ++ others.2)

def redactPayloadItems (hints allowlist : List String) : List Json → List Json × List String
  | [] => ([], [])
  | value :: rest =>
    let item := redactPayload hints allowlist value
    let others := redactPayloadItems hints allowlist rest
    (item.1 :: others.1, item.2 ++ others.2)

end

/-- `redact_project_hint` -/
def redactProjectHint (hint : Payload) : Payload × List String :=
  match redactPayload [] [] (.obj hint) with
  | (.obj sanitized, applied) => (sanitized, applied)
  | (_, applied) => ([], applied)

mutual

/-- The texts of a value, at every depth, but for those below a key that is let through. -/
def textsOf (allowlist : List String) : Json → List String
  | .obj fields => textsOfFields allowlist fields
  | .arr items => textsOfItems allowlist items
  | .str text => [text]
  | _ => []

def textsOfFields (allowlist : List String) : List (String × Json) → List String
  | [] => []
  | (key, value) :: rest => (if key ∈ allowlist then [] else textsOf allowlist value) ++ textsOfFields allowlist rest

def textsOfItems (allowlist : List String) : List Json → List String
  | [] => []
  | value :: rest => textsOf allowlist value ++ textsOfItems allowlist rest

end

mutual

/-- A value without those texts. -/
def blanked (allowlist : List String) : Json → Json
  | .obj fields => .obj (blankedFields allowlist fields)
  | .arr items => .arr (blankedItems allowlist items)
  | .str _ => .str ""
  | value => value

def blankedFields (allowlist : List String) : List (String × Json) → List (String × Json)
  | [] => []
  | (key, value) :: rest =>
    (key, if key ∈ allowlist then value else blanked allowlist value) :: blankedFields allowlist rest

def blankedItems (allowlist : List String) : List Json → List Json
  | [] => []
  | value :: rest => blanked allowlist value :: blankedItems allowlist rest

end

section Payload
variable (hints allowlist : List String)

theorem sortedNames_eq_nil {applied : List String} (h : sortedNames applied = []) : applied = [] := by
  have hlength := congrArg List.length h
  rwa [sortedNames, List.length_insertionSort, List.length_nil, List.length_eq_zero_iff, List.dedup_eq_nil] at hlength

/-- What a redacted value has: redacted texts where there were texts, and everything else as it was; and it is the value
itself where nothing was applied. -/
structure RedactedTo (hints allowlist : List String) (value : Json) (redacted : Json × List String) : Prop where
  texts : textsOf allowlist redacted.1 = (textsOf allowlist value).map fun text => (redactText text hints).1
  rest : blanked allowlist redacted.1 = blanked allowlist value
  unchanged : redacted.2 = [] → redacted.1 = value

structure FieldsRedactedTo (hints allowlist : List String) (fields : List (String × Json))
    (redacted : List (String × Json) × List String) : Prop where
  texts : textsOfFields allowlist redacted.1 = (textsOfFields allowlist fields).map fun text => (redactText text hints).1
  rest : blankedFields allowlist redacted.1 = blankedFields allowlist fields
  unchanged : redacted.2 = [] → redacted.1 = fields

structure ItemsRedactedTo (hints allowlist : List String) (items : List Json) (redacted : List Json × List String) :
    Prop where
  texts : textsOfItems allowlist redacted.1 = (textsOfItems allowlist items).map fun text => (redactText text hints).1
  rest : blankedItems allowlist redacted.1 = blankedItems allowlist items
  unchanged : redacted.2 = [] → redacted.1 = items

mutual

theorem redactPayload_spec (value : Json) : RedactedTo hints allowlist value (redactPayload hints allowlist value) := by
  cases value with
  | obj fields =>
    have hfields := redactPayloadFields_spec fields
    rw [redactPayload]
    exact ⟨by simpa only [textsOf] using hfields.texts, by simp only [blanked, hfields.rest],
      fun hnone => by rw [hfields.unchanged (sortedNames_eq_nil hnone)]⟩
  | arr items =>
    have hitems := redactPayloadItems_spec items
    rw [redactPayload]
    exact ⟨by simpa only [textsOf] using hitems.texts, by simp only [blanked, hitems.rest],
      fun hnone => by rw [hitems.unchanged (sortedNames_eq_nil hnone)]⟩
  | str text =>
    rw [redactPayload]
    exact ⟨rfl, rfl, fun hnone => by rw [redactText_unchanged hnone]⟩
  | null | bool | int | float => exact ⟨rfl, rfl, fun _ => rfl⟩

theorem redactPayloadFields_spec (fields : List (String × Json)) :
    FieldsRedactedTo hints allowlist fields (redactPayloadFields hints allowlist fields) := by
  cases fields with
  | nil => exact ⟨rfl, rfl, fun _ => rfl⟩
  | cons field rest =>
    obtain ⟨key, value⟩ := field
    have hrest := redactPayloadFields_spec rest
    have hvalue := redactPayload_spec value
    rw [redactPayloadFields]
    by_cases hkey : key ∈ allowlist
    · simp only [if_pos hkey, List.nil_append]
      exact ⟨by simp only [textsOfFields, if_pos hkey, List.nil_append, hrest.texts],
        by simp only [blankedFields, if_pos hkey, hrest.rest], fun hnone => by rw [hrest.unchanged hnone]⟩
    · simp only [if_neg hkey]
      refine ⟨by simp only [textsOfFields, if_neg hkey, hrest.texts, hvalue.texts, List.map_append],
        by simp only [blankedFields, if_neg hkey, hrest.rest, hvalue.rest], fun hnone => ?_⟩
      obtain ⟨hnone₁, hnone₂⟩ := List.append_eq_nil_iff.mp hnone
      rw [hrest.unchanged hnone₂, hvalue.unchanged hnone₁]

theorem redactPayloadItems_spec (items : List Json) :
    ItemsRedactedTo hints allowlist items (redactPayloadItems hints allowlist items) := by
  cases items with
  | nil => exact ⟨rfl, rfl, fun _ => rfl⟩
  | cons value rest =>
    have hrest := redactPayloadItems_spec rest
    have hvalue := redactPayload_spec value
    rw [redactPayloadItems]
    refine ⟨by simp only [textsOfItems, hrest.texts, hvalue.texts, List.map_append],
      by simp only [blankedItems, hrest.rest, hvalue.rest], fun hnone => ?_⟩
    obtain ⟨hnone₁, hnone₂⟩ := List.append_eq_nil_iff.mp hnone
    rw [hrest.unchanged hnone₂, hvalue.unchanged hnone₁]

end

/-- In no text of a redacted payload, at any depth but below a key that is let through, is one of the four found;
everything but the texts is as it was; and where nothing is reported, all of it. -/
theorem redactPayload_leaves (value : Json) : let redacted := redactPayload hints allowlist value
    (∀ text ∈ textsOf allowlist redacted.1, (∀ r ∈ plainPatterns, ¬ r.found text.toList) ∧
      ((∀ hint ∈ hints, ∀ c ∈ hint.toList.head?, isKeyValueChar c) → ¬ apiKeyPattern.found text.toList)) ∧
    blanked allowlist redacted.1 = blanked allowlist value ∧ (redacted.2 = [] → redacted.1 = value) := by
  have hspec := redactPayload_spec hints allowlist value
  refine ⟨fun text htext => ?_, hspec.rest, hspec.unchanged⟩
  rw [hspec.texts] at htext
  obtain ⟨original, -, rfl⟩ := List.mem_map.mp htext
  exact redactText_leaves original hints (List.infix_refl _)

/-- A hint of a project lets no key through. -/
theorem redactProjectHint_leaves (hint : Payload) : let sanitized := redactProjectHint hint
    (∀ text ∈ textsOf [] (.obj sanitized.1),
      (∀ r ∈ plainPatterns, ¬ r.found text.toList) ∧ ¬ apiKeyPattern.found text.toList) ∧
    blanked [] (.obj sanitized.1) = blanked [] (.obj hint) := by
  have hleaves := redactPayload_leaves [] [] (.obj hint)
  have heq : redactPayload [] [] (.obj hint) = (.obj (redactProjectHint hint).1, (redactProjectHint hint).2) := by
    rw [redactProjectHint, redactPayload]
  rw [heq] at hleaves
  exact ⟨fun text htext => ⟨(hleaves.1 text htext).1, (hleaves.1 text htext).2 (by simp)⟩, hleaves.2.1⟩

end Payload
end OpenTimeline
