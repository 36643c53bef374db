import OpenTimeline.Host
import OpenTimeline.Library.PrefixCode

/-! JSON texts in ASCII.

`json.dumps` escapes what is not ASCII. A string it writes can be read off the front of a
text (`prefixFree_asciiString`), and off the end of one that has a colon before it
(`asciiString_last`). -/
namespace OpenTimeline
open Library

/-- `\uXXXX` -/
def unicodeEscape (n : Nat) : List Char :=
  ['\\', 'u', hexDigit (n / 4096 % 16), hexDigit (n / 256 % 16), hexDigit (n / 16 % 16), hexDigit (n % 16)]

/-- A character as ASCII, one past the basic plane as two surrogates. -/
def asciiEscape (c : Char) : List Char :=
  if c.toNat < 127 then jsonEscape c
  else if c.toNat < 65536 then unicodeEscape c.toNat
  else unicodeEscape (55296 + (c.toNat - 65536) / 1024) ++ unicodeEscape (56320 + (c.toNat - 65536) % 1024)

def asciiString (s : String) : String := String.ofList ('"' :: (s.toList.flatMap asciiEscape ++ ['"']))

/-- `ensure_ascii`, on a character of a text -/
def escapeNonAscii (c : Char) : List Char :=
  if c.toNat < 127 then [c]
  else if c.toNat < 65536 then unicodeEscape c.toNat
  else unicodeEscape (55296 + (c.toNat - 65536) / 1024) ++ unicodeEscape (56320 + (c.toNat - 65536) % 1024)

/-- `json.dumps(value, separators=(",", ":"), sort_keys=True)` -/
def jsonDumps (value : Json) : String := String.ofList ((canonicalJson value).toList.flatMap escapeNonAscii)

theorem flatMap_escapeNonAscii {text : List Char} (h : ∀ c ∈ text, c.toNat < 127) :
    text.flatMap escapeNonAscii = text := by
  induction text with
  | nil => rfl
  | cons c rest ih =>
    rw [List.flatMap_cons, ih fun d hd => h d (List.mem_cons_of_mem _ hd), escapeNonAscii, if_pos (h c (List.mem_cons_self ..))]
    rfl

theorem jsonEscape_ascii {c : Char} (hc : c.toNat < 127) : ∀ d ∈ jsonEscape c, d.toNat < 127 := by
  have hdigit : ∀ n < 16, (hexDigit n).toNat < 127 := by decide
  intro d hd
  unfold jsonEscape at hd
  split at hd
  case h_8 =>
    split_ifs at hd
    · simp only [List.mem_cons, List.not_mem_nil, or_false] at hd
      obtain rfl | rfl | rfl | rfl | rfl | rfl := hd
      · decide
      · decide
      · decide
      · decide
      · exact hdigit _ (by omega)
      · exact hdigit _ (by omega)
    · rw [List.mem_singleton.mp hd]
      exact hc
  all_goals
    simp only [List.mem_cons, List.not_mem_nil, or_false] at hd
    obtain rfl | rfl := hd <;> decide

theorem jsonEscape_nonAscii {c : Char} (hc : 127 ≤ c.toNat) : jsonEscape c = [c] := by
  unfold jsonEscape
  split
  case h_8 => rw [if_neg (by omega)]
  all_goals omega

theorem escapeNonAscii_jsonEscape (c : Char) : (jsonEscape c).flatMap escapeNonAscii = asciiEscape c := by
  unfold asciiEscape
  by_cases hc : c.toNat < 127
  · rw [if_pos hc, flatMap_escapeNonAscii (jsonEscape_ascii hc)]
  · rw [if_neg hc, jsonEscape_nonAscii (not_lt.mp hc), List.flatMap_singleton, escapeNonAscii, if_neg hc]

/-- `json.dumps` of a string. -/
theorem jsonString_escaped (s : String) : (jsonString s).toList.flatMap escapeNonAscii = (asciiString s).toList := by
  rw [jsonString, asciiString, String.toList_ofList, String.toList_ofList, List.flatMap_cons, List.flatMap_append,
    List.flatMap_assoc]
  simp only [escapeNonAscii_jsonEscape]
  rfl

/-! ### Reading a string -/

theorem hexDigit_inj {n m : Nat} (hn : n < 16) (hm : m < 16) (h : hexDigit n = hexDigit m) : n = m := by
  interval_cases n <;> interval_cases m <;> first | rfl | exact absurd h (by decide)

theorem unicodeEscape_append {n m : Nat} (hn : n < 65536) (hm : m < 65536) {rest rest' : List Char}
    (h : unicodeEscape n ++ rest = unicodeEscape m ++ rest') : n = m ∧ rest = rest' := by
  simp only [unicodeEscape, List.cons_append, List.nil_append, List.cons.injEq, true_and] at h
  obtain ⟨h3, h2, h1, h0, hrest⟩ := h
  have h3 := hexDigit_inj (by omega) (by omega) h3
  have h2 := hexDigit_inj (by omega) (by omega) h2
  have h1 := hexDigit_inj (by omega) (by omega) h1
  have h0 := hexDigit_inj (by omega) (by omega) h0
  exact ⟨by omega, hrest⟩

/-- The characters that are escaped by a letter. -/
def shortEscapes : List (Char × Nat) :=
  [('"', 34), ('\\', 92), ('b', 8), ('t', 9), ('n', 10), ('f', 12), ('r', 13)]

/-- How a character is written. -/
inductive Escaped (c : Char) : List Char → Prop
  | plain (hquote : c ≠ '"') (hslash : c ≠ '\\') : Escaped c [c]
  | short (letter : Char) (h : (letter, c.toNat) ∈ shortEscapes) : Escaped c ['\\', letter]
  | unit (h : c.toNat < 65536) : Escaped c (unicodeEscape c.toNat)
  | pair (h : 65536 ≤ c.toNat) : Escaped c
      (unicodeEscape (55296 + (c.toNat - 65536) / 1024) ++ unicodeEscape (56320 + (c.toNat - 65536) % 1024))

theorem escaped_asciiEscape (c : Char) : Escaped c (asciiEscape c) := by
  unfold asciiEscape
  split_ifs with hplain hunit
  · unfold jsonEscape
    split
    case h_8 n hquote hslash _ _ _ _ _ =>
      split_ifs with hcontrol
      · have hunit : unicodeEscape c.toNat =
            ['\\', 'u', '0', '0', hexDigit (c.toNat / 16), hexDigit (c.toNat % 16)] := by
          simp only [unicodeEscape, show c.toNat / 4096 % 16 = 0 by omega, show c.toNat / 256 % 16 = 0 by omega,
            show c.toNat / 16 % 16 = c.toNat / 16 by omega]
          rfl
        rw [← hunit]
        exact .unit (by omega)
      · exact .plain (fun h => hquote (h ▸ rfl)) fun h => hslash (h ▸ rfl)
    all_goals
      rename_i hcode
      exact .short _ (by rw [hcode]; decide)
  · exact .unit hunit
  · exact .pair (not_lt.mp hunit)

theorem shortEscapes_inj {letter : Char} {n m : Nat} (hn : (letter, n) ∈ shortEscapes)
    (hm : (letter, m) ∈ shortEscapes) : n = m := by
  revert hn hm
  simp only [shortEscapes, List.mem_cons, Prod.mk.injEq, List.not_mem_nil, or_false]
  rintro (⟨rfl, rfl⟩ | ⟨rfl, rfl⟩ | ⟨rfl, rfl⟩ | ⟨rfl, rfl⟩ | ⟨rfl, rfl⟩ | ⟨rfl, rfl⟩ | ⟨rfl, rfl⟩) hm <;>
    simpa [eq_comm] using hm

theorem letter_ne_u {letter : Char} {n : Nat} (h : (letter, n) ∈ shortEscapes) : letter ≠ 'u' := by
  rintro rfl
  simp [shortEscapes] at h

theorem not_surrogate (c : Char) : c.toNat < 55296 ∨ 57343 < c.toNat := by
  have := c.valid
  simp only [UInt32.isValidChar, Nat.isValidChar] at this
  change c.toNat < 55296 ∨ (57343 < c.toNat ∧ c.toNat < 1114112) at this
  omega

theorem toNat_inj {c d : Char} (h : c.toNat = d.toNat) : c = d := Char.ext (UInt32.toNat_inj.mp h)

theorem toNat_lt (c : Char) : c.toNat < 1114112 := by
  have := c.valid
  simp only [UInt32.isValidChar, Nat.isValidChar] at this
  change c.toNat < 55296 ∨ (57343 < c.toNat ∧ c.toNat < 1114112) at this
  omega

theorem prefixFree_asciiEscape : PrefixFree asciiEscape := by
  intro c d rest rest' h
  have hc := escaped_asciiEscape c
  have hd := escaped_asciiEscape d
  have hcs := not_surrogate c
  have hds := not_surrogate d
  have hct := toNat_lt c
  have hdt := toNat_lt d
  generalize asciiEscape c = word at hc h
  generalize asciiEscape d = word' at hd h
  cases hc with
  | plain hquote hslash =>
    cases hd with
    | plain => simpa using h
    | short | unit | pair => exact absurd (List.head_eq_of_cons_eq h) hslash
  | short letter hl =>
    cases hd with
    | plain _ hslash => exact absurd (List.head_eq_of_cons_eq h).symm hslash
    | short letter' hl' =>
      simp only [List.cons_append, List.nil_append, List.cons.injEq, true_and] at h
      obtain ⟨rfl, hrest⟩ := h
      exact ⟨toNat_inj (shortEscapes_inj hl hl'), hrest⟩
    | unit | pair => exact absurd (List.head_eq_of_cons_eq (List.tail_eq_of_cons_eq h)) (letter_ne_u hl)
  | unit hu =>
    cases hd with
    | plain _ hslash => exact absurd (List.head_eq_of_cons_eq h).symm hslash
    | short letter hl => exact absurd (List.head_eq_of_cons_eq (List.tail_eq_of_cons_eq h)).symm (letter_ne_u hl)
    | unit hu' =>
      obtain ⟨heq, hrest⟩ := unicodeEscape_append hu hu' h
      exact ⟨toNat_inj heq, hrest⟩
    | pair hp' =>
      rw [List.append_assoc] at h
      obtain ⟨heq, -⟩ := unicodeEscape_append hu (by omega) h
      omega
  | pair hp =>
    rw [List.append_assoc] at h
    cases hd with
    | plain _ hslash => exact absurd (List.head_eq_of_cons_eq h).symm hslash
    | short letter hl => exact absurd (List.head_eq_of_cons_eq (List.tail_eq_of_cons_eq h)).symm (letter_ne_u hl)
    | unit hu' =>
      obtain ⟨heq, -⟩ := unicodeEscape_append (by omega) hu' h
      omega
    | pair hp' =>
      rw [List.append_assoc] at h
      obtain ⟨hhigh, h⟩ := unicodeEscape_append (by omega) (by omega) h
      obtain ⟨hlow, hrest⟩ := unicodeEscape_append (by omega) (by omega) h
      exact ⟨toNat_inj (by omega), hrest⟩

theorem asciiEscape_ne_quote (c : Char) (rest rest' : List Char) : asciiEscape c ++ rest ≠ '"' :: rest' := by
  intro h
  have hc := escaped_asciiEscape c
  generalize asciiEscape c = word at hc h
  cases hc with
  | plain hquote => exact hquote (List.head_eq_of_cons_eq h)
  | short | unit | pair => exact absurd (List.head_eq_of_cons_eq h) (by decide)

theorem toList_asciiString (s : String) : (asciiString s).toList = '"' :: encodeUpTo asciiEscape '"' s.toList := by
  rw [asciiString, String.toList_ofList]
  rfl

theorem prefixFree_asciiString : PrefixFree fun s => (asciiString s).toList := by
  intro s s' rest rest' h
  simp only [toList_asciiString, List.cons_append, List.cons.injEq, true_and] at h
  obtain ⟨heq, hrest⟩ := prefixFree_asciiEscape.upTo asciiEscape_ne_quote _ _ _ _ h
  exact ⟨String.toList_inj.mp heq, hrest⟩

/-! ### The last string of a text -/

/-- Every quote has a backslash before it. -/
def Shielded (text : List Char) : Prop := ∀ before after, text = before ++ '"' :: after → ∃ rest, before = rest ++ ['\\']

theorem Shielded.append {a b : List Char} (ha : Shielded a) (hb : Shielded b) : Shielded (a ++ b) := by
  intro before after h
  obtain ⟨m, rfl, hm⟩ | ⟨m, rfl, hm⟩ := List.append_eq_append_iff.mp h
  · obtain ⟨rest, rfl⟩ := hb m after hm
    exact ⟨a ++ rest, by simp⟩
  · cases m with
    | nil =>
      obtain ⟨rest, hrest⟩ := hb [] after (by simpa using hm.symm)
      simp at hrest
    | cons c m =>
      obtain ⟨rfl, -⟩ := List.cons.inj hm
      exact ha before m rfl

theorem Shielded.of_not_mem {text : List Char} (h : '"' ∉ text) : Shielded text := by
  rintro before after rfl
  simp at h

theorem quote_not_mem_unicodeEscape (n : Nat) : '"' ∉ unicodeEscape n := by
  have hdigit : ∀ d < 16, '"' ≠ hexDigit d := by decide
  simp only [unicodeEscape, List.mem_cons, List.not_mem_nil, or_false, not_or]
  refine ⟨by decide, by decide, ?_⟩
  exact ⟨hdigit _ (by omega), hdigit _ (by omega), hdigit _ (by omega), hdigit _ (by omega)⟩

theorem shielded_asciiEscape (c : Char) : Shielded (asciiEscape c) := by
  have hc := escaped_asciiEscape c
  generalize asciiEscape c = word at hc
  cases hc with
  | plain hquote => exact .of_not_mem (by simpa using hquote.symm)
  | short letter h =>
    intro before after heq
    cases before with
    | nil => simp at heq
    | cons slash before =>
      obtain ⟨rfl, heq⟩ := List.cons.inj heq
      cases before with
      | nil => exact ⟨[], rfl⟩
      | cons => simp at heq
  | unit => exact .of_not_mem (quote_not_mem_unicodeEscape _)
  | pair =>
    exact (Shielded.of_not_mem (quote_not_mem_unicodeEscape _)).append (.of_not_mem (quote_not_mem_unicodeEscape _))

theorem shielded_asciiEscapes (cs : List Char) : Shielded (cs.flatMap asciiEscape) := by
  induction cs with
  | nil => simp [Shielded]
  | cons c rest ih => exact (shielded_asciiEscape c).append ih

/-- A string at the end of a text, behind a colon, is read off the text. -/
theorem asciiString_last {text text' : List Char} {s s' : String}
    (h : text ++ ':' :: (asciiString s).toList = text' ++ ':' :: (asciiString s').toList) : text = text' ∧ s = s' := by
  suffices hstring : (asciiString s).toList = (asciiString s').toList by
    rw [hstring] at h
    have hs := (prefixFree_asciiString s s' [] [] (by simpa using hstring)).1
    exact ⟨List.append_cancel_right h, hs⟩
  -- one of the strings is as long as the other and more, where its opening quote is not the other's
  have hlonger : ∀ {text text' : List Char} {s s' : String} {m : List Char},
      text' ++ [':', '"'] = text ++ [':', '"'] ++ m →
      s.toList.flatMap asciiEscape = m ++ s'.toList.flatMap asciiEscape → m = [] := by
    intro text text' s s' m hstart hbody
    obtain rfl | ⟨m, c, rfl⟩ := List.eq_nil_or_concat m
    · rfl
    rw [List.concat_eq_append] at *
    have hlast : (text' ++ [':']) ++ ['"'] = (text ++ [':', '"'] ++ m) ++ [c] := by simpa using hstart
    obtain ⟨hinit, hc⟩ := List.append_inj' hlast rfl
    obtain rfl : '"' = c := List.singleton_inj.mp hc
    obtain ⟨rest, rfl⟩ := shielded_asciiEscapes s.toList m _ (by simpa using hbody)
    have hslash : text' ++ [':'] = (text ++ [':', '"'] ++ rest) ++ ['\\'] := by simpa using hinit
    exact absurd (List.append_inj' hslash rfl).2 (by decide)
  have h : (text ++ [':', '"']) ++ s.toList.flatMap asciiEscape = (text' ++ [':', '"']) ++ s'.toList.flatMap asciiEscape := by
    have h : ((text ++ [':', '"']) ++ s.toList.flatMap asciiEscape) ++ ['"'] =
        ((text' ++ [':', '"']) ++ s'.toList.flatMap asciiEscape) ++ ['"'] := by
      simpa [toList_asciiString, encodeUpTo] using h
    exact List.append_cancel_right h
  rw [toList_asciiString, toList_asciiString, encodeUpTo, encodeUpTo]
  obtain ⟨m, hstart, hbody⟩ | ⟨m, hstart, hbody⟩ := List.append_eq_append_iff.mp h
  · rw [hbody, hlonger hstart hbody]
    rfl
  · rw [hbody, hlonger hstart hbody]
    rfl

end OpenTimeline
