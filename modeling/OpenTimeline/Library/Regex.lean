import Mathlib

/-! Regular expressions that backtrack.

A pattern is tried at a place in a text, with what stands before the place at hand for
anchors and lookbehind. Its matches are listed in the order a backtracking matcher finds
them, each with the groups it captured; the first is the match (`matchAt`), and a search
takes the first place that has one. -/
namespace OpenTimeline.Library

inductive Regex
  /-- a character that is accepted -/
  | char (p : Char → Bool)
  | empty
  | seq (r s : Regex)
  /-- the left one first -/
  | alt (r s : Regex)
  /-- as often as there is progress, most often first where it is greedy -/
  | star (greedy : Bool) (r : Regex)
  | group (name : String) (r : Regex)
  /-- a test of what is before and what is after -/
  | look (p : List Char → List Char → Bool)

namespace Regex

/-- A place in a text: what is before it, last character first, and what is after it. -/
structure Place where
  before : List Char
  after : List Char

/-- A match so far: where it has got to, and the groups captured, the last one first. -/
structure Match where
  stop : Place
  groups : List (String × List Char)

/-! ### Matching -/

/-- The repeats of a step, to a depth. -/
def repeats (greedy : Bool) (step : Match → List Match) : Nat → Match → List Match
  | 0, m => [m]
  | depth + 1, m =>
    let more := ((step m).filter fun next => next.stop.after.length < m.stop.after.length).flatMap
      (repeats greedy step depth)
    if greedy then more ++ [m] else m :: more

/-- The ways a pattern goes on from a match, in the order they are tried. -/
def ends : Regex → Match → List Match
  | .char p, m =>
    match m.stop.after with
    | [] => []
    | c :: rest => if p c then [{m with stop := ⟨c :: m.stop.before, rest⟩}] else []
  | .empty, m => [m]
  | .seq r s, m => (r.ends m).flatMap s.ends
  | .alt r s, m => r.ends m ++ s.ends m
  | .star greedy r, m => repeats greedy r.ends m.stop.after.length m
  | .group name r, m => (r.ends m).map fun next =>
    {next with groups := (name, m.stop.after.take (m.stop.after.length - next.stop.after.length)) :: next.groups}
  | .look p, m => if p m.stop.before m.stop.after then [m] else []

/-- The match at a place. -/
def matchAt (r : Regex) (place : Place) : Option Match := (r.ends ⟨place, []⟩).head?

/-- The first place, from a place on, where there is a match. -/
def searchFrom (r : Regex) (before : List Char) : List Char → Option (Place × Match)
  | [] => (r.matchAt ⟨before, []⟩).map (⟨before, []⟩, ·)
  | c :: rest =>
    match r.matchAt ⟨before, c :: rest⟩ with
    | some m => some (⟨before, c :: rest⟩, m)
    | none => searchFrom r (c :: before) rest

/-- `pattern.search(text)` -/
def search (r : Regex) (text : List Char) : Option (Place × Match) := r.searchFrom [] text

def found (r : Regex) (text : List Char) : Bool := (r.search text).isSome

/-- The text between two places. -/
def between (start stop : Place) : List Char := start.after.take (start.after.length - stop.after.length)

/-- `match.group(name)` -/
def Match.group (m : Match) (name : String) : Option (List Char) := m.groups.lookup name

/-- The matches of a text one after the other, each with the text before it, and the rest;
of a pattern that takes at least one character. -/
def splitFrom (r : Regex) : Nat → List Char → List Char → List (List Char × List Char) × List Char
  | 0, _, text => ([], text)
  | depth + 1, before, text =>
    match r.searchFrom before text with
    | none => ([], text)
    | some (start, m) =>
      let others := splitFrom r depth m.stop.before m.stop.after
      ((text.take (text.length - start.after.length), between start m.stop) :: others.1, others.2)

/-- The matches of a text and what is around them. -/
def pieces (r : Regex) (text : List Char) : List (List Char × List Char) × List Char :=
  r.splitFrom (text.length + 1) [] text

/-- `pattern.sub(replacement, text)` -/
def sub (r : Regex) (replacement text : List Char) : List Char :=
  let cut := r.pieces text
  cut.1.flatMap (fun piece => piece.1 ++ replacement) ++ cut.2

/-- `pattern.split(text)` -/
def split (r : Regex) (text : List Char) : List (List Char) :=
  let cut := r.pieces text
  cut.1.map (·.1) ++ [cut.2]

/-- `pattern.findall(text)` -/
def findAll (r : Regex) (text : List Char) : List (List Char) := (r.pieces text).1.map (·.2)

/-! ### Patterns -/

/-- A character as one written in a pattern that ignores case, if that is a letter of ASCII. -/
def foldCase (c : Char) : Char :=
  if c.toNat ∈ [304, 305] then 'i'
  else if c.toNat = 383 then 's'
  else if c.toNat = 8490 then 'k'
  else if 65 ≤ c.toNat ∧ c.toNat ≤ 90 then Char.ofNat (c.toNat + 32)
  else c

/-- Characters of a set. -/
def oneOf (cs : List Char) : Regex := .char (· ∈ cs)

def noneOf (cs : List Char) : Regex := .char (· ∉ cs)

/-- A word as it stands. -/
def lit (word : String) : Regex := word.toList.foldr (fun c r => .seq (.char (· = c)) r) .empty

/-- A word in any case. -/
def litFold (word : String) : Regex := word.toList.foldr (fun c r => .seq (.char (foldCase · = foldCase c)) r) .empty

/-- Patterns one after the other. -/
def all : List Regex → Regex
  | [] => .empty
  | [r] => r
  | r :: rest => .seq r (all rest)

/-- The first of some patterns that matches. -/
def any : List Regex → Regex
  | [] => .look fun _ _ => false
  | [r] => r
  | r :: rest => .alt r (any rest)

def many (r : Regex) : Regex := .star true r

def many1 (r : Regex) : Regex := .seq r (many r)

/-- As few as will do. -/
def someLazy (r : Regex) : Regex := .seq r (.star false r)

/-- At least `n`. -/
def atLeast : Nat → Regex → Regex
  | 0, r => many r
  | n + 1, r => .seq r (atLeast n r)

def opt (r : Regex) : Regex := .alt r .empty

/-- What is before ends with a word. -/
def behind (word : String) : Regex := .look fun before _ => word.toList.reverse.isPrefixOf before

/-- Between a character of a word and none. -/
def boundary (isWord : Char → Bool) : Regex := .look fun before after => before.head?.any isWord != after.head?.any isWord

/-- `\Z` -/
def atEnd : Regex := .look fun _ after => after.isEmpty

/-- `^` -/
def atStart : Regex := .look fun before _ => before.isEmpty

/-- `$`: the end, or a newline at the end. -/
def atDollar : Regex := .look fun _ after => after.isEmpty || after = ['\n']

/-! ### A word in a text -/

theorem matchAt_lit_isSome {word : String} {place : Place} :
    ((lit word).matchAt place).isSome ↔ word.toList <+: place.after := by
  have hends : ∀ (cs : List Char) (m : Match), (cs.foldr (fun c r => Regex.seq (.char (· = c)) r) .empty).ends m ≠ [] ↔
      cs <+: m.stop.after := by
    intro cs
    induction cs with
    | nil => simp [ends]
    | cons c cs ih =>
      rintro ⟨⟨before, _ | ⟨d, after⟩⟩, groups⟩
      · simp [ends]
      · by_cases hd : d = c
        · rw [List.foldr_cons, ends, ends]
          dsimp only
          rw [if_pos (decide_eq_true hd), List.flatMap_singleton, ih, hd, List.cons_prefix_cons, and_iff_right rfl]
        · rw [List.foldr_cons, ends, ends]
          dsimp only
          rw [if_neg (by simpa using hd), List.cons_prefix_cons]
          exact iff_of_false (fun h => h rfl) fun h => hd h.1.symm
  rw [matchAt, List.isSome_head?, ← hends word.toList ⟨place, []⟩]
  simp [lit]

/-- A word is found where it stands in the text. -/
theorem found_lit_iff {word : String} {text : List Char} : (lit word).found text ↔ word.toList <:+: text := by
  have hsearch : ∀ (text before : List Char), ((lit word).searchFrom before text).isSome ↔ word.toList <:+: text := by
    intro text
    induction text with
    | nil =>
      intro before
      rw [searchFrom, Option.isSome_map, matchAt_lit_isSome, List.prefix_nil, List.infix_nil]
    | cons c rest ih =>
      intro before
      rw [searchFrom, List.infix_cons_iff, ← @matchAt_lit_isSome word ⟨before, c :: rest⟩, ← ih (c :: before)]
      cases (lit word).matchAt ⟨before, c :: rest⟩ <;> simp
  exact hsearch text []

end Regex
end OpenTimeline.Library
