import OpenTimeline.Words
import OpenTimeline.Library.Regex

/-! The text of a message.

What a message quotes, pastes or repeats is cut out of it before it is read. The rest is
read by its tokens: an alternative is named where its tokens stand one after the other, and
is negated where each time a word of negation stands shortly before it. -/
namespace OpenTimeline.Extraction
open Library (Regex)
open Library.Regex

/-- What the text device asks of the language besides. -/
structure TextHost extends Host where
  /-- `str.casefold` -/
  casefold : String → String
  /-- `str.isalnum` for one character -/
  isAlnum : Char → Bool

namespace TextHost

/-- `\w` -/
def isWord (host : TextHost) (c : Char) : Bool := host.isAlnum c || c = '_'

end TextHost

variable (host : TextHost)

/-- `text[:n]` -/
def prefixOf (n : Nat) (text : String) : String := String.ofList (text.toList.take n)

/-- `text.split("\n")` -/
def splitLines (text : String) : List String := (text.toList.splitOn '\n').map String.ofList

def isBlank (text : String) : Bool := strip text = ""

/-- `part in text` -/
def occursIn (part text : String) : Bool := (lit part).found text.toList

def normalizeText (value : String) : String := normalizeWords host.lower host.isAlnum value

/-! ### Vocabulary -/

def ackPhrases : List (String × String) := [("go", "on"), ("thank", "you"), ("got", "it"), ("go", "ahead")]

def ackSingle : List String :=
  ["ok", "okay", "k", "kk", "hmm", "sure", "continue", "next", "yes", "yeah", "yep", "y", "no", "nope", "n",
    "thanks", "done", "fine", "alright", "right", "cool", "proceed", "confirm", "abort", "approve", "deny"]

def affirmativeAcks : List String :=
  ["yes", "yeah", "yep", "y", "ok", "okay", "k", "kk", "sure", "proceed", "go ahead", "confirm", "approve", "fine",
    "alright", "right", "cool"]

def negativeAcks : List String := ["no", "nope", "n", "abort", "deny", "cancel", "stop"]

def confirmLike : List String := ["confirm", "yes", "approve", "allow", "proceed", "continue"]

def denyLike : List String := ["abort", "no", "deny", "block", "cancel", "stop"]

def negationTokens : List String :=
  ["not", "don't", "dont", "never", "no", "cannot", "can't", "cant", "won't", "wont", "without", "isn't", "isnt",
    "shouldn't", "shouldnt", "rather than", "instead of"]

def negationBigrams : List (String × String) := [("rather", "than"), ("instead", "of")]

def negationWindow : Nat := 3

def interruptMarkers : List String :=
  ["never mind", "nevermind", "hold on", "hang on", "scratch that", "wait", "stop", "cancel"]

def objectiveVerbs : List String :=
  ["fix ", "build ", "decide ", "define ", "implement ", "add ", "create ", "update ", "refactor ", "debug ",
    "investigate ", "research ", "design ", "write ", "review ", "test "]

def objectiveMarkers : List String := ["new objective", "next objective", "objective:", "goal:"]

def clauseBreaks : List String := [",", ";", ":"]

/-! ### Patterns -/

/-- `\s` -/
def blank : Regex := .char isSpace

/-- `.` -/
def dot : Regex := .char (· ≠ '\n')

def wordEdge : Regex := boundary host.isWord

/-- `\b(?:actually|instead|i meant|correction|change that|scratch that)\b|\bnot\s+(.+?),\s*(.+)` -/
def correctionPattern : Regex :=
  any [all [wordEdge host, any [litFold "actually", litFold "instead", litFold "i meant", litFold "correction",
      litFold "change that", litFold "scratch that"], wordEdge host],
    all [wordEdge host, litFold "not", many1 blank, someLazy dot, lit ",", many blank, many1 dot]]

/-- `(?:\b(?:because|since|so that|to avoid|as it)\b|reason:)` -/
def rationaleCutPattern : Regex :=
  any [all [wordEdge host, any [litFold "because", litFold "since", litFold "so that", litFold "to avoid",
      litFold "as it"], wordEdge host],
    litFold "reason:"]

/-- The cut, and `\s*(.+)` over lines. -/
def rationalePattern : Regex :=
  all [rationaleCutPattern host, many blank, .group "1" (many1 (.char fun _ => true))]

/-- What output of an agent begins with, or is a line of. -/
def agentOutputMarkers : List Regex :=
  [all [atStart, any [litFold "assistant", litFold "claude", litFold "codex", litFold "advisor", litFold "beru",
      litFold "igris", litFold "kurama"], many blank, lit ":"],
    all [atStart, litFold "[TCE-"],
    all [atStart, litFold "AUTONOMOUS MODE"],
    all [atStart, litFold "Safety pause:"],
    all [atStart, any [litFold "has_directive", litFold "next_step", litFold "final_response",
      litFold "safety_decision"], wordEdge host],
    all [atStart, litFold "Type '"],
    all [atStart, many blank, oneOf ['\x7b', '[']],
    all [atStart, litFold "Traceback (most recent call last)"],
    all [atStart, lit "$ "],
    all [atStart, lit ">>> "],
    all [atStart, any [litFold "error", litFold "warning", litFold "info", litFold "debug"], many blank, lit ":"],
    all [atStart, atLeast 4 blank, .char fun c => !isSpace c],
    all [atStart, lit "--", many1 (lit "-"), atDollar],
    all [atStart, lit "|", many dot, lit "|", atDollar]]

/-- Three backticks. -/
def fence : String := String.ofList (List.replicate 3 (Char.ofNat 96))

/-- A fence, and what follows up to the next or the end. -/
def fencePattern : Regex := all [lit fence, .star false (.char fun _ => true), any [lit fence, atEnd]]

/-- `"([^"\n]{61,})"` -/
def longQuotePattern : Regex := all [lit "\"", atLeast 61 (noneOf ['"', '\n']), lit "\""]

/-- `[.?!\n]+` -/
def sentenceSplitPattern : Regex := many1 (oneOf ['.', '?', '!', '\n'])

/-- `[a-z0-9']+|[,;:]` -/
def tokenPattern : Regex :=
  any [many1 (oneOf "abcdefghijklmnopqrstuvwxyz0123456789'".toList), oneOf [',', ';', ':']]

/-- The ways of a preference, with what is preferred as `x` and what it is preferred to as `y`. -/
def preferencePatterns : List Regex :=
  [all [wordEdge host, litFold "prefer", many1 blank, .group "x" (someLazy dot), many1 blank, litFold "over",
      many1 blank, .group "y" (many1 dot), atDollar],
    all [wordEdge host, litFold "i", opt (lit "'"), litFold "d rather", many1 blank, .group "x" (someLazy dot),
      opt (all [many1 blank, litFold "than", many1 blank, .group "y" (many1 dot)]), atDollar],
    all [wordEdge host, litFold "use", many1 blank, .group "x" (someLazy dot), many1 blank, litFold "instead of",
      many1 blank, .group "y" (many1 dot), atDollar],
    all [wordEdge host, any [all [litFold "let", opt (lit "'"), litFold "s go with"], litFold "go with",
      litFold "stick with"], many1 blank, .group "x" (many1 dot), atDollar],
    all [wordEdge host, litFold "always", many1 blank, .group "x" (many1 dot), atDollar],
    all [wordEdge host, litFold "never", many1 blank, .group "x" (many1 dot), atDollar]]

/-- `_echo_pattern` -/
def echoPattern (questionText : String) : Option Regex :=
  match splitBlanks questionText with
  | [] => none
  | words => some (all ((words.map litFold).intersperse (many blank)))

/-- What a pattern leaves of a text, where it is found in it. -/
def cutOut (pattern : Regex) (text : String) : Option String :=
  if pattern.found text.toList then some (String.ofList (pattern.sub [] text.toList)) else none

/-! ### What is left of a message -/

def isMarkerLine (line : String) : Bool :=
  !isBlank line && (agentOutputMarkers host).any fun pattern => pattern.found line.toList

/-- One step of `analysable_text` that cuts a pattern out. -/
def cutStep (pattern : Regex) (reason : String) (state : String × List String) : String × List String :=
  match cutOut pattern state.1 with
  | some text => (text, state.2 ++ [reason])
  | none => state

/-- Lines of quotation are left out. -/
def dropQuoted (lines : List String) : List String × List String :=
  let quoted := fun line : String => startsWith (String.ofList (line.toList.dropWhile isSpace)) ">"
  (lines.filter fun line => !quoted line, (lines.filter quoted).map fun _ => "quoted_line")

/-- The only line, if it is marked, and runs of marked lines are left out. -/
def dropPasted (lines : List String) : List String × List String :=
  match lines.filter fun line => !isBlank line with
  | [line] => if isMarkerLine host line then ([], ["pasted_agent_output"]) else (lines, [])
  | _ =>
    let runs := lines.splitBy fun a b => isMarkerLine host a == isMarkerLine host b
    let pasted := fun run : List String => run.head?.any (isMarkerLine host) && 2 ≤ run.length
    ((runs.filter fun run => !pasted run).flatten, (runs.filter pasted).map fun _ => "pasted_agent_output")

/-- `analysable_text`: what is left of a message, and why the rest is not. -/
def analysableText (message : String) (questionTexts : List String) : String × List String :=
  let (text, dropped) := cutStep fencePattern "fenced_code" (message, [])
  let (lines, quoted) := dropQuoted (splitLines text)
  let (lines, pasted) := dropPasted host lines
  let state := questionTexts.foldl (fun state question =>
    match echoPattern question with
    | some pattern => cutStep pattern "echoed_question" state
    | none => state) ("\n".intercalate lines, dropped ++ quoted ++ pasted)
  let (text, dropped) := cutStep longQuotePattern "long_quote" state
  (strip ("\n".intercalate ((splitLines text).filter fun line => !isBlank line)), dropped)

/-! ### Tokens and alternatives -/

/-- `_tokens` -/
def tokens (text : String) : List String :=
  (tokenPattern.findAll ((host.casefold text).toList.map fun c => if c = '’' then '\'' else c)).map String.ofList

/-- `_span_indices` -/
def spanIndices (tokens phrase : List String) : List Nat :=
  if phrase = [] then []
  else (List.range (tokens.length + 1 - phrase.length)).filter fun idx => (tokens.drop idx).take phrase.length = phrase

/-- `_negated_at` -/
def negatedAt (tokens : List String) (idx : Nat) : Bool :=
  let window := (((tokens.take idx).reverse.take negationWindow).takeWhile (· ∉ clauseBreaks)).reverse
  window.any (· ∈ negationTokens) || (window.zip window.tail).any (· ∈ negationBigrams)

/-- `match_alternatives`: the alternatives a text names, each with whether it is negated. -/
def matchAlternatives (text : String) (alternatives : List String) : List (String × Bool) :=
  let words := tokens host text
  alternatives.filterMap fun alternative =>
    match spanIndices words (tokens host alternative) with
    | [] => none
    | indices => some (alternative, indices.all (negatedAt words))

/-! ### Acknowledgements -/

/-- `_ack_polarity` -/
def ackPolarity (ack : String) : Option Bool :=
  let normalized := normalizeText host ack
  let words := splitBlanks normalized
  let affirmative := words.any (· ∈ affirmativeAcks) || occursIn " go ahead " (" " ++ normalized ++ " ")
  let negative := words.any (· ∈ negativeAcks)
  if negative && !affirmative then some false
  else if affirmative && !negative then some true
  else none

/-- `map_ack_to_alternative`: the alternative that says the same, or says so, or is the other
one of two. -/
def mapAckToAlternative (ack : String) (alternatives : List String) : Option String :=
  let reads := fun (like : List String) (alternative : String) => decide (normalizeText host alternative ∈ like)
  match alternatives.find? fun alternative => normalizeText host alternative = normalizeText host ack with
  | some alternative => some alternative
  | none =>
    match ackPolarity host ack, alternatives with
    | none, _ => none
    | some true, [first, second] =>
      ([first, second].find? (reads confirmLike)).or (if reads denyLike second then some first else none)
    | some false, [first, second] =>
      ([first, second].find? (reads denyLike)).or (if reads confirmLike first then some second else none)
    | some true, alternatives => alternatives.find? (reads confirmLike)
    | some false, alternatives => alternatives.find? (reads denyLike)

/-- The tokens of `_is_ack_only`, from one of them on. -/
def ackTokens : List String → Bool
  | [] => true
  | [a] => a ∈ ackSingle
  | a :: b :: rest => if (a, b) ∈ ackPhrases then ackTokens rest else a ∈ ackSingle && ackTokens (b :: rest)

/-- `_is_ack_only` -/
def isAckOnly (normalized : String) : Bool :=
  let words := splitBlanks normalized
  !words.isEmpty && words.length ≤ 3 && ackTokens words

/-! ### Sentences -/

/-- `is_concrete_instruction` -/
def isConcreteInstruction (text : String) : Bool :=
  let normalized := normalizeText host text
  4 ≤ (splitBlanks normalized).length &&
    (objectiveMarkers.any (occursIn · normalized) || objectiveVerbs.any (startsWith normalized ·))

/-- `_starts_with_interrupt` -/
def startsWithInterrupt (normalized : String) : Bool :=
  interruptMarkers.any fun marker => normalized = marker || startsWith normalized (marker ++ " ")

/-- `_sentences` -/
def sentences (text : String) : List String :=
  ((sentenceSplitPattern.split text.toList).map fun part => strip (String.ofList part)).filter (· ≠ "")

/-- `_sentence_for`: the first sentence that names one of some alternatives. -/
def sentenceFor (text : String) (alternatives : List String) : String :=
  ((sentences text).find? fun sentence =>
    alternatives.any fun alternative => !(matchAlternatives host sentence [alternative]).isEmpty).getD (prefixOf 500 text)

/-- `_rationale` -/
def rationale (sentence : String) : Option String :=
  match (rationalePattern host).search sentence.toList with
  | none => none
  | some (_, found) =>
    let rationale := prefixOf 500 (strip (String.ofList ((found.group "1").getD [])))
    if rationale = "" then none else some rationale

/-- `_strip_rationale` -/
def stripRationale (sentence : String) : String :=
  match (rationaleCutPattern host).search sentence.toList with
  | none => sentence
  | some (start, _) => strip (String.ofList start.before.reverse)

/-- `_clean_term` -/
def cleanTerm (value : List Char) : String :=
  strip (String.ofList (stripChars (· ∈ [',', ';', ':']) (stripChars isSpace value)))

end OpenTimeline.Extraction
