import OpenTimeline.Host
import OpenTimeline.Library.Regex

/-! Redaction of text.

Five patterns of secrets are replaced one after the other, and what each leaves is searched
for the next. -/
namespace OpenTimeline
open Library (Regex)
open Library.Regex

/-! ### Patterns of secrets -/

def lowerLetters : List Char := "abcdefghijklmnopqrstuvwxyz".toList

def upperLetters : List Char := "ABCDEFGHIJKLMNOPQRSTUVWXYZ".toList

def digitChars : List Char := "0123456789".toList

/-- `[A-Za-z0-9]` and more -/
def alnumOr (more : String) : Regex := oneOf (lowerLetters ++ upperLetters ++ digitChars ++ more.toList)

/-- `(?<=://)[^/@\s]+(?::[^/@\s]*)?@` -/
def urlCredentialsPattern : Regex :=
  let part := .char fun c => c ≠ '/' && c ≠ '@' && !isSpace c
  all [behind "://", many1 part, opt (all [lit ":", many part]), lit "@"]

/-- The kinds of token, each known by its start. -/
def tokenPattern : Regex :=
  any [all [lit "gh", oneOf "pousr".toList, lit "_", atLeast 16 (alnumOr "")],
    all [lit "github_pat_", atLeast 20 (alnumOr "_")],
    all [lit "glpat-", atLeast 16 (alnumOr "_-")],
    all [lit "sk-", atLeast 16 (alnumOr "_-")],
    all [lit "AKIA", atLeast 12 (oneOf (digitChars ++ upperLetters))],
    all [lit "xox", oneOf "baprs".toList, lit "-", atLeast 10 (alnumOr "-")],
    all [lit "eyJ", atLeast 6 (alnumOr "_-"), lit ".", atLeast 6 (alnumOr "_-"),
      opt (all [lit ".", many1 (alnumOr "_-")])]]

/-- `[A-Za-z0-9._%+-]+@[A-Za-z0-9.-]+\.[A-Za-z]{2,}` -/
def emailPattern : Regex :=
  all [many1 (alnumOr "._%+-"), lit "@", many1 (alnumOr ".-"), lit ".", atLeast 2 (oneOf (lowerLetters ++ upperLetters))]

/-- `(?i)(api[_-]?key|token|secret|password)["' :=]+([^\s,;]+)` -/
def apiKeyPattern : Regex :=
  all [any [all [litFold "api", opt (oneOf "_-".toList), litFold "key"], litFold "token", litFold "secret",
      litFold "password"],
    many1 (oneOf "\"' :=".toList), many1 (.char fun c => !isSpace c && c ≠ ',' && c ≠ ';')]

/-- `-----BEGIN (?:RSA|EC|OPENSSH|PGP)? ?PRIVATE KEY-----` -/
def privateKeyPattern : Regex :=
  all [lit "-----BEGIN ", opt (any [lit "RSA", lit "EC", lit "OPENSSH", lit "PGP"]), opt (lit " "),
    lit "PRIVATE KEY-----"]

/-- `SECRET_PATTERNS`, each with its name and what replaces it. -/
def secretPatterns : List (String × Regex × String) :=
  [("url_credentials", urlCredentialsPattern, "<REDACTED:URL_CREDENTIALS>"),
    ("token", tokenPattern, "<REDACTED:TOKEN>"),
    ("email", emailPattern, "<REDACTED:EMAIL>"),
    ("api_key", apiKeyPattern, "<REDACTED:API_KEY>"),
    ("private_key", privateKeyPattern, "<REDACTED:PRIVATE_KEY>")]

/-! ### Redaction -/

/-- One pattern of `redact_text`. -/
def redactPattern (state : List Char × List String) (entry : String × Regex × String) : List Char × List String :=
  if entry.2.1.found state.1 then (entry.2.1.sub entry.2.2.toList state.1, state.2 ++ [entry.1]) else state

/-- One hint of `redact_text`. -/
def redactHint (state : List Char × List String) (hint : String) : List Char × List String :=
  if hint ≠ "" && (lit hint).found state.1 then
    ((lit hint).sub "<REDACTED:HINT>".toList state.1, state.2 ++ ["hint"])
  else state

/-- `redact_text` -/
def redactText (text : String) (hints : List String) : String × List String :=
  let redacted := hints.foldl redactHint (secretPatterns.foldl redactPattern (text.toList, []))
  (String.ofList redacted.1, redacted.2.dedup.insertionSort (· ≤ ·))

/-- No pattern is found in a text. -/
def secretFree (text : String) : Bool := secretPatterns.all fun entry => !entry.2.1.found text.toList

theorem redactText_secretFree {text : String} (h : secretFree text) : redactText text [] = (text, []) := by
  have hfold : ∀ entries : List (String × Regex × String), (entries.all fun entry => !entry.2.1.found text.toList) →
      entries.foldl redactPattern (text.toList, []) = (text.toList, []) := by
    intro entries hentries
    induction entries with
    | nil => rfl
    | cons entry rest ih =>
      simp only [List.all_cons, Bool.and_eq_true, Bool.not_eq_true'] at hentries
      have hentry : redactPattern (text.toList, []) entry = (text.toList, []) := by
        simp only [redactPattern, hentries.1, Bool.false_eq_true, if_false]
      rw [List.foldl_cons, hentry]
      exact ih hentries.2
  rw [redactText, hfold secretPatterns h]
  simp

example : redactText "git https://u:p@h/r token=abc" [] =
    ("git https://<REDACTED:URL_CREDENTIALS>h/r <REDACTED:API_KEY>", ["api_key", "url_credentials"]) := by
  decide +kernel

end OpenTimeline
