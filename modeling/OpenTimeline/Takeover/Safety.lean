import OpenTimeline.Takeover.Text
import OpenTimeline.Library.Regex

/-! The safety gate of the takeover.

A turn of high risk waits for the operator, who confirms with a keyword that no negation
stands shortly before. The gate looks for the negation among the last three tokens, and these
are not the last three words (`not_allowed_iff`): a contraction is two tokens unless it is
joined again, and only can't and don't are. -/
namespace OpenTimeline.Takeover
open Library

variable (host : TextHost)

inductive SafetyDecision
  | allow
  | confirmRequired
  | blocked
deriving DecidableEq, Repr

structure TakeoverPolicy where
  safetyPolicy : String := "high-risk-pause"
  confirmKeyword : String := "confirm"
  denyKeyword : String := "abort"
deriving DecidableEq, Repr

/-! ### Tokens -/

def tokenNormalization : List (String × String) :=
  [("signoff", "signoff"), ("sign-off", "signoff"), ("signing", "sign"), ("authorized", "authorize"),
    ("authorise", "authorize"), ("authorised", "authorize"), ("cannot", "cannot"), ("can't", "cant"), ("cant", "cant"),
    ("dont", "dont"), ("don't", "dont"), ("vs.", "vs")]

def normalizeToken (token : String) : String := (tokenNormalization.lookup token).getD token

/-- The loop of `_tokenize_normalized`. -/
def joinContractions : List String → List String
  | token :: next :: rest =>
    if token = "can" ∧ next = "t" then "cant" :: joinContractions rest
    else if token = "don" ∧ next = "t" then "dont" :: joinContractions rest
    else token :: joinContractions (next :: rest)
  | tokens => tokens

/-- `_tokenize_normalized` -/
def tokenizeNormalized (value : String) : List String := (joinContractions (splitBlanks value)).map normalizeToken

/-! ### Risk -/

/-- Two or more words of a pattern, blanks between them, as a whole. -/
def phrase (parts : List Regex) : Regex :=
  let edge := Regex.boundary fun c => host.isAlnum c || c = '_'
  .all [edge, .all (parts.intersperse (.many1 (.char isSpace))), edge]

/-- `\b<verb>\s+(?:the\s+)?(?:entire\s+)?(?:database|db)\b` -/
def databasePhrase (verb : String) : Regex :=
  let article (word : String) : Regex := .opt (.all [.lit word, .many1 (.char isSpace)])
  phrase host [.lit verb, .all [article "the", article "entire", .any [.lit "database", .lit "db"]]]

/-- `_HIGH_RISK_PATTERNS` -/
def highRiskPatterns : List (Regex × String) :=
  [(phrase host [.lit "rm", .all [.opt (.lit "-"), .lit "rf"]], "destructive_filesystem"),
    (phrase host [.lit "delete", .lit "all"], "destructive_delete_all"),
    (phrase host [.lit "reset", .lit "hard"], "destructive_reset"),
    (databasePhrase host "delete", "irreversible_data_operation"),
    (databasePhrase host "drop", "irreversible_data_operation"),
    (phrase host [.lit "drop", .lit "table"], "irreversible_data_operation"),
    (phrase host [.lit "truncate", .lit "table"], "irreversible_data_operation"),
    (phrase host [.all [.lit "prod", .opt (.lit "uction")], .lit "deploy"], "production_deploy"),
    (phrase host [.lit "rotate", .lit "key"], "credential_operation"),
    (phrase host [.lit "api", .lit "key"], "credential_operation"),
    (phrase host [.lit "secret"], "credential_operation")]

def destructiveActionTokens : List String :=
  ["delete", "drop", "erase", "wipe", "destroy", "nuke", "purge", "truncate", "remove"]

def criticalResourceTokens : List String :=
  ["database", "db", "production", "prod", "table", "tables", "cluster", "bucket"]

def negationTokens : List String := ["not", "never", "no", "dont", "don't", "without"]

/-- The tokens of the lookback from a place. -/
def lookback (tokens : List String) (idx : Nat) : List String := (tokens.take idx).drop (idx - 3)

/-- `_has_negation_near` -/
def hasNegationNear (tokens : List String) (idx : Nat) : Bool := (lookback tokens idx).any (· ∈ negationTokens)

/-- `high_risk_reason` -/
def highRiskReason (text : Option String) : Option String :=
  let normalized := (text.map (normalizeText host)).getD ""
  if normalized = "" then none
  else
    match (highRiskPatterns host).find? fun entry => entry.1.found normalized.toList with
    | some entry => some entry.2
    | none =>
      let tokens := tokenizeNormalized normalized
      if tokens.any (· ∈ destructiveActionTokens) && tokens.any (· ∈ criticalResourceTokens) &&
          tokens.zipIdx.any fun entry => entry.1 ∈ destructiveActionTokens && !hasNegationNear tokens entry.2 then
        some "irreversible_data_operation"
      else none

/-! ### The gate -/

def confirmNegationTokens : List String := ["not", "never", "no", "dont", "cant", "wont", "without", "cannot"]

/-- `_keyword_span_indices` -/
def keywordSpanIndices (tokens keyTokens : List String) : List Nat :=
  if keyTokens = [] then []
  else (List.range (tokens.length + 1 - keyTokens.length)).filter fun idx =>
    (tokens.drop idx).take keyTokens.length = keyTokens

/-- `_confirmation_is_affirmative` -/
def confirmationIsAffirmative (normalizedMessage keyword : String) : Bool :=
  let tokens := tokenizeNormalized normalizedMessage
  (keywordSpanIndices tokens (tokenizeNormalized (normalizeText host keyword))).any fun idx =>
    !(lookback tokens idx).any (· ∈ confirmNegationTokens)

/-- `_keyword_present_whole_word` -/
def keywordPresentWholeWord (normalizedMessage keyword : String) : Bool :=
  keywordSpanIndices (tokenizeNormalized normalizedMessage) (tokenizeNormalized (normalizeText host keyword)) ≠ []

/-- `evaluate_safety` -/
def evaluateSafety (policy : TakeoverPolicy) (message : String) (finalResponse : Option String)
    (takeoverContext : Payload) (objective : Option String) : SafetyDecision × Option String :=
  if policy.safetyPolicy ≠ "high-risk-pause" then (.allow, none)
  else
    let normalizedMessage := normalizeText host message
    let confirmKeyword := normalizeText host policy.confirmKeyword
    let denyKeyword := normalizeText host policy.denyKeyword
    match takeoverContext.get "pending_safety" with
    | .obj _ =>
      if denyKeyword ≠ "" && keywordPresentWholeWord host normalizedMessage denyKeyword then
        (.blocked, some "denied_high_risk")
      else if confirmKeyword ≠ "" && confirmationIsAffirmative host normalizedMessage confirmKeyword then
        (.allow, some "confirmed_high_risk")
      else (.confirmRequired, some "awaiting_high_risk_confirmation")
    | _ =>
      match ((highRiskReason host (some message)).or (highRiskReason host objective)).or
          (highRiskReason host finalResponse) with
      | none => (.allow, none)
      | some risk => (.confirmRequired, some risk)

/-! ### What the operator says -/

/-- How an apostrophe is written. -/
def apostrophes : List Char := "'’‘ʼ＇`´′".toList

/-- The words a message is made of: its runs of letters, digits and apostrophes. -/
def spokenWords (text : List Char) : List (List Char) :=
  (fields (fun c => isGap host c && c ∉ apostrophes) text).filter (·.any host.isAlnum)

/-- The contractions, each with every apostrophe and with none. -/
def contractions : List String :=
  ["can", "won", "don"].flatMap fun stem => ("" :: apostrophes.map String.singleton).map (stem ++ · ++ "t")

/-- A word of negation, in quotes or not. -/
def IsNegation (word : List Char) : Prop :=
  String.ofList (stripChars (· ∈ apostrophes) (word.flatMap fun c => if host.isAlnum c then lowerChar host c else [c])) ∈
    ["not", "never", "no", "without", "cannot"] ++ contractions

instance (word : List Char) : Decidable (IsNegation host word) := inferInstanceAs (Decidable (_ ∈ _))

/-- The tokens of a message. -/
def messageTokens (text : List Char) : List String :=
  (joinContractions ((words host text).map String.ofList)).map normalizeToken

/-- The tokens of a keyword, which is normalised twice. -/
def keyTokens (keyword : String) : List String :=
  tokenizeNormalized (normalizeText host (normalizeText host keyword))

/-- A keyword stands, as a whole, behind a place of a message. -/
def Occurs (keyword : String) (text : List Char) (n : Nat) : Prop :=
  messageTokens host text = messageTokens host (text.take n) ++ messageTokens host (text.drop n) ∧
    keyTokens host keyword <+: messageTokens host (text.drop n)

instance (keyword : String) (text : List Char) (n : Nat) : Decidable (Occurs host keyword text n) :=
  inferInstanceAs (Decidable (_ ∧ _))

/-- The last three. -/
def lastThree {α : Type} (items : List α) : List α := items.drop (items.length - 3)

/-- Each time the keyword is said, a word of negation is among the three before it. -/
def EachNegated (keyword : String) (text : List Char) : Prop :=
  ∀ n ≤ text.length, Occurs host keyword text n → ∃ word ∈ lastThree (spokenWords host (text.take n)), IsNegation host word

/-- Each time the keyword is said, a token of negation is among the three before it. -/
def EachRecognised (keyword : String) (text : List Char) : Prop :=
  ∀ n ≤ text.length, Occurs host keyword text n →
    ∃ token ∈ lastThree (messageTokens host (text.take n)), token ∈ confirmNegationTokens

/-- A keyword is said. -/
def Spoken (keyword : String) (text : List Char) : Prop :=
  keyTokens host keyword ≠ [] ∧ ∃ n ≤ text.length, Occurs host keyword text n

variable {host}

/-! ### Tokens in parts -/

@[simp] theorem joinContractions_nil : joinContractions [] = [] := rfl

/-- A token that starts no contraction stays as it is. -/
theorem joinContractions_cons {token : String} {rest : List String}
    (h : ¬ (token ∈ ["can", "don"] ∧ rest.head? = some "t")) :
    joinContractions (token :: rest) = token :: joinContractions rest := by
  cases rest with
  | nil => rfl
  | cons next rest =>
    rw [joinContractions, if_neg, if_neg]
    · rintro ⟨rfl, rfl⟩
      exact h ⟨by simp, rfl⟩
    · rintro ⟨rfl, rfl⟩
      exact h ⟨by simp, rfl⟩

/-- Before what is not the end of a contraction, tokens are joined by themselves. -/
theorem joinContractions_append {u v : List String} (h : v.head? ≠ some "t") :
    joinContractions (u ++ v) = joinContractions u ++ joinContractions v := by
  induction u using joinContractions.induct with
  | case1 token next rest hcan ih =>
    rw [List.cons_append, List.cons_append, joinContractions, joinContractions, if_pos hcan, if_pos hcan, ih]
    rfl
  | case2 token next rest hcan hdon ih =>
    rw [List.cons_append, List.cons_append, joinContractions, joinContractions, if_neg hcan, if_neg hcan, if_pos hdon,
      if_pos hdon, ih]
    rfl
  | case3 token next rest hcan hdon ih =>
    rw [List.cons_append, List.cons_append, joinContractions, joinContractions, if_neg hcan, if_neg hcan, if_neg hdon,
      if_neg hdon, ← List.cons_append, ih]
    rfl
  | case4 tokens hshort =>
    cases tokens with
    | nil => rfl
    | cons token rest =>
      cases rest with
      | nil => exact joinContractions_cons fun hends => h hends.2
      | cons next rest => exact absurd rfl (hshort token next rest)

theorem length_joinContractions (items : List String) : (joinContractions items).length ≤ items.length := by
  induction items using joinContractions.induct with
  | case1 token next rest hcan ih =>
    rw [joinContractions, if_pos hcan]
    exact Nat.succ_le_succ (Nat.le_succ_of_le ih)
  | case2 token next rest hcan hdon ih =>
    rw [joinContractions, if_neg hcan, if_pos hdon]
    exact Nat.succ_le_succ (Nat.le_succ_of_le ih)
  | case3 token next rest hcan hdon ih =>
    rw [joinContractions, if_neg hcan, if_neg hdon]
    exact Nat.succ_le_succ ih
  | case4 tokens hshort => rw [joinContractions.eq_2 tokens hshort]

/-- A place between tokens is one between words. -/
theorem joinContractions_split {items u v : List String} (h : joinContractions items = u ++ v) :
    ∃ a b, items = a ++ b ∧ joinContractions a = u ∧ joinContractions b = v := by
  induction items using joinContractions.induct generalizing u with
  | case1 token next rest hcan ih =>
    cases u with
    | nil => exact ⟨[], _, rfl, rfl, h⟩
    | cons head u =>
      rw [joinContractions, if_pos hcan, List.cons_append] at h
      obtain ⟨rfl, hrest⟩ := List.cons.inj h
      obtain ⟨a, b, rfl, rfl, hb⟩ := ih hrest
      exact ⟨token :: next :: a, b, rfl, by rw [joinContractions, if_pos hcan], hb⟩
  | case2 token next rest hcan hdon ih =>
    cases u with
    | nil => exact ⟨[], _, rfl, rfl, h⟩
    | cons head u =>
      rw [joinContractions, if_neg hcan, if_pos hdon, List.cons_append] at h
      obtain ⟨rfl, hrest⟩ := List.cons.inj h
      obtain ⟨a, b, rfl, rfl, hb⟩ := ih hrest
      exact ⟨token :: next :: a, b, rfl, by rw [joinContractions, if_neg hcan, if_pos hdon], hb⟩
  | case3 token next rest hcan hdon ih =>
    cases u with
    | nil => exact ⟨[], _, rfl, rfl, h⟩
    | cons head u =>
      rw [joinContractions, if_neg hcan, if_neg hdon, List.cons_append] at h
      obtain ⟨rfl, hrest⟩ := List.cons.inj h
      obtain ⟨a, b, hsplit, rfl, hb⟩ := ih hrest
      refine ⟨token :: a, b, by rw [hsplit]; rfl, joinContractions_cons ?_, hb⟩
      rintro ⟨hstem, hhead⟩
      cases a with
      | nil => cases hhead
      | cons other a =>
        obtain rfl : next = other := (List.cons.inj hsplit).1
        obtain rfl : next = "t" := by simpa using hhead
        simp only [List.mem_cons, List.not_mem_nil, or_false] at hstem
        obtain rfl | rfl := hstem
        · exact hcan ⟨rfl, rfl⟩
        · exact hdon ⟨rfl, rfl⟩
  | case4 tokens hshort =>
    cases u with
    | nil => exact ⟨[], _, rfl, rfl, h⟩
    | cons head u =>
      cases tokens with
      | nil => cases h
      | cons token rest =>
        cases rest with
        | nil =>
          obtain ⟨rfl, hrest⟩ := List.cons.inj h
          obtain ⟨rfl, rfl⟩ := List.append_eq_nil_iff.mp hrest.symm
          exact ⟨[token], [], rfl, rfl, rfl⟩
        | cons next rest => exact absurd rfl (hshort token next rest)

/-! ### The keyword in a message -/

theorem tokenizeNormalized_normalizeText (text : String) :
    tokenizeNormalized (normalizeText host text) = messageTokens host text.toList := by
  rw [tokenizeNormalized, splitBlanks_normalizeText, messageTokens]

theorem mem_keywordSpanIndices {tokens key : List String} (hkey : key ≠ []) {idx : Nat} :
    idx ∈ keywordSpanIndices tokens key ↔ ∃ u v, tokens = u ++ v ∧ u.length = idx ∧ key <+: v := by
  rw [keywordSpanIndices, if_neg hkey, mem_places_iff hkey]
  constructor
  · rintro ⟨u, v, rfl, rfl⟩
    exact ⟨u, key ++ v, List.append_assoc .., rfl, List.prefix_append _ _⟩
  · rintro ⟨u, v, rfl, rfl, rest, rfl⟩
    exact ⟨u, rest, (List.append_assoc ..).symm, rfl⟩

section
variable (laws : Lowers host)
include laws

/-- A message has a place between any two of its tokens. -/
theorem messageTokens_split {text : List Char} {u v : List String} (h : messageTokens host text = u ++ v) :
    ∃ n ≤ text.length, messageTokens host (text.take n) = u ∧ messageTokens host (text.drop n) = v := by
  rw [messageTokens, List.map_eq_append_iff] at h
  obtain ⟨u', v', hjoined, rfl, rfl⟩ := h
  obtain ⟨a, b, hwords, rfl, rfl⟩ := joinContractions_split hjoined
  obtain ⟨a', b', hsplit, rfl, rfl⟩ := List.map_eq_append_iff.mp hwords
  obtain ⟨lead, follow, rfl, rfl, rfl⟩ := exists_words_append laws hsplit
  refine ⟨lead.length, by simp, ?_, ?_⟩
  · rw [List.take_left, messageTokens]
  · rw [List.drop_left, messageTokens]

/-- The places of a keyword among the tokens are those in the message. -/
theorem exists_keywordSpan {keyword : String} (hkey : keyTokens host keyword ≠ []) (text : List Char)
    (p : List String → Prop) :
    (∃ idx ∈ keywordSpanIndices (messageTokens host text) (keyTokens host keyword),
        p ((messageTokens host text).take idx)) ↔
      ∃ n ≤ text.length, Occurs host keyword text n ∧ p (messageTokens host (text.take n)) := by
  constructor
  · rintro ⟨idx, hidx, hp⟩
    obtain ⟨u, v, hsplit, rfl, hprefix⟩ := (mem_keywordSpanIndices hkey).mp hidx
    obtain ⟨n, hn, rfl, rfl⟩ := messageTokens_split laws hsplit
    rw [hsplit, List.take_left] at hp
    exact ⟨n, hn, ⟨hsplit, hprefix⟩, hp⟩
  · rintro ⟨n, hn, ⟨hsplit, hprefix⟩, hp⟩
    refine ⟨_, (mem_keywordSpanIndices hkey).mpr ⟨_, _, hsplit, rfl, hprefix⟩, ?_⟩
    rwa [hsplit, List.take_left]

omit laws in
theorem lookback_eq {tokens key : List String} {idx : Nat} (h : idx ∈ keywordSpanIndices tokens key) :
    lookback tokens idx = lastThree (tokens.take idx) := by
  by_cases hkey : key = []
  · rw [keywordSpanIndices, if_pos hkey] at h
    cases h
  · obtain ⟨u, v, rfl, rfl, -⟩ := (mem_keywordSpanIndices hkey).mp h
    rw [lookback, lastThree, List.take_left]

/-- A confirmation is none just where each keyword has a token of negation before it. -/
theorem confirmationIsAffirmative_iff {keyword : String} (hkey : keyTokens host keyword ≠ []) (message : String) :
    confirmationIsAffirmative host (normalizeText host message) (normalizeText host keyword) ↔
      ¬ EachRecognised host keyword message.toList := by
  have hplaces := exists_keywordSpan laws hkey message.toList fun tokens =>
    ¬ ∃ token ∈ lastThree tokens, token ∈ confirmNegationTokens
  have hrecognised : ¬ EachRecognised host keyword message.toList ↔ ∃ n ≤ message.toList.length,
      Occurs host keyword message.toList n ∧
        ¬ ∃ token ∈ lastThree (messageTokens host (message.toList.take n)), token ∈ confirmNegationTokens := by
    simp only [EachRecognised, not_forall, exists_prop]
  rw [hrecognised, ← hplaces, confirmationIsAffirmative, tokenizeNormalized_normalizeText, List.any_eq_true]
  refine exists_congr fun idx => and_congr_right fun hidx => ?_
  rw [lookback_eq hidx, Bool.not_eq_true', Bool.eq_false_iff, ne_eq, List.any_eq_true]
  simp only [decide_eq_true_eq]

theorem keywordPresentWholeWord_iff (keyword message : String) :
    keywordPresentWholeWord host (normalizeText host message) (normalizeText host keyword) ↔
      Spoken host keyword message.toList := by
  rw [keywordPresentWholeWord, decide_eq_true_eq, tokenizeNormalized_normalizeText]
  by_cases hkey : keyTokens host keyword = []
  · exact iff_of_false (fun h => h (if_pos hkey)) fun h => h.1 hkey
  · have hplaces := exists_keywordSpan laws hkey message.toList fun _ => True
    simp only [and_true] at hplaces
    rw [Spoken, and_iff_right hkey, ← hplaces]
    exact ⟨List.exists_mem_of_ne_nil _, fun h => List.ne_nil_of_mem h.choose_spec⟩

omit laws in
theorem normalizeText_ne_empty {keyword : String} (h : keyTokens host keyword ≠ []) : normalizeText host keyword ≠ "" := by
  intro hnil
  rw [keyTokens, hnil] at h
  exact h rfl

/-- A message to a pending gate is not taken for a confirmation just where the denial is said, or each confirmation has a
token of negation shortly before it. -/
theorem evaluateSafety_pending_iff {policy : TakeoverPolicy} (hpolicy : policy.safetyPolicy = "high-risk-pause")
    {takeoverContext : Payload} {fields : List (String × Json)}
    (hpending : takeoverContext.get "pending_safety" = .obj fields) (hkey : keyTokens host policy.confirmKeyword ≠ [])
    (message : String) (finalResponse objective : Option String) :
    (evaluateSafety host policy message finalResponse takeoverContext objective).1 ≠ .allow ↔
      Spoken host policy.denyKeyword message.toList ∨ EachRecognised host policy.confirmKeyword message.toList := by
  have hdeny : (normalizeText host policy.denyKeyword ≠ "" && keywordPresentWholeWord host (normalizeText host message)
      (normalizeText host policy.denyKeyword)) ↔ Spoken host policy.denyKeyword message.toList := by
    rw [Bool.and_eq_true, decide_eq_true_eq, keywordPresentWholeWord_iff laws]
    exact and_iff_right_of_imp fun h => normalizeText_ne_empty h.1
  have hconfirm : (normalizeText host policy.confirmKeyword ≠ "" && confirmationIsAffirmative host
      (normalizeText host message) (normalizeText host policy.confirmKeyword)) ↔
      ¬ EachRecognised host policy.confirmKeyword message.toList := by
    rw [Bool.and_eq_true, decide_eq_true_eq, and_iff_right (normalizeText_ne_empty hkey),
      confirmationIsAffirmative_iff laws hkey]
  simp only [evaluateSafety, if_neg (not_not.mpr hpolicy), hpending]
  by_cases hspoken : Spoken host policy.denyKeyword message.toList
  · rw [if_pos (hdeny.mpr hspoken)]
    exact iff_of_true (by decide) (Or.inl hspoken)
  · rw [if_neg (mt hdeny.mp hspoken), or_iff_right hspoken]
    by_cases hrecognised : EachRecognised host policy.confirmKeyword message.toList
    · rw [if_neg (mt hconfirm.mp (not_not.mpr hrecognised))]
      exact iff_of_true (by decide) hrecognised
    · rw [if_pos (hconfirm.mpr hrecognised)]
      exact iff_of_false (not_not.mpr rfl) hrecognised

/-- A message whose every confirmation is negated is not taken for one just where the denial is said, or each negation
is a token among the last three. -/
theorem not_allowed_iff {policy : TakeoverPolicy} (hpolicy : policy.safetyPolicy = "high-risk-pause")
    {takeoverContext : Payload} {fields : List (String × Json)}
    (hpending : takeoverContext.get "pending_safety" = .obj fields) (hkey : keyTokens host policy.confirmKeyword ≠ [])
    (message : String) (finalResponse objective : Option String) :
    (EachNegated host policy.confirmKeyword message.toList →
      (evaluateSafety host policy message finalResponse takeoverContext objective).1 ≠ .allow) ↔
    (EachNegated host policy.confirmKeyword message.toList →
      Spoken host policy.denyKeyword message.toList ∨ EachRecognised host policy.confirmKeyword message.toList) :=
  imp_congr_right fun _ => evaluateSafety_pending_iff laws hpolicy hpending hkey message finalResponse objective

omit laws in
theorem not_allowed_iff_example :
    (EachNegated exampleTextHost "confirm" "I can't confirm this".toList →
      (evaluateSafety exampleTextHost {} "I can't confirm this" none [("pending_safety", .obj [])] none).1 ≠ .allow) ↔
    (EachNegated exampleTextHost "confirm" "I can't confirm this".toList →
      Spoken exampleTextHost "abort" "I can't confirm this".toList ∨
        EachRecognised exampleTextHost "confirm" "I can't confirm this".toList) :=
  @not_allowed_iff _ lowers_example {} rfl [("pending_safety", .obj [])] [] rfl (by decide +kernel) "I can't confirm this"
    none none

omit laws in
/-- A won't is no token, and words in two tokens push the negation out. -/
theorem negated_allowed :
    (EachNegated exampleTextHost "confirm" "I won't confirm this".toList ∧
      evaluateSafety exampleTextHost {} "I won't confirm this" none [("pending_safety", .obj [])] none =
        (.allow, some "confirmed_high_risk")) ∧
    EachNegated exampleTextHost "confirm" "no, it's Ann's confirm".toList ∧
      evaluateSafety exampleTextHost {} "no, it's Ann's confirm" none [("pending_safety", .obj [])] none =
        (.allow, some "confirmed_high_risk") := by
  unfold EachNegated
  decide +kernel

/-! ### Words and tokens -/

/-- The words of a message, each by the words the code makes of it. -/
theorem words_eq_spokenWords (text : List Char) : words host text = (spokenWords host text).flatMap (words host) := by
  have hall : words host text =
      (fields (fun c => isGap host c && c ∉ apostrophes) text).flatMap (words host) := by
    have hfine : ∀ c, (isGap host c && decide (c ∉ apostrophes)) → isGap host c := fun c hc => (Bool.and_eq_true_iff.mp hc).1
    rw [words_eq laws, fields_flatMap hfine, List.map_flatMap]
    exact List.flatMap_congr fun word _ => (words_eq laws word).symm
  rw [hall, spokenWords]
  generalize fields (fun c => isGap host c && c ∉ apostrophes) text = parts
  induction parts with
  | nil => rfl
  | cons word rest ih =>
    cases hword : word.any host.isAlnum with
    | true => rw [List.filter_cons, if_pos hword, List.flatMap_cons, List.flatMap_cons, ih]
    | false =>
      have hgaps : ∀ c ∈ word, isGap host c := by simpa [isGap, List.any_eq_false] using hword
      rw [List.filter_cons, hword, if_neg Bool.false_ne_true, List.flatMap_cons, words_gaps laws hgaps, List.nil_append, ih]

omit laws in
/-- A negation is one token, whatever is behind it. -/
theorem joinContractions_negation {items : List String}
    (h : items ∈ confirmNegationTokens.map (fun token => [token]) ++ [["can", "t"], ["don", "t"]]) :
    items.head? ≠ some "t" ∧ ∃ token ∈ confirmNegationTokens, normalizeToken token = token ∧
      ∀ rest, joinContractions (items ++ rest) = token :: joinContractions rest := by
  obtain h | h := List.mem_append.mp h
  · obtain ⟨token, htoken, rfl⟩ := List.mem_map.mp h
    have hall : confirmNegationTokens.all fun token =>
        token ≠ "t" && token ∉ ["can", "don"] && normalizeToken token = token := by decide
    have hshape := List.all_eq_true.mp hall token htoken
    simp only [Bool.and_eq_true, decide_eq_true_eq] at hshape
    obtain ⟨⟨ht, hstem⟩, hsame⟩ := hshape
    exact ⟨by simpa using ht, token, htoken, hsame, fun rest => joinContractions_cons fun hstart => hstem hstart.1⟩
  · simp only [List.mem_cons, List.not_mem_nil, or_false] at h
    obtain rfl | rfl := h
    · exact ⟨by decide, "cant", by decide, by decide, fun rest => by
        rw [List.cons_append, List.cons_append, joinContractions, if_pos ⟨rfl, rfl⟩]
        rfl⟩
    · exact ⟨by decide, "dont", by decide, by decide, fun rest => by
        rw [List.cons_append, List.cons_append, joinContractions, if_neg (by decide), if_pos ⟨rfl, rfl⟩]
        rfl⟩

/-- A negation that is one token is recognised, with two words at most behind it that are one token each. -/
theorem recognised_of_negation {text word : List Char} {before behind : List (List Char)}
    (hwords : spokenWords host text = before ++ word :: behind) (hbehind : behind.length ≤ 2)
    (hone : ∀ other ∈ behind, (words host other).length ≤ 1)
    (hword : (words host word).map String.ofList ∈
      confirmNegationTokens.map (fun token => [token]) ++ [["can", "t"], ["don", "t"]]) :
    ∃ token ∈ lastThree (messageTokens host text), token ∈ confirmNegationTokens := by
  obtain ⟨hhead, token, htoken, hsame, hjoined⟩ := joinContractions_negation hword
  have hlength : (behind.flatMap (words host)).length ≤ 2 := by
    have hsum : (behind.map fun other => (words host other).length).sum ≤ behind.length := by
      simpa using List.sum_le_card_nsmul (behind.map fun other => (words host other).length) 1 (by simpa using hone)
    rw [List.length_flatMap]
    omega
  generalize hitems : (words host word).map String.ofList = items at hhead hjoined
  generalize hlast : (behind.flatMap (words host)).map String.ofList = last
  rw [← List.length_map (f := String.ofList), hlast] at hlength
  have hne : (items ++ last).head? ≠ some "t" := by
    cases items with
    | nil =>
      have := congrArg List.length (hjoined [])
      simp at this
    | cons item items => exact hhead
  refine ⟨token, ?_, htoken⟩
  rw [messageTokens, words_eq_spokenWords laws, hwords, List.flatMap_append, List.flatMap_cons, List.map_append,
    List.map_append, hitems, hlast, joinContractions_append hne, hjoined, List.map_append, List.map_cons, hsame, lastThree,
    List.drop_append_of_le_length]
  · simp
  · have := length_joinContractions last
    simp only [List.length_append, List.length_map, List.length_cons]
    omega

end

end OpenTimeline.Takeover
