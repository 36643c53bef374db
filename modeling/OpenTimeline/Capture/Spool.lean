import OpenTimeline.Json
import OpenTimeline.Library.Dict

/-! The spool of trusted captures.

A capture waits in one file under its delivery key. A delivery removes the file; a file that
cannot be read is set aside and one over the cap is evicted, each with a line in the gap
log. An exception of the language leaves what was done before it. -/
namespace OpenTimeline.Capture
open Library

/-! ### Library calls -/

inductive SpoolException
  | valueError | overflowError | recursionError
deriving DecidableEq, Repr

/-- The library calls of the spool, beside those of a `Host`. -/
structure SpoolHost extends Host where
  /-- `json.loads(text)`, `none` where it raises a `ValueError` -/
  jsonLoads : String → Except SpoolException (Option Json)
  /-- `float(value)`, of a number -/
  toFloat : Json → Except SpoolException PyFloat
  /-- `int(value)`, of a number -/
  toInt : Json → Except SpoolException Int
  /-- `a < b` -/
  floatLt : PyFloat → PyFloat → Bool

/-- What the clock says during a call. -/
structure Clock where
  /-- the modification time of a file it writes -/
  mtime : PyFloat
  /-- `_utc_now_iso()`, when a key is noted -/
  droppedAt : String → String

variable (host : SpoolHost)

/-! ### Entries -/

/-- `SpoolEntryState` -/
inductive SpoolEntryState
  | spooled | delivered | failed | droppedFull
deriving DecidableEq, Repr

def SpoolEntryState.value : SpoolEntryState → String
  | spooled => "spooled"
  | delivered => "delivered"
  | failed => "failed"
  | droppedFull => "dropped_full"

structure SpoolEntry where
  deliveryKey : String
  body : Payload
  createdAt : PyFloat
  attempts : Int
  lastError : Option String
  state : String

/-- `SPOOL_SCHEMA_VERSION` -/
def spoolSchemaVersion : String := "v1"

/-- The text `write_entry` writes. -/
def SpoolEntry.text (entry : SpoolEntry) : String :=
  jsonDumps (.obj [("schema_version", .str spoolSchemaVersion), ("delivery_key", .str entry.deliveryKey),
    ("body", .obj entry.body), ("created_at", .float entry.createdAt), ("attempts", .int entry.attempts),
    ("last_error", entry.lastError.elim .null .str), ("state", .str entry.state)])

/-- `MAX_FAILED_ATTEMPTS` -/
def maxFailedAttempts : Int := 3

/-- `retryable` -/
def retryable (entry : SpoolEntry) : Bool :=
  if entry.state = SpoolEntryState.failed.value then entry.attempts < maxFailedAttempts else true

/-! ### Files -/

structure SpoolFile where
  /-- `none` where the bytes are no UTF-8 -/
  text : Option String
  size : Nat
  mtime : PyFloat

/-- The file `write_entry` writes; its text is ASCII. -/
def SpoolEntry.file (entry : SpoolEntry) (clock : Clock) : SpoolFile where
  text := some entry.text
  size := entry.text.toList.length
  mtime := clock.mtime

/-- A line of the gap log. -/
structure GapRecord where
  deliveryKey : String
  contentSha256 : Json
  observedAt : Json
  reason : String
  droppedAt : String

structure Spool where
  files : Dict String SpoolFile
  gaps : List GapRecord

/-- `ENTRY_SUFFIX` -/
def entrySuffix : List Char := ".json".toList

/-- `CORRUPT_SUFFIX` -/
def corruptSuffix : String := ".corrupt"

/-- The name of the file of a key. -/
def entryName (key : String) : String := String.ofList (key.toList ++ entrySuffix)

/-- `path.name[: -len(ENTRY_SUFFIX)]` -/
def entryStem (name : String) : String := String.ofList (name.toList.take (name.toList.length - entrySuffix.length))

/-- The names `_entry_files` lists. -/
def isEntryName (name : String) : Bool :=
  name ≠ "state.json" && entrySuffix.isSuffixOf name.toList && !startsWith name ".tmp-"

/-- `_validate_key` does not raise. -/
def validKey (key : String) : Bool :=
  16 ≤ key.toList.length && key.toList.length ≤ 128 && key.toList.all (· ∈ "0123456789abcdef".toList)

namespace Spool
variable (s : Spool)

/-- `_entry_files`, with what the files hold. -/
def entryFiles : List (Sigma fun _ : String => SpoolFile) := s.files.entries.filter (isEntryName ·.1)

/-- The file of a key. -/
def file (key : String) : Option SpoolFile := s.files.lookup (entryName key)

/-- The keys the gap log names. -/
def lost : List String := s.gaps.map (·.deliveryKey)

/-- `_append_gap` -/
def appendGap (record : GapRecord) : Spool where
  files := s.files
  gaps := s.gaps ++ [record]

/-- `os.replace`, by a file written aside or under another name. -/
def store (name : String) (file : SpoolFile) : Spool where
  files := s.files.insert name file
  gaps := s.gaps

def unlink (name : String) : Spool where
  files := s.files.erase name
  gaps := s.gaps

end Spool

/-- `write_entry` -/
def writeEntry (entry : SpoolEntry) (clock : Clock) (s : Spool) : Spool × Except SpoolException Unit :=
  if validKey entry.deliveryKey then (s.store (entryName entry.deliveryKey) (entry.file clock), .ok ())
  else (s, .error .valueError)

/-- `remove_entry` -/
def removeEntry (key : String) (s : Spool) : Spool × Except SpoolException Unit :=
  if validKey key then (s.unlink (entryName key), .ok ()) else (s, .error .valueError)

/-! ### Reading -/

/-- `isinstance(value, int | float)` -/
def isNumber : Json → Bool
  | .bool _ | .int _ | .float _ => true
  | _ => false

/-- `int(attempts) if isinstance(attempts, int | float) else 0` -/
def attemptsOf (attempts : Json) : Except SpoolException Int :=
  if isNumber attempts then host.toInt attempts else .ok 0

/-- The fields of an entry, checked as `_parse_entry` checks them. -/
def entryOfFields (name : String) (loaded : Payload) : Except SpoolException (Option SpoolEntry) :=
  match loaded.get "delivery_key", loaded.get "body" with
  | .str key, .obj body =>
    if key = entryStem name && isNumber (loaded.get "created_at") then do
      let createdAt ← host.toFloat (loaded.get "created_at")
      let attempts ← attemptsOf host (loaded.get "attempts")
      return some {
        deliveryKey := key
        body
        createdAt
        attempts
        lastError := match loaded.get "last_error" with
          | .null => none
          | value => some (pyStr host.toHost value)
        state := match loaded.get "state" with
          | .str state => state
          | _ => SpoolEntryState.spooled.value }
    else .ok none
  | _, _ => .ok none

/-- `_parse_entry` -/
def parseEntry (name : String) (file : SpoolFile) : Except SpoolException (Option SpoolEntry) :=
  match file.text with
  | none => .ok none
  | some text => do
    match ← host.jsonLoads text with
    | some (.obj loaded) => entryOfFields host name loaded
    | _ => .ok none

/-- The record of a file that has no entry. -/
def unreadGap (name reason : String) (clock : Clock) : GapRecord where
  deliveryKey := entryStem name
  contentSha256 := .null
  observedAt := .null
  reason
  droppedAt := clock.droppedAt (entryStem name)

/-- `_quarantine` -/
def quarantine (name : String) (file : SpoolFile) (clock : Clock) (s : Spool) : Spool :=
  ((s.unlink name).store (name ++ corruptSuffix) file).appendGap (unreadGap name "corrupt" clock)

/-- The loop of `read_entries`. -/
def readFiles (clock : Clock) : List (Sigma fun _ : String => SpoolFile) → Spool →
    Spool × Except SpoolException (List SpoolEntry)
  | [], s => (s, .ok [])
  | ⟨name, file⟩ :: rest, s =>
    match parseEntry host name file with
    | .error e => (s, .error e)
    | .ok none => readFiles clock rest (quarantine name file clock s)
    | .ok (some entry) =>
      let after := readFiles clock rest s
      (after.1, after.2.map (entry :: ·))

/-- Not after, as tuples `(time, key)` compare. -/
def notAfter (a b : PyFloat × String) : Bool :=
  !(host.floatLt b.1 a.1 || (!host.floatLt a.1 b.1 && b.2 < a.2))

/-- `read_entries` -/
def readEntries (limit : Int) (clock : Clock) (s : Spool) : Spool × Except SpoolException (List SpoolEntry) :=
  if limit ≤ 0 then (s, .ok [])
  else
    let after := readFiles host clock s.entryFiles s
    (after.1, after.2.map fun entries =>
      (entries.insertionSort fun a b => notAfter host (a.createdAt, a.deliveryKey) (b.createdAt, b.deliveryKey)).take
        limit.toNat)

/-! ### Attempts -/

/-- `_gap_record` -/
def gapRecord (entry : SpoolEntry) (reason : String) (clock : Clock) : GapRecord where
  deliveryKey := entry.deliveryKey
  contentSha256 := entry.body.get "content_sha256"
  observedAt := entry.body.get "observed_at"
  reason
  droppedAt := clock.droppedAt entry.deliveryKey

/-- The entry after an attempt. -/
def SpoolEntry.attempted (entry : SpoolEntry) (outcome : SpoolEntryState) (error : Option String) : SpoolEntry where
  deliveryKey := entry.deliveryKey
  body := entry.body
  createdAt := entry.createdAt
  attempts := entry.attempts + 1
  lastError := if outcome = .delivered then none else error
  state := outcome.value

@[simp] theorem SpoolEntry.attempted_deliveryKey (entry : SpoolEntry) (outcome : SpoolEntryState)
    (error : Option String) : (entry.attempted outcome error).deliveryKey = entry.deliveryKey := rfl

/-- `record_attempt` -/
def recordAttempt (entry : SpoolEntry) (outcome : SpoolEntryState) (error : Option String) (clock : Clock) (s : Spool) :
    Spool × Except SpoolException SpoolEntry :=
  let updated := entry.attempted outcome error
  match outcome with
  | .delivered =>
    let after := removeEntry entry.deliveryKey s
    (after.1, after.2.map fun _ => updated)
  | .droppedFull =>
    match removeEntry entry.deliveryKey s with
    | (s, .error e) => (s, .error e)
    | (s, .ok ()) => (s.appendGap (gapRecord entry "dropped_full" clock), .ok updated)
  | .spooled | .failed =>
    let after := writeEntry updated clock s
    (after.1, after.2.map fun _ => updated)

/-! ### The cap -/

/-- A file that may have to go. -/
structure Candidate where
  time : PyFloat
  name : String
  size : Nat
  entry : Option SpoolEntry

def Candidate.key (c : Candidate) : String := entryStem c.name

def Candidate.gap (c : Candidate) (clock : Clock) : GapRecord :=
  match c.entry with
  | some entry => gapRecord entry "dropped_full" clock
  | none => unreadGap c.name "dropped_full" clock

/-- A file of the listing, as `ordered` has it. -/
def candidate (file : Sigma fun _ : String => SpoolFile) : Except SpoolException Candidate := do
  let entry ← parseEntry host file.1 file.2
  return {
    time := match entry with
      | some entry => entry.createdAt
      | none => file.2.mtime
    name := file.1
    size := file.2.size
    entry }

/-- The loop of `enforce_cap`, with the count and the total of what is left. -/
def evict (maxFiles maxBytes : Int) (clock : Clock) : List Candidate → Int → Int → Spool → Spool × List String
  | [], _, _, s => (s, [])
  | c :: rest, count, total, s =>
    if count ≤ maxFiles ∧ total ≤ maxBytes then (s, [])
    else
      let after := evict maxFiles maxBytes clock rest (count - 1) (total - c.size)
        ((s.unlink c.name).appendGap (c.gap clock))
      (after.1, c.key :: after.2)

/-- `enforce_cap` -/
def enforceCap (maxFiles maxBytes : Int) (clock : Clock) (s : Spool) : Spool × Except SpoolException (List String) :=
  let count : Int := s.entryFiles.length
  let total : Int := ((s.entryFiles.map (·.2.size)).sum : Nat)
  if count ≤ maxFiles ∧ total ≤ maxBytes then (s, .ok [])
  else match s.entryFiles.mapM (candidate host) with
  | .error e => (s, .error e)
  | .ok candidates =>
    let ordered := candidates.insertionSort fun a b => notAfter host (a.time, a.key) (b.time, b.key)
    let after := evict maxFiles maxBytes clock ordered count total s
    (after.1, .ok after.2)

end OpenTimeline.Capture
