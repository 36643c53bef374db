import Mathlib

/-! What the modelled code takes from its host language.

Event payloads and charter payloads are JSON values: what `json.loads` returns
and what `event_payload_to_json` leaves of a payload before it is stored. A
datetime is an instant, in microseconds after `datetime.min`; a naive one is
told apart where the code compares it with an aware one, which raises.

The library calls whose results no theorem depends on (a digest, a uuid, the
case mapping, the parsers and the `repr` of a container) are the fields of a
`Host`, so every result holds whatever they return. -/
namespace OpenTimeline

/-- Microseconds after `datetime.min`, UTC. -/
abbrev Instant := Nat

/-- `datetime(1970, 1, 1, tzinfo=UTC)`. -/
def epoch : Instant := 62135596800000000

/-- A `datetime`; a naive one counts in its own clock. -/
structure Datetime where
  instant : Instant
  aware : Bool
deriving DecidableEq, Repr

/-- The exceptions the modelled code can raise out of the language. -/
inductive PyError
  | typeError
  | valueError
  | attributeError
  | overflowError
deriving DecidableEq, Repr

theorem bind_ok {ε β γ : Type} {x : Except ε β} {f : β → Except ε γ} {c : γ} (h : x >>= f = .ok c) :
    ∃ b, x = .ok b ∧ f b = .ok c := by
  cases x with
  | error e => cases h
  | ok b => exact ⟨b, rfl, h⟩

theorem toOption_eq_some_iff {ε α : Type} {x : Except ε α} {a : α} : x.toOption = some a ↔ x = .ok a := by
  cases x <;> simp [Except.toOption]

/-- `a < b`: a naive and an aware datetime do not compare. -/
def Datetime.lt (a b : Datetime) : Except PyError Bool :=
  if a.aware = b.aware then .ok (a.instant < b.instant) else .error .typeError

/-- A `float`: its `repr`, its `int()` where it is finite and whether it is zero. -/
structure PyFloat where
  repr : String
  trunc : Int
  isZero : Bool
deriving DecidableEq, Repr

/-- `int(value)` of a float -/
def PyFloat.int (x : PyFloat) : Except PyError Int :=
  if x.repr = "nan" then .error .valueError
  else if x.repr ∈ ["inf", "-inf"] then .error .overflowError
  else .ok x.trunc

/-- `json.dumps(value)` of a float -/
def PyFloat.dumped (x : PyFloat) : String :=
  if x.repr = "nan" then "NaN"
  else if x.repr = "inf" then "Infinity"
  else if x.repr = "-inf" then "-Infinity"
  else x.repr

inductive Json
  | null
  | bool (b : Bool)
  | int (n : Int)
  | float (x : PyFloat)
  | str (s : String)
  | arr (items : List Json)
  | obj (fields : List (String × Json))
deriving Repr

/-- A JSON object with its keys in insertion order. -/
abbrev Payload := List (String × Json)

/-- `payload.get(key)`: a missing key and a null read the same. -/
def Payload.get (p : Payload) (key : String) : Json := (p.lookup key).getD .null

structure Host where
  /-- `hashlib.sha256(text.encode("utf-8")).hexdigest()` -/
  sha256Hex : String → String
  /-- `str(uuid.uuid5(_TASK_STATE_NAMESPACE, name))` -/
  uuid5 : String → String
  /-- `uuid.UUID(value)` does not raise -/
  isUuid : String → Bool
  /-- `datetime.fromisoformat(text)`, `none` where it raises -/
  fromIsoFormat : String → Option Datetime
  /-- `str.lower` -/
  lower : String → String
  /-- `int(text)`, `none` where it raises -/
  parseInt : String → Option Int
  /-- `json.loads(text)`, `none` where it raises -/
  loads : String → Option Json
  /-- `repr(value)` -/
  repr : Json → String

/-! ### Strings -/

/-- `str.isspace` for one character. -/
def isSpace (c : Char) : Bool :=
  c.toNat ∈ [9, 10, 11, 12, 13, 28, 29, 30, 31, 32, 133, 160, 5760, 8192, 8193, 8194, 8195, 8196,
    8197, 8198, 8199, 8200, 8201, 8202, 8232, 8233, 8239, 8287, 12288]

/-- `text.startswith(prefix)` -/
def startsWith (text start : String) : Bool := start.toList.isPrefixOf text.toList

/-- `text.split("/")` -/
def splitSlash (text : String) : List String := (text.toList.splitOn '/').map String.ofList

/-- Drops the characters `p` accepts from both ends. -/
def stripChars (p : Char → Bool) (cs : List Char) : List Char := (cs.dropWhile p).rdropWhile p

/-- `str.strip()` -/
def strip (s : String) : String := String.ofList (stripChars isSpace s.toList)

/-- A host for concrete runs over ASCII text, with its digests and uuids given. -/
def asciiHost (digests uuids : List (String × String)) : Host where
  sha256Hex text := (digests.lookup text).getD text
  uuid5 name := (uuids.lookup name).getD name
  isUuid value :=
    let digits := value.toList.filter (· ≠ '-')
    digits.length = 32 && digits.all fun c => c.isDigit || c.toLower ∈ ['a', 'b', 'c', 'd', 'e', 'f']
  fromIsoFormat _ := none
  lower text := String.ofList (text.toList.map Char.toLower)
  parseInt text := text.toInt?
  loads _ := none
  repr _ := ""

/-! ### Values -/

/-- `bool(value)` -/
def truthy : Json → Bool
  | .null => false
  | .bool b => b
  | .int n => n ≠ 0
  | .float x => !x.isZero
  | .str s => s ≠ ""
  | .arr items => !items.isEmpty
  | .obj fields => !fields.isEmpty

/-- `value or default` -/
def Json.or (value default : Json) : Json := if truthy value then value else default

/-- `str(value)` -/
def pyStr (host : Host) : Json → String
  | .null => "None"
  | .bool b => if b then "True" else "False"
  | .int n => toString n
  | .float x => x.repr
  | .str s => s
  | value => host.repr value

/-- `int(value)` -/
def pyInt (host : Host) : Json → Except PyError Int
  | .bool b => .ok (if b then 1 else 0)
  | .int n => .ok n
  | .float x => x.int
  | .str s => match host.parseInt (strip s) with
    | some n => .ok n
    | none => .error .valueError
  | _ => .error .typeError

/-! ### Canonical JSON

`json.dumps(value, sort_keys=True, separators=(",", ":"), ensure_ascii=False)`. -/

def hexDigit (n : Nat) : Char := if n < 10 then Char.ofNat (48 + n) else Char.ofNat (87 + n)

def jsonEscape (c : Char) : List Char :=
  match c.toNat with
  | 34 => ['\\', '"']
  | 92 => ['\\', '\\']
  | 8 => ['\\', 'b']
  | 9 => ['\\', 't']
  | 10 => ['\\', 'n']
  | 12 => ['\\', 'f']
  | 13 => ['\\', 'r']
  | n => if n < 32 then ['\\', 'u', '0', '0', hexDigit (n / 16), hexDigit (n % 16)] else [c]

def jsonString (s : String) : String :=
  String.ofList ('"' :: (s.toList.flatMap jsonEscape ++ ['"']))

mutual

def canonicalJson : Json → String
  | .null => "null"
  | .bool b => if b then "true" else "false"
  | .int n => toString n
  | .float x => x.dumped
  | .str s => jsonString s
  | .arr items => "[" ++ ",".intercalate (canonicalItems items) ++ "]"
  | .obj fields =>
    "\x7b" ++ ",".intercalate (((canonicalFields fields).insertionSort (fun a b => a.1 ≤ b.1)).map
      (fun f => jsonString f.1 ++ ":" ++ f.2)) ++ "\x7d"

def canonicalItems : List Json → List String
  | [] => []
  | x :: rest => canonicalJson x :: canonicalItems rest

def canonicalFields : List (String × Json) → List (String × String)
  | [] => []
  | (key, x) :: rest => (key, canonicalJson x) :: canonicalFields rest

end

example : canonicalJson (.obj [("b", .int 1), ("a", .arr [.null, .str "x\n"])]) =
    "\x7b\"a\":[null,\"x\\n\"],\"b\":1\x7d" := by decide

end OpenTimeline
