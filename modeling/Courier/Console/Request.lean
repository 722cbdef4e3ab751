import Courier.Json.Value
import Courier.Time.Duration
import Courier.Time.Rfc3339
import Courier.Envelope.Basic

namespace Courier

/-! Reading the fields of a request. A request is a JSON object; a field that is
missing where it is required, or holds a value of the wrong kind, makes the
request invalid, with a short text saying which field. A few readings break
down instead of refusing: they cut a text inside a character. -/

-- Powers of numbers are those of the core library, also where more algebra is
-- in scope; a literal exponent is given its type so that no default instance picks it.
attribute [local instance (high)] instPowNat

inductive Refusal where
  /-- The request is invalid, for the reason given. -/
  | invalid (reason : String)
  /-- Reading the request broke down. -/
  | breakdown
  deriving DecidableEq, Repr

instance : Coe String Refusal := ⟨Refusal.invalid⟩

/-- Reading a request, which may find it invalid. -/
abbrev Reading := Except Refusal

def refuse {α : Type} (reason : String) : Reading α := .error (.invalid reason)

namespace Request

/-- The value of a field, with `null` counted as absent. -/
def get? (request : Json) (key : String) : Option Json :=
  match request.field? key with
  | some .null => none
  | other => other

def text (request : Json) (key : String) : Reading String :=
  match get? request key with
  | some (.string s) => .ok s
  | some _ => .error ("field " ++ key ++ " must be a string")
  | none => .error ("missing field " ++ key)

def text? (request : Json) (key : String) : Reading (Option String) :=
  match get? request key with
  | some (.string s) => .ok (some s)
  | some _ => .error ("field " ++ key ++ " must be a string")
  | none => .ok none

/-- An optional flag: only a boolean counts, any other value is as if absent. -/
def flag? (request : Json) (key : String) : Option Bool :=
  match get? request key with
  | some (.bool b) => some b
  | _ => none

/-- An optional unsigned integer field below a bound. -/
def natBelow? (request : Json) (key : String) (bound : Nat) : Reading (Option Nat) :=
  match get? request key with
  | some (.number (.natural n)) =>
    if n < bound then .ok (some n) else .error ("field " ++ key ++ " is out of range")
  | some _ => .error ("field " ++ key ++ " must be a non-negative integer")
  | none => .ok none

def word? (request : Json) (key : String) : Reading (Option Nat) := natBelow? request key (2 ^ (64 : Nat))

/-- A required unsigned integer field below a bound. -/
def natBelow (request : Json) (key : String) (bound : Nat) : Reading Nat := do
  match ← natBelow? request key bound with
  | some n => pure n
  | none => refuse ("missing field " ++ key)

def list? (request : Json) (key : String) : Reading (Option (List Json)) :=
  match get? request key with
  | some (.array items) => .ok (some items)
  | some _ => .error (key ++ " must be a list")
  | none => .ok none

def object? (request : Json) (key : String) : Reading (Option (List (String × Json))) :=
  match get? request key with
  | some (.object members) => .ok (some members)
  | some _ => .error (key ++ " must be an object")
  | none => .ok none

def stringMap? (request : Json) (key : String) : Reading (Option (List (String × String))) := do
  match ← object? request key with
  | none => pure none
  | some members =>
    let pairs ← members.mapM fun (k, v) =>
      match v with
      | .string s => pure (k, s)
      | _ => refuse (key ++ " values must be strings")
    pure (some pairs)

/-- The value of a hexadecimal digit byte of either case. -/
def hexDigit? (b : UInt8) : Option Nat :=
  if 48 ≤ b && b ≤ 57 then some (b.toNat - 48)
  else if 97 ≤ b && b ≤ 102 then some (b.toNat - 87)
  else if 65 ≤ b && b ≤ 70 then some (b.toNat - 55)
  else none

/-- The byte written by a pair of text bytes: two hexadecimal digits, or a plus
sign and one digit. -/
def hexPair? (a b : UInt8) : Option UInt8 :=
  if a = 43 then (hexDigit? b).map Nat.toUInt8
  else do
    let high ← hexDigit? a
    let low ← hexDigit? b
    return (high * 16 + low).toUInt8

/-- Whether a byte continues a UTF-8 character rather than beginning one. -/
def isContinuation (b : UInt8) : Bool := 0x80 ≤ b && b < 0xC0

/-- The bytes written in hexadecimal by the UTF-8 bytes of a text of even
length, read a pair of bytes at a time. A pair that does not begin and end
between characters breaks the reading down; one that is not hexadecimal makes
it invalid. -/
def hexBytes : List UInt8 → Reading (List UInt8)
  | [] => .ok []
  | [_] => .error "bad data_hex"
  | a :: b :: rest =>
    if isContinuation a || (rest.head?.map isContinuation).getD false then .error .breakdown
    else match hexPair? a b with
      | none => .error "bad data_hex"
      | some byte => return byte :: (← hexBytes rest)

example : (hexBytes [0x37, 0x62, 0x2b, 0x64]).toOption = some [0x7b, 0x0d] := by decide
example : (match hexBytes [0x61, 0xc3, 0xa9, 0x62] with
    | .error .breakdown => true
    | _ => false) = true := by decide

/-- The bytes a request carries: `data_hex`, which must be a string, when it is
given, otherwise `data` as UTF-8 text, a value other than a string as its JSON
text. -/
def bytes (request : Json) : Reading ByteArray :=
  match request.field? "data_hex" with
  | some (.string s) =>
    if s.utf8ByteSize % 2 = 1 then .error "bad data_hex"
    else (hexBytes s.toUTF8.toList).map fun bs => ByteArray.mk bs.toArray
  | some _ => .error "field data_hex must be a string"
  | none =>
    match request.field? "data" with
    | some (.string s) => .ok s.toUTF8
    | some other => .ok other.compact.toUTF8
    | none => .error "missing field data"

/-- A span of time written as seconds and nanoseconds, each an optional unsigned
64-bit count that is zero when missing; nanoseconds must stay below a second. -/
def duration (value : Json) : Reading Duration := do
  let secs := (← word? value "secs").getD 0
  let nanos := (← word? value "nanos").getD 0
  if 1000000000 ≤ nanos then refuse "nanos must be below 1e9"
  return ⟨secs, nanos⟩

def duration? (request : Json) (key : String) : Reading (Option Duration) :=
  match get? request key with
  | some value => (duration value).map some
  | none => .ok none

/-- A draft of an event: optional type, identifier, version, source and
timestamp, and a payload that defaults to `null`. -/
def draft (value : Json) : Reading EventDraft := do
  let .object _ := value | refuse "draft must be an object"
  let timestamp ← match ← text? value "timestamp" with
    | none => pure none
    | some s => match Instant.parse s with
      | .ok t => pure (some t)
      | .error issue => refuse ("bad timestamp: " ++ issue.message)
  return {
    eventType := ← text? value "event_type"
    payload := (value.field? "payload").getD .null
    eventId := ← text? value "event_id"
    timestamp
    version := ← text? value "version"
    source := ← text? value "source" }

end Request

end Courier
