import Courier.Time.Instant
import Courier.Text.Blank

namespace Courier

/-! Reading RFC 3339 date and time text, leniently.

The accepted form is `date sep time fraction? offset`, where

* the date is a year, `-`, a month and `-`, a day; a year is up to four digits,
  or a sign followed by any number of digits; month and day are one or two
  digits;
* the separator is `T`, `t` or a space;
* the time is hour `:` minute `:` second, each one or two digits, and second 60
  names a leap second;
* the fraction is `.` and one or more digits, of which the first nine count;
* the offset is `Z`, `z`, `UTC` in any case, or a sign (`+`, `-` or the minus
  sign U+2212) with two digits of hours and two of minutes, between which any
  colons and blanks may stand.

Blanks may stand before each number, before the offset and at the end. The
instant named is the local time less its offset. -/

-- Powers of numbers are those of the core library, also where more algebra is
-- in scope; a literal exponent is given its type so that no default instance picks it.
attribute [local instance (high)] instPowNat

inductive TimeIssue where
  | outOfRange
  | impossible
  | notEnough
  | invalid
  | tooShort
  | tooLong
  deriving DecidableEq, Repr

def TimeIssue.message : TimeIssue → String
  | .outOfRange => "input is out of range"
  | .impossible => "no possible date and time matching input"
  | .notEnough => "input is not enough for unique date and time"
  | .invalid => "input contains invalid characters"
  | .tooShort => "premature end of input"
  | .tooLong => "trailing input"

namespace Rfc3339

/-- A step of the reader: the value read and the rest of the text, or why the
text was refused. -/
abbrev Step (α : Type) := Except TimeIssue (α × List Char)

abbrev Reads := Except TimeIssue

def skipBlank (s : List Char) : List Char := s.dropWhile isBlankChar

/-- The number of UTF-8 bytes of a list of characters. -/
def byteLength (s : List Char) : Nat := s.foldr (fun c n => c.utf8Size + n) 0

/-- Read from one to `max` decimal digits as a number. -/
def number (s : List Char) (max : Nat) : Step Nat :=
  match s with
  | [] => .error .tooShort
  | c :: _ =>
    if !c.isDigit then .error .invalid else
    let digits := (s.take max).takeWhile Char.isDigit
    let value := digits.foldl (fun n d => n * 10 + (d.toNat - 48)) 0
    if value ≥ 2 ^ (63 : Nat) then .error .outOfRange else .ok (value, s.drop digits.length)

def literal (expected : Char) (s : List Char) : Step Unit :=
  match s with
  | [] => .error .tooShort
  | c :: rest => if c = expected then .ok ((), rest) else .error .invalid

/-- Whether a year fits a signed 32-bit word; larger years are refused as soon
as they are read. -/
def yearFits (y : Int) : Bool := -(2 ^ (31 : Nat)) ≤ y && y < 2 ^ (31 : Nat)

/-- Read a year: a sign and any number of digits, or up to four digits. -/
def year (s : List Char) : Reads (Int × List Char) := do
  let (y, rest) ← match skipBlank s with
    | '-' :: rest => do
      let (v, rest) ← number rest 1000000
      pure (-(v : Int), rest)
    | '+' :: rest => do
      let (v, rest) ← number rest 1000000
      pure ((v : Int), rest)
    | rest => do
      let (v, rest) ← number rest 4
      pure ((v : Int), rest)
  if !yearFits y then throw .outOfRange
  return (y, rest)

/-- Read a number of up to two digits, after blanks, and check it against a range. -/
def field (low high : Nat) (s : List Char) : Reads (Nat × List Char) := do
  let (v, rest) ← number (skipBlank s) 2
  if v < low ∨ high < v then throw .outOfRange
  return (v, rest)

/-- Read a fraction of a second after its point: up to nine digits count, and
later digits are skipped. -/
def fraction (s : List Char) : Reads (Nat × List Char) := do
  let (v, rest) ← number s 9
  let used := s.length - rest.length
  let scaled := v * 10 ^ (9 - used)
  return (scaled, rest.dropWhile Char.isDigit)

/-- The first two bytes of a text, as characters: a byte that begins a longer
character stands as a character that is no digit. -/
def twoDigits (s : List Char) : Except TimeIssue (Char × Char) :=
  if byteLength s < 2 then .error .tooShort
  else match s with
    | a :: b :: _ => if a.utf8Size = 1 then .ok (a, b) else .ok (a, a)
    | a :: [] => .ok (a, a)
    | [] => .error .tooShort

def offset (s : List Char) : Reads (Int × List Char) := do
  let s := skipBlank s
  let upper := (s.take 3).map Char.toUpper
  if upper = ['U', 'T', 'C'] then return (0, s.drop 3)
  let (negative, s) ← match s with
    | '+' :: rest => pure (false, rest)
    | '-' :: rest => pure (true, rest)
    | '−' :: rest => pure (true, rest)
    | 'Z' :: rest => return (0, rest)
    | 'z' :: rest => return (0, rest)
    | [] => throw .tooShort
    | _ => throw .invalid
  let (h1, h2) ← twoDigits s
  if !(h1.isDigit && h2.isDigit) then throw .invalid
  let hours := (h1.toNat - 48) * 10 + (h2.toNat - 48)
  let s := (s.drop 2).dropWhile fun c => c = ':' || isBlankChar c
  let minutes ← match twoDigits s with
    | .ok (m1, m2) =>
      if '0' ≤ m1 && m1 ≤ '5' && m2.isDigit then pure ((m1.toNat - 48) * 10 + (m2.toNat - 48))
      else if '6' ≤ m1 && m1 ≤ '9' && m2.isDigit then throw .outOfRange
      else throw .invalid
    | .error _ => throw .tooShort
  let seconds : Int := hours * 3600 + minutes * 60
  return (if negative then -seconds else seconds, s.drop 2)

/-- The fields of a date and time text, before they are checked together. -/
structure Fields where
  year : Int
  month : Nat
  day : Nat
  hour : Nat
  minute : Nat
  second : Nat
  nanos : Nat
  offset : Int

/-- Read the fields of a date and time text, and require that only blanks follow. -/
def fields (s : List Char) : Except TimeIssue Fields := do
  let (y, s) ← year s
  let ((), s) ← literal '-' (skipBlank s)
  let (month, s) ← field 1 12 s
  let ((), s) ← literal '-' (skipBlank s)
  let (day, s) ← field 1 31 s
  let s ← match s with
    | 'T' :: rest | 't' :: rest | ' ' :: rest => pure rest
    | [] => throw .tooShort
    | _ => throw .invalid
  let (hour, s) ← field 0 23 s
  let ((), s) ← literal ':' (skipBlank s)
  let (minute, s) ← field 0 59 s
  let ((), s) ← literal ':' (skipBlank s)
  let (second, s) ← field 0 60 s
  let (nanos, s) ← match s with
    | '.' :: rest => fraction rest
    | _ => pure (0, s)
  let (offsetSeconds, s) ← offset s
  if !(skipBlank s).isEmpty then throw .tooLong
  return ⟨y, month, day, hour, minute, second, nanos, offsetSeconds⟩

/-- The rest of a text after a prefix that follows a template, in which `d`
stands for any decimal digit and every other character for itself. -/
def afterTemplate : List Char → List Char → Option (List Char)
  | [], s => some s
  | _ :: _, [] => none
  | t :: ts, c :: cs =>
    if (t = 'd' && c.isDigit) || (t != 'd' && t = c) then afterTemplate ts cs else none

/-- Whether a text is an offset in the strict form: `Z`, or a sign with two
digits of hours and two of minutes parted by a colon. -/
def isStrictOffset : List Char → Bool
  | ['Z'] | ['z'] => true
  | sign :: rest => (sign = '+' || sign = '-') && afterTemplate "dd:dd".toList rest == some []
  | [] => false

/-- Whether a text has the strict RFC 3339 shape: a four-digit year and
two-digit fields, `T` between date and time, a fraction of one or more digits
if any, and a strict offset. -/
def isStrictShape (s : List Char) : Bool :=
  match afterTemplate "dddd-dd-dd".toList s with
  | some (sep :: rest) =>
    (sep = 'T' || sep = 't' || sep = ' ') &&
    match afterTemplate "dd:dd:dd".toList rest with
    | some ('.' :: fraction) =>
      let digits := fraction.takeWhile Char.isDigit
      !digits.isEmpty && isStrictOffset (fraction.drop digits.length)
    | some rest => isStrictOffset rest
    | none => false
  | _ => false

end Rfc3339

/-- The instant named by a date and time text. -/
def Instant.parse (text : String) : Except TimeIssue Instant := do
  let f ← Rfc3339.fields text.toList
  let date : CivilDate := ⟨f.year, f.month, f.day⟩
  if !date.isValid then throw .outOfRange
  -- second 60 is the leap second after second 59
  let (second, nanos) := if f.second = 60 then (59, f.nanos + 1000000000) else (f.second, f.nanos)
  if 86400 ≤ f.offset.natAbs then throw .outOfRange
  let local_ : Int := date.toDays * 86400 + f.hour * 3600 + f.minute * 60 + second
  let utc := local_ - f.offset
  let result := Instant.ofUnix utc nanos
  if !result.date.isValid then throw .impossible
  return result

/-- The instant named by a text in the strict RFC 3339 form, if it names one. -/
def Instant.parseStrict (text : String) : Option Instant :=
  if Rfc3339.isStrictShape text.toList then (Instant.parse text).toOption else none

/-- Why a text was refused, if it was. -/
def Instant.parseIssue? (text : String) : Option TimeIssue :=
  match Instant.parse text with
  | .error issue => some issue
  | .ok _ => none

example : (Instant.parse "2024-01-02T03:04:05+02:00").toOption.map Instant.render =
    some "2024-01-02T01:04:05Z" := by decide
example : (Instant.parse "2024-1-2T3:4:5Z").toOption.map Instant.render =
    some "2024-01-02T03:04:05Z" := by decide
example : Instant.parseIssue? "2024-01-02T03:04Z" = some .invalid := by decide
example : Instant.parseIssue? "2024-01-02T03:04:05+02" = some .tooShort := by decide
example : Instant.parseIssue? "2024-01-02T03:04:05.Z" = some .invalid := by decide
example : Instant.parseIssue? "2024-01-02T03:04:05+24:00" = some .outOfRange := by decide
example : Instant.parseIssue? "2024-01-02T03:04:05+\u00e9" = some .invalid := by decide
example : Instant.parseIssue? "+2147483648-01-01Tx" = some .outOfRange := by decide
example : (Instant.parseStrict "2024-01-01T00:00:60.5+01:00").isSome = true := by decide
example : (Instant.parseStrict "2024-1-1T0:0:0Z").isSome = false := by decide
example : (Instant.parseStrict "2024-02-30T00:00:00Z").isSome = false := by decide

end Courier
