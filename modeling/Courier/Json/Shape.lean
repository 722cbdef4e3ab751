import Courier.Json.Writer
import Courier.Text.Visible
import Courier.Text.Extending

namespace Courier

/-! Reading typed records out of JSON values, with the error texts of a schema
decoder.

A record is read from an object or from an array. From an object, the members
are visited in key order: a member that names a field is decoded at once, and
the first failure is the error; other members are ignored. Only after the visit
is a missing field reported, the first of them in declaration order. From an
array, the items are the fields in declaration order; too few items, or items
left over, are errors of length. -/

/-- Why a JSON value does not have the shape asked for. -/
inductive ShapeError where
  /-- A value of the wrong kind: what was found and what was expected. -/
  | invalidType (found : Json) (expected : String)
  /-- An array of the wrong length: its length and what was expected. -/
  | invalidLength (length : Nat) (expected : String)
  /-- A record lacks a field. -/
  | missingField (name : String)
  /-- A value of the right kind that its reader refused, with the reader's words. -/
  | refused (reason : String)
  deriving Repr, Inhabited

/-- Whether a character is written as itself inside a quoted diagnostic string:
a visible character that does not extend the one before it. -/
def isShownAsIs (c : Char) : Bool := isVisibleChar c && !isExtendingChar c

/-- Lowercase hexadecimal digits of a number, without leading zeros. -/
def hexDigits (n : Nat) : String :=
  String.ofList ((Nat.toDigits 16 n).map Char.toLower)

/-- A character as it stands inside a quoted diagnostic string. -/
def diagnosticChar (c : Char) : String :=
  match c with
  | '\x00' => "\\0"
  | '\t' => "\\t"
  | '\r' => "\\r"
  | '\n' => "\\n"
  | '\\' => "\\\\"
  | '"' => "\\\""
  | c =>
    if isShownAsIs c then c.toString
    else
      let digits := hexDigits c.toNat
      "\\u\x7b" ++ digits ++ "\x7d"

def diagnosticQuote (text : String) : String :=
  "\"" ++ String.join (text.toList.map diagnosticChar) ++ "\""

/-- How a diagnostic names a value that was found where another was expected. -/
def Json.unexpected : Json → String
  | .null => "null"
  | .bool value =>
    let word := if value then "true" else "false"
    "boolean \x60" ++ word ++ "\x60"
  | .number (.float value) => "floating point \x60" ++ FloatLayout.json.render value ++ "\x60"
  | .number n => "integer \x60" ++ n.render ++ "\x60"
  | .string text => "string " ++ diagnosticQuote text
  | .array _ => "sequence"
  | .object _ => "map"

def ShapeError.message : ShapeError → String
  | .invalidType found expected => "invalid type: " ++ found.unexpected ++ ", expected " ++ expected
  | .invalidLength length expected =>
    "invalid length " ++ digitString length ++ ", expected " ++ expected
  | .missingField name => "missing field \x60" ++ name ++ "\x60"
  | .refused reason => reason

/-- Reading a value of some type out of JSON. -/
abbrev Decoder (α : Type) := Json → Except ShapeError α

/-- The error a reader gives on a value, if any. -/
def Decoder.failure? {α : Type} (decoder : Decoder α) (value : Json) : Option ShapeError :=
  match decoder value with
  | .error e => some e
  | .ok _ => none

def Json.asText : Decoder String
  | .string text => .ok text
  | other => .error (.invalidType other "a string")

/-- A field of a record: its name and the check of its value. -/
structure FieldCheck where
  name : String
  check : Json → Option ShapeError

/-- The field of a record read by a decoder. -/
def FieldCheck.of {α : Type} (name : String) (decoder : Decoder α) : FieldCheck :=
  ⟨name, decoder.failure?⟩

def firstFailure : List (Option ShapeError) → Option ShapeError
  | [] => none
  | some e :: _ => some e
  | none :: rest => firstFailure rest

/-- Check the items of an array against the fields in declaration order; `index`
counts the items taken so far. -/
def checkItems (expected : String) (index : Nat) :
    List FieldCheck → List Json → Except ShapeError (List Json)
  | [], _ => .ok []
  | _ :: _, [] => .error (.invalidLength index expected)
  | field :: fields, item :: items =>
    match field.check item with
    | some e => .error e
    | none => (checkItems expected (index + 1) fields items).map (item :: ·)

/-- The values of a record's fields in declaration order, read from an object or
an array; `name` is the record's name in diagnostics. -/
def Json.recordFields (name : String) (fields : List FieldCheck) : Json → Except ShapeError (List Json)
  | .object members => do
    -- members in key order, each checked when it names a field
    let failures := members.map fun (key, value) =>
      match fields.find? (·.name == key) with
      | some field => field.check value
      | none => none
    match firstFailure failures with
    | some e => throw e
    | none =>
      fields.mapM fun field =>
        match members.lookup field.name with
        | some value => pure value
        | none => throw (.missingField field.name)
  | .array items => do
    let count := fields.length
    let expected := "struct " ++ name ++ " with " ++ digitString count ++
      (if count = 1 then " element" else " elements")
    let values ← checkItems expected 0 fields items
    if count < items.length then
      throw (.invalidLength items.length "fewer elements in array")
    return values
  | other => .error (.invalidType other ("struct " ++ name))

/-- The value at a position of a list of field values. -/
def fieldAt (values : List Json) (index : Nat) : Json := values.getD index .null

example : (Json.asText (.nat 5)).toOption.isNone = true := by decide
example : ShapeError.message (.invalidType (.nat 5) "a string") =
    "invalid type: integer \x605\x60, expected a string" := by decide
example : ShapeError.message (.invalidType (.string "a\"b") "struct X") =
    "invalid type: string \"a\\\"b\", expected struct X" := by decide +kernel

end Courier
