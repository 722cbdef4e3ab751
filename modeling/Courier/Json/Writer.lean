import Courier.Json.Value
import Courier.Decimal.Layout

namespace Courier

/-! Compact JSON text: no blank between tokens, members in the order the value
holds them. Two escape styles exist. The document style escapes only the quote,
the backslash and control characters, and writes every other character as
itself; the ASCII style also writes each character beyond ASCII as `\uXXXX`
escapes of its UTF-16 units, so that a line of it holds no line break of any
script. -/

-- Powers of numbers are those of the core library, also where more algebra is
-- in scope; a literal exponent is given its type so that no default instance picks it.
attribute [local instance (high)] instPowNat

/-- Which characters a string escapes beyond the quote, the backslash and the
control characters. -/
inductive EscapeStyle where
  | document
  | ascii
  deriving DecidableEq, Repr

/-- Four lowercase hexadecimal digits of a number below `2 ^ 16`. -/
def hex4 (n : Nat) : String :=
  let digit (k : Nat) : Char := "0123456789abcdef".toList.getD ((n / 16 ^ k) % 16) '0'
  String.ofList [digit 3, digit 2, digit 1, digit 0]

/-- The escape of one character inside a JSON string. -/
def escapeChar (style : EscapeStyle) (c : Char) : String :=
  match c with
  | '"' => "\\\""
  | '\\' => "\\\\"
  | '\n' => "\\n"
  | '\r' => "\\r"
  | '\t' => "\\t"
  | '\x08' => "\\b"
  | '\x0c' => "\\f"
  | c =>
    if c.toNat < 0x20 then "\\u" ++ hex4 c.toNat
    else if style = .ascii ∧ 0x7F < c.toNat then
      if c.toNat < 0x10000 then "\\u" ++ hex4 c.toNat
      else
        let v := c.toNat - 0x10000
        "\\u" ++ hex4 (0xD800 + v / 0x400) ++ "\\u" ++ hex4 (0xDC00 + v % 0x400)
    else c.toString

def quoteJson (style : EscapeStyle) (text : String) : String :=
  "\"" ++ String.join (text.toList.map (escapeChar style)) ++ "\""

def JsonNumber.render : JsonNumber → String
  | .natural value => digitString value
  | .negative magnitude => "-" ++ digitString magnitude
  | .float value => FloatLayout.json.render value

mutual

def Json.render (style : EscapeStyle) : Json → String
  | .null => "null"
  | .bool true => "true"
  | .bool false => "false"
  | .number n => n.render
  | .string text => quoteJson style text
  | .array items => "[" ++ Json.renderItems style items ++ "]"
  | .object members => "\x7b" ++ Json.renderMembers style members ++ "\x7d"

/-- The compact text of array items, separated by commas. -/
def Json.renderItems (style : EscapeStyle) : List Json → String
  | [] => ""
  | [item] => Json.render style item
  | item :: rest => Json.render style item ++ "," ++ Json.renderItems style rest

/-- The compact text of object members, separated by commas. -/
def Json.renderMembers (style : EscapeStyle) : List (String × Json) → String
  | [] => ""
  | [(key, value)] => quoteJson style key ++ ":" ++ Json.render style value
  | (key, value) :: rest =>
    quoteJson style key ++ ":" ++ Json.render style value ++ "," ++
      Json.renderMembers style rest

end

/-- The text of a value as a JSON document writes it. -/
def Json.compact (value : Json) : String := value.render .document

example : (Json.object [("a", .array [.nat 1, .null]), ("é", .bool true)]).compact =
    "\x7b\"a\":[1,null],\"é\":true\x7d" := by decide
example : (Json.string "é\n").render .ascii = "\"\\u00e9\\n\"" := by decide

end Courier
