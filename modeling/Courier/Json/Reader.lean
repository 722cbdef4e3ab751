import Courier.Json.Value

namespace Courier

/-! Reading a JSON document from bytes.

The reader accepts the JSON grammar of RFC 8259 over UTF-8 bytes, with these
rules of its own:

* nesting is limited: the 128th open bracket from the outside is refused;
* strings must be valid UTF-8, and a `\u` escape of a surrogate must pair a
  leading with a trailing one;
* integers without fraction or exponent keep their kind when they fit 64 bits
  (see `JsonNumber`); every other number is the binary64 value computed from
  its first nineteen or so significant digits and a power of ten, by one
  rounded multiplication or division, and a number that overflows is refused;
* an object keeps the last of two members with the same key.

A refusal names its cause and the byte position where it was noticed, as a line
and a column (column zero is just before the first byte of a line). -/

-- Powers of numbers are those of the core library, also where more algebra is
-- in scope; a literal exponent is given its type so that no default instance picks it.
attribute [local instance (high)] instPowNat

inductive SyntaxIssue where
  | eofWhileParsingList
  | eofWhileParsingObject
  | eofWhileParsingString
  | eofWhileParsingValue
  | expectedColon
  | expectedListCommaOrEnd
  | expectedObjectCommaOrEnd
  | expectedSomeIdent
  | expectedSomeValue
  | invalidEscape
  | invalidNumber
  | numberOutOfRange
  | invalidUnicodeCodePoint
  | controlCharacterWhileParsingString
  | keyMustBeAString
  | loneLeadingSurrogateInHexEscape
  | trailingComma
  | trailingCharacters
  | unexpectedEndOfHexEscape
  | recursionLimitExceeded
  deriving DecidableEq, Repr

def SyntaxIssue.message : SyntaxIssue → String
  | .eofWhileParsingList => "EOF while parsing a list"
  | .eofWhileParsingObject => "EOF while parsing an object"
  | .eofWhileParsingString => "EOF while parsing a string"
  | .eofWhileParsingValue => "EOF while parsing a value"
  | .expectedColon => "expected `:`"
  | .expectedListCommaOrEnd => "expected `,` or `]`"
  | .expectedObjectCommaOrEnd => "expected `,` or `\x7d`"
  | .expectedSomeIdent => "expected ident"
  | .expectedSomeValue => "expected value"
  | .invalidEscape => "invalid escape"
  | .invalidNumber => "invalid number"
  | .numberOutOfRange => "number out of range"
  | .invalidUnicodeCodePoint => "invalid unicode code point"
  | .controlCharacterWhileParsingString =>
    "control character (\\u0000-\\u001F) found while parsing a string"
  | .keyMustBeAString => "key must be a string"
  | .loneLeadingSurrogateInHexEscape => "lone leading surrogate in hex escape"
  | .trailingComma => "trailing comma"
  | .trailingCharacters => "trailing characters"
  | .unexpectedEndOfHexEscape => "unexpected end of hex escape"
  | .recursionLimitExceeded => "recursion limit exceeded"

/-- A refused document: the cause and where it was noticed. -/
structure ReadError where
  issue : SyntaxIssue
  line : Nat
  column : Nat
  deriving DecidableEq, Repr

/-- The wording of a refused document, with its position. -/
def ReadError.message (error : ReadError) : String :=
  let text := error.issue.message
  let line := error.line
  let column := error.column
  s!"{text} at line {line} column {column}"

/-- The line and column of a byte position: lines are counted from one, and the
column is the number of bytes between the start of the line and the position. -/
def lineAndColumn (bytes : ByteArray) (position : Nat) : Nat × Nat :=
  let before := (bytes.extract 0 position).toList
  let breaks := before.count 10
  let lastLine := (before.reverse.takeWhile (· != 10)).length
  (breaks + 1, lastLine)

/-- The reading monad: a byte position that advances, and a refusal with the
position where it was noticed. -/
abbrev ReadM := StateT Nat (Except (SyntaxIssue × Nat))

namespace Reader

variable (input : ByteArray)

def peek? : ReadM (Option UInt8) := do
  let position ← get
  return input[position]?

def advance : ReadM Unit := modify (· + 1)

/-- The byte at the current position, stepping over it. -/
def next? : ReadM (Option UInt8) := do
  let byte ← peek? input
  if byte.isSome then advance
  return byte

def fail {α : Type} (issue : SyntaxIssue) : ReadM α := do
  let position ← get
  throw (issue, position)

/-- Refuse at the byte after the current position, the one being looked at. -/
def failAhead {α : Type} (issue : SyntaxIssue) : ReadM α := do
  let position ← get
  throw (issue, min input.size (position + 1))

def isBlankByte (byte : UInt8) : Bool := byte == 32 || byte == 10 || byte == 9 || byte == 13

/-- Skip blanks and look at the next byte. -/
def skipBlank : ReadM (Option UInt8) := go input.size
where
  go : Nat → ReadM (Option UInt8)
    | 0 => peek? input
    | fuel + 1 => do
      match ← peek? input with
      | some byte => if isBlankByte byte then do advance; go fuel else return some byte
      | none => return none

/-- Read the rest of a literal word after its first letter. -/
def expectWord : List UInt8 → ReadM Unit
  | [] => pure ()
  | expected :: rest => do
    match ← next? input with
    | none => fail .eofWhileParsingValue
    | some byte => if byte == expected then expectWord rest else fail .expectedSomeIdent

/-! ### Numbers -/

def isDigit (byte : UInt8) : Bool := 48 ≤ byte && byte ≤ 57

def digitValue (byte : UInt8) : Nat := byte.toNat - 48

def wordMax : Nat := 2 ^ (64 : Nat) - 1

def exponentMax : Nat := 2 ^ (31 : Nat) - 1

/-- `significand * 10 ^ exponent` as binary64: the significand is rounded once,
then multiplied or divided once by a rounded power of ten; exponents beyond the
table are first brought down by dividing by `1e308`. `none` on overflow. -/
def scaleByTen (significand : Nat) (exponent : Int) : Option Binary64 := do
  let start ← Binary64.ofNat? significand
  go start exponent 4
where
  go (value : Binary64) (exponent : Int) : Nat → Option Binary64
    | 0 => some value
    | fuel + 1 =>
      if exponent.natAbs ≤ 308 then
        if 0 ≤ exponent then Binary64.mul? value (Binary64.powerOfTen exponent.toNat)
        else Binary64.div? value (Binary64.powerOfTen exponent.natAbs)
      else if value.isZero then some value
      else if 0 ≤ exponent then none
      else do
        let smaller ← Binary64.div? value (Binary64.powerOfTen 308)
        go smaller (exponent + 308) fuel

/-- The number `significand * 10 ^ exponent` with a sign, refused when it
overflows. -/
def finishFloat (positive : Bool) (significand : Nat) (exponent : Int) :
    ReadM JsonNumber := do
  match scaleByTen significand exponent with
  | some value => return .float (if positive then value else value.neg)
  | none => fail .numberOutOfRange

/-- Skip the remaining digits of an exponent too large to matter. -/
def skipDigits : ReadM Unit := go input.size
where
  go : Nat → ReadM Unit
    | 0 => pure ()
    | fuel + 1 => do
      match ← peek? input with
      | some byte => if isDigit byte then do advance; go fuel else pure ()
      | none => pure ()

/-- Read an exponent after its mark, then finish the number. -/
def readExponent (positive : Bool) (significand : Nat) (start : Int) : ReadM JsonNumber := do
  advance
  let positiveExponent ← do
    match ← peek? input with
    | some 43 => do advance; pure true
    | some 45 => do advance; pure false
    | _ => pure true
  match ← next? input with
  | none => fail .eofWhileParsingValue
  | some first =>
    if !isDigit first then fail .invalidNumber else
    let rec digits (exponent : Nat) : Nat → ReadM (Option Nat)
      | 0 => pure (some exponent)
      | fuel + 1 => do
        match ← peek? input with
        | some byte =>
          if isDigit byte then do
            advance
            let next := exponent * 10 + digitValue byte
            if next > exponentMax then pure none else digits next fuel
          else pure (some exponent)
        | none => pure (some exponent)
    match ← digits (digitValue first) input.size with
    | some exponent =>
      let total := if positiveExponent then start + exponent else start - exponent
      finishFloat positive significand total
    | none =>
      if significand ≠ 0 && positiveExponent then fail .numberOutOfRange
      else do
        skipDigits input
        return .float (Binary64.zero (!positive))

/-- Read the fraction after a decimal point, then finish the number. -/
def readFraction (positive : Bool) (significand : Nat) (start : Int) : ReadM JsonNumber := do
  advance
  -- digits join the significand while it fits a 64-bit word; later ones are skipped
  let rec digits (significand : Nat) (count : Nat) (overflowed : Bool) :
      Nat → ReadM (Nat × Nat × Bool)
    | 0 => pure (significand, count, overflowed)
    | fuel + 1 => do
      match ← peek? input with
      | some byte =>
        if isDigit byte then
          if overflowed then do advance; digits significand count true fuel
          else
            let next := significand * 10 + digitValue byte
            if next > wordMax then digits significand count true fuel
            else do advance; digits next (count + 1) false fuel
        else pure (significand, count, overflowed)
      | none => pure (significand, count, overflowed)
  let (significand, count, overflowed) ← digits significand 0 false input.size
  if count = 0 && !overflowed then
    match ← peek? input with
    | some _ => failAhead input .invalidNumber
    | none => failAhead input .eofWhileParsingValue
  else
    let exponent := start - count
    match ← peek? input with
    | some 101 | some 69 => readExponent input positive significand exponent
    | _ => finishFloat positive significand exponent

def finishNumber (positive : Bool) (significand : Nat) : ReadM JsonNumber := do
  match ← peek? input with
  | some 46 => readFraction input positive significand 0
  | some 101 | some 69 => readExponent input positive significand 0
  | _ =>
    if positive then return .natural significand
    else if significand = 0 then return .float (Binary64.zero true)
    else if significand ≤ 2 ^ (63 : Nat) then return .negative significand
    else finishFloat false significand 0

/-- Continue an integer too long for a 64-bit word: later digits only raise the
exponent. -/
def finishLongInteger (positive : Bool) (significand : Nat) : ReadM JsonNumber := do
  let rec count (exponent : Nat) : Nat → ReadM Nat
    | 0 => pure exponent
    | fuel + 1 => do
      match ← peek? input with
      | some byte => if isDigit byte then do advance; count (exponent + 1) fuel else pure exponent
      | none => pure exponent
  let exponent ← count 0 input.size
  match ← peek? input with
  | some 46 => readFraction input positive significand exponent
  | some 101 | some 69 => readExponent input positive significand exponent
  | _ => finishFloat positive significand exponent

/-- Read a number whose sign, if any, has been read. -/
def readNumber (positive : Bool) : ReadM JsonNumber := do
  match ← next? input with
  | none => fail .eofWhileParsingValue
  | some 48 =>
    match ← peek? input with
    | some byte => if isDigit byte then failAhead input .invalidNumber else finishNumber input positive 0
    | none => finishNumber input positive 0
  | some first =>
    if !isDigit first then fail .invalidNumber else
    let rec digits (significand : Nat) : Nat → ReadM JsonNumber
      | 0 => finishNumber input positive significand
      | fuel + 1 => do
        match ← peek? input with
        | some byte =>
          if isDigit byte then
            let next := significand * 10 + digitValue byte
            if next > wordMax then finishLongInteger input positive significand
            else do advance; digits next fuel
          else finishNumber input positive significand
        | none => finishNumber input positive significand
    digits (digitValue first) input.size

/-! ### Strings -/

def hexValue? (byte : UInt8) : Option Nat :=
  if 48 ≤ byte && byte ≤ 57 then some (byte.toNat - 48)
  else if 97 ≤ byte && byte ≤ 102 then some (byte.toNat - 87)
  else if 65 ≤ byte && byte ≤ 70 then some (byte.toNat - 55)
  else none

/-- Read the four hexadecimal digits of a `\u` escape. -/
def readHex4 : ReadM Nat := do
  let position ← get
  if input.size < position + 4 then
    set input.size
    fail .eofWhileParsingString
  else
    set (position + 4)
    let digits := [input[position]!, input[position + 1]!, input[position + 2]!,
      input[position + 3]!].map hexValue?
    match digits with
    | [some a, some b, some c, some d] => return ((a * 16 + b) * 16 + c) * 16 + d
    | _ => fail .invalidEscape

def utf8Bytes (c : Char) : List UInt8 := c.toString.toUTF8.toList

/-- Read the rest of a `\u` escape, with its trailing surrogate if it begins a
pair, and return the character. -/
def readUnicodeEscape : ReadM Char := do
  let n ← readHex4 input
  if 0xDC00 ≤ n ∧ n ≤ 0xDFFF then fail .loneLeadingSurrogateInHexEscape
  else if n < 0xD800 ∨ 0xDBFF < n then return Char.ofNat n
  else
    match ← peek? input with
    | none => fail .eofWhileParsingString
    | some byte =>
      advance
      if byte != 92 then fail .unexpectedEndOfHexEscape else
      match ← peek? input with
      | none => fail .eofWhileParsingString
      | some byte =>
        advance
        if byte != 117 then fail .unexpectedEndOfHexEscape else
        let low ← readHex4 input
        if low < 0xDC00 ∨ 0xDFFF < low then fail .loneLeadingSurrogateInHexEscape
        else return Char.ofNat (((n - 0xD800) * 0x400 + (low - 0xDC00)) + 0x10000)

/-- The length of the first ill-formed UTF-8 sequence of a byte list at or after
`offset` (counted from the start of the list): its start and the number of
bytes that begin it, or `none` when the list is well formed. -/
def firstIllFormed (bytes : List UInt8) (offset : Nat) : Option (Nat × Nat) :=
  match bytes with
  | [] => none
  | lead :: rest =>
    if lead < 0x80 then firstIllFormed rest (offset + 1) else
    let (length, low, high) : Nat × UInt8 × UInt8 :=
      if 0xC2 ≤ lead ∧ lead ≤ 0xDF then (2, 0x80, 0xBF)
      else if lead = 0xE0 then (3, 0xA0, 0xBF)
      else if lead = 0xED then (3, 0x80, 0x9F)
      else if 0xE1 ≤ lead ∧ lead ≤ 0xEF then (3, 0x80, 0xBF)
      else if lead = 0xF0 then (4, 0x90, 0xBF)
      else if lead = 0xF4 then (4, 0x80, 0x8F)
      else if 0xF1 ≤ lead ∧ lead ≤ 0xF3 then (4, 0x80, 0xBF)
      else (0, 0, 0)
    if length = 0 then some (offset, 1) else
    let tail := rest.take (length - 1)
    let valid := (tail.zipIdx.takeWhile fun (byte, index) =>
      if index = 0 then low ≤ byte ∧ byte ≤ high else 0x80 ≤ byte ∧ byte ≤ 0xBF).length
    if valid = length - 1 then firstIllFormed (rest.drop (length - 1)) (offset + length)
    else some (offset, valid + 1)
termination_by bytes.length
decreasing_by all_goals (simp only [List.length_cons, List.length_drop]; omega)

/-- Refuse the bytes of a string that are not well-formed UTF-8. The bytes are
checked once the closing quote is read, escapes already decoded; the refusal is
placed as far before the byte after the quote as the bytes from the first
ill-formed sequence to the end of the string are long. -/
def checkUtf8 (content : ByteArray) : ReadM Unit := do
  match firstIllFormed content.toList 0 with
  | none => pure ()
  | some (validUpTo, _) =>
    let after ← get
    throw (.invalidUnicodeCodePoint, after - (content.size - validUpTo))

def readString : ReadM String := do
  let rec run (collected : ByteArray) : Nat → ReadM ByteArray
    | 0 => fail .eofWhileParsingString
    | fuel + 1 => do
      let start ← get
      -- the raw run before the next quote, backslash or control byte
      let stop := (input.extract start input.size).toList.findIdx
        (fun byte => byte == 34 || byte == 92 || byte < 0x20)
      let stop := start + stop
      set stop
      match input[stop]? with
      | none => fail .eofWhileParsingString
      | some 34 => do
        advance
        let content := collected ++ input.extract start stop
        checkUtf8 content
        return content
      | some 92 => do
        advance
        let collected := collected ++ input.extract start stop
        match ← next? input with
        | none => fail .eofWhileParsingString
        | some 34 => run (collected.push 34) fuel
        | some 92 => run (collected.push 92) fuel
        | some 47 => run (collected.push 47) fuel
        | some 98 => run (collected.push 8) fuel
        | some 102 => run (collected.push 12) fuel
        | some 110 => run (collected.push 10) fuel
        | some 114 => run (collected.push 13) fuel
        | some 116 => run (collected.push 9) fuel
        | some 117 => do
          let c ← readUnicodeEscape input
          run (collected ++ ByteArray.mk (utf8Bytes c).toArray) fuel
        | some _ => fail .invalidEscape
      | some _ => do
        advance
        fail .controlCharacterWhileParsingString
  let bytes ← run ByteArray.empty (input.size + 1)
  return (String.fromUTF8? bytes).getD ""

/-! ### Values -/

mutual

/-- Read one value; `depth` counts the brackets that may still open. -/
def readValue (depth : Nat) : Nat → ReadM Json
  | 0 => fail .recursionLimitExceeded
  | fuel + 1 => do
    match ← skipBlank input with
    | none => failAhead input .eofWhileParsingValue
    | some 110 => do advance; expectWord input [117, 108, 108]; return .null
    | some 116 => do advance; expectWord input [114, 117, 101]; return .bool true
    | some 102 => do advance; expectWord input [97, 108, 115, 101]; return .bool false
    | some 45 => do advance; return .number (← readNumber input false)
    | some 34 => do advance; return .string (← readString input)
    | some 91 =>
      if depth ≤ 1 then failAhead input .recursionLimitExceeded else do
        advance
        let items ← readItems (depth - 1) true fuel
        advance
        return .array items
    | some 123 =>
      if depth ≤ 1 then failAhead input .recursionLimitExceeded else do
        advance
        let members ← readMembers (depth - 1) true [] fuel
        advance
        return .object members
    | some byte =>
      if isDigit byte then return .number (← readNumber input true)
      else failAhead input .expectedSomeValue

/-- Read the items of an array up to, not over, its closing bracket. -/
def readItems (depth : Nat) (first : Bool) : Nat → ReadM (List Json)
  | 0 => fail .recursionLimitExceeded
  | fuel + 1 => do
    match ← skipBlank input with
    | none => failAhead input .eofWhileParsingList
    | some 93 => return []
    | some byte =>
      if first then do
        let item ← readValue depth fuel
        return item :: (← readItems depth false fuel)
      else if byte == 44 then do
        advance
        match ← skipBlank input with
        | some 93 => failAhead input .trailingComma
        | some _ => do
          let item ← readValue depth fuel
          return item :: (← readItems depth false fuel)
        | none => failAhead input .eofWhileParsingValue
      else failAhead input .expectedListCommaOrEnd

/-- Read the members of an object up to, not over, its closing brace. -/
def readMembers (depth : Nat) (first : Bool) (members : List (String × Json)) :
    Nat → ReadM (List (String × Json))
  | 0 => fail .recursionLimitExceeded
  | fuel + 1 => do
    let look ← skipBlank input
    let keyStart ← do
      match look with
      | some 125 => pure none
      | some 44 =>
        if first then pure (some (some 44)) else do
          advance
          pure (some (← skipBlank input))
      | some byte => if first then pure (some (some byte)) else failAhead input .expectedObjectCommaOrEnd
      | none => failAhead input .eofWhileParsingObject
    match keyStart with
    | none => return members
    | some (some 34) => do
      advance
      let key ← readString input
      match ← skipBlank input with
      | some 58 => do
        advance
        let value ← readValue depth fuel
        readMembers depth false (Json.insertSorted key value members) fuel
      | some _ => failAhead input .expectedColon
      | none => failAhead input .eofWhileParsingObject
    | some (some 125) => failAhead input .trailingComma
    | some (some _) => failAhead input .keyMustBeAString
    | some none => failAhead input .eofWhileParsingValue

end

end Reader

/-- Read a whole JSON document: one value, with nothing but blanks after it. -/
def Json.read (input : ByteArray) : Except ReadError Json :=
  let run : ReadM Json := do
    let value ← Reader.readValue input 128 (input.size + 2)
    match ← Reader.skipBlank input with
    | some _ => Reader.failAhead input .trailingCharacters
    | none => return value
  match run.run 0 with
  | .ok (value, _) => .ok value
  | .error (issue, position) =>
    let (line, column) := lineAndColumn input position
    .error ⟨issue, line, column⟩

def Json.readText (text : String) : Except ReadError Json := Json.read text.toUTF8

end Courier
