namespace Courier

/-! Blank characters: the Unicode `White_Space` property. A field that holds
only such characters counts as empty when a draft overrides the defaults of an
envelope, and configuration values are trimmed of them before they are read. -/

/-- The ranges of code points with the Unicode `White_Space` property, as
inclusive pairs in increasing order. -/
def blankRanges : List (Nat × Nat) :=
  [(0x09, 0x0D), (0x20, 0x20), (0x85, 0x85), (0xA0, 0xA0), (0x1680, 0x1680),
   (0x2000, 0x200A), (0x2028, 0x2029), (0x202F, 0x202F), (0x205F, 0x205F),
   (0x3000, 0x3000)]

/-- Whether a character has the Unicode `White_Space` property. -/
def isBlankChar (c : Char) : Bool :=
  blankRanges.any fun (lo, hi) => lo ≤ c.toNat && c.toNat ≤ hi

example : isBlankChar '\u00A0' = true := by decide
example : isBlankChar '\u200B' = false := by decide
example : isBlankChar '\uFEFF' = false := by decide

/-- The characters of a string with leading and trailing blanks removed. -/
def trimBlankChars (chars : List Char) : List Char :=
  ((chars.dropWhile isBlankChar).reverse.dropWhile isBlankChar).reverse

/-- A string with leading and trailing blank characters removed. -/
def trimBlank (text : String) : String :=
  String.ofList (trimBlankChars text.toList)

def trimBlankStart (text : String) : String :=
  String.ofList (text.toList.dropWhile isBlankChar)

/-- Whether a string holds blank characters only (the empty string included). -/
def isBlank (text : String) : Bool :=
  text.toList.all isBlankChar

example : trimBlank "\u3000 a b\u0085" = "a b" := by decide
example : isBlank "\u200B" = false := by decide

end Courier
