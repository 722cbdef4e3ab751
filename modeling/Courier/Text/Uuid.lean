import Courier.Json.Writer

namespace Courier

/-! Identifiers in the form of random (version 4) UUIDs: 32 lowercase hexadecimal
digits in groups of 8, 4, 4, 4 and 12 joined by hyphens, the first digit of the
third group being `4`. The bus mints them from a counter, so that each is new
within a run and the run stays reproducible. -/

-- Powers of numbers are those of the core library, also where more algebra is
-- in scope; a literal exponent is given its type so that no default instance picks it.
attribute [local instance (high)] instPowNat

/-- Lowercase hexadecimal digits of a number, padded with zeros to a width. -/
def hexPadded (width : Nat) (n : Nat) : String :=
  let digit (k : Nat) : Char := "0123456789abcdef".toList.getD ((n / 16 ^ k) % 16) '0'
  String.ofList ((List.range width).reverse.map digit)

/-- The identifier minted as the `n`th of a run. -/
def mintUuid (n : Nat) : String :=
  "00000000-0000-4000-8000-" ++ hexPadded 12 n

/-- Whether a character is a lowercase hexadecimal digit. -/
def isLowerHexDigit (c : Char) : Bool := c.isDigit || ('a' ≤ c && c ≤ 'f')

/-- Whether a text is a UUID of version 4 in lowercase hyphenated form. -/
def isUuidV4 (text : String) : Bool :=
  let chars := text.toList
  chars.length == 36 &&
    (chars.zipIdx.all fun (c, i) =>
      if i == 8 || i == 13 || i == 18 || i == 23 then c == '-' else isLowerHexDigit c) &&
    chars.getD 14 ' ' == '4'

example : isUuidV4 (mintUuid 7) = true := by decide
example : mintUuid 26 = "00000000-0000-4000-8000-00000000001a" := by decide

end Courier
