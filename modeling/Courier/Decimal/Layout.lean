import Courier.Decimal.Shortest

namespace Courier

/-! How a number's shortest decimal is laid out as text: where positional
notation ends and scientific notation begins, and how each is spelled. -/

/-- The spelling rules for a binary64 number. A number whose leading digit has
decimal exponent `e` is written positionally when `positionalFrom ≤ e ≤
positionalTo`, and as `d.ddd` with an exponent mark otherwise. -/
structure FloatLayout where
  positionalFrom : Int
  positionalTo : Int
  /-- Whether an integral value written positionally keeps a `.0`. -/
  keepPointZero : Bool
  exponentMark : String
  /-- Whether a nonnegative exponent carries a `+`. -/
  signedExponent : Bool
  zero : String

/-- Numbers in JSON documents: positional from `1e-5` up to below `1e16`, with
`.0` on integral values, otherwise `1e-7` or `1.5e+300`. -/
def FloatLayout.json : FloatLayout :=
  { positionalFrom := -5, positionalTo := 15, keepPointZero := true,
    exponentMark := "e", signedExponent := true, zero := "0.0" }

def digitString (n : Nat) : String := String.ofList (Nat.toDigits 10 n)

/-- The text of the decimal `digits * 10 ^ exponent` laid out by `layout`. -/
def FloatLayout.renderDecimal (layout : FloatLayout) (d : Decimal) : String :=
  let text := digitString d.digits
  let length : Int := text.length
  let leading := d.exponent + length - 1
  if layout.positionalFrom ≤ leading ∧ leading ≤ layout.positionalTo then
    if 0 ≤ d.exponent then
      let zeros := String.ofList (List.replicate d.exponent.toNat '0')
      text ++ zeros ++ (if layout.keepPointZero then ".0" else "")
    else if 0 ≤ leading then
      let whole := (leading + 1).toNat
      String.ofList (text.toList.take whole) ++ "." ++ String.ofList (text.toList.drop whole)
    else
      "0." ++ String.ofList (List.replicate (-leading - 1).toNat '0') ++ text
  else
    let mantissa :=
      if text.length = 1 then text
      else String.ofList (text.toList.take 1) ++ "." ++ String.ofList (text.toList.drop 1)
    let sign := if leading < 0 then "-" else if layout.signedExponent then "+" else ""
    mantissa ++ layout.exponentMark ++ sign ++ digitString leading.natAbs

/-- The text of a binary64 number laid out by `layout`. -/
def FloatLayout.render (layout : FloatLayout) (x : Binary64) : String :=
  let sign := if x.negative then "-" else ""
  if x.isZero then sign ++ layout.zero
  else sign ++ layout.renderDecimal x.shortestDecimal

example : FloatLayout.json.renderDecimal ⟨25, 9⟩ = "25000000000.0" := by decide
example : FloatLayout.json.renderDecimal ⟨1, -5⟩ = "0.00001" := by decide
example : FloatLayout.json.renderDecimal ⟨1, -6⟩ = "1e-6" := by decide
example : FloatLayout.json.renderDecimal ⟨1, 16⟩ = "1e+16" := by decide
example : FloatLayout.json.renderDecimal ⟨123456789, -1⟩ = "12345678.9" := by decide
example : FloatLayout.json.renderDecimal ⟨17976931348623157, 292⟩ =
    "1.7976931348623157e+308" := by decide

end Courier
