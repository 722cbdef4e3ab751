import Courier.Proofs.Json.Numbers
import Courier.Proofs.Json.Strings

/-! # Number texts

A number is written with digits, signs, a point and exponent marks only
(`numberText_render`), one byte each, so no byte of its text is blank and reading
a value at its first byte reads a number. An integer within the range of its kind
is read back from its digits (`readNumber_digitString`). A binary64 number is read
back when its text reads back alone, which documents assume of every number they
print; a number that reads back alone reads back the same inside any document,
wherever its text stands (`readValue_number`). -/

namespace Courier

/-- A number as reading a document leaves it: an integer within the range of its
kind, or a binary64 number whose text reads back as itself. -/
def JsonNumber.Readable : JsonNumber → Prop
  | .natural value => value ≤ Reader.wordMax
  | .negative magnitude => 0 < magnitude ∧ magnitude ≤ 2 ^ 63
  | .float value => Json.readText (JsonNumber.render (.float value)) = .ok (.number (.float value))

namespace Reader

/-! ### The characters and bytes of number texts -/

def numberChar (c : Char) : Bool := c.isDigit || c == '-' || c == '+' || c == '.' || c == 'e'

/-- Whether a text is written with the characters of numbers only. -/
def numberText (text : String) : Bool := text.toList.all numberChar

@[simp] theorem numberText_append (s t : String) :
    numberText (s ++ t) = (numberText s && numberText t) := by
  simp [numberText]

@[simp] theorem numberText_digitString (n : Nat) : numberText (digitString n) = true := by
  simp only [numberText, digitString, String.toList_ofList, List.all_eq_true]
  intro c member
  simp [numberChar, Nat.isDigit_of_mem_toDigits (by decide) (by decide) member]

@[simp] theorem numberText_zeros (k : Nat) : numberText (String.ofList (List.replicate k '0')) = true := by
  simp +decide [numberText]

theorem numberText_take {s : String} (k : Nat) (number : numberText s = true) :
    numberText (String.ofList (s.toList.take k)) = true := by
  simp only [numberText, String.toList_ofList, List.all_eq_true] at number ⊢
  exact fun c member => number c (List.mem_of_mem_take member)

theorem numberText_drop {s : String} (k : Nat) (number : numberText s = true) :
    numberText (String.ofList (s.toList.drop k)) = true := by
  simp only [numberText, String.toList_ofList, List.all_eq_true] at number ⊢
  exact fun c member => number c (List.mem_of_mem_drop member)

theorem numberText_renderDecimal (d : Decimal) :
    numberText (FloatLayout.json.renderDecimal d) = true := by
  simp only [FloatLayout.renderDecimal, FloatLayout.json]
  repeat' split
  all_goals simp +decide [numberText_take, numberText_drop, -List.drop_one]

theorem numberText_render (n : JsonNumber) : numberText n.render = true := by
  cases n with
  | natural value => exact numberText_digitString value
  | negative magnitude => simp +decide [JsonNumber.render]
  | float value =>
    simp only [JsonNumber.render, FloatLayout.render]
    split <;> split <;> simp +decide [numberText_renderDecimal]

def numberByte (byte : UInt8) : Bool :=
  isDigit byte || byte == 45 || byte == 43 || byte == 46 || byte == 101

theorem utf8EncodeChar_of_numberChar {c : Char} (number : numberChar c = true) :
    String.utf8EncodeChar c = [c.val.toUInt8] ∧ numberByte c.val.toUInt8 = true := by
  simp only [numberChar, Char.isDigit, Bool.or_eq_true, Bool.and_eq_true, decide_eq_true_eq,
    beq_iff_eq] at number
  rcases number with (((⟨low, high⟩ | rfl) | rfl) | rfl) | rfl
  · simp only [UInt32.le_iff_toNat_le, ge_iff_le] at low high
    change 48 ≤ c.val.toNat at low
    change c.val.toNat ≤ 57 at high
    have single : c.utf8Size = 1 := by
      rw [Char.utf8Size_eq_one_iff, UInt32.le_iff_toNat_le]
      exact Nat.le_trans high (by decide)
    refine ⟨String.utf8EncodeChar_eq_singleton single, ?_⟩
    simp only [numberByte, isDigit, UInt8.le_iff_toNat_le, UInt32.toNat_toUInt8, Bool.or_eq_true,
      Bool.and_eq_true, decide_eq_true_eq, UInt8.reduceToNat]
    omega
  all_goals decide

theorem flatMap_utf8EncodeChar_of_numberChars (chars : List Char)
    (number : ∀ c ∈ chars, numberChar c = true) :
    chars.flatMap String.utf8EncodeChar = chars.map (·.val.toUInt8) := by
  induction chars with
  | nil => rfl
  | cons c rest induction =>
    rw [List.flatMap_cons, (utf8EncodeChar_of_numberChar (number c (by simp))).1, List.map_cons,
      induction (fun d member => number d (by simp [member]))]
    rfl

theorem textBytes_of_numberText {text : String} (number : numberText text = true) :
    textBytes text = text.toList.map (·.val.toUInt8) ∧ ∀ byte ∈ textBytes text, numberByte byte = true := by
  simp only [numberText, List.all_eq_true] at number
  have bytes : textBytes text = text.toList.map (·.val.toUInt8) := by
    rw [textBytes_eq, flatMap_utf8EncodeChar_of_numberChars _ number]
  refine ⟨bytes, fun byte member => ?_⟩
  rw [bytes, List.mem_map] at member
  obtain ⟨c, inText, rfl⟩ := member
  exact (utf8EncodeChar_of_numberChar (number c inText)).2

theorem isBlankByte_of_numberByte {byte : UInt8} (number : numberByte byte = true) :
    isBlankByte byte = false := by
  simp only [numberByte, isDigit, Bool.or_eq_true, Bool.and_eq_true, decide_eq_true_eq, beq_iff_eq,
    UInt8.le_iff_toNat_le, ← UInt8.toNat_inj, UInt8.reduceToNat] at number
  simp only [isBlankByte, Bool.or_eq_false_iff, beq_eq_false_iff_ne, ne_eq, ← UInt8.toNat_inj,
    UInt8.reduceToNat]
  omega

theorem digit_byte {c : Char} (digit : c.isDigit = true) :
    isDigit c.val.toUInt8 = true ∧ digitValue c.val.toUInt8 = c.toNat - 48 := by
  simp only [Char.isDigit, Bool.and_eq_true, decide_eq_true_eq, UInt32.le_iff_toNat_le] at digit
  obtain ⟨low, high⟩ := digit
  change 48 ≤ c.val.toNat at low
  change c.val.toNat ≤ 57 at high
  simp only [isDigit, digitValue, UInt8.le_iff_toNat_le, UInt32.toNat_toUInt8, Bool.and_eq_true,
    decide_eq_true_eq, UInt8.reduceToNat, Char.toNat]
  omega

/-! ### Integers -/

theorem head_toDigits_ne_zero : ∀ n, 0 < n → (Nat.toDigits 10 n).head? ≠ some '0'
  | n, positive => by
    rw [Nat.toDigits_eq_if (by decide)]
    split
    · simp
      omega
    · rename_i large
      have := head_toDigits_ne_zero (n / 10) (by omega)
      obtain ⟨c, rest, split⟩ := List.exists_cons_of_ne_nil (Nat.toDigits_ne_nil (n := n / 10) (b := 10))
      rw [split] at this ⊢
      simpa using this

variable {input : ByteArray}

theorem le_ofDigitChars (chars : List Char) (start : Nat) :
    start ≤ Nat.ofDigitChars 10 chars start := by
  rw [Nat.ofDigitChars_eq_ofDigitChars_zero]
  have : 1 ≤ 10 ^ chars.length := Nat.one_le_pow _ _ (by decide)
  calc start ≤ 10 ^ chars.length * start := Nat.le_mul_of_pos_left start this
    _ ≤ _ := Nat.le_add_right _ _

/-- The loop over the integer digits takes each digit of the text into the
significand while the value fits a word. -/
theorem integerDigits_run {positive : Bool} (chars : List Char)
    (digits : ∀ c ∈ chars, c.isDigit = true) {p significand fuel : Nat}
    (holds : Holds input p (chars.map (·.val.toUInt8))) (enough : chars.length ≤ fuel)
    (fits : Nat.ofDigitChars 10 chars significand ≤ wordMax) :
    readNumber.digits input positive significand fuel p =
      readNumber.digits input positive (Nat.ofDigitChars 10 chars significand)
        (fuel - chars.length) (p + chars.length) := by
  induction chars generalizing p significand fuel with
  | nil => rfl
  | cons c rest induction =>
    obtain ⟨fuel, rfl⟩ : ∃ rest, fuel = rest + 1 := ⟨fuel - 1, by simp at enough; omega⟩
    obtain ⟨here, later⟩ := holds_cons.1 holds
    obtain ⟨digit, value⟩ := digit_byte (digits c (by simp))
    have zero : '0'.toNat = 48 := rfl
    rw [Nat.ofDigitChars_cons, zero] at fits ⊢
    have small : significand * 10 + digitValue c.val.toUInt8 ≤ wordMax := by
      have := le_ofDigitChars rest (10 * significand + (c.toNat - 48))
      rw [value]
      omega
    rw [readNumber.digits, bind_ok (peek?_run p), here]
    simp only [digit, if_true, gt_iff_lt, Nat.not_lt.mpr small, if_false]
    rw [bind_ok (advance_run p)]
    have next : significand * 10 + digitValue c.val.toUInt8 = 10 * significand + (c.toNat - 48) := by
      rw [value]
      omega
    rw [next, induction (fun d member => digits d (by simp [member])) later (by simp at enough; omega)
      fits, List.length_cons, Nat.add_sub_add_right, Nat.add_assoc, Nat.add_comm 1]

theorem finishNumber_of_ends {positive : Bool} {significand q : Nat}
    (ends : ∀ byte, input[q]? = some byte → EndsNumber byte) :
    finishNumber input positive significand q = integerValue positive significand q := by
  rw [finishNumber_eq, bind_ok (peek?_run q)]
  cases after : input[q]? with
  | none => rfl
  | some byte =>
    obtain ⟨-, point, small, large⟩ := ends byte after
    simp only [Option.some.injEq, point, small, large, imp_false, not_false_eq_true]

theorem integerDigits_of_ends {positive : Bool} {significand fuel q : Nat}
    (ends : ∀ byte, input[q]? = some byte → EndsNumber byte) :
    readNumber.digits input positive significand fuel q = integerValue positive significand q := by
  cases fuel with
  | zero =>
    rw [readNumber.digits]
    exact finishNumber_of_ends ends
  | succ fuel =>
    rw [readNumber.digits, bind_ok (peek?_run q)]
    cases after : input[q]? with
    | none => exact finishNumber_of_ends ends
    | some byte =>
      simp only [(ends byte after).1]
      exact finishNumber_of_ends ends

theorem readNumber_zero {positive : Bool} {p : Nat} (here : input[p]? = some 48)
    (ends : ∀ byte, input[p + 1]? = some byte → EndsNumber byte) :
    readNumber input positive p = integerValue positive 0 (p + 1) := by
  unfold Reader.readNumber
  rw [bind_ok (next?_of_some here)]
  simp only
  rw [bind_ok (peek?_run (p + 1))]
  cases after : input[p + 1]? with
  | none => exact finishNumber_of_ends ends
  | some next =>
    simp only [(ends next after).1]
    exact finishNumber_of_ends ends

theorem readNumber_leading {positive : Bool} {p : Nat} {byte : UInt8} (here : input[p]? = some byte)
    (digit : isDigit byte = true) (nonzero : byte ≠ 48) :
    readNumber input positive p = readNumber.digits input positive (digitValue byte) input.size (p + 1) := by
  unfold Reader.readNumber
  rw [bind_ok (next?_of_some here)]
  -- with `nonzero` at hand the match takes its last branch
  simp only
  rw [if_neg (by rw [digit]; decide)]

/-- The digits of a number that fits a word, after its sign, are read as the number. -/
theorem readNumber_digitString {positive : Bool} {n p : Nat} (fits : n ≤ wordMax)
    (holds : Holds input p (textBytes (digitString n)))
    (ends : ∀ byte, input[p + (textBytes (digitString n)).length]? = some byte → EndsNumber byte) :
    readNumber input positive p = integerValue positive n (p + (textBytes (digitString n)).length) := by
  by_cases zero : n = 0
  · -- zero is the only number written with a leading zero
    subst zero
    have bytes : textBytes (digitString 0) = [48] := by decide
    rw [bytes] at holds ends ⊢
    exact readNumber_zero (holds_cons.1 holds).1 ends
  have bytes := (textBytes_of_numberText (numberText_digitString n)).1
  simp only [digitString, String.toList_ofList] at bytes
  rw [digitString, bytes] at holds ends ⊢
  have value : Nat.ofDigitChars 10 (Nat.toDigits 10 n) 0 = n := Nat.ofDigitChars_ten_toDigits
  have digits : ∀ c ∈ Nat.toDigits 10 n, c.isDigit = true :=
    fun c member => Nat.isDigit_of_mem_toDigits (by decide) (by decide) member
  have leading := head_toDigits_ne_zero n (by omega)
  have room := holds.length_le
  obtain ⟨first, rest, split⟩ := List.exists_cons_of_ne_nil (Nat.toDigits_ne_nil (n := n) (b := 10))
  rw [split] at holds ends value digits leading room ⊢
  obtain ⟨here, later⟩ := holds_cons.1 holds
  obtain ⟨digit, firstValue⟩ := digit_byte (digits first (by simp))
  -- the first digit is not zero, so the loop over the digits takes the rest
  have nonzero : first.val.toUInt8 ≠ 48 := by
    intro same
    have low := Char.isDigit_iff_toNat.1 (digits first (by simp))
    have zeroValue : '0'.toNat = 48 := rfl
    rw [same] at firstValue
    simp only [digitValue, UInt8.reduceToNat] at firstValue
    exact leading (by rw [Char.toNat_inj.1 (by omega : first.toNat = '0'.toNat)]; rfl)
  have zeroValue : '0'.toNat = 48 := rfl
  rw [Nat.ofDigitChars_cons, zeroValue, Nat.mul_zero, Nat.zero_add] at value
  simp only [List.map_cons, List.length_cons, List.length_map] at room ends ⊢
  rw [readNumber_leading here digit nonzero, firstValue,
    integerDigits_run rest (fun c member => digits c (by simp [member])) later (by omega)
      (by rw [value]; exact fits), value, Nat.add_assoc, Nat.add_comm 1]
  exact integerDigits_of_ends ends

/-! ### Numbers alone and inside documents -/

/-- Bytes that stand in the input, followed by a byte that ends a number, place
the text they are. -/
theorem placed_of_holds {alone : ByteArray} {p : Nat} (holds : Holds input p alone.data.toList)
    (ends : ∀ byte, input[p + alone.size]? = some byte → EndsNumber byte) : Placed alone input p where
  agree i inside := by
    rw [holds.getElem?_index (by simpa using inside), getElem?_eq]
  ends := ends

/-- At a byte a number may start with, reading a value reads a number: after a
minus sign a negative one, at a digit a nonnegative one. -/
theorem readValue_at_number {depth fuel p : Nat} {byte : UInt8} (here : input[p]? = some byte)
    (number : numberByte byte = true) :
    readValue input depth (fuel + 1) p =
      if byte = 45 then (readNumber input false >>= fun n => pure (Json.number n)) (p + 1)
      else if isDigit byte then (readNumber input true >>= fun n => pure (Json.number n)) p
      else (failAhead input .expectedSomeValue : ReadM Json) p := by
  rw [readValue, bind_ok (skipBlank_of_solid here (isBlankByte_of_numberByte number))]
  by_cases minus : byte = 45
  · subst minus
    simp only [if_true]
    rw [bind_ok (advance_run p)]
  have other : byte ≠ 110 ∧ byte ≠ 116 ∧ byte ≠ 102 ∧ byte ≠ 34 ∧ byte ≠ 91 ∧ byte ≠ 123 := by
    simp only [numberByte, isDigit, Bool.or_eq_true, Bool.and_eq_true, decide_eq_true_eq, beq_iff_eq,
      UInt8.le_iff_toNat_le, ← UInt8.toNat_inj, UInt8.reduceToNat] at number minus
    simp only [ne_eq, ← UInt8.toNat_inj, UInt8.reduceToNat]
    omega
  obtain ⟨n110, n116, n102, n34, n91, n123⟩ := other
  simp only [minus, if_false]
  split <;> rfl

theorem number_of_bind {x : ReadM JsonNumber} {p q : Nat} {n : JsonNumber}
    (ran : (x >>= fun m => pure (Json.number m)) p = .ok (.number n, q)) : x p = .ok (n, q) := by
  cases result : x p with
  | error failure =>
    rw [bind_error result] at ran
    cases ran
  | ok outcome =>
    obtain ⟨m, r⟩ := outcome
    rw [bind_ok result] at ran
    cases ran
    rfl

/-- A whole document read is a value followed by nothing but blanks. -/
theorem run_of_read {v : Json} (read : Json.read input = .ok v) :
    ∃ q r, readValue input 128 (input.size + 2) 0 = .ok (v, q) ∧ skipBlank input q = .ok (none, r) := by
  unfold Json.read at read
  cases ran : readValue input 128 (input.size + 2) 0 with
  | error failure =>
    simp only [StateT.run, bind_error ran] at read
    cases read
  | ok outcome =>
    obtain ⟨value, q⟩ := outcome
    simp only [StateT.run, bind_ok ran] at read
    cases rest : skipBlank input q with
    | error failure =>
      simp only [bind_error rest] at read
      cases read
    | ok look =>
      obtain ⟨look, r⟩ := look
      rw [bind_ok rest] at read
      cases look with
      | some byte => cases read
      | none =>
        cases read
        exact ⟨q, r, rfl, rest⟩

theorem placed_self (alone : ByteArray) : Placed alone alone 0 where
  agree i _ := by rw [Nat.zero_add]
  ends byte after := by simp at after

/-- Blanks only after a position of a text with no blank byte: the position is
at the end. -/
theorem size_le_of_skipBlank {q r : Nat} (solid : ∀ byte ∈ input.data.toList, isBlankByte byte = false)
    (rest : skipBlank input q = .ok (none, r)) : input.size ≤ q := by
  cases here : input[q]? with
  | none => exact size_le_of_getElem?_none here
  | some byte =>
    have member : byte ∈ input.data.toList := by
      rw [getElem?_eq] at here
      exact List.mem_of_getElem? here
    rw [skipBlank_of_solid here (solid byte member)] at rest
    cases rest

theorem digitString_bytes (n : Nat) :
    ∃ byte rest, textBytes (digitString n) = byte :: rest ∧ isDigit byte = true := by
  have bytes := (textBytes_of_numberText (numberText_digitString n)).1
  obtain ⟨first, rest, split⟩ := List.exists_cons_of_ne_nil (Nat.toDigits_ne_nil (n := n) (b := 10))
  rw [show (digitString n).toList = Nat.toDigits 10 n by simp [digitString], split, List.map_cons]
    at bytes
  have digit := Nat.isDigit_of_mem_toDigits (by decide) (by decide) (split ▸ List.mem_cons_self)
  exact ⟨_, _, bytes, (digit_byte digit).1⟩

theorem ne_minus_of_isDigit {byte : UInt8} (digit : isDigit byte = true) : byte ≠ 45 := by
  rintro rfl
  cases digit

/-- A number text that reads back alone is read by the number reader from its
first byte, or from the byte after its minus sign, up to its end. -/
theorem readNumber_of_readText {n : JsonNumber} (reads : Json.readText n.render = .ok (.number n)) :
    ∃ byte rest, textBytes n.render = byte :: rest ∧
      ((byte = 45 ∧ readNumber n.render.toUTF8 false 1 = .ok (n, n.render.toUTF8.size)) ∨
        (isDigit byte = true ∧ readNumber n.render.toUTF8 true 0 = .ok (n, n.render.toUTF8.size))) := by
  obtain ⟨q, r, ran, rest⟩ := run_of_read reads
  have numbers := (textBytes_of_numberText (numberText_render n)).2
  have solid : ∀ byte ∈ n.render.toUTF8.data.toList, isBlankByte byte = false :=
    fun byte member => isBlankByte_of_numberByte (numbers byte member)
  have atEnd := size_le_of_skipBlank solid rest
  cases bytes : textBytes n.render with
  | nil =>
    -- an empty text is no value
    have ended : n.render.toUTF8[0]? = none := by
      rw [getElem?_eq]
      exact (congrArg (·[0]?) bytes : _)
    rw [readValue, bind_ok (skipBlank_of_end ended)] at ran
    cases ran
  | cons byte others =>
    have here : n.render.toUTF8[0]? = some byte := by
      rw [getElem?_eq]
      exact (congrArg (·[0]?) bytes : _)
    have number := numbers byte (by rw [bytes]; exact List.mem_cons_self)
    rw [readValue_at_number here number] at ran
    refine ⟨byte, others, rfl, ?_⟩
    split at ran
    · rename_i minus
      have read := number_of_bind ran
      have := (placed_self n.render.toUTF8).readNumber read
      exact .inl ⟨minus, by rw [← Nat.le_antisymm this.2 atEnd]; exact read⟩
    split at ran
    · rename_i _ digit
      have read := number_of_bind ran
      have := (placed_self n.render.toUTF8).readNumber read
      exact .inr ⟨digit, by rw [← Nat.le_antisymm this.2 atEnd]; exact read⟩
    cases ran

/-- A readable number is read back inside any document, wherever its text stands,
when the byte after it, if any, ends a number. -/
theorem readValue_number {n : JsonNumber} {depth fuel p : Nat} (readable : n.Readable)
    (holds : Holds input p (textBytes n.render))
    (ends : ∀ byte, input[p + (textBytes n.render).length]? = some byte → EndsNumber byte) :
    readValue input depth (fuel + 1) p = .ok (.number n, p + (textBytes n.render).length) := by
  cases n with
  | natural value =>
    obtain ⟨byte, rest, bytes, digit⟩ := digitString_bytes value
    have here := (bytes ▸ holds : Holds input p (byte :: rest)).getElem?
    have number : numberByte byte = true := by simp [numberByte, digit]
    rw [readValue_at_number here number, if_neg (ne_minus_of_isDigit digit), if_pos digit,
      bind_ok (readNumber_digitString readable holds ends)]
    rfl
  | negative magnitude =>
    obtain ⟨positive, fits⟩ := readable
    have bytes : textBytes (JsonNumber.render (.negative magnitude)) = 45 :: textBytes (digitString magnitude) := by
      rw [JsonNumber.render, textBytes_append]
      rfl
    rw [bytes] at holds ends ⊢
    obtain ⟨here, later⟩ := holds_cons.1 holds
    simp only [List.length_cons] at ends ⊢
    have negative : ∀ q, integerValue false magnitude q = .ok (.negative magnitude, q) := by
      intro q
      simp only [integerValue, Bool.false_eq_true, if_false, Nat.ne_of_gt positive, fits, if_true]
      rfl
    have fitsWord : magnitude ≤ wordMax := by
      unfold wordMax
      omega
    rw [readValue_at_number here (by decide), if_pos rfl,
      bind_ok ((readNumber_digitString fitsWord later (by rwa [Nat.add_assoc, Nat.add_comm 1])).trans
        (negative _)), Nat.add_assoc, Nat.add_comm 1]
    rfl
  | float value =>
    obtain ⟨byte, rest, bytes, read⟩ := readNumber_of_readText readable
    have placed := placed_of_holds
      (holds : Holds input p (JsonNumber.render (.float value)).toUTF8.data.toList) ends
    have here := (bytes ▸ holds : Holds input p (byte :: rest)).getElem?
    have number := (textBytes_of_numberText (numberText_render (.float value))).2 byte
      (by rw [bytes]; exact List.mem_cons_self)
    rcases read with ⟨minus, read⟩ | ⟨digit, read⟩
    · subst minus
      rw [readValue_at_number here number, if_pos rfl, bind_ok (placed.readNumber read).1]
      rfl
    · rw [readValue_at_number here number, if_neg (ne_minus_of_isDigit digit), if_pos digit]
      have inPlace := (placed.readNumber read).1
      rw [Nat.add_zero] at inPlace
      rw [bind_ok inPlace]
      rfl

end Courier.Reader
