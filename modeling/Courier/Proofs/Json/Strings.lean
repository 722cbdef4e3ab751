import Courier.Proofs.Json.Cursor
import Courier.Json.Writer

/-! # Quoted strings read back

The document style of quoting writes a character as itself unless it is the quote,
the backslash or a control character, which it escapes. Reading the quoted text
back collects the raw runs and the decoded escapes, and accepts the result as
UTF-8. The main statement, `readString_quoteJson`, says the reader returns the
text that was quoted and stops just after the closing quote. -/

namespace Courier.Reader

/-! ### The encoder's bytes are well formed -/

theorem firstIllFormed_one (a : UInt8) (rest : List UInt8) (offset : Nat) (ascii : a.toNat < 0x80) :
    firstIllFormed (a :: rest) offset = firstIllFormed rest (offset + 1) := by
  rw [firstIllFormed, if_pos (by simpa [UInt8.lt_iff_toNat_lt] using ascii)]

theorem firstIllFormed_two (a b : UInt8) (rest : List UInt8) (offset : Nat)
    (lead : 0xC2 ≤ a.toNat ∧ a.toNat ≤ 0xDF) (tail : 0x80 ≤ b.toNat ∧ b.toNat ≤ 0xBF) :
    firstIllFormed (a :: b :: rest) offset = firstIllFormed rest (offset + 2) := by
  rw [firstIllFormed]
  simp [UInt8.lt_iff_toNat_lt, UInt8.le_iff_toNat_le, lead, tail]
  omega

/-- The second byte of a three-byte sequence: narrower after `E0` and `ED`, which
would otherwise spell overlong forms and surrogates. -/
def secondOfThree (lead second : Nat) : Prop :=
  if lead = 0xE0 then 0xA0 ≤ second ∧ second ≤ 0xBF
  else if lead = 0xED then 0x80 ≤ second ∧ second ≤ 0x9F
  else 0x80 ≤ second ∧ second ≤ 0xBF

/-- The second byte of a four-byte sequence: narrower after `F0` and `F4`, which
would otherwise spell overlong forms and code points past `10FFFF`. -/
def secondOfFour (lead second : Nat) : Prop :=
  if lead = 0xF0 then 0x90 ≤ second ∧ second ≤ 0xBF
  else if lead = 0xF4 then 0x80 ≤ second ∧ second ≤ 0x8F
  else 0x80 ≤ second ∧ second ≤ 0xBF

theorem firstIllFormed_three (a b c : UInt8) (rest : List UInt8) (offset : Nat)
    (lead : 0xE0 ≤ a.toNat ∧ a.toNat ≤ 0xEF) (second : secondOfThree a.toNat b.toNat)
    (tail : 0x80 ≤ c.toNat ∧ c.toNat ≤ 0xBF) :
    firstIllFormed (a :: b :: c :: rest) offset = firstIllFormed rest (offset + 3) := by
  unfold secondOfThree at second
  rw [firstIllFormed]
  simp only [UInt8.lt_iff_toNat_lt, UInt8.le_iff_toNat_le, ← UInt8.toNat_inj, UInt8.reduceToNat]
  -- the lead byte picks one row of the table; the second byte lies in its range
  split at second <;> (try split at second) <;>
    simp (disch := omega) only [if_pos, if_neg] <;> simp [second, tail]

theorem firstIllFormed_four (a b c d : UInt8) (rest : List UInt8) (offset : Nat)
    (lead : 0xF0 ≤ a.toNat ∧ a.toNat ≤ 0xF4) (second : secondOfFour a.toNat b.toNat)
    (third : 0x80 ≤ c.toNat ∧ c.toNat ≤ 0xBF) (fourth : 0x80 ≤ d.toNat ∧ d.toNat ≤ 0xBF) :
    firstIllFormed (a :: b :: c :: d :: rest) offset = firstIllFormed rest (offset + 4) := by
  unfold secondOfFour at second
  rw [firstIllFormed]
  simp only [UInt8.lt_iff_toNat_lt, UInt8.le_iff_toNat_le, ← UInt8.toNat_inj, UInt8.reduceToNat]
  split at second <;> (try split at second) <;>
    simp (disch := omega) only [if_pos, if_neg] <;> simp [second, third, fourth]

theorem firstIllFormed_utf8EncodeChar (c : Char) (rest : List UInt8) (offset : Nat) :
    firstIllFormed (String.utf8EncodeChar c ++ rest) offset =
      firstIllFormed rest (offset + (String.utf8EncodeChar c).length) := by
  have valid := c.valid
  simp only [UInt32.isValidChar, Nat.isValidChar] at valid
  simp only [String.utf8EncodeChar]
  generalize c.val.toNat = v at valid ⊢
  split
  · exact firstIllFormed_one _ rest offset (by simp; omega)
  split
  · exact firstIllFormed_two _ _ rest offset (by simp; omega) (by simp; omega)
  split
  · exact firstIllFormed_three _ _ _ rest offset (by simp; omega)
      (by unfold secondOfThree; simp; split <;> (try split) <;> omega) (by simp; omega)
  · exact firstIllFormed_four _ _ _ _ rest offset (by simp; omega)
      (by unfold secondOfFour; simp; split <;> (try split) <;> omega) (by simp; omega) (by simp; omega)

theorem firstIllFormed_flatMap (chars : List Char) (offset : Nat) :
    firstIllFormed (chars.flatMap String.utf8EncodeChar) offset = none := by
  induction chars generalizing offset with
  | nil => rw [List.flatMap_nil, firstIllFormed]
  | cons head tail induction =>
    rw [List.flatMap_cons, firstIllFormed_utf8EncodeChar, induction]

/-! ### Raw runs -/

/-- The bytes that end a raw run inside a string: the quote, the backslash and
control bytes. -/
def endsRun (byte : UInt8) : Bool := byte == 34 || byte == 92 || byte < 0x20

variable (input : ByteArray)

theorem bytes_extract (p q : Nat) :
    (input.extract p q).data.toList = (input.data.toList.drop p).take (q - p) := by
  simp

variable {input}

theorem extract_of_holds {p : Nat} {bytes : List UInt8} (holds : Holds input p bytes) :
    input.extract p (p + bytes.length) = bytes.toByteArray := by
  obtain ⟨rest, split⟩ := holds
  apply ByteArray.ext
  apply Array.toList_inj.1
  rw [bytes_extract, ← split, Nat.add_sub_cancel_left, List.take_left' rfl, List.data_toByteArray,
    List.toList_toArray]

/-- A raw run ends at the first byte that ends runs. -/
theorem findIdx_run {start : Nat} {run : List UInt8} {stop : UInt8} {rest : List UInt8}
    (holds : Holds input start (run ++ stop :: rest)) (raw : ∀ byte ∈ run, endsRun byte = false)
    (ends : endsRun stop = true) :
    (input.extract start input.size).toList.findIdx
      (fun byte => byte == 34 || byte == 92 || decide (byte < 32)) = run.length := by
  obtain ⟨after, split⟩ := holds
  have whole : input.data.toList.drop start = run ++ stop :: (rest ++ after) := by simp [← split]
  rw [toList_eq, bytes_extract, whole, List.take_of_length_le (by simp [← whole]),
    List.findIdx_append, List.findIdx_eq_length_of_false (by simpa [endsRun] using raw)]
  rw [List.findIdx_cons, if_neg (Nat.lt_irrefl _)]
  change (bif endsRun stop then 0 else _) + run.length = run.length
  rw [ends, cond_true, Nat.zero_add]

/-! ### What each character is written as -/

/-- Whether the document style writes a character as itself. -/
def writesItself (c : Char) : Bool := c != '"' && c != '\\' && 0x20 ≤ c.toNat

theorem escapeChar_of_writesItself {c : Char} (itself : writesItself c = true) :
    escapeChar .document c = c.toString := by
  unfold escapeChar
  split
  -- the quote, the backslash and the named control characters are escaped
  all_goals first | exact absurd itself (by decide) | skip
  simp only [writesItself, Bool.and_eq_true, decide_eq_true_eq] at itself
  rw [if_neg (by omega), if_neg (by simp)]

/-- The bytes of a character written as itself end no raw run. -/
theorem endsRun_of_writesItself {c : Char} (itself : writesItself c = true) :
    ∀ byte ∈ String.utf8EncodeChar c, endsRun byte = false := by
  simp only [writesItself, Bool.and_eq_true, bne_iff_ne, ne_eq, decide_eq_true_eq] at itself
  obtain ⟨⟨notQuote, notBackslash⟩, visible⟩ := itself
  have quote : c.val.toNat ≠ 34 := fun same => notQuote (Char.ext (UInt32.toNat_inj.1 same))
  have backslash : c.val.toNat ≠ 92 := fun same => notBackslash (Char.ext (UInt32.toNat_inj.1 same))
  simp only [Char.toNat] at visible
  simp only [String.utf8EncodeChar]
  generalize c.val.toNat = v at quote backslash visible ⊢
  -- an ASCII byte is itself; every byte of a longer sequence is at least 0x80
  split
  · simp [endsRun, UInt8.lt_iff_toNat_lt, ← UInt8.toNat_inj]
    omega
  split
  · simp [endsRun, UInt8.lt_iff_toNat_lt, ← UInt8.toNat_inj]
    omega
  split
  · simp [endsRun, UInt8.lt_iff_toNat_lt, ← UInt8.toNat_inj]
    omega
  · simp [endsRun, UInt8.lt_iff_toNat_lt, ← UInt8.toNat_inj]
    omega

theorem hexDigit_bytes : ∀ d < 16, String.utf8EncodeChar ("0123456789abcdef".toList.getD d '0') =
    [("0123456789abcdef".toList.getD d '0').toNat.toUInt8] ∧
    hexValue? ("0123456789abcdef".toList.getD d '0').toNat.toUInt8 = some d := by
  decide +kernel

theorem textBytes_ofList (chars : List Char) :
    textBytes (String.ofList chars) = chars.flatMap String.utf8EncodeChar := by
  simp [textBytes, List.utf8Encode]

theorem textBytes_eq (text : String) : textBytes text = text.toList.flatMap String.utf8EncodeChar := by
  rw [← textBytes_ofList, String.ofList_toList]

theorem getElem!_of_getElem? {p : Nat} {byte : UInt8} (here : input[p]? = some byte) :
    input[p]! = byte := by
  simp [getElem!_def, here]

/-- The four bytes of a four-digit escape, each the digit of its place. -/
theorem textBytes_hex4 (n : Nat) : ∃ b3 b2 b1 b0, textBytes (hex4 n) = [b3, b2, b1, b0] ∧
    hexValue? b3 = some (n / 16 ^ 3 % 16) ∧ hexValue? b2 = some (n / 16 ^ 2 % 16) ∧
    hexValue? b1 = some (n / 16 ^ 1 % 16) ∧ hexValue? b0 = some (n / 16 ^ 0 % 16) := by
  obtain ⟨bytes3, value3⟩ := hexDigit_bytes (n / 16 ^ 3 % 16) (Nat.mod_lt _ (by decide))
  obtain ⟨bytes2, value2⟩ := hexDigit_bytes (n / 16 ^ 2 % 16) (Nat.mod_lt _ (by decide))
  obtain ⟨bytes1, value1⟩ := hexDigit_bytes (n / 16 ^ 1 % 16) (Nat.mod_lt _ (by decide))
  obtain ⟨bytes0, value0⟩ := hexDigit_bytes (n / 16 ^ 0 % 16) (Nat.mod_lt _ (by decide))
  refine ⟨_, _, _, _, ?_, value3, value2, value1, value0⟩
  simp only [hex4, textBytes_ofList, List.flatMap_cons, List.flatMap_nil, bytes3, bytes2, bytes1,
    bytes0, List.cons_append, List.nil_append, List.append_nil]

theorem length_textBytes_hex4 (n : Nat) : (textBytes (hex4 n)).length = 4 := by
  obtain ⟨_, _, _, _, written, -⟩ := textBytes_hex4 n
  rw [written]
  rfl

/-- Four hexadecimal digits are read back as the number they write. -/
theorem readHex4_run {p n : Nat} (small : n < 0x10000) (holds : Holds input p (textBytes (hex4 n))) :
    readHex4 input p = .ok (n, p + 4) := by
  obtain ⟨b3, b2, b1, b0, written, value3, value2, value1, value0⟩ := textBytes_hex4 n
  rw [written] at holds
  obtain ⟨at0, holds⟩ := holds_cons.1 holds
  obtain ⟨at1, holds⟩ := holds_cons.1 holds
  obtain ⟨at2, holds⟩ := holds_cons.1 holds
  obtain ⟨at3, -⟩ := holds_cons.1 holds
  have within : ¬ input.size < p + 4 := by
    have := (getElem?_eq_some_iff.1 at3).1
    omega
  unfold readHex4
  rw [bind_ok (get_run p), if_neg within, bind_ok (set_run p _), getElem!_of_getElem? at0,
    getElem!_of_getElem? at1, getElem!_of_getElem? at2, getElem!_of_getElem? at3]
  simp only [List.map_cons, List.map_nil, value3, value2, value1, value0]
  rw [pure_run]
  congr
  omega

theorem readUnicodeEscape_run {p n : Nat} (small : n < 0xD800)
    (holds : Holds input p (textBytes (hex4 n))) :
    readUnicodeEscape input p = .ok (Char.ofNat n, p + 4) := by
  unfold readUnicodeEscape
  rw [bind_ok (readHex4_run (by omega) holds), if_neg (by omega), if_pos (by omega)]
  rfl

theorem textBytes_toString (c : Char) : textBytes c.toString = String.utf8EncodeChar c := by
  simp [textBytes, Char.toString, String.toByteArray_singleton, List.utf8Encode_singleton]

/-- The characters the document style escapes, with the bytes of their escapes. -/
theorem escape_cases {c : Char} (escaped : writesItself c = false) :
    (c, textBytes (escapeChar .document c)) ∈
      [('"', [92, 34]), ('\\', [92, 92]), ('\n', [92, 110]), ('\r', [92, 114]), ('\t', [92, 116]),
        ('\x08', [92, 98]), ('\x0c', [92, 102])] ∨
    (c.toNat < 0x20 ∧ textBytes (escapeChar .document c) = [92, 117] ++ textBytes (hex4 c.toNat)) := by
  unfold escapeChar
  split
  all_goals first | exact .inl (by decide) | skip
  rename_i notQuote notBackslash _ _ _ _ _
  have control : c.toNat < 0x20 := by
    simp only [writesItself, Bool.and_eq_false_iff, bne_eq_false_iff_eq, decide_eq_false_iff_not]
      at escaped
    rcases escaped with (quote | backslash) | dark
    · exact absurd quote notQuote
    · exact absurd backslash notBackslash
    · omega
  exact .inr ⟨control, by rw [if_pos control, textBytes_append]; rfl⟩

/-! ### The loop over the content -/

theorem mk_toArray (bytes : List UInt8) : ByteArray.mk bytes.toArray = bytes.toByteArray :=
  ByteArray.ext List.data_toByteArray.symm

theorem toList_append_toByteArray (collected : ByteArray) (bytes : List UInt8) :
    (collected ++ bytes.toByteArray).toList = collected.data.toList ++ bytes := by
  simp [toList_eq]

theorem checkUtf8_run {content : ByteArray} (wellFormed : firstIllFormed content.toList 0 = none)
    (p : Nat) : checkUtf8 content p = .ok ((), p) := by
  unfold checkUtf8
  rw [wellFormed]
  rfl

/-- A raw run closed by the quote: the collected bytes are checked as UTF-8 and
returned, and the reader stands after the quote. -/
theorem run_close {collected : ByteArray} {pending : List UInt8} {start fuel : Nat}
    (holds : Holds input start (pending ++ [34])) (raw : ∀ byte ∈ pending, endsRun byte = false)
    (wellFormed : firstIllFormed (collected.data.toList ++ pending) 0 = none) :
    readString.run input collected (fuel + 1) start =
      .ok (collected ++ pending.toByteArray, start + pending.length + 1) := by
  rw [readString.run, bind_ok (get_run start)]
  simp only []
  rw [findIdx_run holds raw rfl, bind_ok (set_run _ _), holds.drop.getElem?]
  simp only []
  rw [bind_ok (advance_run _), extract_of_holds holds.take, bind_ok (checkUtf8_run
    (by rw [toList_append_toByteArray]; exact wellFormed) _)]
  rfl

/-- An escape ends the raw run before it; the run and the escaped character are
collected and the loop goes on after the escape. -/
theorem run_escaped {c : Char} {collected : ByteArray} {pending more : List UInt8} {start fuel : Nat}
    (escaped : writesItself c = false)
    (holds : Holds input start (pending ++ textBytes (escapeChar .document c) ++ more))
    (raw : ∀ byte ∈ pending, endsRun byte = false) :
    readString.run input collected (fuel + 1) start =
      readString.run input (collected ++ (pending ++ String.utf8EncodeChar c).toByteArray) fuel
        (start + pending.length + (textBytes (escapeChar .document c)).length) := by
  have run := holds.take.take
  rcases escape_cases escaped with named | ⟨control, written⟩
  · simp only [List.mem_cons, Prod.mk.injEq, List.not_mem_nil, or_false] at named
    rcases named with ⟨rfl, written⟩ | ⟨rfl, written⟩ | ⟨rfl, written⟩ | ⟨rfl, written⟩ |
      ⟨rfl, written⟩ | ⟨rfl, written⟩ | ⟨rfl, written⟩
    all_goals
      rw [written] at holds ⊢
      obtain ⟨backslash, afterBackslash⟩ := holds_cons.1 holds.take.drop
      obtain ⟨code, -⟩ := holds_cons.1 afterBackslash
      rw [readString.run, bind_ok (get_run start)]
      simp only []
      rw [findIdx_run holds.take raw rfl, bind_ok (set_run _ _), backslash]
      simp only []
      rw [bind_ok (advance_run _), bind_ok (next?_of_some code), extract_of_holds run,
        String.utf8EncodeChar_eq_singleton (by decide), List.toByteArray_append,
        ← ByteArray.append_assoc, ByteArray.append_toByteArray_singleton]
      rfl
  · rw [written] at holds ⊢
    obtain ⟨backslash, afterBackslash⟩ := holds_cons.1 holds.take.drop
    obtain ⟨u, hex⟩ := holds_cons.1 afterBackslash
    rw [readString.run, bind_ok (get_run start)]
    simp only []
    rw [findIdx_run holds.take raw rfl, bind_ok (set_run _ _), backslash]
    simp only []
    rw [bind_ok (advance_run _), bind_ok (next?_of_some u), extract_of_holds run]
    simp only []
    rw [bind_ok (readUnicodeEscape_run (by omega) hex), Char.ofNat_toNat, utf8Bytes, toList_eq,
      ← textBytes, textBytes_toString, List.toByteArray_append, ← ByteArray.append_assoc,
      List.length_append, length_textBytes_hex4, mk_toArray]
    rfl

/-- The bytes of the escapes of some characters, in the document style. -/
def escapedBytes (chars : List Char) : List UInt8 :=
  chars.flatMap fun c => textBytes (escapeChar .document c)

@[simp] theorem escapedBytes_nil : escapedBytes [] = [] := rfl

@[simp] theorem escapedBytes_cons (c : Char) (chars : List Char) :
    escapedBytes (c :: chars) = textBytes (escapeChar .document c) ++ escapedBytes chars :=
  List.flatMap_cons

/-- The loop over the escaped characters of a text and its closing quote collects
the UTF-8 bytes of the text. The induction is on the characters; `pending` is the
raw run the loop has not collected yet, and an escape spends one unit of fuel. -/
theorem run_chars (chars : List Char) (collected : ByteArray) (pending : List UInt8)
    (start fuel : Nat) (holds : Holds input start (pending ++ escapedBytes chars ++ [34]))
    (raw : ∀ byte ∈ pending, endsRun byte = false) (enough : (escapedBytes chars).length ≤ fuel)
    (wellFormed : firstIllFormed
      (collected.data.toList ++ pending ++ chars.flatMap String.utf8EncodeChar) 0 = none) :
    readString.run input collected (fuel + 1) start =
      .ok (collected ++ (pending ++ chars.flatMap String.utf8EncodeChar).toByteArray,
        start + pending.length + (escapedBytes chars).length + 1) := by
  induction chars generalizing collected pending start fuel with
  | nil =>
    simp only [escapedBytes_nil, List.append_nil, List.flatMap_nil] at holds wellFormed ⊢
    rw [run_close holds raw wellFormed, List.length_nil, Nat.add_zero]
  | cons c chars induction =>
    rw [escapedBytes_cons] at holds enough
    rw [List.flatMap_cons] at wellFormed ⊢
    cases itself : writesItself c with
    | true =>
      -- the character joins the pending raw run
      rw [escapeChar_of_writesItself itself, textBytes_toString] at holds enough
      have extended := induction collected (pending ++ String.utf8EncodeChar c) start fuel
        (by simpa [List.append_assoc] using holds)
        (by
          intro byte member
          rcases List.mem_append.1 member with old | new
          · exact raw byte old
          · exact endsRun_of_writesItself itself byte new)
        (by simp at enough; omega) (by simpa [List.append_assoc] using wellFormed)
      rw [extended, escapedBytes_cons, escapeChar_of_writesItself itself, textBytes_toString]
      simp only [List.append_assoc, List.length_append, Nat.add_assoc]
    | false =>
      -- the escape closes the run; one unit of fuel goes with it
      have written : 2 ≤ (textBytes (escapeChar .document c)).length := by
        rcases escape_cases itself with named | ⟨-, written⟩
        · simp only [List.mem_cons, Prod.mk.injEq, List.not_mem_nil, or_false] at named
          rcases named with ⟨-, bytes⟩ | ⟨-, bytes⟩ | ⟨-, bytes⟩ | ⟨-, bytes⟩ | ⟨-, bytes⟩ |
            ⟨-, bytes⟩ | ⟨-, bytes⟩ <;> simp [bytes]
        · simp [written]
      obtain ⟨fuel, rfl⟩ : ∃ rest, fuel = rest + 1 := ⟨fuel - 1, by simp at enough; omega⟩
      have regrouped : Holds input start
          (pending ++ (textBytes (escapeChar .document c) ++ (escapedBytes chars ++ [34]))) := by
        simpa [List.append_assoc] using holds
      rw [run_escaped itself (by simpa [List.append_assoc] using holds) raw]
      have continued := induction (collected ++ (pending ++ String.utf8EncodeChar c).toByteArray) []
        (start + pending.length + (textBytes (escapeChar .document c)).length) fuel
        (by simpa using regrouped.drop.drop)
        (by simp) (by simp at enough; omega)
        (by simpa [toList_append_toByteArray, List.append_assoc] using wellFormed)
      rw [continued, escapedBytes_cons]
      congr 2
      · simp [List.toByteArray_append, ByteArray.append_assoc]
      · simp only [List.length_nil, List.length_append]
        omega

theorem textBytes_join (texts : List String) :
    textBytes (String.join texts) = texts.flatMap textBytes := by
  induction texts with
  | nil => rfl
  | cons text texts induction => rw [String.join_cons, textBytes_append, induction, List.flatMap_cons]

theorem textBytes_quoteJson (text : String) :
    textBytes (quoteJson .document text) = 34 :: escapedBytes text.toList ++ [34] := by
  rw [quoteJson, textBytes_append, textBytes_append, textBytes_join, List.flatMap_map]
  rfl

theorem fromUTF8?_bytes (text : String) :
    String.fromUTF8? (text.toList.flatMap String.utf8EncodeChar).toByteArray = some text := by
  have encoded : (text.toList.flatMap String.utf8EncodeChar).toByteArray = text.toByteArray :=
    String.utf8Encode_toList
  rw [encoded, String.fromUTF8?, dif_pos text.isValidUTF8]
  rfl

/-- After its opening quote, a quoted text is read back as the text, and the reader
stands just after the closing quote. -/
theorem readString_quoted {p : Nat} {text : String}
    (holds : Holds input p (escapedBytes text.toList ++ [34])) :
    readString input p = .ok (text, p + (escapedBytes text.toList).length + 1) := by
  have room := holds.length_le
  rw [List.length_append, List.length_singleton] at room
  unfold readString
  rw [bind_ok (run_chars text.toList ByteArray.empty [] p input.size
    (by simpa using holds) (by simp) (by omega)
    (by simpa using firstIllFormed_flatMap text.toList 0))]
  simp only [ByteArray.empty_append, List.nil_append, fromUTF8?_bytes, Option.getD_some,
    List.length_nil, Nat.add_zero]
  rfl

end Courier.Reader
