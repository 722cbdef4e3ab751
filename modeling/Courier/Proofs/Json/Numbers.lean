import Courier.Proofs.Json.Cursor

/-! # Numbers read in place

A number is read from its first byte up to the first byte that cannot continue
it, and nothing in the reading depends on where the number stands or on what
follows that byte. `readNumber_placed` states it: a number that reads back alone
reads back the same wherever its bytes stand, if the next byte, if any, is no
digit, no point and no exponent mark. The lemmas follow the reader's functions one
by one; each loop is followed by induction on its fuel, which is never used up,
since each of its steps reads one byte. -/

namespace Courier.Reader

/-- Whether a byte ends a number: it is no digit, no point and no exponent mark. -/
def EndsNumber (byte : UInt8) : Prop :=
  isDigit byte = false ∧ byte ≠ 46 ∧ byte ≠ 101 ∧ byte ≠ 69

/-- The bytes of `alone` stand in `input` from position `p` on, and what follows
them there, if anything, ends a number. -/
structure Placed (alone input : ByteArray) (p : Nat) : Prop where
  agree : ∀ i < alone.size, input[p + i]? = alone[i]?
  ends : ∀ byte, input[p + alone.size]? = some byte → EndsNumber byte

variable {alone input : ByteArray} {p : Nat}

/-- Where the number alone has a byte, the input has the same byte; where it has
ended, the input has ended too or holds a byte that ends a number. -/
theorem Placed.peek (placed : Placed alone input p) {i : Nat} (within : i ≤ alone.size) :
    input[p + i]? = alone[i]? ∨
      (alone[i]? = none ∧ ∃ byte, input[p + i]? = some byte ∧ EndsNumber byte) := by
  by_cases inside : i < alone.size
  · exact .inl (placed.agree i inside)
  · have last : i = alone.size := by omega
    subst last
    have ended : alone[alone.size]? = none := by simp
    cases after : input[p + alone.size]? with
    | none => exact .inl (by rw [ended])
    | some byte => exact .inr ⟨ended, byte, rfl, placed.ends byte after⟩

/-- After the number, the input has ended or holds a byte that ends numbers. -/
theorem Placed.after (placed : Placed alone input p) :
    input[p + alone.size]? = none ∨ ∃ byte, input[p + alone.size]? = some byte ∧ EndsNumber byte := by
  cases after : input[p + alone.size]? with
  | none => exact .inl rfl
  | some byte => exact .inr ⟨byte, rfl, placed.ends byte after⟩

theorem Placed.peek_some (placed : Placed alone input p) {i : Nat} {byte : UInt8}
    (here : alone[i]? = some byte) : input[p + i]? = some byte := by
  have inside : i < alone.size := (getElem?_eq_some_iff.1 here).1
  rw [placed.agree i inside, here]

theorem Placed.size_le (placed : Placed alone input p) : alone.size ≤ input.size := by
  cases size : alone.size with
  | zero => exact Nat.zero_le _
  | succ last =>
    have inAlone : alone[last]? = some alone[last] := getElem?_pos alone last (by omega)
    have := lt_size_of_getElem?_some (placed.peek_some inAlone)
    omega

/-! ### The loops over digits

Each loop ends at the first byte that is no digit, or when its fuel is used up; at
the end of the number alone both give the same result, so the loop in place, with
at least as much fuel, gives it too. -/

theorem Placed.skipDigits_go (placed : Placed alone input p) :
    ∀ (fuel fuel' i j : Nat), fuel ≤ fuel' → i ≤ alone.size → alone.size ≤ fuel + i →
      skipDigits.go alone fuel i = .ok ((), j) →
      skipDigits.go input fuel' (p + i) = .ok ((), p + j) ∧ j ≤ alone.size := by
  intro fuel
  induction fuel with
  | zero =>
    intro fuel' i j _ within enough ran
    cases ran
    have last : i = alone.size := by omega
    subst last
    cases fuel' with
    | zero => exact ⟨rfl, Nat.le_refl _⟩
    | succ fuel' =>
      rw [skipDigits.go, bind_ok (peek?_run _)]
      rcases placed.after with ended | ⟨byte, there, ends⟩
      · rw [ended]
        exact ⟨rfl, Nat.le_refl _⟩
      · rw [there]
        simp only [ends.1]
        exact ⟨rfl, Nat.le_refl _⟩
  | succ fuel induction =>
    intro fuel' i j more within enough ran
    obtain ⟨fuel', rfl⟩ : ∃ rest, fuel' = rest + 1 := ⟨fuel' - 1, by omega⟩
    rw [skipDigits.go, bind_ok (peek?_run i)] at ran
    rw [skipDigits.go, bind_ok (peek?_run (p + i))]
    cases here : alone[i]? with
    | none =>
      -- the number has ended; the input has ended too or holds a byte that is no digit
      rw [here] at ran
      cases ran
      have last : i = alone.size := by
        have := size_le_of_getElem?_none here
        omega
      subst last
      rcases placed.after with ended | ⟨byte, there, ends⟩
      · rw [ended]
        exact ⟨rfl, within⟩
      · rw [there]
        simp only [ends.1]
        exact ⟨rfl, within⟩
    | some byte =>
      rw [here] at ran
      rw [placed.peek_some here]
      have inside := lt_size_of_getElem?_some here
      simp only at ran ⊢
      split at ran
      · rename_i digit
        rw [if_pos digit, bind_ok (advance_run _)]
        rw [bind_ok (advance_run _)] at ran
        exact induction fuel' (i + 1) j (by omega) (by omega) (by omega) ran
      · rename_i notDigit
        rw [if_neg notDigit]
        cases ran
        exact ⟨rfl, within⟩

theorem Placed.skipDigits (placed : Placed alone input p) {i j : Nat} (within : i ≤ alone.size)
    (ran : skipDigits alone i = .ok ((), j)) :
    skipDigits input (p + i) = .ok ((), p + j) ∧ j ≤ alone.size :=
  placed.skipDigits_go alone.size input.size i j (placed.size_le) within (by omega) ran

theorem Placed.exponentDigits (placed : Placed alone input p) :
    ∀ (fuel fuel' exponent i j : Nat) (result : Option Nat), fuel ≤ fuel' → i ≤ alone.size →
      alone.size ≤ fuel + i →
      readExponent.digits alone exponent fuel i = .ok (result, j) →
      readExponent.digits input exponent fuel' (p + i) = .ok (result, p + j) ∧ j ≤ alone.size := by
  intro fuel
  induction fuel with
  | zero =>
    intro fuel' exponent i j result _ within enough ran
    cases ran
    have last : i = alone.size := by omega
    subst last
    cases fuel' with
    | zero => exact ⟨rfl, Nat.le_refl _⟩
    | succ fuel' =>
      rw [readExponent.digits, bind_ok (peek?_run _)]
      rcases placed.after with ended | ⟨byte, there, ends⟩
      · rw [ended]
        exact ⟨rfl, Nat.le_refl _⟩
      · rw [there]
        simp only [ends.1]
        exact ⟨rfl, Nat.le_refl _⟩
  | succ fuel induction =>
    intro fuel' exponent i j result more within enough ran
    obtain ⟨fuel', rfl⟩ : ∃ rest, fuel' = rest + 1 := ⟨fuel' - 1, by omega⟩
    rw [readExponent.digits, bind_ok (peek?_run i)] at ran
    rw [readExponent.digits, bind_ok (peek?_run (p + i))]
    cases here : alone[i]? with
    | none =>
      rw [here] at ran
      cases ran
      have last : i = alone.size := by
        have := size_le_of_getElem?_none here
        omega
      subst last
      rcases placed.after with ended | ⟨byte, there, ends⟩
      · rw [ended]
        exact ⟨rfl, within⟩
      · rw [there]
        simp only [ends.1]
        exact ⟨rfl, within⟩
    | some byte =>
      rw [here] at ran
      rw [placed.peek_some here]
      have inside := lt_size_of_getElem?_some here
      simp only at ran ⊢
      split at ran
      · rename_i digit
        rw [if_pos digit, bind_ok (advance_run _)]
        rw [bind_ok (advance_run _)] at ran
        split at ran
        · rename_i large
          rw [if_pos large]
          cases ran
          exact ⟨rfl, inside⟩
        · rename_i small
          rw [if_neg small]
          exact induction fuel' _ (i + 1) j result (by omega) (by omega) (by omega) ran
      · rename_i notDigit
        rw [if_neg notDigit]
        cases ran
        exact ⟨rfl, within⟩

theorem finishFloat_anywhere {positive : Bool} {significand : Nat} {exponent : Int} {q j : Nat}
    {result : JsonNumber} (ran : finishFloat positive significand exponent q = .ok (result, j)) :
    j = q ∧ ∀ q', finishFloat positive significand exponent q' = .ok (result, q') := by
  unfold finishFloat at ran ⊢
  cases scaled : scaleByTen significand exponent with
  | none => simp only [scaled] at ran; cases ran
  | some value =>
    simp only [scaled] at ran ⊢
    cases ran
    exact ⟨rfl, fun q' => rfl⟩

theorem finishFloat_shift {positive : Bool} {significand : Nat} {exponent : Int} {q j : Nat}
    {result : JsonNumber} (within : q ≤ alone.size)
    (ran : finishFloat positive significand exponent q = .ok (result, j)) :
    finishFloat positive significand exponent (p + q) = .ok (result, p + j) ∧ j ≤ alone.size := by
  obtain ⟨rfl, anywhere⟩ := finishFloat_anywhere ran
  exact ⟨anywhere _, within⟩

/-! ### Exponents -/

/-- What reading an exponent does after its sign: the digits, then the number. -/
def exponentTail (input : ByteArray) (positive : Bool) (significand : Nat) (start : Int)
    (positiveExponent : Bool) : ReadM JsonNumber := do
  match ← next? input with
  | none => fail .eofWhileParsingValue
  | some first =>
    if !isDigit first then fail .invalidNumber else
    match ← readExponent.digits input (digitValue first) input.size with
    | some exponent =>
      let total := if positiveExponent then start + exponent else start - exponent
      finishFloat positive significand total
    | none =>
      if significand ≠ 0 && positiveExponent then fail .numberOutOfRange
      else do
        skipDigits input
        return .float (Binary64.zero (!positive))

/-- Reading an exponent is its mark, an optional sign, then `exponentTail`. -/
theorem readExponent_eq (input : ByteArray) (positive : Bool) (significand : Nat) (start : Int) :
    readExponent input positive significand start = (do
      advance
      match ← peek? input with
      | some 43 => do advance; exponentTail input positive significand start true
      | some 45 => do advance; exponentTail input positive significand start false
      | _ => exponentTail input positive significand start true) := rfl

theorem Placed.exponentTail (placed : Placed alone input p) {positive positiveExponent : Bool}
    {significand : Nat} {start : Int} {i j : Nat} {result : JsonNumber}
    (ran : exponentTail alone positive significand start positiveExponent i = .ok (result, j)) :
    exponentTail input positive significand start positiveExponent (p + i) = .ok (result, p + j) ∧
      j ≤ alone.size := by
  unfold Reader.exponentTail at ran ⊢
  cases here : alone[i]? with
  | none =>
    -- an exponent mark with no digit after it is refused
    rw [bind_ok (next?_of_none here)] at ran
    cases ran
  | some first =>
    have inside := lt_size_of_getElem?_some here
    rw [bind_ok (next?_of_some here)] at ran
    rw [bind_ok (next?_of_some (placed.peek_some here))]
    simp only at ran ⊢
    split at ran
    · cases ran
    rename_i digit
    rw [if_neg digit]
    cases digits : readExponent.digits alone (digitValue first) alone.size (i + 1) with
    | error => rw [bind_error digits] at ran; cases ran
    | ok outcome =>
      obtain ⟨exponent, k⟩ := outcome
      obtain ⟨digits', after⟩ := placed.exponentDigits alone.size input.size _ (i + 1) k exponent
        placed.size_le (by omega) (by omega) digits
      rw [bind_ok digits] at ran
      rw [Nat.add_assoc, bind_ok digits']
      cases exponent with
      | some exponent => exact finishFloat_shift after ran
      | none =>
        simp only at ran ⊢
        split at ran
        · cases ran
        rename_i kept
        rw [if_neg kept]
        cases skipped : Reader.skipDigits alone k with
        | error => rw [bind_error skipped] at ran; cases ran
        | ok outcome =>
          obtain ⟨⟨⟩, m⟩ := outcome
          obtain ⟨skipped', last⟩ := placed.skipDigits after skipped
          rw [bind_ok skipped] at ran
          rw [bind_ok skipped']
          cases ran
          exact ⟨rfl, last⟩

theorem Placed.readExponent (placed : Placed alone input p) {positive : Bool} {significand : Nat}
    {start : Int} {i j : Nat} {result : JsonNumber}
    (ran : readExponent alone positive significand start i = .ok (result, j)) :
    readExponent input positive significand start (p + i) = .ok (result, p + j) ∧ j ≤ alone.size := by
  rw [readExponent_eq] at ran ⊢
  rw [bind_ok (advance_run _), bind_ok (peek?_run _)] at ran
  rw [bind_ok (advance_run _), bind_ok (peek?_run _), Nat.add_assoc]
  cases sign : alone[i + 1]? with
  | none =>
    -- a mark at the end of the number has no digit after it
    simp only [sign] at ran
    unfold Reader.exponentTail at ran
    rw [bind_ok (next?_of_none sign)] at ran
    cases ran
  | some mark =>
    have inside' := lt_size_of_getElem?_some sign
    rw [placed.peek_some sign]
    rw [sign] at ran
    by_cases plus : mark = 43
    · subst plus
      simp only [bind_ok (advance_run _)] at ran ⊢
      exact placed.exponentTail ran
    by_cases minus : mark = 45
    · subst minus
      simp only [bind_ok (advance_run _)] at ran ⊢
      exact placed.exponentTail ran
    simp only [Option.some.injEq, plus, minus, imp_false, not_false_eq_true] at ran ⊢
    exact placed.exponentTail ran

/-! ### Fractions -/

/-- The digits after a decimal point. Once the significand would leave 64 bits, one
step reads nothing and marks it full; `slack` pays for that step. -/
theorem Placed.fractionDigits (placed : Placed alone input p) :
    ∀ (fuel fuel' significand count i j : Nat) (overflowed : Bool) (result : Nat × Nat × Bool),
      fuel ≤ fuel' → i ≤ alone.size → alone.size + (if overflowed then 0 else 1) ≤ fuel + i →
      readFraction.digits alone significand count overflowed fuel i = .ok (result, j) →
      readFraction.digits input significand count overflowed fuel' (p + i) = .ok (result, p + j) ∧
        j ≤ alone.size := by
  intro fuel
  induction fuel with
  | zero =>
    intro fuel' significand count i j overflowed result _ within slack ran
    cases ran
    have last : i = alone.size := by split at slack <;> omega
    subst last
    cases fuel' with
    | zero => exact ⟨rfl, Nat.le_refl _⟩
    | succ fuel' =>
      rw [readFraction.digits, bind_ok (peek?_run _)]
      rcases placed.after with ended | ⟨byte, there, ends⟩
      · rw [ended]
        exact ⟨rfl, Nat.le_refl _⟩
      · rw [there]
        simp only [ends.1]
        exact ⟨rfl, Nat.le_refl _⟩
  | succ fuel induction =>
    intro fuel' significand count i j overflowed result more within slack ran
    obtain ⟨fuel', rfl⟩ : ∃ rest, fuel' = rest + 1 := ⟨fuel' - 1, by omega⟩
    rw [readFraction.digits, bind_ok (peek?_run i)] at ran
    rw [readFraction.digits, bind_ok (peek?_run (p + i))]
    cases here : alone[i]? with
    | none =>
      rw [here] at ran
      cases ran
      have last : i = alone.size := by
        have := size_le_of_getElem?_none here
        omega
      subst last
      rcases placed.after with ended | ⟨byte, there, ends⟩
      · rw [ended]
        exact ⟨rfl, within⟩
      · rw [there]
        simp only [ends.1]
        exact ⟨rfl, within⟩
    | some byte =>
      rw [here] at ran
      rw [placed.peek_some here]
      have inside := lt_size_of_getElem?_some here
      simp only at ran ⊢
      split at ran
      · rename_i digit
        rw [if_pos digit]
        cases overflowed with
        | true =>
          simp only [if_true, bind_ok (advance_run _)] at ran ⊢
          exact induction fuel' _ _ (i + 1) j true result (by omega) (by omega) (by simp; omega) ran
        | false =>
          simp only [Bool.false_eq_true, if_false] at ran ⊢
          split at ran
          · rename_i full
            rw [if_pos full]
            exact induction fuel' _ _ i j true result (by omega) within (by simp at slack ⊢; omega) ran
          · rename_i room
            rw [if_neg room, bind_ok (advance_run _)]
            rw [bind_ok (advance_run _)] at ran
            exact induction fuel' _ _ (i + 1) j false result (by omega) (by omega)
              (by simp at slack ⊢; omega) ran
      · rename_i notDigit
        rw [if_neg notDigit]
        cases ran
        exact ⟨rfl, within⟩

theorem Placed.readFraction (placed : Placed alone input p) {positive : Bool} {significand : Nat}
    {start : Int} {i j : Nat} {result : JsonNumber} (inside : i < alone.size)
    (ran : readFraction alone positive significand start i = .ok (result, j)) :
    readFraction input positive significand start (p + i) = .ok (result, p + j) ∧ j ≤ alone.size := by
  unfold Reader.readFraction at ran ⊢
  rw [bind_ok (advance_run _)] at ran ⊢
  cases digits : readFraction.digits alone significand 0 false alone.size (i + 1) with
  | error => rw [bind_error digits] at ran; cases ran
  | ok outcome =>
    obtain ⟨⟨significand', count, overflowed⟩, k⟩ := outcome
    obtain ⟨digits', after⟩ := placed.fractionDigits alone.size input.size significand 0 (i + 1) k
      false _ placed.size_le (by omega) (by simp) digits
    rw [bind_ok digits] at ran
    rw [Nat.add_assoc, bind_ok digits']
    simp only at ran ⊢
    split at ran
    · -- a point with no digit after it is refused
      rename_i empty
      cases point : alone[k]? <;> simp [bind_ok (peek?_run _), point, failAhead_run] at ran
    rename_i digitsRead
    rw [if_neg digitsRead, bind_ok (peek?_run _)]
    rw [bind_ok (peek?_run _)] at ran
    rcases placed.peek after with same | ⟨ended, byte, there, ends⟩
    · rw [same]
      cases mark : alone[k]? with
      | none =>
        simp only [mark] at ran ⊢
        exact finishFloat_shift after ran
      | some byte =>
        have inside' := lt_size_of_getElem?_some mark
        rw [mark] at ran
        by_cases small : byte = 101
        · subst small
          exact placed.readExponent ran
        by_cases large : byte = 69
        · subst large
          exact placed.readExponent ran
        simp only [Option.some.injEq, small, large, imp_false, not_false_eq_true] at ran ⊢
        exact finishFloat_shift after ran
    · rw [ended] at ran
      rw [there]
      simp only [Option.some.injEq, ends.2.2.1, ends.2.2.2, imp_false, not_false_eq_true] at ran ⊢
      exact finishFloat_shift after ran

/-! ### Integers and what may follow them -/

/-- The number an integer is when nothing follows its digits. -/
def integerValue (positive : Bool) (significand : Nat) : ReadM JsonNumber :=
  if positive then return .natural significand
  else if significand = 0 then return .float (Binary64.zero true)
  else if significand ≤ 2 ^ 63 then return .negative significand
  else finishFloat false significand 0

/-- After its digits, an integer goes on to a fraction or an exponent, or ends. -/
theorem finishNumber_eq (input : ByteArray) (positive : Bool) (significand : Nat) :
    finishNumber input positive significand = (do
      match ← peek? input with
      | some 46 => readFraction input positive significand 0
      | some 101 | some 69 => readExponent input positive significand 0
      | _ => integerValue positive significand) := rfl

theorem integerValue_shift {positive : Bool} {significand q j : Nat} {result : JsonNumber}
    (within : q ≤ alone.size) (ran : integerValue positive significand q = .ok (result, j)) :
    integerValue positive significand (p + q) = .ok (result, p + j) ∧ j ≤ alone.size := by
  unfold integerValue at ran ⊢
  split at ran
  · rename_i natural
    rw [if_pos natural]
    cases ran
    exact ⟨rfl, within⟩
  rename_i notNatural
  rw [if_neg notNatural]
  split at ran
  · rename_i zero
    rw [if_pos zero]
    cases ran
    exact ⟨rfl, within⟩
  rename_i nonzero
  rw [if_neg nonzero]
  split at ran
  · rename_i fits
    rw [if_pos fits]
    cases ran
    exact ⟨rfl, within⟩
  rename_i large
  rw [if_neg large]
  exact finishFloat_shift within ran

theorem Placed.finishNumber (placed : Placed alone input p) {positive : Bool} {significand : Nat}
    {i j : Nat} {result : JsonNumber} (within : i ≤ alone.size)
    (ran : finishNumber alone positive significand i = .ok (result, j)) :
    finishNumber input positive significand (p + i) = .ok (result, p + j) ∧ j ≤ alone.size := by
  rw [finishNumber_eq, bind_ok (peek?_run _)] at ran ⊢
  rcases placed.peek within with same | ⟨ended, byte, there, ends⟩
  · rw [same]
    cases mark : alone[i]? with
    | none =>
      simp only [mark] at ran ⊢
      exact integerValue_shift within ran
    | some byte =>
      have inside := lt_size_of_getElem?_some mark
      rw [mark] at ran
      by_cases point : byte = 46
      · subst point
        exact placed.readFraction inside ran
      by_cases small : byte = 101
      · subst small
        exact placed.readExponent ran
      by_cases large : byte = 69
      · subst large
        exact placed.readExponent ran
      simp only [Option.some.injEq, point, small, large, imp_false, not_false_eq_true] at ran ⊢
      exact integerValue_shift within ran
  · rw [ended] at ran
    rw [there]
    simp only [Option.some.injEq, ends.2.1, ends.2.2.1, ends.2.2.2, imp_false,
      not_false_eq_true] at ran ⊢
    exact integerValue_shift within ran

theorem Placed.countDigits (placed : Placed alone input p) :
    ∀ (fuel fuel' exponent i j result : Nat), fuel ≤ fuel' → i ≤ alone.size →
      alone.size ≤ fuel + i →
      finishLongInteger.count alone exponent fuel i = .ok (result, j) →
      finishLongInteger.count input exponent fuel' (p + i) = .ok (result, p + j) ∧
        j ≤ alone.size := by
  intro fuel
  induction fuel with
  | zero =>
    intro fuel' exponent i j result _ within enough ran
    cases ran
    have last : i = alone.size := by omega
    subst last
    cases fuel' with
    | zero => exact ⟨rfl, Nat.le_refl _⟩
    | succ fuel' =>
      rw [finishLongInteger.count, bind_ok (peek?_run _)]
      rcases placed.after with ended | ⟨byte, there, ends⟩
      · rw [ended]
        exact ⟨rfl, Nat.le_refl _⟩
      · rw [there]
        simp only [ends.1]
        exact ⟨rfl, Nat.le_refl _⟩
  | succ fuel induction =>
    intro fuel' exponent i j result more within enough ran
    obtain ⟨fuel', rfl⟩ : ∃ rest, fuel' = rest + 1 := ⟨fuel' - 1, by omega⟩
    rw [finishLongInteger.count, bind_ok (peek?_run i)] at ran
    rw [finishLongInteger.count, bind_ok (peek?_run (p + i))]
    cases here : alone[i]? with
    | none =>
      rw [here] at ran
      cases ran
      have last : i = alone.size := by
        have := size_le_of_getElem?_none here
        omega
      subst last
      rcases placed.after with ended | ⟨byte, there, ends⟩
      · rw [ended]
        exact ⟨rfl, within⟩
      · rw [there]
        simp only [ends.1]
        exact ⟨rfl, within⟩
    | some byte =>
      rw [here] at ran
      rw [placed.peek_some here]
      have inside := lt_size_of_getElem?_some here
      simp only at ran ⊢
      split at ran
      · rename_i digit
        rw [if_pos digit, bind_ok (advance_run _)]
        rw [bind_ok (advance_run _)] at ran
        exact induction fuel' _ (i + 1) j result (by omega) (by omega) (by omega) ran
      · rename_i notDigit
        rw [if_neg notDigit]
        cases ran
        exact ⟨rfl, within⟩

theorem Placed.finishLongInteger (placed : Placed alone input p) {positive : Bool}
    {significand i j : Nat} {result : JsonNumber} (within : i ≤ alone.size)
    (ran : finishLongInteger alone positive significand i = .ok (result, j)) :
    finishLongInteger input positive significand (p + i) = .ok (result, p + j) ∧
      j ≤ alone.size := by
  unfold Reader.finishLongInteger at ran ⊢
  cases counted : finishLongInteger.count alone 0 alone.size i with
  | error => rw [bind_error counted] at ran; cases ran
  | ok outcome =>
    obtain ⟨exponent, k⟩ := outcome
    obtain ⟨counted', after⟩ := placed.countDigits alone.size input.size 0 i k exponent
      placed.size_le within (by omega) counted
    rw [bind_ok counted, bind_ok (peek?_run _)] at ran
    rw [bind_ok counted', bind_ok (peek?_run _)]
    rcases placed.peek after with same | ⟨ended, byte, there, ends⟩
    · rw [same]
      cases mark : alone[k]? with
      | none =>
        simp only [mark] at ran ⊢
        exact finishFloat_shift after ran
      | some byte =>
        have inside := lt_size_of_getElem?_some mark
        rw [mark] at ran
        by_cases point : byte = 46
        · subst point
          exact placed.readFraction inside ran
        by_cases small : byte = 101
        · subst small
          exact placed.readExponent ran
        by_cases large : byte = 69
        · subst large
          exact placed.readExponent ran
        simp only [Option.some.injEq, point, small, large, imp_false, not_false_eq_true] at ran ⊢
        exact finishFloat_shift after ran
    · rw [ended] at ran
      rw [there]
      simp only [Option.some.injEq, ends.2.1, ends.2.2.1, ends.2.2.2, imp_false,
        not_false_eq_true] at ran ⊢
      exact finishFloat_shift after ran

theorem Placed.integerDigits (placed : Placed alone input p) (positive : Bool) :
    ∀ (fuel fuel' significand i j : Nat) (result : JsonNumber), fuel ≤ fuel' → i ≤ alone.size →
      alone.size ≤ fuel + i →
      readNumber.digits alone positive significand fuel i = .ok (result, j) →
      readNumber.digits input positive significand fuel' (p + i) = .ok (result, p + j) ∧
        j ≤ alone.size := by
  intro fuel
  induction fuel with
  | zero =>
    intro fuel' significand i j result _ within enough ran
    rw [readNumber.digits] at ran
    have last : i = alone.size := by omega
    subst last
    cases fuel' with
    | zero => exact placed.finishNumber within ran
    | succ fuel' =>
      rw [readNumber.digits, bind_ok (peek?_run _)]
      rcases placed.after with ended | ⟨byte, there, ends⟩
      · rw [ended]
        exact placed.finishNumber within ran
      · rw [there]
        simp only [ends.1]
        exact placed.finishNumber within ran
  | succ fuel induction =>
    intro fuel' significand i j result more within enough ran
    obtain ⟨fuel', rfl⟩ : ∃ rest, fuel' = rest + 1 := ⟨fuel' - 1, by omega⟩
    rw [readNumber.digits, bind_ok (peek?_run i)] at ran
    rw [readNumber.digits, bind_ok (peek?_run (p + i))]
    cases here : alone[i]? with
    | none =>
      rw [here] at ran
      have last : i = alone.size := by
        have := size_le_of_getElem?_none here
        omega
      subst last
      rcases placed.after with ended | ⟨byte, there, ends⟩
      · rw [ended]
        exact placed.finishNumber within ran
      · rw [there]
        simp only [ends.1]
        exact placed.finishNumber within ran
    | some byte =>
      rw [here] at ran
      rw [placed.peek_some here]
      have inside := lt_size_of_getElem?_some here
      simp only at ran ⊢
      split at ran
      · rename_i digit
        rw [if_pos digit]
        split at ran
        · rename_i long
          rw [if_pos long]
          exact placed.finishLongInteger within ran
        · rename_i short
          rw [if_neg short, bind_ok (advance_run _)]
          rw [bind_ok (advance_run _)] at ran
          exact induction fuel' _ (i + 1) j result (by omega) (by omega) (by omega) ran
      · rename_i notDigit
        rw [if_neg notDigit]
        exact placed.finishNumber within ran

/-- A number read alone from position `i` is read the same in place. -/
theorem Placed.readNumber (placed : Placed alone input p) {positive : Bool} {i j : Nat}
    {result : JsonNumber} (ran : readNumber alone positive i = .ok (result, j)) :
    readNumber input positive (p + i) = .ok (result, p + j) ∧ j ≤ alone.size := by
  unfold Reader.readNumber at ran ⊢
  cases first : alone[i]? with
  | none =>
    rw [bind_ok (next?_of_none first)] at ran
    cases ran
  | some byte =>
    have inside := lt_size_of_getElem?_some first
    rw [bind_ok (next?_of_some first)] at ran
    rw [bind_ok (next?_of_some (placed.peek_some first)), Nat.add_assoc]
    by_cases zero : byte = 48
    · -- a leading zero is the whole integer part
      subst zero
      simp only [bind_ok (peek?_run _)] at ran ⊢
      rcases placed.peek (by omega : i + 1 ≤ alone.size) with same | ⟨ended, next, there, ends⟩
      · rw [same]
        cases after : alone[i + 1]? with
        | none =>
          simp only [after] at ran ⊢
          exact placed.finishNumber (by omega) ran
        | some next =>
          simp only [after] at ran ⊢
          split at ran
          · cases ran
          rename_i notDigit
          rw [if_neg notDigit]
          exact placed.finishNumber (by omega) ran
      · rw [ended] at ran
        rw [there]
        simp only [ends.1] at ran ⊢
        exact placed.finishNumber (by omega) ran
    simp only at ran ⊢
    split at ran
    · cases ran
    rename_i digit
    rw [if_neg digit]
    exact placed.integerDigits positive alone.size input.size _ (i + 1) j result placed.size_le
      (by omega) (by omega) ran

end Courier.Reader
