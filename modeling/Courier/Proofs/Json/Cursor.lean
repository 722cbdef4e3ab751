import Courier.Json.Reader
import Mathlib

/-! # Running the reader over known bytes

The reader threads a byte position through its steps and stops at the first
refusal. The lemmas here run each of its primitive steps at a position whose
bytes are known: `Holds input p bytes` says that the input holds `bytes` from
position `p` on. A longer reading is then proved by chaining the runs of its
steps with `bind_ok`. -/

namespace Courier.Reader

variable {α β : Type} (input : ByteArray)

/-- The bytes of a text as the reader sees them. -/
def textBytes (text : String) : List UInt8 := text.toUTF8.data.toList

@[simp] theorem textBytes_append (s t : String) :
    textBytes (s ++ t) = textBytes s ++ textBytes t := by
  simp [textBytes]

theorem toList_loop (bytes : ByteArray) (i : Nat) (acc : List UInt8) :
    ByteArray.toList.loop bytes i acc = acc.reverse ++ bytes.data.toList.drop i := by
  fun_induction ByteArray.toList.loop bytes i acc with
  | case1 i acc within ih =>
    have here : i < bytes.data.toList.length := by simpa using within
    rw [ih, List.reverse_cons, List.append_assoc, List.singleton_append,
      List.drop_eq_getElem_cons here]
    simp [ByteArray.get!, within]
  | case2 i acc past =>
    rw [List.drop_eq_nil_of_le (by simpa using Nat.le_of_not_lt past), List.append_nil]

/-- The list of a byte array's bytes is the list of its underlying array. -/
theorem toList_eq (bytes : ByteArray) : bytes.toList = bytes.data.toList := by
  simp [ByteArray.toList, toList_loop]

theorem getElem?_eq (p : Nat) : input[p]? = input.data.toList[p]? := by
  simp [getElem?_def, ByteArray.getElem_eq_getElem_data]

theorem size_le_of_getElem?_none {input : ByteArray} {p : Nat} (ended : input[p]? = none) :
    input.size ≤ p := by
  rw [getElem?_eq, List.getElem?_eq_none_iff] at ended
  simpa using ended

theorem lt_size_of_getElem?_some {input : ByteArray} {p : Nat} {byte : UInt8}
    (here : input[p]? = some byte) : p < input.size :=
  (getElem?_eq_some_iff.1 here).1

/-- The input holds `bytes` from position `p` on. -/
def Holds (p : Nat) (bytes : List UInt8) : Prop := bytes <+: input.data.toList.drop p

variable {input}

theorem holds_nil (p : Nat) : Holds input p [] := List.nil_prefix

theorem holds_append {p : Nat} {first second : List UInt8} :
    Holds input p (first ++ second) ↔
      Holds input p first ∧ Holds input (p + first.length) second := by
  unfold Holds
  rw [← List.drop_drop]
  constructor
  · rintro ⟨rest, whole⟩
    refine ⟨⟨second ++ rest, by rw [← whole, List.append_assoc]⟩, rest, ?_⟩
    rw [← whole, List.append_assoc, List.drop_left]
  · rintro ⟨⟨rest, front⟩, later, back⟩
    rw [← front, List.drop_left] at back
    exact ⟨later, by rw [← front, ← back, List.append_assoc]⟩

theorem holds_cons {p : Nat} {byte : UInt8} {rest : List UInt8} :
    Holds input p (byte :: rest) ↔ input[p]? = some byte ∧ Holds input (p + 1) rest := by
  unfold Holds
  rw [getElem?_eq, ← List.head?_drop, ← List.tail_drop]
  cases input.data.toList.drop p with
  | nil => simp
  | cons head tail => simp [eq_comm]

theorem Holds.getElem? {p : Nat} {byte : UInt8} {rest : List UInt8}
    (holds : Holds input p (byte :: rest)) : input[p]? = some byte :=
  (holds_cons.1 holds).1

theorem Holds.drop {p : Nat} {first second : List UInt8}
    (holds : Holds input p (first ++ second)) : Holds input (p + first.length) second :=
  (holds_append.1 holds).2

theorem Holds.take {p : Nat} {first second : List UInt8}
    (holds : Holds input p (first ++ second)) : Holds input p first :=
  (holds_append.1 holds).1

theorem Holds.length_le {p : Nat} {bytes : List UInt8} (holds : Holds input p bytes) :
    bytes.length ≤ input.size - p := by
  simpa using List.IsPrefix.length_le holds

theorem Holds.getElem?_index {p : Nat} {bytes : List UInt8} (holds : Holds input p bytes) {i : Nat}
    (inside : i < bytes.length) : input[p + i]? = bytes[i]? := by
  have inDrop : i < (input.data.toList.drop p).length :=
    Nat.lt_of_lt_of_le inside (List.IsPrefix.length_le holds)
  rw [getElem?_eq, ← List.getElem?_drop, List.getElem?_eq_getElem inside,
    List.getElem?_eq_getElem inDrop, List.IsPrefix.getElem holds inside]

/-! ### Running the steps -/

theorem bind_ok {x : ReadM α} {f : α → ReadM β} {p q : Nat} {a : α}
    (ran : x p = .ok (a, q)) : (x >>= f) p = f a q := by
  simp only [Bind.bind, StateT.bind, ran]
  rfl

theorem bind_error {x : ReadM α} {f : α → ReadM β} {p : Nat} {failure : SyntaxIssue × Nat}
    (ran : x p = .error failure) : (x >>= f) p = .error failure := by
  simp only [Bind.bind, StateT.bind, ran]
  rfl

theorem pure_run (a : α) (p : Nat) : (pure a : ReadM α) p = .ok (a, p) := rfl

theorem get_run (p : Nat) : (get : ReadM Nat) p = .ok (p, p) := rfl

theorem set_run (p q : Nat) : (set q : ReadM PUnit) p = .ok (⟨⟩, q) := rfl

theorem fail_run (issue : SyntaxIssue) (p : Nat) :
    (fail issue : ReadM α) p = .error (issue, p) := rfl

theorem failAhead_run (issue : SyntaxIssue) (p : Nat) :
    (failAhead input issue : ReadM α) p = .error (issue, min input.size (p + 1)) := rfl

theorem peek?_run (p : Nat) : peek? input p = .ok (input[p]?, p) := rfl

theorem advance_run (p : Nat) : advance p = .ok ((), p + 1) := rfl

theorem next?_of_some {p : Nat} {byte : UInt8} (here : input[p]? = some byte) :
    next? input p = .ok (some byte, p + 1) := by
  unfold next?
  rw [bind_ok (peek?_run p), here]
  rfl

theorem next?_of_none {p : Nat} (ended : input[p]? = none) : next? input p = .ok (none, p) := by
  unfold next?
  rw [bind_ok (peek?_run p), ended]
  rfl

/-- Blanks are skipped up to a byte that is not blank, which is looked at. -/
theorem skipBlank_of_solid {p : Nat} {byte : UInt8} (here : input[p]? = some byte)
    (solid : isBlankByte byte = false) : skipBlank input p = .ok (some byte, p) := by
  unfold skipBlank
  cases input.size with
  | zero => rw [skipBlank.go, peek?_run, here]
  | succ fuel =>
    rw [skipBlank.go, bind_ok (peek?_run p), here]
    simp only [solid]
    rfl

/-- At the end of the input there is nothing to look at. -/
theorem skipBlank_of_end {p : Nat} (ended : input[p]? = none) :
    skipBlank input p = .ok (none, p) := by
  unfold skipBlank
  cases input.size with
  | zero => rw [skipBlank.go, peek?_run, ended]
  | succ fuel =>
    rw [skipBlank.go, bind_ok (peek?_run p), ended]
    rfl

/-- The rest of a literal word is read when the input holds it. -/
theorem expectWord_run {p : Nat} {word : List UInt8} (holds : Holds input p word) :
    expectWord input word p = .ok ((), p + word.length) := by
  induction word generalizing p with
  | nil => rfl
  | cons expected rest induction =>
    obtain ⟨here, later⟩ := holds_cons.1 holds
    rw [expectWord, bind_ok (next?_of_some here)]
    simp only [beq_self_eq_true, if_true]
    rw [induction later, List.length_cons, Nat.add_assoc, Nat.add_comm 1]

end Courier.Reader
