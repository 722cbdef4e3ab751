import Courier.Proofs.Json.Normal

/-! # Reading back the compact text of a value

The compact text of a value is read back as its normal form (`read_compact`),
when its numbers read back and it nests less deeply than the reader allows. The
reader looks at one byte and dispatches on it; the lemmas of the first part say
what it does at each kind of value once that byte is known, and the induction on
the reader's fuel then follows the text of the value. -/

namespace Courier

namespace Reader

def valueBytes (v : Json) : List UInt8 := textBytes (v.render .document)

/-- The bytes of some items after the opening bracket: the first as it is, each
later one after a comma. -/
def itemsBytes (first : Bool) : List Json → List UInt8
  | [] => []
  | item :: rest => (if first then [] else [44]) ++ valueBytes item ++ itemsBytes false rest

/-- The bytes of a member: its quoted key, a colon and its value. -/
def memberBytes (member : String × Json) : List UInt8 :=
  textBytes (quoteJson .document member.1) ++ 58 :: valueBytes member.2

/-- The bytes of some members after the opening brace. -/
def membersBytes (first : Bool) : List (String × Json) → List UInt8
  | [] => []
  | member :: rest => (if first then [] else [44]) ++ memberBytes member ++ membersBytes false rest

@[simp] theorem textBytes_comma : textBytes "," = [44] := rfl
@[simp] theorem textBytes_colon : textBytes ":" = [58] := rfl
@[simp] theorem textBytes_openBracket : textBytes "[" = [91] := rfl
@[simp] theorem textBytes_closeBracket : textBytes "]" = [93] := rfl
@[simp] theorem textBytes_openBrace : textBytes "\x7b" = [123] := rfl
@[simp] theorem textBytes_closeBrace : textBytes "\x7d" = [125] := rfl

theorem textBytes_renderItems (items : List Json) :
    textBytes (Json.renderItems .document items) = itemsBytes true items := by
  induction items with
  | nil => rfl
  | cons item rest induction =>
    cases rest with
    | nil => simp [Json.renderItems, itemsBytes, valueBytes]
    | cons next more =>
      show textBytes (Json.render .document item ++ "," ++ Json.renderItems .document (next :: more)) = _
      rw [textBytes_append, textBytes_append, induction]
      simp [itemsBytes, valueBytes]

theorem textBytes_renderMembers (members : List (String × Json)) :
    textBytes (Json.renderMembers .document members) = membersBytes true members := by
  induction members with
  | nil => rfl
  | cons member rest induction =>
    obtain ⟨key, value⟩ := member
    cases rest with
    | nil => simp [Json.renderMembers, membersBytes, memberBytes, valueBytes]
    | cons next more =>
      show textBytes (quoteJson .document key ++ ":" ++ Json.render .document value ++ "," ++
        Json.renderMembers .document (next :: more)) = _
      rw [textBytes_append, textBytes_append, textBytes_append, textBytes_append, induction]
      simp [membersBytes, memberBytes, valueBytes]

@[simp] theorem valueBytes_array (items : List Json) :
    valueBytes (.array items) = 91 :: itemsBytes true items ++ [93] := by
  simp [valueBytes, Json.render, textBytes_renderItems]

@[simp] theorem valueBytes_object (members : List (String × Json)) :
    valueBytes (.object members) = 123 :: membersBytes true members ++ [125] := by
  simp [valueBytes, Json.render, textBytes_renderMembers]

/-- The text of a number starts with a byte numbers are written with. -/
theorem numberBytes_head {n : JsonNumber} (readable : n.Readable) :
    ∃ byte rest, textBytes n.render = byte :: rest ∧ numberByte byte = true := by
  have numbers := (textBytes_of_numberText (numberText_render n)).2
  suffices nonempty : textBytes n.render ≠ [] by
    obtain ⟨byte, rest, bytes⟩ := List.exists_cons_of_ne_nil nonempty
    exact ⟨byte, rest, bytes, numbers byte (by rw [bytes]; exact List.mem_cons_self)⟩
  cases n with
  | natural value =>
    obtain ⟨byte, rest, bytes, -⟩ := digitString_bytes value
    exact bytes ▸ List.cons_ne_nil byte rest
  | negative magnitude =>
    rw [JsonNumber.render, textBytes_append]
    exact List.cons_ne_nil 45 _
  | float value =>
    obtain ⟨byte, rest, bytes, -⟩ := readNumber_of_readText readable
    exact bytes ▸ List.cons_ne_nil byte rest

/-- The text of a value starts with a byte that is not blank and closes nothing. -/
theorem valueBytes_head {v : Json} (readable : v.NumbersReadable) :
    ∃ byte rest, valueBytes v = byte :: rest ∧ isBlankByte byte = false ∧ byte ≠ 93 := by
  cases v with
  | number n =>
    obtain ⟨byte, rest, bytes, number⟩ := numberBytes_head readable
    refine ⟨byte, rest, bytes, isBlankByte_of_numberByte number, ?_⟩
    rintro rfl
    cases number
  | string text =>
    exact ⟨34, _, by rw [valueBytes, Json.render, textBytes_quoteJson, List.cons_append], rfl, by decide⟩
  | array items => exact ⟨91, _, valueBytes_array items, rfl, by decide⟩
  | object members => exact ⟨123, _, valueBytes_object members, rfl, by decide⟩
  | null => exact ⟨110, _, rfl, rfl, by decide⟩
  | bool b => cases b <;> exact ⟨_, _, rfl, rfl, by decide⟩

/-! ### What the reader does at each kind of value -/

variable {input : ByteArray} {depth fuel p q r : Nat}

theorem readValue_word {v : Json} {word : List UInt8}
    (named : (word = [110, 117, 108, 108] ∧ v = .null) ∨ (word = [116, 114, 117, 101] ∧ v = .bool true) ∨
      (word = [102, 97, 108, 115, 101] ∧ v = .bool false))
    (holds : Holds input p word) :
    readValue input depth (fuel + 1) p = .ok (v, p + word.length) := by
  rcases named with ⟨rfl, rfl⟩ | ⟨rfl, rfl⟩ | ⟨rfl, rfl⟩
  all_goals
    obtain ⟨here, later⟩ := holds_cons.1 holds
    rw [readValue, bind_ok (skipBlank_of_solid here rfl)]
    simp only
    rw [bind_ok (advance_run p), bind_ok (expectWord_run later)]
    rfl

theorem readValue_string {text : String} (holds : Holds input p (valueBytes (.string text))) :
    readValue input depth (fuel + 1) p = .ok (.string text, p + (valueBytes (.string text)).length) := by
  have bytes : valueBytes (.string text) = 34 :: (escapedBytes text.toList ++ [34]) := by
    rw [valueBytes, Json.render, textBytes_quoteJson, List.cons_append]
  rw [bytes] at holds ⊢
  obtain ⟨here, later⟩ := holds_cons.1 holds
  rw [readValue, bind_ok (skipBlank_of_solid here rfl)]
  simp only
  rw [bind_ok (advance_run p), bind_ok (readString_quoted later)]
  simp only [List.length_cons, List.length_append, List.length_nil]
  rw [pure_run]
  congr 2
  omega

/-- An array is read as the items after its bracket, and the bracket that closes them. -/
theorem readValue_array {items : List Json} (here : input[p]? = some 91) (deep : 1 < depth)
    (read : readItems input (depth - 1) true fuel (p + 1) = .ok (items, q)) :
    readValue input depth (fuel + 1) p = .ok (.array items, q + 1) := by
  rw [readValue, bind_ok (skipBlank_of_solid here rfl)]
  simp only
  rw [if_neg (by omega), bind_ok (advance_run p), bind_ok read, bind_ok (advance_run q)]
  rfl

/-- An object is read as the members after its brace, and the brace that closes them. -/
theorem readValue_object {members : List (String × Json)} (here : input[p]? = some 123)
    (deep : 1 < depth) (read : readMembers input (depth - 1) true [] fuel (p + 1) = .ok (members, q)) :
    readValue input depth (fuel + 1) p = .ok (.object members, q + 1) := by
  rw [readValue, bind_ok (skipBlank_of_solid here rfl)]
  simp only
  rw [if_neg (by omega), bind_ok (advance_run p), bind_ok read, bind_ok (advance_run q)]
  rfl

theorem readItems_close {first : Bool} (here : input[p]? = some 93) :
    readItems input depth first (fuel + 1) p = .ok ([], p) := by
  rw [readItems, bind_ok (skipBlank_of_solid here rfl)]
  rfl

theorem readItems_first {byte : UInt8} {item : Json} {rest : List Json} (here : input[p]? = some byte)
    (solid : isBlankByte byte = false) (notClose : byte ≠ 93)
    (read : readValue input depth fuel p = .ok (item, q))
    (later : readItems input depth false fuel q = .ok (rest, r)) :
    readItems input depth true (fuel + 1) p = .ok (item :: rest, r) := by
  rw [readItems, bind_ok (skipBlank_of_solid here solid)]
  simp only
  rw [if_pos trivial, bind_ok read, bind_ok later]
  rfl

theorem readItems_next {byte : UInt8} {item : Json} {rest : List Json} (comma : input[p]? = some 44)
    (here : input[p + 1]? = some byte) (solid : isBlankByte byte = false) (notClose : byte ≠ 93)
    (read : readValue input depth fuel (p + 1) = .ok (item, q))
    (later : readItems input depth false fuel q = .ok (rest, r)) :
    readItems input depth false (fuel + 1) p = .ok (item :: rest, r) := by
  rw [readItems, bind_ok (skipBlank_of_solid comma rfl)]
  simp +decide only
  rw [if_neg not_false, if_pos trivial, bind_ok (advance_run p), bind_ok (skipBlank_of_solid here solid)]
  simp only
  rw [bind_ok read, bind_ok later]
  rfl

theorem readMembers_close {first : Bool} {members : List (String × Json)} (here : input[p]? = some 125) :
    readMembers input depth first members (fuel + 1) p = .ok (members, p) := by
  rw [readMembers, bind_ok (skipBlank_of_solid here rfl)]
  rfl

section Member

variable {key : String} {value : Json} {members found : List (String × Json)}

/-- A member is read from its opening quote: the key, the colon and the value, and
then the members after it. -/
theorem readMembers_first (here : input[p]? = some 34)
    (quoted : Holds input (p + 1) (escapedBytes key.toList ++ [34]))
    (colon : input[p + 1 + (escapedBytes key.toList).length + 1]? = some 58)
    (read : readValue input depth fuel (p + 1 + (escapedBytes key.toList).length + 1 + 1) =
      .ok (value, q))
    (later : readMembers input depth false (Json.insertSorted key value members) fuel q = .ok (found, r)) :
    readMembers input depth true members (fuel + 1) p = .ok (found, r) := by
  rw [readMembers, bind_ok (skipBlank_of_solid here rfl)]
  simp +decide only
  rw [if_pos trivial, bind_ok (pure_run _ p)]
  simp only
  rw [bind_ok (advance_run p), bind_ok (readString_quoted quoted), bind_ok (skipBlank_of_solid colon rfl)]
  simp only
  rw [bind_ok (advance_run _), bind_ok read, later]

/-- After a member, a comma and the next member are read. -/
theorem readMembers_next (comma : input[p]? = some 44) (here : input[p + 1]? = some 34)
    (quoted : Holds input (p + 1 + 1) (escapedBytes key.toList ++ [34]))
    (colon : input[p + 1 + 1 + (escapedBytes key.toList).length + 1]? = some 58)
    (read : readValue input depth fuel (p + 1 + 1 + (escapedBytes key.toList).length + 1 + 1) =
      .ok (value, q))
    (later : readMembers input depth false (Json.insertSorted key value members) fuel q = .ok (found, r)) :
    readMembers input depth false members (fuel + 1) p = .ok (found, r) := by
  rw [readMembers, bind_ok (skipBlank_of_solid comma rfl)]
  simp +decide only
  rw [if_neg not_false, bind_ok (advance_run p), bind_ok (skipBlank_of_solid here rfl),
    bind_ok (pure_run _ (p + 1))]
  simp only
  rw [bind_ok (advance_run _), bind_ok (readString_quoted quoted), bind_ok (skipBlank_of_solid colon rfl)]
  simp only
  rw [bind_ok (advance_run _), bind_ok read, later]

end Member

/-! ### Reading back what was written

The reader's three functions recurse through their fuel, each step spending one
unit; the round trip is proved the same way. `ValuesRead input fuel` says that
reading a value with `fuel` gives back every value whose text fits the fuel and
stands in the input, and likewise for items and members; each is proved for
`fuel + 1` from the three for `fuel`. -/

/-- Where a text ends, the input has ended or holds a byte that ends numbers. -/
def EndsAt (input : ByteArray) (q : Nat) : Prop := ∀ byte, input[q]? = some byte → EndsNumber byte

theorem endsAt_of_holds {byte : UInt8} {rest : List UInt8} (holds : Holds input q (byte :: rest))
    (ends : EndsNumber byte) : EndsAt input q := by
  intro found here
  rw [holds.getElem?] at here
  cases here
  exact ends

/-- Reading a value with `fuel` gives back every value whose text fits the fuel. -/
def ValuesRead (input : ByteArray) (fuel : Nat) : Prop :=
  ∀ (v : Json) (depth p : Nat), v.NumbersReadable → v.depth < depth →
    (valueBytes v).length ≤ fuel → Holds input p (valueBytes v) →
    EndsAt input (p + (valueBytes v).length) →
    readValue input depth fuel p = .ok (v.normalize, p + (valueBytes v).length)

/-- Reading items with `fuel` gives back all items whose text fits the fuel, up to
the bracket that closes them. -/
def ItemsRead (input : ByteArray) (fuel : Nat) : Prop :=
  ∀ (first : Bool) (items : List Json) (depth p : Nat), Json.ItemsReadable items →
    Json.depthItems items < depth → (itemsBytes first items).length + 1 ≤ fuel →
    Holds input p (itemsBytes first items ++ [93]) →
    readItems input depth first fuel p =
      .ok (Json.normalizeItems items, p + (itemsBytes first items).length)

/-- Reading members with `fuel` gives back all members whose text fits the fuel, each
inserted in turn into the members already read, up to the brace that closes them. -/
def MembersRead (input : ByteArray) (fuel : Nat) : Prop :=
  ∀ (first : Bool) (members sorted : List (String × Json)) (depth p : Nat),
    Json.MembersReadable members → Json.depthMembers members < depth →
    (membersBytes first members).length + 1 ≤ fuel →
    Holds input p (membersBytes first members ++ [125]) →
    readMembers input depth first sorted fuel p =
      .ok (Json.normalizeMembers sorted members, p + (membersBytes first members).length)

theorem ValuesRead.succ (items : ItemsRead input fuel) (members : MembersRead input fuel) :
    ValuesRead input (fuel + 1) := by
  intro v depth p readable deep enough holds ends
  cases v with
  | null => exact readValue_word (.inl ⟨rfl, rfl⟩) holds
  | bool b => cases b with
    | true => exact readValue_word (.inr (.inl ⟨rfl, rfl⟩)) holds
    | false => exact readValue_word (.inr (.inr ⟨rfl, rfl⟩)) holds
  | number n => exact readValue_number readable holds ends
  | string text => exact readValue_string holds
  | array elements =>
    rw [valueBytes_array] at holds enough ⊢
    simp only [Json.depth] at deep
    simp only [List.length_cons, List.length_append, List.length_nil] at enough
    obtain ⟨here, inside⟩ := holds_cons.1 holds
    have read := items true elements (depth - 1) (p + 1) readable (by omega) (by omega) inside
    rw [readValue_array here (by omega) read]
    simp only [Json.normalize, List.length_cons, List.length_append, List.length_nil]
    congr 2
    omega
  | object entries =>
    rw [valueBytes_object] at holds enough ⊢
    simp only [Json.depth] at deep
    simp only [List.length_cons, List.length_append, List.length_nil] at enough
    obtain ⟨here, inside⟩ := holds_cons.1 holds
    have read := members true entries [] (depth - 1) (p + 1) readable (by omega) (by omega) inside
    rw [readValue_object here (by omega) read]
    simp only [Json.normalize, List.length_cons, List.length_append, List.length_nil]
    congr 2
    omega

/-- A comma, a closing bracket and a closing brace each end a number. -/
theorem endsNumber_of_punctuation {byte : UInt8} (mark : byte = 44 ∨ byte = 93 ∨ byte = 125) :
    EndsNumber byte := by
  rcases mark with rfl | rfl | rfl <;> (unfold EndsNumber; decide)

/-- After an item come the later items or the closing bracket. -/
theorem itemsBytes_after (rest : List Json) :
    ∃ byte more, itemsBytes false rest ++ [93] = byte :: more ∧ EndsNumber byte := by
  cases rest with
  | nil => exact ⟨93, [], rfl, endsNumber_of_punctuation (by decide)⟩
  | cons next later =>
    exact ⟨44, valueBytes next ++ (itemsBytes false later ++ [93]), by simp [itemsBytes],
      endsNumber_of_punctuation (by decide)⟩

theorem ItemsRead.succ (values : ValuesRead input fuel) (items : ItemsRead input fuel) :
    ItemsRead input (fuel + 1) := by
  intro first list depth p readable deep enough holds
  cases list with
  | nil => exact readItems_close (holds_cons.1 holds).1
  | cons item rest =>
    obtain ⟨itemReadable, restReadable⟩ := readable
    simp only [Json.depthItems] at deep
    obtain ⟨byte, more, head, solid, notClose⟩ := valueBytes_head itemReadable
    obtain ⟨next, tail, after, ends⟩ := itemsBytes_after rest
    have itemLength : 0 < (valueBytes item).length := by simp [head]
    cases first with
    | true =>
      have bytes : itemsBytes true (item :: rest) = valueBytes item ++ itemsBytes false rest := by
        simp [itemsBytes]
      rw [bytes, List.append_assoc] at holds
      rw [bytes, List.length_append] at enough ⊢
      obtain ⟨start, later⟩ := holds_append.1 holds
      have read := values item depth p itemReadable (by omega) (by omega) start
        (endsAt_of_holds (after ▸ later) ends)
      have rest := items false rest depth (p + (valueBytes item).length) restReadable (by omega)
        (by omega) later
      rw [readItems_first (head ▸ start).getElem? solid notClose read rest, Json.normalizeItems,
        Nat.add_assoc]
    | false =>
      have bytes : itemsBytes false (item :: rest) = 44 :: (valueBytes item ++ itemsBytes false rest) := by
        simp [itemsBytes]
      rw [bytes, List.cons_append, List.append_assoc] at holds
      rw [bytes, List.length_cons, List.length_append] at enough ⊢
      obtain ⟨comma, holds⟩ := holds_cons.1 holds
      obtain ⟨start, later⟩ := holds_append.1 holds
      have read := values item depth (p + 1) itemReadable (by omega) (by omega) start
        (endsAt_of_holds (after ▸ later) ends)
      have rest := items false rest depth (p + 1 + (valueBytes item).length) restReadable (by omega)
        (by omega) later
      rw [readItems_next comma (head ▸ start).getElem? solid notClose read rest, Json.normalizeItems]
      congr 2
      omega

/-- After a member come the later members or the closing brace. -/
theorem membersBytes_after (rest : List (String × Json)) :
    ∃ byte more, membersBytes false rest ++ [125] = byte :: more ∧ EndsNumber byte := by
  cases rest with
  | nil => exact ⟨125, [], rfl, endsNumber_of_punctuation (by decide)⟩
  | cons next later =>
    exact ⟨44, memberBytes next ++ (membersBytes false later ++ [125]), by simp [membersBytes],
      endsNumber_of_punctuation (by decide)⟩

/-- Where a member and what follows it stand: its opening quote, its key and closing
quote, its colon, and its value with what follows. -/
theorem holds_member {key : String} {value : Json} {after : List UInt8}
    (holds : Holds input p (memberBytes (key, value) ++ after)) :
    input[p]? = some 34 ∧ Holds input (p + 1) (escapedBytes key.toList ++ [34]) ∧
      input[p + 1 + (escapedBytes key.toList).length + 1]? = some 58 ∧
      Holds input (p + 1 + (escapedBytes key.toList).length + 1 + 1) (valueBytes value ++ after) := by
  rw [memberBytes, textBytes_quoteJson] at holds
  have regrouped : Holds input p
      (34 :: ((escapedBytes key.toList ++ [34]) ++ 58 :: (valueBytes value ++ after))) := by
    simpa only [List.cons_append, List.append_assoc, List.nil_append] using holds
  obtain ⟨here, holds⟩ := holds_cons.1 regrouped
  obtain ⟨quoted, holds⟩ := holds_append.1 holds
  obtain ⟨colon, holds⟩ := holds_cons.1 holds
  simp only [List.length_append, List.length_cons, List.length_nil] at colon holds
  refine ⟨here, quoted, ?_, ?_⟩
  · rwa [Nat.add_assoc (p + 1)]
  · rwa [Nat.add_assoc (p + 1)]

theorem length_memberBytes (key : String) (value : Json) :
    (memberBytes (key, value)).length = (escapedBytes key.toList).length + 1 + 1 + 1 + (valueBytes value).length := by
  simp only [memberBytes, textBytes_quoteJson, List.length_append, List.length_cons, List.length_nil]
  omega

theorem MembersRead.succ (values : ValuesRead input fuel) (members : MembersRead input fuel) :
    MembersRead input (fuel + 1) := by
  intro first list sorted depth p readable deep enough holds
  cases list with
  | nil => exact readMembers_close (holds_cons.1 holds).1
  | cons member rest =>
    obtain ⟨key, value⟩ := member
    obtain ⟨valueReadable, restReadable⟩ := readable
    simp only [Json.depthMembers] at deep
    obtain ⟨next, tail, after, ends⟩ := membersBytes_after rest
    have valueLength : 0 < (valueBytes value).length := by
      obtain ⟨byte, more, head, -⟩ := valueBytes_head valueReadable
      simp [head]
    cases first with
    | true =>
      have bytes : membersBytes true ((key, value) :: rest) =
          memberBytes (key, value) ++ membersBytes false rest := by
        simp [membersBytes]
      rw [bytes, List.append_assoc] at holds
      rw [bytes, List.length_append, length_memberBytes] at enough ⊢
      obtain ⟨here, quoted, colon, holds⟩ := holds_member holds
      obtain ⟨start, later⟩ := holds_append.1 holds
      have read := values value depth _ valueReadable (by omega) (by omega) start
        (endsAt_of_holds (after ▸ later) ends)
      have rest := members false rest (Json.insertSorted key value.normalize sorted) depth _
        restReadable (by omega) (by omega) later
      rw [readMembers_first here quoted colon read rest, Json.normalizeMembers]
      congr 2
      omega
    | false =>
      have bytes : membersBytes false ((key, value) :: rest) =
          44 :: (memberBytes (key, value) ++ membersBytes false rest) := by
        simp [membersBytes]
      rw [bytes, List.cons_append, List.append_assoc] at holds
      rw [bytes, List.length_cons, List.length_append, length_memberBytes] at enough ⊢
      obtain ⟨comma, holds⟩ := holds_cons.1 holds
      obtain ⟨here, quoted, colon, holds⟩ := holds_member holds
      obtain ⟨start, later⟩ := holds_append.1 holds
      have read := values value depth _ valueReadable (by omega) (by omega) start
        (endsAt_of_holds (after ▸ later) ends)
      have rest := members false rest (Json.insertSorted key value.normalize sorted) depth _
        restReadable (by omega) (by omega) later
      rw [readMembers_next comma here quoted colon read rest, Json.normalizeMembers]
      congr 2
      omega

theorem valueBytes_ne_nil {v : Json} (readable : v.NumbersReadable) : valueBytes v ≠ [] := by
  obtain ⟨byte, rest, head, -⟩ := valueBytes_head readable
  rw [head]
  exact List.cons_ne_nil byte rest

/-- With any fuel, each of the three functions reads back every text that fits the fuel. -/
theorem reads_rendered (input : ByteArray) :
    ∀ fuel, ValuesRead input fuel ∧ ItemsRead input fuel ∧ MembersRead input fuel
  | 0 => by
    -- no text fits no fuel
    refine ⟨?_, ?_, ?_⟩
    · intro v _ _ readable _ enough
      exact absurd (List.eq_nil_of_length_eq_zero (Nat.le_zero.1 enough)) (valueBytes_ne_nil readable)
    · intro _ _ _ _ _ _ enough
      omega
    · intro _ _ _ _ _ _ _ enough
      omega
  | fuel + 1 => by
    obtain ⟨values, items, members⟩ := reads_rendered input fuel
    exact ⟨ValuesRead.succ items members, ItemsRead.succ values items,
      MembersRead.succ values members⟩

/-- A document is read as the value its reading gives, when only blanks follow it. -/
theorem read_of_run {v : Json} (ran : readValue input 128 (input.size + 2) 0 = .ok (v, q))
    (rest : skipBlank input q = .ok (none, r)) : Json.read input = .ok v := by
  unfold Json.read
  simp only [StateT.run, bind_ok ran, bind_ok rest]
  rfl

end Reader

namespace Json

open Reader

/-- Reading the compact text of a value gives the value back with the members of
each object sorted by key, the last of equal keys kept, when every number in it is
readable and it nests less deeply than the reader allows. -/
theorem read_compact {v : Json} (readable : v.NumbersReadable) (shallow : v.depth < 128) :
    Json.read v.compact.toUTF8 = .ok v.normalize := by
  have whole : valueBytes v = v.compact.toUTF8.data.toList := rfl
  have size : (valueBytes v).length = v.compact.toUTF8.size := by rw [whole]; simp
  have holds : Holds v.compact.toUTF8 0 (valueBytes v) := by
    simp only [whole, Holds, List.drop_zero, List.prefix_refl]
  have ends : EndsAt v.compact.toUTF8 (0 + (valueBytes v).length) := by
    intro byte here
    rw [size, Nat.zero_add] at here
    simp at here
  have read := (reads_rendered v.compact.toUTF8 (v.compact.toUTF8.size + 2)).1 v 128 0 readable
    shallow (by omega) holds ends
  rw [Nat.zero_add, size] at read
  exact read_of_run read (skipBlank_of_end (by simp))

end Json

end Courier
