import Courier.Proofs.Json.RoundTrip

/-! # What reading gives

`RoundTrip` reads back what writing produces; this module says what reading gives on
any input. A document the reader accepts has its objects sorted by key with each key
once, its integers in the range of their kinds, and fewer levels of nesting than the
reader's budget (`Json.read_asRead`), so it reads back from its own text once its
binary64 numbers do (`Json.AsRead.numbersReadable`). Each of the reader's functions
gets one inversion lemma saying everything a successful run of it can have done, and
the invariant `Json.AsRead` follows by one induction on the fuel for all three. Where a
text repeats a key, the value written last is kept (`Json.read_compact_field`). -/

namespace Courier

/-- A number of the kind reading gives it: an integer kind holds a value of its range. -/
def JsonNumber.InRange : JsonNumber → Prop
  | .natural value => value ≤ Reader.wordMax
  | .negative magnitude => 0 < magnitude ∧ magnitude ≤ 2 ^ 63
  | .float _ => True

namespace Json

mutual

/-- The numbers of a value, in the order its text writes them. -/
def numbers : Json → List JsonNumber
  | .number n => [n]
  | .array items => numbersItems items
  | .object members => numbersMembers members
  | _ => []

def numbersItems : List Json → List JsonNumber
  | [] => []
  | item :: rest => item.numbers ++ numbersItems rest

/-- The numbers of the values of some members. -/
def numbersMembers : List (String × Json) → List JsonNumber
  | [] => []
  | (_, value) :: rest => value.numbers ++ numbersMembers rest

end

theorem mem_numbersItems {n : JsonNumber} :
    ∀ {items : List Json}, n ∈ numbersItems items → ∃ item ∈ items, n ∈ item.numbers
  | [], member => by simp [numbersItems] at member
  | item :: rest, member => by
    rw [numbersItems, List.mem_append] at member
    rcases member with here | later
    · exact ⟨item, List.mem_cons_self, here⟩
    · obtain ⟨other, within, found⟩ := mem_numbersItems later
      exact ⟨other, List.mem_cons_of_mem _ within, found⟩

theorem mem_numbersMembers {n : JsonNumber} :
    ∀ {members : List (String × Json)}, n ∈ numbersMembers members → ∃ m ∈ members, n ∈ m.2.numbers
  | [], member => by simp [numbersMembers] at member
  | (key, value) :: rest, member => by
    rw [numbersMembers, List.mem_append] at member
    rcases member with here | later
    · exact ⟨(key, value), List.mem_cons_self, here⟩
    · obtain ⟨other, within, found⟩ := mem_numbersMembers later
      exact ⟨other, List.mem_cons_of_mem _ within, found⟩

theorem depthItems_le {d : Nat} : ∀ {items : List Json}, (∀ item ∈ items, item.depth ≤ d) → depthItems items ≤ d
  | [], _ => Nat.zero_le d
  | item :: rest, bounded => by
    rw [depthItems]
    exact Nat.max_le.2 ⟨bounded item List.mem_cons_self,
      depthItems_le fun other within => bounded other (List.mem_cons_of_mem _ within)⟩

theorem depthMembers_le {d : Nat} :
    ∀ {members : List (String × Json)}, (∀ m ∈ members, m.2.depth ≤ d) → depthMembers members ≤ d
  | [], _ => Nat.zero_le d
  | (key, value) :: rest, bounded => by
    rw [depthMembers]
    exact Nat.max_le.2 ⟨bounded (key, value) List.mem_cons_self,
      depthMembers_le fun other within => bounded other (List.mem_cons_of_mem _ within)⟩

theorem itemsKeysSorted_of_forall : ∀ {items : List Json}, (∀ item ∈ items, item.KeysSorted) → ItemsKeysSorted items
  | [], _ => trivial
  | item :: _, sorted =>
    ⟨sorted item List.mem_cons_self, itemsKeysSorted_of_forall fun other within =>
      sorted other (List.mem_cons_of_mem _ within)⟩

theorem mem_insertSorted {key : String} {value : Json} {m : String × Json} :
    ∀ {members : List (String × Json)}, m ∈ insertSorted key value members → m = (key, value) ∨ m ∈ members
  | [], member => .inl (List.mem_singleton.1 member)
  | (k, v) :: rest, member => by
    rw [insertSorted] at member
    split at member
    · exact List.mem_cons.1 member
    split at member
    · rcases List.mem_cons.1 member with here | later
      · exact .inl here
      · exact .inr (List.mem_cons_of_mem _ later)
    rcases List.mem_cons.1 member with here | later
    · exact .inr (here ▸ List.mem_cons_self)
    rcases mem_insertSorted later with inserted | kept
    · exact .inl inserted
    · exact .inr (List.mem_cons_of_mem _ kept)

theorem membersKeysSorted_insertSorted {key : String} {value : Json} (valueSorted : value.KeysSorted) :
    ∀ {members : List (String × Json)}, MembersKeysSorted members →
      MembersKeysSorted (insertSorted key value members)
  | [], _ => ⟨by simp, valueSorted, trivial⟩
  | (k, v) :: rest, ⟨above, kept, restSorted⟩ => by
    rw [insertSorted]
    split
    · rename_i less
      refine ⟨?_, valueSorted, above, kept, restSorted⟩
      intro m member
      rcases List.mem_cons.1 member with rfl | later
      · exact less
      · exact String.lt_trans less (above m later)
    split
    · rename_i same
      subst same
      exact ⟨above, valueSorted, restSorted⟩
    rename_i notLess notSame
    have greater : k < key := by
      rcases Std.lt_trichotomy key k with less | same | greater
      · exact absurd less notLess
      · exact absurd same notSame
      · exact greater
    refine ⟨?_, kept, membersKeysSorted_insertSorted valueSorted restSorted⟩
    intro m member
    rcases mem_insertSorted member with rfl | old
    · exact greater
    · exact above m old

theorem numbers_of_mem {n : JsonNumber} {key : String} {value : Json} :
    ∀ {members : List (String × Json)}, (key, value) ∈ members → n ∈ value.numbers →
      n ∈ (Json.object members).numbers
  | [], member, _ => nomatch member
  | (k, v) :: rest, member, found => by
    rw [numbers, numbersMembers, List.mem_append]
    rcases List.mem_cons.1 member with same | later
    · cases same
      exact .inl found
    · have := numbers_of_mem later found
      rw [numbers] at this
      exact .inr this

theorem depth_le_of_mem {key : String} {value : Json} :
    ∀ {members : List (String × Json)}, (key, value) ∈ members → value.depth ≤ depthMembers members
  | [], member => nomatch member
  | (k, v) :: rest, member => by
    rw [depthMembers]
    rcases List.mem_cons.1 member with same | later
    · cases same
      exact Nat.le_max_left _ _
    · exact Nat.le_trans (depth_le_of_mem later) (Nat.le_max_right _ _)

theorem keysSorted_of_mem {key : String} {value : Json} :
    ∀ {members : List (String × Json)}, MembersKeysSorted members → (key, value) ∈ members → value.KeysSorted
  | [], _, member => nomatch member
  | (k, v) :: rest, ⟨_, here, later⟩, member => by
    rcases List.mem_cons.1 member with same | inRest
    · cases same
      exact here
    · exact keysSorted_of_mem later inRest

/-- A value as the reader gives it under a budget of levels: its objects sorted by key with
each key once, its integers in the range of their kinds, and fewer levels of nesting than
the budget (a scalar, at depth zero, under any budget). -/
structure AsRead (budget : Nat) (v : Json) : Prop where
  sorted : v.KeysSorted
  inRange : ∀ n ∈ v.numbers, n.InRange
  shallow : v.depth ≤ budget - 1

/-- Members as the reader gives them: sorted by key, each value as read. -/
def MembersAsRead (budget : Nat) (members : List (String × Json)) : Prop :=
  MembersKeysSorted members ∧ ∀ m ∈ members, m.2.AsRead budget

theorem MembersAsRead.nil {budget : Nat} : MembersAsRead budget [] := ⟨trivial, by simp⟩

theorem MembersAsRead.insertSorted {budget : Nat} {members : List (String × Json)} {key : String} {value : Json}
    (read : MembersAsRead budget members) (valueRead : value.AsRead budget) :
    MembersAsRead budget (insertSorted key value members) := by
  refine ⟨membersKeysSorted_insertSorted valueRead.sorted read.1, ?_⟩
  intro m member
  rcases mem_insertSorted member with rfl | old
  · exact valueRead
  · exact read.2 m old

theorem AsRead.array {budget : Nat} {items : List Json} (deep : 1 < budget)
    (read : ∀ item ∈ items, item.AsRead (budget - 1)) : (Json.array items).AsRead budget where
  sorted := itemsKeysSorted_of_forall fun item member => (read item member).sorted
  inRange n member := by
    obtain ⟨item, within, found⟩ := mem_numbersItems member
    exact (read item within).inRange n found
  shallow := by
    have bounded := depthItems_le fun item member => (read item member).shallow
    rw [depth]
    omega

theorem AsRead.object {budget : Nat} {members : List (String × Json)} (deep : 1 < budget)
    (read : MembersAsRead (budget - 1) members) : (Json.object members).AsRead budget where
  sorted := read.1
  inRange n member := by
    obtain ⟨m, within, found⟩ := mem_numbersMembers member
    exact (read.2 m within).inRange n found
  shallow := by
    have bounded := depthMembers_le fun m member => (read.2 m member).shallow
    rw [depth]
    omega

/-- A member's value in an object as read is as read one level further down. -/
theorem AsRead.member {budget : Nat} {members : List (String × Json)} {key : String} {value : Json}
    (read : (Json.object members).AsRead budget) (member : (key, value) ∈ members) :
    value.AsRead (budget - 1) where
  sorted := keysSorted_of_mem read.sorted member
  inRange n found := read.inRange n (numbers_of_mem member found)
  shallow := by
    have below := depth_le_of_mem member
    have whole := read.shallow
    rw [depth] at whole
    omega

theorem AsRead.number {budget : Nat} {n : JsonNumber} (inRange : n.InRange) : (Json.number n).AsRead budget where
  sorted := trivial
  inRange m member := by
    rw [numbers, List.mem_singleton] at member
    exact member ▸ inRange
  shallow := Nat.zero_le _

/-- Every binary64 number of the value reads back from its own text. -/
def FloatsReadBack (v : Json) : Prop := ∀ x, JsonNumber.float x ∈ v.numbers → (JsonNumber.float x).Readable

mutual

theorem numbersReadable_of_forall : ∀ v : Json, (∀ n ∈ v.numbers, n.Readable) → v.NumbersReadable
  | .number n, readable => readable n (List.mem_singleton_self n)
  | .array items, readable => itemsReadable_of_forall items readable
  | .object members, readable => membersReadable_of_forall members readable
  | .null, _ => trivial
  | .bool _, _ => trivial
  | .string _, _ => trivial

theorem itemsReadable_of_forall : ∀ items : List Json, (∀ n ∈ numbersItems items, n.Readable) →
    ItemsReadable items
  | [], _ => trivial
  | item :: rest, readable =>
    ⟨numbersReadable_of_forall item fun n member => readable n (List.mem_append_left _ member),
      itemsReadable_of_forall rest fun n member => readable n (List.mem_append_right _ member)⟩

theorem membersReadable_of_forall : ∀ members : List (String × Json),
    (∀ n ∈ numbersMembers members, n.Readable) → MembersReadable members
  | [], _ => trivial
  | (_, value) :: rest, readable =>
    ⟨numbersReadable_of_forall value fun n member => readable n (List.mem_append_left _ member),
      membersReadable_of_forall rest fun n member => readable n (List.mem_append_right _ member)⟩

end

/-- A value as read reads back from its text when its binary64 numbers do: its integers
are in range already. -/
theorem AsRead.numbersReadable {budget : Nat} {v : Json} (read : v.AsRead budget) (floats : v.FloatsReadBack) :
    v.NumbersReadable :=
  numbersReadable_of_forall v fun n member => by
    cases n with
    | natural value => exact read.inRange _ member
    | negative magnitude => exact read.inRange _ member
    | float x => exact floats x member

/-! ### The last of equal keys -/

/-- Looking a key up after inserting a member finds the member inserted under its own key,
and the old members under the others. -/
theorem lookup_insertSorted (key k : String) (value : Json) : ∀ members : List (String × Json),
    (insertSorted key value members).lookup k = if k = key then some value else members.lookup k
  | [] => by
    by_cases same : k = key
    · simp [insertSorted, same]
    · simp [insertSorted, List.lookup, same, beq_false_of_ne same]
  | (k', v') :: rest => by
    rw [insertSorted]
    by_cases same : k = key
    · subst same
      split
      · simp [List.lookup]
      split
      · simp [List.lookup]
      · rename_i notSame
        simp [List.lookup, beq_false_of_ne notSame, lookup_insertSorted]
    · split
      · simp [List.lookup, beq_false_of_ne same]
      split
      · rename_i equal
        subst equal
        simp [List.lookup, beq_false_of_ne same]
      · rw [List.lookup, List.lookup, lookup_insertSorted key k value rest]
        simp [same]

/-- Members inserted in order keep, under each key, the value inserted last, over the
members they were inserted into. -/
theorem lookup_normalizeMembers (k : String) : ∀ (members sorted : List (String × Json)),
    (normalizeMembers sorted members).lookup k = ((members.reverse.lookup k).map normalize).or (sorted.lookup k)
  | [], sorted => by simp [normalizeMembers]
  | (key, value) :: rest, sorted => by
    rw [normalizeMembers, lookup_normalizeMembers k rest, lookup_insertSorted, List.reverse_cons]
    cases later : rest.reverse.lookup k with
    | some found => simp [List.lookup_append, later]
    | none =>
      by_cases same : k = key
      · subst same
        simp [List.lookup_append, later]
      · simp [List.lookup_append, later, List.lookup, same, beq_false_of_ne same]

/-- Reading the text of an object whose members repeat a key keeps the value written
last under it. -/
theorem read_compact_field {members : List (String × Json)} (readable : (Json.object members).NumbersReadable)
    (shallow : (Json.object members).depth < 128) (k : String) :
    (Json.read (Json.object members).compact.toUTF8).toOption.bind (·.field? k) =
      (members.reverse.lookup k).map normalize := by
  rw [read_compact readable shallow]
  show (normalizeMembers [] members).lookup k = _
  rw [lookup_normalizeMembers]
  simp

end Json

namespace Reader

variable {α β : Type} {input : ByteArray}

/-- A run of two steps that ends well is a run of the first that ends well, then of the second. -/
theorem bind_eq_ok {x : ReadM α} {f : α → ReadM β} {p r : Nat} {b : β} :
    (x >>= f) p = .ok (b, r) ↔ ∃ a q, x p = .ok (a, q) ∧ f a q = .ok (b, r) := by
  constructor
  · intro ran
    cases first : x p with
    | error failure => rw [bind_error first] at ran; cases ran
    | ok result =>
      obtain ⟨a, q⟩ := result
      exact ⟨a, q, rfl, by rw [bind_ok first] at ran; exact ran⟩
  · rintro ⟨a, q, first, rest⟩
    rw [bind_ok first, rest]

theorem pure_bind_run (a : α) (f : α → ReadM β) (p : Nat) : (pure a >>= f) p = f a p := rfl

theorem fail_ne_ok {issue : SyntaxIssue} {p q : Nat} {a : α} : (fail issue : ReadM α) p ≠ .ok (a, q) := by
  rw [fail_run]; exact fun h => by cases h

theorem failAhead_ne_ok {issue : SyntaxIssue} {p q : Nat} {a : α} :
    (failAhead input issue : ReadM α) p ≠ .ok (a, q) := by
  rw [failAhead_run]; exact fun h => by cases h

/-! ### Numbers -/

variable {positive : Bool} {significand : Nat} {p q : Nat} {n : JsonNumber}

theorem finishFloat_float {exponent : Int} (ran : finishFloat positive significand exponent p = .ok (n, q)) :
    ∃ x, n = .float x := by
  unfold finishFloat at ran
  cases scaled : scaleByTen significand exponent with
  | none => simp only [scaled] at ran; exact absurd ran fail_ne_ok
  | some value =>
    simp only [scaled] at ran
    cases ran
    exact ⟨_, rfl⟩

theorem exponentTail_float {start : Int} {positiveExponent : Bool}
    (ran : exponentTail input positive significand start positiveExponent p = .ok (n, q)) :
    ∃ x, n = .float x := by
  unfold exponentTail at ran
  obtain ⟨first, p₁, -, ran⟩ := bind_eq_ok.1 ran
  split at ran
  · exact absurd ran fail_ne_ok
  split at ran
  · exact absurd ran fail_ne_ok
  obtain ⟨exponent, p₂, -, ran⟩ := bind_eq_ok.1 ran
  split at ran
  · exact finishFloat_float ran
  split at ran
  · exact absurd ran fail_ne_ok
  obtain ⟨_, p₃, -, ran⟩ := bind_eq_ok.1 ran
  cases ran
  exact ⟨_, rfl⟩


theorem readExponent_float {start : Int} (ran : readExponent input positive significand start p = .ok (n, q)) :
    ∃ x, n = .float x := by
  rw [readExponent_eq] at ran
  obtain ⟨_, p₁, -, ran⟩ := bind_eq_ok.1 ran
  obtain ⟨sign, p₂, -, ran⟩ := bind_eq_ok.1 ran
  split at ran
  all_goals exact exponentTail_float ran

theorem readFraction_float {start : Int} (ran : readFraction input positive significand start p = .ok (n, q)) :
    ∃ x, n = .float x := by
  unfold readFraction at ran
  obtain ⟨_, p₁, -, ran⟩ := bind_eq_ok.1 ran
  obtain ⟨⟨digits, count, overflowed⟩, p₂, -, ran⟩ := bind_eq_ok.1 ran
  dsimp only at ran
  split at ran
  · obtain ⟨look, p₃, -, ran⟩ := bind_eq_ok.1 ran
    split at ran <;> exact absurd ran failAhead_ne_ok
  · obtain ⟨look, p₃, -, ran⟩ := bind_eq_ok.1 ran
    split at ran
    · exact readExponent_float ran
    · exact readExponent_float ran
    · exact finishFloat_float ran

theorem finishLongInteger_float (ran : finishLongInteger input positive significand p = .ok (n, q)) :
    ∃ x, n = .float x := by
  unfold finishLongInteger at ran
  obtain ⟨exponent, p₁, -, ran⟩ := bind_eq_ok.1 ran
  obtain ⟨look, p₂, -, ran⟩ := bind_eq_ok.1 ran
  split at ran
  · exact readFraction_float ran
  · exact readExponent_float ran
  · exact readExponent_float ran
  · exact finishFloat_float ran

theorem integerValue_inRange (small : significand ≤ wordMax)
    (ran : integerValue positive significand p = .ok (n, q)) : n.InRange := by
  unfold integerValue at ran
  split at ran
  · cases ran
    exact small
  split at ran
  · cases ran
    trivial
  split at ran
  · cases ran
    rename_i nonzero within
    exact ⟨Nat.pos_of_ne_zero nonzero, within⟩
  · obtain ⟨x, rfl⟩ := finishFloat_float ran
    trivial

theorem finishNumber_inRange (small : significand ≤ wordMax)
    (ran : finishNumber input positive significand p = .ok (n, q)) : n.InRange := by
  rw [finishNumber_eq] at ran
  obtain ⟨look, p₁, -, ran⟩ := bind_eq_ok.1 ran
  split at ran
  · obtain ⟨x, rfl⟩ := readFraction_float ran
    trivial
  · obtain ⟨x, rfl⟩ := readExponent_float ran
    trivial
  · obtain ⟨x, rfl⟩ := readExponent_float ran
    trivial
  · exact integerValue_inRange small ran

/-- The integer digits keep the significand within a word: a digit that would overflow it
hands the number over to `finishLongInteger`. -/
theorem integerDigits_inRange : ∀ {fuel significand p}, significand ≤ wordMax →
    readNumber.digits input positive significand fuel p = .ok (n, q) → n.InRange
  | 0, _, _, small, ran => by
    rw [readNumber.digits] at ran
    exact finishNumber_inRange small ran
  | fuel + 1, significand, p, small, ran => by
    rw [readNumber.digits] at ran
    obtain ⟨look, p₁, -, ran⟩ := bind_eq_ok.1 ran
    split at ran
    · split at ran
      · dsimp only at ran
        split at ran
        · obtain ⟨x, rfl⟩ := finishLongInteger_float ran
          trivial
        · rename_i fits
          obtain ⟨_, p₂, -, ran⟩ := bind_eq_ok.1 ran
          exact integerDigits_inRange (Nat.le_of_not_gt fits) ran
      · exact finishNumber_inRange small ran
    · exact finishNumber_inRange small ran

theorem readNumber_inRange (ran : readNumber input positive p = .ok (n, q)) : n.InRange := by
  unfold readNumber at ran
  obtain ⟨first, p₁, -, ran⟩ := bind_eq_ok.1 ran
  split at ran
  · exact absurd ran fail_ne_ok
  · obtain ⟨look, p₂, -, ran⟩ := bind_eq_ok.1 ran
    split at ran
    · split at ran
      · exact absurd ran failAhead_ne_ok
      · exact finishNumber_inRange (by decide) ran
    · exact finishNumber_inRange (by decide) ran
  · split at ran
    · exact absurd ran fail_ne_ok
    · -- a first digit is worth at most a byte
      have worth (byte : UInt8) : digitValue byte ≤ wordMax :=
        Nat.le_trans (Nat.sub_le _ _) (Nat.le_trans (Nat.le_of_lt (UInt8.toNat_lt byte)) (by decide))
      exact integerDigits_inRange (worth _) ran


/-! ### Values, items and members -/

variable {depth fuel : Nat} {v : Json}

/-- What reading one value can give: a literal, a string, a number, or, where one more
level of nesting is allowed, the items of an array or the members of an object read
one level deeper. -/
theorem readValue_cases (ran : readValue input depth (fuel + 1) p = .ok (v, q)) :
    v = .null ∨ (∃ b, v = .bool b) ∨ (∃ text, v = .string text) ∨
      (∃ n positive p₁, readNumber input positive p₁ = .ok (n, q) ∧ v = .number n) ∨
      (1 < depth ∧ ∃ items p₁ q₁, readItems input (depth - 1) true fuel p₁ = .ok (items, q₁) ∧
        v = .array items) ∨
      (1 < depth ∧ ∃ members p₁ q₁, readMembers input (depth - 1) true [] fuel p₁ = .ok (members, q₁) ∧
        v = .object members) := by
  rw [readValue] at ran
  obtain ⟨look, p₁, -, ran⟩ := bind_eq_ok.1 ran
  split at ran
  · exact absurd ran failAhead_ne_ok
  · obtain ⟨_, p₂, -, ran⟩ := bind_eq_ok.1 ran
    obtain ⟨_, p₃, -, ran⟩ := bind_eq_ok.1 ran
    cases ran
    exact .inl rfl
  · obtain ⟨_, p₂, -, ran⟩ := bind_eq_ok.1 ran
    obtain ⟨_, p₃, -, ran⟩ := bind_eq_ok.1 ran
    cases ran
    exact .inr (.inl ⟨true, rfl⟩)
  · obtain ⟨_, p₂, -, ran⟩ := bind_eq_ok.1 ran
    obtain ⟨_, p₃, -, ran⟩ := bind_eq_ok.1 ran
    cases ran
    exact .inr (.inl ⟨false, rfl⟩)
  · obtain ⟨_, p₂, -, ran⟩ := bind_eq_ok.1 ran
    obtain ⟨n, p₃, read, ran⟩ := bind_eq_ok.1 ran
    cases ran
    exact .inr (.inr (.inr (.inl ⟨n, false, p₂, read, rfl⟩)))
  · obtain ⟨_, p₂, -, ran⟩ := bind_eq_ok.1 ran
    obtain ⟨text, p₃, -, ran⟩ := bind_eq_ok.1 ran
    cases ran
    exact .inr (.inr (.inl ⟨text, rfl⟩))
  · split at ran
    · exact absurd ran failAhead_ne_ok
    rename_i deep
    obtain ⟨_, p₂, -, ran⟩ := bind_eq_ok.1 ran
    obtain ⟨items, q₁, read, ran⟩ := bind_eq_ok.1 ran
    obtain ⟨_, p₃, -, ran⟩ := bind_eq_ok.1 ran
    cases ran
    exact .inr (.inr (.inr (.inr (.inl ⟨by omega, items, p₂, q₁, read, rfl⟩))))
  · split at ran
    · exact absurd ran failAhead_ne_ok
    rename_i deep
    obtain ⟨_, p₂, -, ran⟩ := bind_eq_ok.1 ran
    obtain ⟨members, q₁, read, ran⟩ := bind_eq_ok.1 ran
    obtain ⟨_, p₃, -, ran⟩ := bind_eq_ok.1 ran
    cases ran
    exact .inr (.inr (.inr (.inr (.inr ⟨by omega, members, p₂, q₁, read, rfl⟩))))
  · split at ran
    · obtain ⟨n, p₂, read, ran⟩ := bind_eq_ok.1 ran
      cases ran
      exact .inr (.inr (.inr (.inl ⟨n, true, p₁, read, rfl⟩)))
    · exact absurd ran failAhead_ne_ok

/-- What reading items can give: none, or a value read at the same depth and the items after it. -/
theorem readItems_cases {first : Bool} {items : List Json}
    (ran : readItems input depth first (fuel + 1) p = .ok (items, q)) :
    items = [] ∨ ∃ item rest p₁ p₂, readValue input depth fuel p₁ = .ok (item, p₂) ∧
      readItems input depth false fuel p₂ = .ok (rest, q) ∧ items = item :: rest := by
  rw [readItems] at ran
  obtain ⟨look, p₁, -, ran⟩ := bind_eq_ok.1 ran
  split at ran
  · exact absurd ran failAhead_ne_ok
  · cases ran
    exact .inl rfl
  · split at ran
    · obtain ⟨item, p₂, read, ran⟩ := bind_eq_ok.1 ran
      obtain ⟨rest, p₃, readRest, ran⟩ := bind_eq_ok.1 ran
      cases ran
      exact .inr ⟨item, rest, p₁, p₂, read, readRest, rfl⟩
    split at ran
    · obtain ⟨_, p₂, -, ran⟩ := bind_eq_ok.1 ran
      obtain ⟨next, p₃, -, ran⟩ := bind_eq_ok.1 ran
      split at ran
      · exact absurd ran failAhead_ne_ok
      · obtain ⟨item, p₄, read, ran⟩ := bind_eq_ok.1 ran
        obtain ⟨rest, p₅, readRest, ran⟩ := bind_eq_ok.1 ran
        cases ran
        exact .inr ⟨item, rest, p₃, p₄, read, readRest, rfl⟩
      · exact absurd ran failAhead_ne_ok
    · exact absurd ran failAhead_ne_ok

/-- What reading members does once it has found where the next key starts: `none` at the
closing brace, `some none` at the end of the input. -/
def memberAfter (input : ByteArray) (depth fuel : Nat) (members : List (String × Json)) :
    Option (Option UInt8) → ReadM (List (String × Json))
  | none => pure members
  | some (some 34) => do
    advance
    let key ← readString input
    match ← skipBlank input with
    | some 58 => do
      advance
      let value ← readValue input depth fuel
      readMembers input depth false (Json.insertSorted key value members) fuel
    | some _ => failAhead input .expectedColon
    | none => failAhead input .eofWhileParsingObject
  | some (some 125) => failAhead input .trailingComma
  | some (some _) => failAhead input .keyMustBeAString
  | some none => failAhead input .eofWhileParsingValue

theorem memberAfter_cases {members out : List (String × Json)} (start : Option (Option UInt8))
    (ran : memberAfter input depth fuel members start p = .ok (out, q)) :
    out = members ∨ ∃ key value p₁ p₂, readValue input depth fuel p₁ = .ok (value, p₂) ∧
      readMembers input depth false (Json.insertSorted key value members) fuel p₂ = .ok (out, q) := by
  unfold memberAfter at ran
  split at ran
  · cases ran
    exact .inl rfl
  · obtain ⟨_, p₁, -, ran⟩ := bind_eq_ok.1 ran
    obtain ⟨key, p₂, -, ran⟩ := bind_eq_ok.1 ran
    obtain ⟨colon, p₃, -, ran⟩ := bind_eq_ok.1 ran
    split at ran
    · obtain ⟨_, p₄, -, ran⟩ := bind_eq_ok.1 ran
      obtain ⟨value, p₅, read, ran⟩ := bind_eq_ok.1 ran
      exact .inr ⟨key, value, p₄, p₅, read, ran⟩
    all_goals exact absurd ran failAhead_ne_ok
  all_goals exact absurd ran failAhead_ne_ok

/-- What reading members can give: the members read so far, or a value read at the same
depth under some key, inserted into them, and the members after it. -/
theorem readMembers_cases {first : Bool} {members out : List (String × Json)}
    (ran : readMembers input depth first members (fuel + 1) p = .ok (out, q)) :
    out = members ∨ ∃ key value p₁ p₂, readValue input depth fuel p₁ = .ok (value, p₂) ∧
      readMembers input depth false (Json.insertSorted key value members) fuel p₂ = .ok (out, q) := by
  rw [readMembers] at ran
  obtain ⟨look, p₁, -, ran⟩ := bind_eq_ok.1 ran
  -- each way of finding where the next key starts goes on alike
  split at ran
  · rw [pure_bind_run] at ran
    exact memberAfter_cases none ran
  · split at ran
    · rw [pure_bind_run] at ran
      exact memberAfter_cases (some (some 44)) ran
    · obtain ⟨_, p₂, -, ran⟩ := bind_eq_ok.1 ran
      obtain ⟨start, p₃, -, ran⟩ := bind_eq_ok.1 ran
      rw [pure_bind_run] at ran
      exact memberAfter_cases (some start) ran
  · split at ran
    · rw [pure_bind_run] at ran
      exact memberAfter_cases (some (some _)) ran
    · exact absurd ran failAhead_ne_ok
  · exact absurd ran failAhead_ne_ok

theorem readValue_zero {depth p q : Nat} {v : Json} : readValue input depth 0 p ≠ .ok (v, q) := by
  rw [readValue]
  exact fail_ne_ok

theorem readItems_zero {depth p q : Nat} {first : Bool} {items : List Json} :
    readItems input depth first 0 p ≠ .ok (items, q) := by
  rw [readItems]
  exact fail_ne_ok

theorem readMembers_zero {depth p q : Nat} {first : Bool} {members out : List (String × Json)} :
    readMembers input depth first members 0 p ≠ .ok (out, q) := by
  rw [readMembers]
  exact fail_ne_ok

/-- Every value, item and member the reader gives, with any fuel, is as read: the
invariant of `Json.AsRead`, by induction on the fuel, the three functions at once. -/
theorem reads_asRead (input : ByteArray) : ∀ fuel,
    (∀ depth p v q, readValue input depth fuel p = .ok (v, q) → v.AsRead depth) ∧
    (∀ depth first p items q, readItems input depth first fuel p = .ok (items, q) →
      ∀ item ∈ items, item.AsRead depth) ∧
    (∀ depth first members p out q, Json.MembersAsRead depth members →
      readMembers input depth first members fuel p = .ok (out, q) → Json.MembersAsRead depth out)
  | 0 => ⟨fun _ _ _ _ ran => absurd ran readValue_zero, fun _ _ _ _ _ ran => absurd ran readItems_zero,
      fun _ _ _ _ _ _ _ ran => absurd ran readMembers_zero⟩
  | fuel + 1 => by
    obtain ⟨values, items, members⟩ := reads_asRead input fuel
    refine ⟨?_, ?_, ?_⟩
    · intro depth p v q ran
      rcases readValue_cases ran with rfl | ⟨b, rfl⟩ | ⟨text, rfl⟩ | ⟨n, positive, p₁, read, rfl⟩ |
          ⟨deep, elements, p₁, q₁, read, rfl⟩ | ⟨deep, entries, p₁, q₁, read, rfl⟩
      · exact ⟨trivial, by simp [Json.numbers], Nat.zero_le _⟩
      · exact ⟨trivial, by simp [Json.numbers], Nat.zero_le _⟩
      · exact ⟨trivial, by simp [Json.numbers], Nat.zero_le _⟩
      · exact .number (readNumber_inRange read)
      · exact .array deep (items _ _ _ _ _ read)
      · exact .object deep (members _ _ _ _ _ _ .nil read)
    · intro depth first p out q ran
      rcases readItems_cases ran with rfl | ⟨item, rest, p₁, p₂, read, readRest, rfl⟩
      · simp
      · intro other member
        rcases List.mem_cons.1 member with rfl | later
        · exact values _ _ _ _ read
        · exact items _ _ _ _ _ readRest other later
    · intro depth first sorted p out q read ran
      rcases readMembers_cases ran with rfl | ⟨key, value, p₁, p₂, readValue, rest⟩
      · exact read
      · exact members _ _ _ _ _ _ (read.insertSorted (values _ _ _ _ readValue)) rest

end Reader

/-- A document as read has its objects sorted by key, its integers within the ranges of
their kinds, and fewer than 128 levels of nesting. -/
theorem Json.read_asRead {input : ByteArray} {v : Json} (read : Json.read input = .ok v) : v.AsRead 128 := by
  unfold Json.read at read
  dsimp only at read
  split at read
  · rename_i value position ran
    cases read
    obtain ⟨first, p₁, readFirst, rest⟩ := Reader.bind_eq_ok.1 ran
    obtain ⟨look, p₂, -, rest⟩ := Reader.bind_eq_ok.1 rest
    split at rest
    · exact absurd rest Reader.failAhead_ne_ok
    · cases rest
      exact (Reader.reads_asRead input _).1 _ _ _ _ readFirst
  · cases read

end Courier
