import Courier.Proofs.Json.NumberText

/-! # The normal form of JSON values

Reading a document does not give back every value that can be written: the
members of an object come back sorted by key, the last of equal keys kept, and a
number comes back in the kind it reads as. `normalize` is what reading gives back,
`depth` how deep a value nests (the reader refuses to go deeper than a bound), and
`NumbersReadable` says that each number reads back as itself. A value whose
objects are already sorted by key, as a map keyed by strings holds them, is its
own normal form (`normalize_of_keysSorted`). -/

namespace Courier

namespace Json

mutual

/-- The value that reading a document's text gives back: the members of each object
sorted by key, the last of equal keys kept. -/
def normalize : Json → Json
  | .array items => .array (normalizeItems items)
  | .object members => .object (normalizeMembers [] members)
  | other => other

/-- The items of an array as reading gives them back. -/
def normalizeItems : List Json → List Json
  | [] => []
  | item :: rest => item.normalize :: normalizeItems rest

/-- The members of an object inserted, in order, into members sorted by key. -/
def normalizeMembers (sorted : List (String × Json)) : List (String × Json) → List (String × Json)
  | [] => sorted
  | (key, value) :: rest => normalizeMembers (insertSorted key value.normalize sorted) rest

end

mutual

/-- How deep arrays and objects nest in a value; a scalar is at depth zero. -/
def depth : Json → Nat
  | .array items => depthItems items + 1
  | .object members => depthMembers members + 1
  | _ => 0

def depthItems : List Json → Nat
  | [] => 0
  | item :: rest => max item.depth (depthItems rest)

/-- The greatest depth of the values of some members. -/
def depthMembers : List (String × Json) → Nat
  | [] => 0
  | (_, value) :: rest => max value.depth (depthMembers rest)

end

mutual

def NumbersReadable : Json → Prop
  | .number n => n.Readable
  | .array items => ItemsReadable items
  | .object members => MembersReadable members
  | _ => True

def ItemsReadable : List Json → Prop
  | [] => True
  | item :: rest => item.NumbersReadable ∧ ItemsReadable rest

/-- Every number in the values of some members is readable. -/
def MembersReadable : List (String × Json) → Prop
  | [] => True
  | (_, value) :: rest => value.NumbersReadable ∧ MembersReadable rest

end

mutual

/-- The members of every object of the value stand in strictly increasing order of
their keys, as a map keyed by strings holds them. -/
def KeysSorted : Json → Prop
  | .array items => ItemsKeysSorted items
  | .object members => MembersKeysSorted members
  | _ => True

/-- The keys of every object of some items stand in increasing order. -/
def ItemsKeysSorted : List Json → Prop
  | [] => True
  | item :: rest => item.KeysSorted ∧ ItemsKeysSorted rest

/-- Some members stand in strictly increasing order of their keys, and so do the
members of every object among their values. -/
def MembersKeysSorted : List (String × Json) → Prop
  | [] => True
  | (key, value) :: rest => (∀ member ∈ rest, key < member.1) ∧ value.KeysSorted ∧ MembersKeysSorted rest

end

/-- A member whose key is greater than every key of some sorted members goes last. -/
theorem insertSorted_of_lt {key : String} {value : Json} :
    ∀ {sorted : List (String × Json)}, (∀ member ∈ sorted, member.1 < key) →
      insertSorted key value sorted = sorted ++ [(key, value)]
  | [], _ => rfl
  | (k, v) :: rest, below => by
    have less : k < key := below (k, v) List.mem_cons_self
    have notLess : ¬ key < k := List.lt_asymm less
    have notSame : key ≠ k := fun same => List.lt_irrefl k.toList (same ▸ less)
    rw [insertSorted, if_neg notLess, if_neg notSame,
      insertSorted_of_lt (fun member inRest => below member (List.mem_cons_of_mem _ inRest))]
    rfl

mutual

/-- A value whose objects are sorted by key is its own normal form. -/
theorem normalize_of_keysSorted : ∀ v : Json, v.KeysSorted → v.normalize = v
  | .array items, sorted => by rw [normalize, normalizeItems_of_keysSorted items sorted]
  | .object members, sorted => by
    rw [normalize, normalizeMembers_of_keysSorted members [] (by simp) sorted, List.nil_append]
  | .null, _ => rfl
  | .bool _, _ => rfl
  | .number _, _ => rfl
  | .string _, _ => rfl

theorem normalizeItems_of_keysSorted : ∀ items : List Json, ItemsKeysSorted items →
    normalizeItems items = items
  | [], _ => rfl
  | item :: rest, ⟨first, later⟩ => by
    rw [normalizeItems, normalize_of_keysSorted item first, normalizeItems_of_keysSorted rest later]

/-- Members sorted by key, all after some sorted members, go after them in order. -/
theorem normalizeMembers_of_keysSorted : ∀ (members sorted : List (String × Json)),
    (∀ a ∈ sorted, ∀ b ∈ members, a.1 < b.1) → MembersKeysSorted members →
      normalizeMembers sorted members = sorted ++ members
  | [], sorted, _, _ => by rw [normalizeMembers, List.append_nil]
  | (key, value) :: rest, sorted, below, ⟨above, valueSorted, restSorted⟩ => by
    rw [normalizeMembers, normalize_of_keysSorted value valueSorted,
      insertSorted_of_lt (fun a inSorted => below a inSorted (key, value) List.mem_cons_self),
      normalizeMembers_of_keysSorted rest _ ?_ restSorted, List.append_assoc, List.singleton_append]
    intro a inSorted b inRest
    rcases List.mem_append.1 inSorted with old | new
    · exact below a old b (List.mem_cons_of_mem _ inRest)
    · rw [List.mem_singleton.1 new]
      exact above b inRest

end

end Json

end Courier
