import Courier.Decimal.Binary64

namespace Courier

/-! JSON values. A number keeps the kind it was read as: a nonnegative integer
that fits 64 bits, a negative one that fits 64 bits as a signed word, or a
binary64 number for everything else. An object is a list of members; the reader
keeps it sorted by key with each key once, while an object built by the library
keeps the order it was built in. -/

/-- A JSON number, by the kind it was read as. -/
inductive JsonNumber where
  /-- A nonnegative integer below `2 ^ 64`. -/
  | natural (value : Nat)
  /-- A negative integer `-magnitude` with `magnitude ≤ 2 ^ 63`. -/
  | negative (magnitude : Nat)
  /-- Any other number. -/
  | float (value : Binary64)
  deriving DecidableEq, Repr, Inhabited

inductive Json where
  | null
  | bool (value : Bool)
  | number (value : JsonNumber)
  | string (value : String)
  | array (items : List Json)
  | object (members : List (String × Json))
  deriving Repr, Inhabited

namespace Json

def nat (value : Nat) : Json := .number (.natural value)

def int (value : Int) : Json :=
  if value < 0 then .number (.negative value.natAbs) else .number (.natural value.toNat)

/-- The member of an object stored under `key`. -/
def field? (value : Json) (key : String) : Option Json :=
  match value with
  | .object members => members.lookup key
  | _ => none

def members? : Json → Option (List (String × Json))
  | .object members => some members
  | _ => none

def str? : Json → Option String
  | .string text => some text
  | _ => none

def isNull : Json → Bool
  | .null => true
  | _ => false

/-- Insert a member into members sorted by key, replacing a member of the same
key: the last of two equal keys wins. -/
def insertSorted (key : String) (value : Json) :
    List (String × Json) → List (String × Json)
  | [] => [(key, value)]
  | (k, v) :: rest =>
    if key < k then (key, value) :: (k, v) :: rest
    else if key = k then (key, value) :: rest
    else (k, v) :: insertSorted key value rest

/-- Replace or add a member of an object, keeping the other members in place;
a new member goes last. Other values are returned unchanged. -/
def setField (value : Json) (key : String) (member : Json) : Json :=
  match value with
  | .object members =>
    if members.any (·.1 == key) then
      .object (members.map fun (k, v) => if k == key then (k, member) else (k, v))
    else .object (members ++ [(key, member)])
  | other => other

/-- Apply a function to every member of an object. -/
def mapMembers (f : String → Json → Json) : Json → Json
  | .object members => .object (members.map fun (k, v) => (k, f k v))
  | other => other

/-- Apply a function to one member of an object, if it has that member. -/
def mapField (key : String) (f : Json → Json) : Json → Json
  | .object members => .object (members.map fun (k, v) => if k == key then (k, f v) else (k, v))
  | other => other

/-- A list of strings as a JSON array. -/
def strings (items : List String) : Json := .array (items.map .string)

def stringMap (pairs : List (String × String)) : Json :=
  .object (pairs.map fun (k, v) => (k, .string v))

def optString : Option String → Json
  | some text => .string text
  | none => .null

/-- Whether two numbers are equal: numbers read as different kinds differ, and
the two binary64 zeros are equal. -/
def sameNumber : JsonNumber → JsonNumber → Bool
  | .float a, .float b => a == b || (a.isZero && b.isZero)
  | a, b => a == b

mutual

/-- Whether two values are equal; members of objects are compared in order,
as the reader leaves them sorted by key. -/
def same : Json → Json → Bool
  | .null, .null => true
  | .bool a, .bool b => a == b
  | .number a, .number b => sameNumber a b
  | .string a, .string b => a == b
  | .array a, .array b => sameItems a b
  | .object a, .object b => sameMembers a b
  | _, _ => false

/-- Whether two lists of values are equal item by item. -/
def sameItems : List Json → List Json → Bool
  | [], [] => true
  | a :: as, b :: bs => same a b && sameItems as bs
  | _, _ => false

/-- Whether two lists of members are equal member by member. -/
def sameMembers : List (String × Json) → List (String × Json) → Bool
  | [], [] => true
  | (k, a) :: as, (l, b) :: bs => k == l && same a b && sameMembers as bs
  | _, _ => false

end

example : (insertSorted "b" .null [("a", .null), ("c", .null)]).map (·.1) = ["a", "b", "c"] := by
  decide

end Json

end Courier
