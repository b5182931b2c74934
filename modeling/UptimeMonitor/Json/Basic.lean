/-!
# JSON values

- `Number`: an integer kept exactly, or a double.
- `Json`: JSON values; the members of an object keep their order.
- `Json.get?`, `Json.item?`: the member with a key, the item at a position.
- `Json.same`: equality of values, where the order of members does not count.
- `Members.insert`: adding a member, which keeps the place of an earlier one with the same key.
-/

namespace UptimeMonitor

/-- A JSON number: an integer, or a double when it was written with a fraction or an exponent or
does not fit 64 bits. -/
inductive Number where
  | int (n : Int)
  | float (x : Float)
deriving DecidableEq, Repr, Inhabited

/-- A JSON value. -/
inductive Json where
  | null
  | bool (b : Bool)
  | number (n : Number)
  | string (s : String)
  | array (items : List Json)
  | object (members : List (String × Json))
deriving Repr, Inhabited

/-- The members of an object, in order. -/
abbrev Members := List (String × Json)

namespace Number

/-- The number as a double. -/
def toFloat : Number → Float
  | int n => Float.ofInt n
  | float x => x

/-- Equal integers, or doubles that compare equal; an integer is never equal to a double. -/
def same : Number → Number → Bool
  | int a, int b => a == b
  | float a, float b => a == b
  | _, _ => false

/-- The integer fits an unsigned or a signed word of 64 bits. -/
def IsWord : Number → Prop
  | int n => -0x8000000000000000 ≤ n ∧ n < 0x10000000000000000
  | float _ => False

instance : DecidablePred IsWord
  | int n => inferInstanceAs (Decidable (-0x8000000000000000 ≤ n ∧ n < 0x10000000000000000))
  | float _ => inferInstanceAs (Decidable False)

end Number

namespace Members

/-- The value of the first member with this key. -/
def get? (ms : List (String × α)) (key : String) : Option α :=
  ms.findSome? fun m => if m.1 = key then some m.2 else none

/-- The members with one more: a member with the same key gives up its value and keeps its
place. -/
def insert (ms : List (String × α)) (key : String) (value : α) : List (String × α) :=
  match ms with
  | [] => [(key, value)]
  | m :: rest => if m.1 = key then (key, value) :: rest else m :: insert rest key value

/-- Members put in one after the other. -/
def ofList (ms : List (String × α)) : List (String × α) :=
  ms.foldl (fun acc m => insert acc m.1 m.2) []

@[simp] theorem get?_nil (key : String) : get? ([] : List (String × α)) key = none := rfl

theorem get?_cons (m : String × α) (ms : List (String × α)) (key : String) :
    get? (m :: ms) key = if m.1 = key then some m.2 else get? ms key := by
  simp only [get?, List.findSome?_cons]
  split <;> simp_all

@[simp] theorem get?_insert_self (ms : List (String × α)) (key : String) (value : α) :
    get? (insert ms key value) key = some value := by
  induction ms with
  | nil => simp [insert, get?_cons]
  | cons m ms ih => by_cases h : m.1 = key <;> simp [insert, get?_cons, h, ih]

theorem get?_insert_of_ne (ms : List (String × α)) {key other : String} (value : α)
    (h : other ≠ key) : get? (insert ms key value) other = get? ms other := by
  induction ms with
  | nil => simp [insert, get?_cons, Ne.symm h]
  | cons m ms ih =>
    by_cases hm : m.1 = key
    · simp [insert, get?_cons, hm, Ne.symm h]
    · simp [insert, get?_cons, hm, ih]

theorem get?_insert (ms : List (String × α)) (key other : String) (value : α) :
    get? (insert ms key value) other = if other = key then some value else get? ms other := by
  by_cases h : other = key
  · subst h; simp
  · simp [h, get?_insert_of_ne]

end Members

namespace Json

instance : Coe String Json := ⟨string⟩

/-- The member with a key, of an object. -/
def get? : Json → String → Option Json
  | object ms, key => Members.get? ms key
  | _, _ => none

/-- The item at a position, of an array. -/
def item? : Json → Nat → Option Json
  | array xs, i => xs[i]?
  | _, _ => none

/-- The text, of a string. -/
def asString? : Json → Option String
  | string s => some s
  | _ => none

/-- The items, of an array. -/
def asArray? : Json → Option (List Json)
  | array xs => some xs
  | _ => none

/-- The members, of an object. -/
def asObject? : Json → Option Members
  | object ms => some ms
  | _ => none

/-- The value is an object. -/
def isObject : Json → Bool
  | object _ => true
  | _ => false

/-- A natural number as a value. -/
def ofNat (n : Nat) : Json := number (.int n)

/-- An integer as a value. -/
def ofInt (n : Int) : Json := number (.int n)

/-- A value that may be absent, with null in its place. -/
def ofOption (f : α → Json) : Option α → Json
  | some a => f a
  | none => null

mutual

/-- The two values are equal: numbers by kind and value, objects without regard to the order of
their members. -/
def same : Json → Json → Bool
  | null, null => true
  | bool a, bool b => a == b
  | number a, number b => a.same b
  | string a, string b => a == b
  | array xs, array ys => sameItems xs ys
  | object ms, object ns => ms.length == ns.length && sameMembers ms ns
  | _, _ => false

/-- The items are equal one by one. -/
def sameItems : List Json → List Json → Bool
  | [], [] => true
  | x :: xs, y :: ys => same x y && sameItems xs ys
  | _, _ => false

/-- Every member has an equal one with its key on the other side. -/
def sameMembers : Members → Members → Bool
  | [], _ => true
  | (k, x) :: ms, ns =>
    (match Members.get? ns k with
      | some y => same x y
      | none => false) && sameMembers ms ns

end

end Json

end UptimeMonitor
