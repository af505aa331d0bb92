import ProvisionGate.Binary64
import ProvisionGate.TextMap

/-!
# JSON values

A number is an integer or a finite binary number.  An object is the list of its members as they
stand in a text, which may repeat a key; `Json.sorted` is its meaning as a map, where the last
member with a key wins and the members stand in the order of their keys.
-/

namespace ProvisionGate

/-- A JSON number. -/
inductive Number where
  | int (value : Int)
  | float (value : Binary64)
  deriving DecidableEq

/-- A JSON value. -/
inductive Json where
  | null
  | bool (value : Bool)
  | number (value : Number)
  | text (value : String)
  | array (items : List Json)
  | object (members : List (String × Json))

namespace Json

instance : Inhabited Json := ⟨null⟩

/-- An integer as a value. -/
def ofInt (value : Int) : Json :=
  number (.int value)

/-- A map as an object. -/
def ofMap (m : TextMap Json) : Json :=
  object m.entries

/-- An optional value, absent as `null`. -/
def ofOption {α : Type} (toJson : α → Json) : Option α → Json
  | none => null
  | some a => toJson a

/-- The first member of an object with a key. -/
def get? (key : String) : Json → Option Json
  | object members => members.lookup key
  | _ => none

mutual

/-- The value with every object read as a map. -/
def sorted : Json → Json
  | array items => array (sortedItems items)
  | object members => ofMap (TextMap.ofPairs (sortedMembers members))
  | other => other

/-- `sorted` on the items of an array. -/
def sortedItems : List Json → List Json
  | [] => []
  | item :: rest => sorted item :: sortedItems rest

/-- `sorted` on the values of the members of an object. -/
def sortedMembers : List (String × Json) → List (String × Json)
  | [] => []
  | (key, value) :: rest => (key, sorted value) :: sortedMembers rest

end

mutual

/-- Two values are the same, member for member. -/
def same : Json → Json → Bool
  | null, null => true
  | bool a, bool b => a == b
  | number a, number b => a == b
  | text a, text b => a == b
  | array a, array b => sameItems a b
  | object a, object b => sameMembers a b
  | _, _ => false

/-- `same` on the items of two arrays. -/
def sameItems : List Json → List Json → Bool
  | [], [] => true
  | a :: as, b :: bs => same a b && sameItems as bs
  | _, _ => false

/-- `same` on the members of two objects. -/
def sameMembers : List (String × Json) → List (String × Json) → Bool
  | [], [] => true
  | (k, a) :: as, (l, b) :: bs => k == l && same a b && sameMembers as bs
  | _, _ => false

end

mutual

theorem same_iff : ∀ {a b : Json}, same a b = true ↔ a = b
  | null, b => by cases b <;> simp [same]
  | bool _, b => by cases b <;> simp [same]
  | number _, b => by cases b <;> simp [same]
  | text _, b => by cases b <;> simp [same]
  | array as, b => by
    cases b <;> simp [same]
    exact sameItems_iff
  | object as, b => by
    cases b <;> simp [same]
    exact sameMembers_iff

theorem sameItems_iff : ∀ {s t : List Json}, sameItems s t = true ↔ s = t
  | [], t => by cases t <;> simp [sameItems]
  | a :: s, t => by
    cases t with
    | nil => simp [sameItems]
    | cons b t => simp [sameItems, same_iff (a := a), sameItems_iff (s := s)]

theorem sameMembers_iff :
    ∀ {s t : List (String × Json)}, sameMembers s t = true ↔ s = t
  | [], t => by cases t <;> simp [sameMembers]
  | (k, a) :: s, t => by
    cases t with
    | nil => simp [sameMembers]
    | cons b t =>
      obtain ⟨l, b⟩ := b
      simp [sameMembers, same_iff (a := a), sameMembers_iff (s := s), and_assoc]

end

instance : DecidableEq Json := fun a b =>
  decidable_of_iff (same a b = true) same_iff

end Json

end ProvisionGate
