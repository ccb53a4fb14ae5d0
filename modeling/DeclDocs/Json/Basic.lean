import DeclDocs.Decimal.Binary64

/-! # JSON values

Dumps and documents are JSON.  Integers and numbers with a point or an exponent
are kept apart, and the members of an object keep their order, because both
show in what is written.
-/
namespace DeclDocs

/-- A JSON value.  `float` holds the numbers written with a point or an exponent
and the three literals that no other number format has. -/
inductive Json where
  | null
  | bool (value : Bool)
  | int (value : Int)
  | float (value : Decimal.Binary64)
  | str (text : String)
  | arr (items : List Json)
  | obj (members : List (String × Json))
  deriving Inhabited, BEq, Repr

namespace Json

/-- The members of an object, in order. -/
abbrev Members := List (String × Json)

/-- The value under `key`. -/
def Members.get? (members : Members) (key : String) : Option Json :=
  (members.find? (·.1 == key)).map (·.2)

/-- Sets the value under `key`: in its old place if the key is there, and at the
end otherwise. -/
def Members.put : Members → String → Json → Members
  | [], key, value => [(key, value)]
  | (k, v) :: rest, key, value =>
    if k = key then (key, value) :: rest else (k, v) :: put rest key value

/-- The members after setting each pair in turn, so that of a repeated key the
last value counts and stands in the first place. -/
def Members.ofPairs (pairs : List (String × Json)) : Members :=
  pairs.foldl (fun members pair => members.put pair.1 pair.2) []

mutual

/-- How deeply arrays and objects are nested; scalars have depth zero. -/
def depth : Json → Nat
  | .arr items => itemsDepth items + 1
  | .obj members => membersDepth members + 1
  | _ => 0

/-- The greatest depth of an item. -/
def itemsDepth : List Json → Nat
  | [] => 0
  | item :: rest => max (depth item) (itemsDepth rest)

/-- The greatest depth of a member's value. -/
def membersDepth : List (String × Json) → Nat
  | [] => 0
  | (_, value) :: rest => max (depth value) (membersDepth rest)

end

/-- The array of some texts. -/
def texts (items : List String) : Json :=
  .arr (items.map .str)

/-- A text, or `null` if there is none. -/
def text? : Option String → Json
  | none => .null
  | some text => .str text

theorem Members.get?_cons (k : String) (v : Json) (rest : Members) (key : String) :
    Members.get? ((k, v) :: rest) key = if k = key then some v else Members.get? rest key := by
  by_cases h : k = key
  · simp [Members.get?, h]
  · have h' : (k == key) = false := by simpa using h
    simp [Members.get?, List.find?, h, h']

end Json
end DeclDocs
