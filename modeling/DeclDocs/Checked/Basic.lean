import DeclDocs.Json.Basic

/-! # Checked reading

A dump is read into records, and everything that is wrong with it is reported at
once.  An issue says what is wrong and where: the path of keys and indices that
leads to the offending value.  A reading that depends on several parts collects
the issues of all of them, in order.
-/
namespace DeclDocs

/-- One step on the way into a JSON value. -/
inductive Step where
  | key (name : String)
  | index (position : Nat)
  deriving DecidableEq, Repr

/-- What can be wrong with a value. -/
inductive Defect where
  | missing
  | notRecord (record : String)
  | notText
  | notList
  | notPair
  | pairTooLong (size : Nat)
  | notTable
  | notBinderStyle
  | notFlag
  | unreadableFlag
  | notInteger
  | unreadableInteger
  | fractionalInteger
  | integerTooLarge
  | notFinite
  | negative
  deriving DecidableEq, Repr

namespace Defect

/-- The short name of a kind of defect. -/
def code : Defect → String
  | .missing => "missing"
  | .notRecord _ => "model_type"
  | .notText => "string_type"
  | .notList => "list_type"
  | .notPair => "tuple_type"
  | .pairTooLong _ => "too_long"
  | .notTable => "dict_type"
  | .notBinderStyle => "enum"
  | .notFlag => "bool_type"
  | .unreadableFlag => "bool_parsing"
  | .notInteger => "int_type"
  | .unreadableInteger => "int_parsing"
  | .fractionalInteger => "int_from_float"
  | .integerTooLarge => "int_parsing_size"
  | .notFinite => "finite_number"
  | .negative => "greater_than_equal"

/-- The wording of a defect. -/
def message : Defect → String
  | .missing => "Field required"
  | .notRecord record => "Input should be a valid dictionary or instance of " ++ record
  | .notText => "Input should be a valid string"
  | .notList => "Input should be a valid list"
  | .notPair => "Input should be a valid tuple"
  | .pairTooLong size =>
    "Tuple should have at most 2 items after validation, not " ++ toString size
  | .notTable => "Input should be a valid dictionary"
  | .notBinderStyle =>
    "Input should be 'default', 'implicit', 'strict_implicit' or 'inst_implicit'"
  | .notFlag => "Input should be a valid boolean"
  | .unreadableFlag => "Input should be a valid boolean, unable to interpret input"
  | .notInteger => "Input should be a valid integer"
  | .unreadableInteger =>
    "Input should be a valid integer, unable to parse string as an integer"
  | .fractionalInteger =>
    "Input should be a valid integer, got a number with a fractional part"
  | .integerTooLarge =>
    "Unable to parse input string as an integer, exceeded maximum size"
  | .notFinite => "Input should be a finite number"
  | .negative => "Input should be greater than or equal to 0"

end Defect

/-- A defect and the path to the value that has it. -/
structure Issue where
  path : List Step
  defect : Defect
  deriving DecidableEq, Repr

/-- The outcome of a checked reading: a value, or the issues that stand in its way. -/
inductive Checked (α : Type) where
  | valid (value : α)
  | invalid (issues : List Issue)
  deriving Repr

namespace Checked

variable {α β : Type}

/-- A single defect of the value that is read. -/
def defect (what : Defect) : Checked α :=
  .invalid [⟨[], what⟩]

/-- The issues of an outcome. -/
def issues : Checked α → List Issue
  | .valid _ => []
  | .invalid issues => issues

/-- An outcome inside a part of a value: its issues are found by first taking `step`. -/
def within (step : Step) : Checked α → Checked α
  | .valid value => .valid value
  | .invalid issues => .invalid (issues.map fun issue => { issue with path := step :: issue.path })

/-- The value of an outcome turned into another one. -/
def map (f : α → β) : Checked α → Checked β
  | .valid value => .valid (f value)
  | .invalid issues => .invalid issues

/-- Both outcomes, with the issues of the first before those of the second. -/
def both (f : Checked (α → β)) (x : Checked α) : Checked β :=
  match f, x with
  | .valid f, .valid value => .valid (f value)
  | f, x => .invalid (f.issues ++ x.issues)

instance : Functor Checked := ⟨map, fun value => map fun _ => value⟩
instance : Pure Checked := ⟨.valid⟩
instance : Seq Checked := ⟨fun f x => both f (x ())⟩

/-! ## Lists and tables -/

/-- Every item of a list, the first of which stands at `position`. -/
def itemsFrom (check : Json → Checked α) (position : Nat) : List Json → Checked (List α)
  | [] => .valid []
  | item :: rest =>
    List.cons <$> (check item).within (.index position) <*> itemsFrom check (position + 1) rest

/-- A list of items. -/
def list (check : Json → Checked α) : Json → Checked (List α)
  | .arr items => itemsFrom check 0 items
  | _ => defect .notList

/-- A pair, written as a list of two. -/
def pair (first : Json → Checked α) (second : Json → Checked β) : Json → Checked (α × β)
  | .arr [] =>
    .invalid [⟨[.index 0], .missing⟩, ⟨[.index 1], .missing⟩]
  | .arr [a] =>
    .invalid (((first a).within (.index 0)).issues ++ [⟨[.index 1], .missing⟩])
  | .arr [a, b] =>
    Prod.mk <$> (first a).within (.index 0) <*> (second b).within (.index 1)
  | .arr items => defect (.pairTooLong items.length)
  | _ => defect .notPair

/-- Every value of a table. -/
def values (check : Json → Checked α) : List (String × Json) → Checked (List (String × α))
  | [] => .valid []
  | (key, value) :: rest =>
    (fun value rest => (key, value) :: rest) <$> (check value).within (.key key)
      <*> values check rest

/-- A table, written as an object. -/
def table (check : Json → Checked α) : Json → Checked (List (String × α))
  | .obj members => values check members
  | _ => defect .notTable

/-- A value that may be `null`. -/
def orNull (check : Json → Checked α) : Json → Checked (Option α)
  | .null => .valid none
  | value => some <$> check value

/-- Any value, as it is. -/
def anything (value : Json) : Checked Json :=
  .valid value

/-! ## Records -/

/-- The field `key` of a record, which must be there. -/
def required (check : Json → Checked α) (key : String) (members : Json.Members) : Checked α :=
  match members.get? key with
  | some value => (check value).within (.key key)
  | none => .invalid [⟨[.key key], .missing⟩]

/-- The field `key` of a record, or a default if it is absent. -/
def optional (check : Json → Checked α) (default : α) (key : String) (members : Json.Members) :
    Checked α :=
  match members.get? key with
  | some value => (check value).within (.key key)
  | none => .valid default

/-- A record, written as an object.  Keys that no field has are passed over. -/
def record (name : String) (fields : Json.Members → Checked α) : Json → Checked α
  | .obj members => fields members
  | _ => defect (.notRecord name)

end Checked
end DeclDocs
