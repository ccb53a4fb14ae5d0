/-! # Grouping in order

Values grouped under text keys.  The keys stand in order of their first
appearance, and the values under a key in the order in which they were added.
-/
namespace DeclDocs

/-- Values grouped under keys. -/
abbrev Grouped (α : Type) := List (String × List α)

namespace Grouped

variable {α : Type}

/-- Adds a value at the end of the group of its key. -/
def add : Grouped α → String → α → Grouped α
  | [], key, value => [(key, [value])]
  | (k, values) :: rest, key, value =>
    if k = key then (k, values ++ [value]) :: rest else (k, values) :: add rest key value

/-- The groups of some values under the keys that `key` gives them. -/
def of (key : α → String) (values : List α) : Grouped α :=
  values.foldl (fun groups value => groups.add (key value) value) []

/-- The values under a key. -/
def get (groups : Grouped α) (key : String) : List α :=
  ((groups.find? (·.1 == key)).map (·.2)).getD []

end Grouped
end DeclDocs
