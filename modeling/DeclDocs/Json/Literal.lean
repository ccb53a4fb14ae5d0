import DeclDocs.Decimal.Shortest
import DeclDocs.Json.Basic
import DeclDocs.Text.Literal

/-! # Values inside complaints

A complaint about a JSON value shows the value on one line: texts quoted, the
three constants capitalized, containers with a comma and a space between their
items.
-/
namespace DeclDocs
namespace Json

mutual

/-- The text of a value inside a complaint. -/
def literal : Json → String
  | .null => "None"
  | .bool true => "True"
  | .bool false => "False"
  | .int value => toString value
  | .float value => Decimal.Style.document.text value
  | .str text => Text.quote text
  | .arr items => "[" ++ itemLiterals "" items ++ "]"
  | .obj members => "\x7b" ++ memberLiterals "" members ++ "\x7d"

/-- The items of an array, each after the separator that the one before it asks for. -/
def itemLiterals (separator : String) : List Json → String
  | [] => ""
  | item :: rest => separator ++ literal item ++ itemLiterals ", " rest

/-- The members of an object, each after the separator that the one before it asks for. -/
def memberLiterals (separator : String) : List (String × Json) → String
  | [] => ""
  | (key, value) :: rest =>
    separator ++ Text.quote key ++ ": " ++ literal value ++ memberLiterals ", " rest

end

/-- The text of a value that is used as a label: a text stands for itself. -/
def label : Json → String
  | .str text => text
  | value => value.literal

end Json
end DeclDocs
