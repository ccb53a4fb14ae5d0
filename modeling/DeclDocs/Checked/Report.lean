import DeclDocs.Checked.Basic
import DeclDocs.Json.Literal
import DeclDocs.Text.Abridged

/-! # Reports of issues

A report says how many issues a value has and gives for each of them the path to
it, what is wrong there, and the value that stands there.  Where something is
missing, that is the value that it is missing from: the last one that the path
still leads to.
-/
namespace DeclDocs

/-- The last value on a path that leads to a value or out of it. -/
def Json.reached : Json → List Step → Json
  | value, [] => value
  | .obj members, .key name :: rest =>
    match Json.Members.get? members name with
    | some value => value.reached rest
    | none => .obj members
  | .arr items, .index position :: rest =>
    match items[position]? with
    | some value => value.reached rest
    | none => .arr items
  | value, _ => value

/-- The word for the kind of a value. -/
def Json.kindWord : Json → String
  | .null => "NoneType"
  | .bool _ => "bool"
  | .int _ => "int"
  | .float _ => "float"
  | .str _ => "str"
  | .arr _ => "list"
  | .obj _ => "dict"

/-- One step of a path.  A key with a full stop in it is quoted, because full stops
separate the steps. -/
def Step.text : Step → String
  | .key name =>
    if name.toList.contains '.' then "\x60" ++ name ++ "\x60" else name
  | .index position => toString position

/-- The lines about one issue of a value. -/
def Issue.lines (whole : Json) (issue : Issue) : List String :=
  let value := whole.reached issue.path
  let place := String.intercalate "." (issue.path.map Step.text)
  let details := "  " ++ issue.defect.message ++ " [type=" ++ issue.defect.code ++
    ", input_value=" ++ Text.abridged value.literal ++ ", input_type=" ++ value.kindWord ++ "]"
  if issue.path.isEmpty then [details] else [place, details]

/-- The report of the issues of a value that was read as a record. -/
def Checked.report (record : String) (whole : Json) (issues : List Issue) : String :=
  let count := toString issues.length ++
    (if issues.length = 1 then " validation error for " else " validation errors for ")
  String.intercalate "\n" ((count ++ record) :: issues.flatMap (Issue.lines whole))

end DeclDocs
