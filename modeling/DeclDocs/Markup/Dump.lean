import DeclDocs.Json.Literal
import DeclDocs.Markup.Basic

/-! # Markup in a dump

A dump writes markup as JSON: a string is raw text, and every other node is an
object with a single key, one of `group`, `highlight`, `nest` and `compose`.
All but the first hold an array of two elements.  The reader finds the first
node, in left-to-right, outside-in order, that is not of this form.
-/
namespace DeclDocs
namespace Markup

/-- What is wrong with a node of markup. -/
inductive Malformation where
  | notNode (data : Json)
  | notPair (tag : String) (payload : Json)
  | indentNotInteger (indent : Json)
  | unknownTag (tag : String)

/-- The wording of a complaint about markup. -/
def Malformation.message : Malformation → String
  | .notNode data => "Expected a string or single-key object: " ++ data.literal
  | .notPair tag payload =>
    "Tag '" ++ tag ++ "' expects a 2-element array: " ++ payload.literal
  | .indentNotInteger indent => "Nest indent must be an integer: " ++ indent.literal
  | .unknownTag tag => "Unknown pretty-printer tag: " ++ Text.quote tag

/-- The complaint about a foreign node of markup. -/
def foreignMessage (node : Json) : String :=
  "Not a pretty-printer tree node: " ++ node.literal

/-- The indent that a JSON value writes. -/
def indentOfDump? : Json → Option Indent
  | .int columns => some (.width columns)
  | .bool value => some (.flag value)
  | _ => none

/-- The JSON value that writes an indent. -/
def indentToDump : Indent → Json
  | .width columns => .int columns
  | .flag value => .bool value

/-- Writes markup. -/
def toDump : Markup Empty → Json
  | .raw s => .str s
  | .group child => .obj [("group", child.toDump)]
  | .highlight color child => .obj [("highlight", .arr [.str color, child.toDump])]
  | .nest indent child => .obj [("nest", .arr [indentToDump indent, child.toDump])]
  | .join left right => .obj [("compose", .arr [left.toDump, right.toDump])]
  | .foreign absurdity => nomatch absurdity

/-- Reads markup. -/
def ofDump : Json → Except Malformation (Markup Empty)
  | .str s => .ok (.raw s)
  | .obj [("group", child)] => do
    let child ← ofDump child
    return .group child
  | .obj [("highlight", .arr [color, child])] => do
    let child ← ofDump child
    return .highlight color.label child
  | .obj [("nest", .arr [indent, child])] =>
    match indentOfDump? indent with
    | none => .error (.indentNotInteger indent)
    | some indent => do
      let child ← ofDump child
      return .nest indent child
  | .obj [("compose", .arr [left, right])] => do
    let left ← ofDump left
    let right ← ofDump right
    return .join left right
  | .obj [(tag, .arr [_, _])] => .error (.unknownTag tag)
  | .obj [(tag, payload)] => .error (.notPair tag payload)
  | data => .error (.notNode data)

/-- What has been written is read back. -/
theorem ofDump_toDump (markup : Markup Empty) : ofDump markup.toDump = .ok markup := by
  induction markup with
  | raw s => rw [toDump, ofDump]
  | group child ih => rw [toDump, ofDump, ih]; rfl
  | highlight color child ih => rw [toDump, ofDump, ih]; rfl
  | nest indent child ih => cases indent <;> (rw [toDump, ofDump, ih]; rfl)
  | join left right ihl ihr => rw [toDump, ofDump, ihl, ihr]; rfl
  | foreign absurdity => nomatch absurdity

end Markup
end DeclDocs
