import DeclDocs.Document.Basic
import DeclDocs.Json.Printer
import DeclDocs.Notice

/-! # The text of a document

Declarations are written one by one, and the text of the document is assembled
from their texts.  A declaration whose JSON would nest too deeply for the runtime is
left out with a notice, and its name is taken out of the instances, rather than spoil
the whole document.
-/
namespace DeclDocs

/-- How deeply arrays and objects may be nested in what a runtime writes at one go.  Three levels,
which are enough for a record in the plain encoding, are always within the limit. -/
structure NestingLimit where
  levels : Nat
  three_le : 3 ≤ levels

/-- The limit of a runtime that nobody has set otherwise. -/
def NestingLimit.usual : NestingLimit := ⟨1000, by decide⟩

/-- The words for nesting beyond the limit. -/
def tooDeepMessage : String := "maximum recursion depth exceeded"

namespace Document

variable {F : Type}

/-- The notice that a declaration is left out, with the reason. -/
def skipNotice (name reason : String) : Notice :=
  ⟨.warning, "Skipping declaration " ++ name ++ ": " ++ reason⟩

/-- What has been written of the declarations: their texts, and the names of
those left out. -/
structure Written where
  texts : List String := []
  dropped : List String := []

/-- The texts of the declarations that do not nest too deeply, and the names of
the others. -/
def writeDeclarations (limit : NestingLimit) (encoding : Layout.Encoding) :
    List (Declaration F) → Except F Written
  | [] => .ok {}
  | record :: rest => do
    let json ← record.toJson? encoding
    let written ← writeDeclarations limit encoding rest
    if limit.levels < json.depth then
      return { written with dropped := record.name :: written.dropped }
    else
      return { written with texts := json.render :: written.texts }

/-- The instances without the given names, and without the classes that are then empty. -/
def keepInstances (dropped : List String) (instances : Grouped String) : Grouped String :=
  (instances.map fun (name, names) => (name, names.filter fun n => !dropped.contains n)).filter
    fun (_, names) => !names.isEmpty

/-- One member of an object. -/
def memberText (member : String × Json) : String :=
  Json.stringText member.1 ++ ": " ++ member.2.render

/-- The text of a document and the notices about declarations left out of it, or
the first foreign node in the document. -/
def render? (limit : NestingLimit) (encoding : Layout.Encoding) (document : Document F) :
    Except F (String × List Notice) := do
  let written ← writeDeclarations limit encoding document.declarations
  let rest := { document with instances := keepInstances written.dropped document.instances }
  let declarations := "\"decls\": [" ++ String.intercalate ", " written.texts ++ "]"
  let text := "\x7b" ++ String.intercalate ", " (declarations :: rest.otherMembers.map memberText)
    ++ "\x7d"
  return (text, written.dropped.map (skipNotice · tooDeepMessage))

/-- The text of a document without foreign nodes, and the notices. -/
def render (limit : NestingLimit) (encoding : Layout.Encoding) (document : Document Empty) :
    String × List Notice :=
  certain (document.render? limit encoding)

end Document
end DeclDocs
