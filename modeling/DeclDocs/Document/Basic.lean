import DeclDocs.Document.Declaration
import DeclDocs.Document.Grouped
import DeclDocs.Dump.Docs

/-! # Documents

Everything written in one export: the records of the declarations, the module
docs grouped by file, the notes, the tactic docs, and the instances of each class.
-/
namespace DeclDocs

/-- A document, whose layouts may hold foreign nodes of type `F`. -/
structure Document (F : Type) where
  declarations : List (Declaration F) := []
  moduleDocs : List ModuleDoc := []
  notes : List (String × String) := []
  tacticDocs : List LabeledTacticDoc := []
  /-- The instances of each class. -/
  instances : Grouped String := []
  deriving DecidableEq

namespace Document

variable {F : Type}

/-- A module doc as a document writes it, under the name of its file. -/
def moduleDocToJson (doc : ModuleDoc) : Json :=
  .obj [("line", .int doc.line), ("doc", .str doc.content)]

/-- The module docs, grouped by file. -/
def moduleDocsToJson (docs : List ModuleDoc) : Json :=
  .obj ((Grouped.of ModuleDoc.filename docs).map fun (file, docs) =>
    (file, .arr (docs.map moduleDocToJson)))

/-- The members of a document other than the declarations. -/
def otherMembers (document : Document F) : Json.Members :=
  [("mod_docs", moduleDocsToJson document.moduleDocs),
   ("notes", .arr (document.notes.map fun (label, text) => .texts [label, text])),
   ("tactic_docs", .arr (document.tacticDocs.map LabeledTacticDoc.toJson)),
   ("instances", .obj (document.instances.map fun (name, instances) => (name, .texts instances)))]

/-- A document as one JSON value, or the first foreign node in it. -/
def toJson? (encoding : Layout.Encoding) (document : Document F) : Except F Json := do
  let declarations ← document.declarations.mapM (Declaration.toJson? encoding)
  return .obj (("decls", .arr declarations) :: document.otherMembers)

/-- A document without foreign nodes as one JSON value. -/
def toJson (encoding : Layout.Encoding) (document : Document Empty) : Json :=
  certain (document.toJson? encoding)

end Document
end DeclDocs
