import DeclDocs.Checked.Scalars

/-! # Documentation entries

Free-standing documentation in a dump: comments in source files and entries for
tactics, commands and attributes.  Both are copied to the document, an entry
with a label for where it becomes available.
-/
namespace DeclDocs

/-- A free-standing documentation comment in a source file. -/
structure ModuleDoc where
  filename : String
  line : Nat
  content : String
  deriving DecidableEq, Repr

namespace ModuleDoc

/-- The fields of a comment. -/
def fields (members : Json.Members) : Checked ModuleDoc :=
  mk <$> Checked.required Checked.text "filename" members
    <*> Checked.required Checked.natural "line" members
    <*> Checked.required Checked.text "content" members

/-- Reads a comment. -/
def check : Json → Checked ModuleDoc :=
  Checked.record "ModuleDocInfo" fields

/-- A comment as a dump writes it. -/
def toDump (doc : ModuleDoc) : Json :=
  .obj [("filename", .str doc.filename), ("line", .int doc.line), ("content", .str doc.content)]

end ModuleDoc

/-- A documentation entry for a tactic, command or attribute. -/
structure TacticDoc where
  name : String
  category : String
  declNames : List String := []
  tags : List String := []
  description : String := ""
  deriving DecidableEq, Repr

namespace TacticDoc

/-- The fields of an entry. -/
def fields (members : Json.Members) : Checked TacticDoc :=
  mk <$> Checked.required Checked.text "name" members
    <*> Checked.required Checked.text "category" members
    <*> Checked.optional (Checked.list Checked.text) [] "decl_names" members
    <*> Checked.optional (Checked.list Checked.text) [] "tags" members
    <*> Checked.optional Checked.text "" "description" members

/-- Reads an entry. -/
def check : Json → Checked TacticDoc :=
  Checked.record "TacticDocEntry" fields

/-- The members that write an entry. -/
def members (doc : TacticDoc) : Json.Members :=
  [("name", .str doc.name), ("category", .str doc.category),
   ("decl_names", .texts doc.declNames), ("tags", .texts doc.tags),
   ("description", .str doc.description)]

/-- An entry as a dump writes it. -/
def toDump (doc : TacticDoc) : Json :=
  .obj doc.members

end TacticDoc

/-- A documentation entry with the label of what makes it available, which is
empty when that is unknown. -/
structure LabeledTacticDoc extends TacticDoc where
  imported : String := ""
  deriving DecidableEq, Repr

namespace LabeledTacticDoc

/-- The fields of a labeled entry. -/
def fields (members : Json.Members) : Checked LabeledTacticDoc :=
  mk <$> TacticDoc.fields members <*> Checked.optional Checked.text "" "imported" members

/-- Reads a labeled entry. -/
def check : Json → Checked LabeledTacticDoc :=
  Checked.record "ExtTacticDocEntry" fields

/-- A labeled entry as a dump writes it. -/
def toDump (doc : LabeledTacticDoc) : Json :=
  .obj (doc.members ++ [("imported", .str doc.imported)])

/-- A labeled entry as a document writes it. -/
def toJson (doc : LabeledTacticDoc) : Json :=
  .obj (doc.members ++ [("import", .str doc.imported)])

end LabeledTacticDoc
end DeclDocs
