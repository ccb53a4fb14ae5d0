import DeclDocs.Dump.Docs
import DeclDocs.Telescope.Basic

/-! # Environment dumps

A dump lists every declaration of the host's environment, with its documentation
and the import graph of its modules.  Marked-up expressions are kept as they were
written, so that a malformed one spoils only the declaration that carries it.
-/
namespace DeclDocs

/-- A binder as a dump lists it. -/
structure BinderEntry where
  name : String := ""
  style : BinderStyle := .explicit
  type : Json
  dependent : Bool := false

namespace BinderEntry

/-- The style of a binder. -/
def checkStyle (value : Json) : Checked BinderStyle :=
  match BinderStyle.ofJson? value with
  | some style => .valid style
  | none => Checked.defect .notBinderStyle

/-- The fields of a binder. -/
def fields (members : Json.Members) : Checked BinderEntry :=
  mk <$> Checked.optional Checked.text "" "name" members
    <*> Checked.optional checkStyle .explicit "info" members
    <*> Checked.required Checked.anything "type" members
    <*> Checked.optional Checked.flag false "dependent" members

/-- Reads a binder. -/
def check : Json → Checked BinderEntry :=
  Checked.record "BinderDump" fields

/-- A binder as a dump writes it. -/
def toDump (binder : BinderEntry) : Json :=
  .obj [("name", .str binder.name), ("info", .str binder.style.word), ("type", binder.type),
    ("dependent", .bool binder.dependent)]

end BinderEntry

/-- A declaration as a dump lists it. -/
structure Entry where
  name : String
  kind : String
  module : Option String := none
  isMeta : Bool := false
  internal : Bool := false
  autoGenerated : Bool := false
  binders : List BinderEntry := []
  type : Json
  filename : Option String := none
  line : Option Int := none
  docString : Option String := none
  attributes : List String := []
  equations : List Json := []
  isStructure : Bool := false
  structureFields : List (String × Json) := []
  isInductive : Bool := false
  constructors : List (String × Json) := []
  instanceClass : Option String := none

namespace Entry

/-- Named expressions: a list of pairs of a name and markup. -/
def checkNamed : Json → Checked (List (String × Json)) :=
  Checked.list (Checked.pair Checked.text Checked.anything)

/-- The fields of a declaration. -/
def fields (members : Json.Members) : Checked Entry :=
  mk <$> Checked.required Checked.text "name" members
    <*> Checked.required Checked.text "kind" members
    <*> Checked.optional (Checked.orNull Checked.text) none "module" members
    <*> Checked.optional Checked.flag false "is_meta" members
    <*> Checked.optional Checked.flag false "internal" members
    <*> Checked.optional Checked.flag false "auto_generated" members
    <*> Checked.optional (Checked.list BinderEntry.check) [] "binders" members
    <*> Checked.required Checked.anything "type" members
    <*> Checked.optional (Checked.orNull Checked.text) none "filename" members
    <*> Checked.optional (Checked.orNull Checked.integer) none "line" members
    <*> Checked.optional (Checked.orNull Checked.text) none "doc_string" members
    <*> Checked.optional (Checked.list Checked.text) [] "attributes" members
    <*> Checked.optional (Checked.list Checked.anything) [] "equations" members
    <*> Checked.optional Checked.flag false "is_structure" members
    <*> Checked.optional checkNamed [] "structure_fields" members
    <*> Checked.optional Checked.flag false "is_inductive" members
    <*> Checked.optional checkNamed [] "constructors" members
    <*> Checked.optional (Checked.orNull Checked.text) none "instance_class" members

/-- Reads a declaration. -/
def check : Json → Checked Entry :=
  Checked.record "DeclarationDump" fields

/-- Named expressions as a dump writes them. -/
def namedToDump (named : List (String × Json)) : Json :=
  .arr (named.map fun (name, markup) => .arr [.str name, markup])

/-- A declaration as a dump writes it. -/
def toDump (entry : Entry) : Json :=
  .obj [("name", .str entry.name), ("kind", .str entry.kind), ("module", .text? entry.module),
    ("is_meta", .bool entry.isMeta), ("internal", .bool entry.internal),
    ("auto_generated", .bool entry.autoGenerated),
    ("binders", .arr (entry.binders.map BinderEntry.toDump)), ("type", entry.type),
    ("filename", .text? entry.filename), ("line", (entry.line.map Json.int).getD .null),
    ("doc_string", .text? entry.docString), ("attributes", .texts entry.attributes),
    ("equations", .arr entry.equations), ("is_structure", .bool entry.isStructure),
    ("structure_fields", namedToDump entry.structureFields),
    ("is_inductive", .bool entry.isInductive), ("constructors", namedToDump entry.constructors),
    ("instance_class", .text? entry.instanceClass)]

end Entry

/-- The direct imports of each module. -/
abbrev Imports := List (String × List String)

/-- An environment dump. -/
structure Dump where
  declarations : List Entry := []
  moduleDocs : List ModuleDoc := []
  notes : List (String × String) := []
  tacticDocs : List TacticDoc := []
  imports : Imports := []

namespace Dump

/-- The fields of a dump. -/
def fields (members : Json.Members) : Checked Dump :=
  mk <$> Checked.optional (Checked.list Entry.check) [] "declarations" members
    <*> Checked.optional (Checked.list ModuleDoc.check) [] "module_docs" members
    <*> Checked.optional (Checked.list (Checked.pair Checked.text Checked.text)) [] "notes" members
    <*> Checked.optional (Checked.list TacticDoc.check) [] "tactic_docs" members
    <*> Checked.optional (Checked.table (Checked.list Checked.text)) [] "imports" members

/-- The name of a dump as a record. -/
def recordName : String := "EnvironmentDump"

/-- Reads a dump. -/
def check : Json → Checked Dump :=
  Checked.record recordName fields

/-- A dump as it is written. -/
def toDump (dump : Dump) : Json :=
  .obj [("declarations", .arr (dump.declarations.map Entry.toDump)),
    ("module_docs", .arr (dump.moduleDocs.map ModuleDoc.toDump)),
    ("notes", .arr (dump.notes.map fun (label, text) => .texts [label, text])),
    ("tactic_docs", .arr (dump.tacticDocs.map TacticDoc.toDump)),
    ("imports", .obj (dump.imports.map fun (module, imported) => (module, .texts imported)))]

end Dump
end DeclDocs
