import DeclDocs.Export.Instances
import DeclDocs.Export.Record
import DeclDocs.Export.Tactics

/-! # The document of a host

The names of the declarations are asked for once, every declaration is described
in order, and the rest of the document is collected after that.  A declaration
that fails is left out; only when the names, the docs, the notes or the import
graph cannot be had is there no document.
-/
namespace DeclDocs

/-- Why there is no document. -/
inductive ExportFailure where
  /-- The declarations could not be enumerated. -/
  | noNames (failure : Failure)
  /-- A query about something other than a single declaration failed. -/
  | query (failure : Failure)

/-- The wording of why there is no document. -/
def ExportFailure.message : ExportFailure → String
  | .noNames failure => "Could not enumerate declarations: " ++ failure.message
  | .query failure => failure.message

namespace Host

variable {Memory : Type} (host : Host Memory)

/-- The notice before the declarations are described. -/
def foundNotice (found : Nat) : Notice :=
  ⟨.info, "Found " ++ toString found ++ " declarations"⟩

/-- The notice after the declarations have been described. -/
def exportedNotice (found exported : Nat) : Notice :=
  ⟨.info, "Exported " ++ toString exported ++ " declarations (skipped " ++
    toString (found - exported) ++ ")"⟩

/-- The document of everything the host knows, and the notices on the way. -/
def document (memory : Memory) : Except ExportFailure (Document Empty × List Notice) := do
  let names ← host.declarationNames.mapError .noNames
  let (declarations, notices) := host.records names
  let moduleDocs ← host.moduleDocs.mapError .query
  let notes ← host.libraryNotes.mapError .query
  let labeled := host.labeledTacticDocs memory
  let tacticDocs ← labeled.answer.mapError .query
  let (instances, complaints) := host.instances declarations
  return ({ declarations, moduleDocs, notes, tacticDocs, instances },
    foundNotice names.length :: notices ++
      exportedNotice names.length declarations.length :: (labeled.notices ++ complaints))

end Host
end DeclDocs
