import DeclDocs.Workspace.Path

/-! # Settings

Where the dump is read from and where a document is written to, unless the
command line says otherwise.  Both can be set by environment variables.
-/
namespace DeclDocs

/-- The two paths a command works with. -/
structure Settings where
  dump : Path
  output : Path
  deriving DecidableEq, Repr

namespace Settings

/-- The variable that holds the path of the dump. -/
def dumpVariable : String := "LEAN_DOC_EXPORT_ENVIRONMENT"

/-- The variable that holds the path of the document. -/
def outputVariable : String := "LEAN_DOC_EXPORT_OUTPUT_FILE"

/-- The settings under some values of the variables. -/
def ofVariables (dump output : Option String) : Settings :=
  ⟨.ofString (dump.getD "environment.json"), .ofString (output.getD "json_export.txt")⟩

end Settings
end DeclDocs
