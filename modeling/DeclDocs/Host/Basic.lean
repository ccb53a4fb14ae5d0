import DeclDocs.Document.Kind
import DeclDocs.Document.Declaration
import DeclDocs.Dump.Docs
import DeclDocs.Markup.Dump
import DeclDocs.Telescope.Basic

/-! # Hosts

All that is known about declarations comes from a host, which answers queries by
declaration name and may fail to answer any of them.  A host may remember what
it found out for earlier import queries; `Memory` is the type of what it
remembers, and no other query depends on it.
-/
namespace DeclDocs

/-- Why a query, or the work that needs its answer, failed. -/
inductive Failure where
  /-- The host gave up, with a message of its own. -/
  | refused (message : String)
  | unknownDeclaration (name : String)
  | malformedMarkup (malformation : Markup.Malformation)
  | unknownKind (kind : String)
  | negativeLine (line : Int)

/-- The complaint about a kind that is none of the known ones. -/
def unknownKindMessage (kind : String) : String :=
  "Unknown declaration kind: " ++ Text.quote kind

/-- The wording of a failure. -/
def Failure.message : Failure → String
  | .refused message => message
  | .unknownDeclaration name => Text.quote ("Unknown declaration: " ++ name)
  | .malformedMarkup malformation => malformation.message
  | .unknownKind kind => unknownKindMessage kind
  | .negativeLine line => negativeLineMessage line

/-- Where a declaration stands in its source. -/
structure Position where
  filename : String
  line : Int
  deriving DecidableEq, Repr

/-- What can be asked about declarations. -/
structure Host (Memory : Type) where
  /-- The names of all declarations, in order; a name may occur more than once. -/
  declarationNames : Except Failure (List String)
  isInternal : String → Except Failure Bool
  isAutoGenerated : String → Except Failure Bool
  isMeta : String → Except Failure Bool
  /-- The host's word for the kind of a declaration. -/
  kind : String → Except Failure String
  typeOf : String → Except Failure Telescope
  position : String → Except Failure (Option Position)
  /-- Whether a declaration has an attribute. -/
  hasAttribute : String → String → Except Failure Bool
  equations : String → Except Failure (List (Markup Empty))
  isStructure : String → Except Failure Bool
  structureFields : String → Except Failure (List (String × Markup Empty))
  isInductive : String → Except Failure Bool
  constructors : String → Except Failure (List (String × Markup Empty))
  docString : String → Except Failure (Option String)
  /-- The class that a declaration is an instance of. -/
  instanceClass : String → Except Failure (Option String)
  moduleDocs : Except Failure (List ModuleDoc)
  libraryNotes : Except Failure (List (String × String))
  tacticDocs : Except Failure (List TacticDoc)
  /-- The module that declares a name. -/
  moduleOf : String → Except Failure (Option String)
  /-- Whether importing the first module makes the second available, and what is
  remembered afterwards. -/
  provides : String → String → Memory → Except Failure Bool × Memory

end DeclDocs
