import DeclDocs.Host.Basic
import DeclDocs.Imports.Closure

/-! # The host of a dump

A dump answers every query from what it lists.  Of several declarations with one
name the last one counts.  Markup is read when a declaration is asked about, so
that a malformed expression only affects the declaration that carries it.
-/
namespace DeclDocs
namespace Dump

/-- The declaration of a name: the last one listed. -/
def find? (dump : Dump) (name : String) : Option Entry :=
  dump.declarations.reverse.find? (·.name == name)

/-- The declaration of a name, which must be listed. -/
def get (dump : Dump) (name : String) : Except Failure Entry :=
  match dump.find? name with
  | some entry => .ok entry
  | none => .error (.unknownDeclaration name)

end Dump

/-- Reads markup for a query. -/
def readMarkup (data : Json) : Except Failure (Markup Empty) :=
  (Markup.ofDump data).mapError .malformedMarkup

/-- Reads named markup for a query. -/
def readNamed (named : List (String × Json)) : Except Failure (List (String × Markup Empty)) :=
  named.mapM fun (name, data) => do
    let markup ← readMarkup data
    return (name, markup)

/-- Reads the type of a binder. -/
def BinderEntry.read (entry : BinderEntry) : Except Failure Binder := do
  let type ← readMarkup entry.type
  return ⟨entry.name, entry.style, type, entry.dependent⟩

namespace Entry

/-- Reads the type of a declaration: its binders from left to right, then the body. -/
def telescope (entry : Entry) : Except Failure Telescope := do
  let binders ← entry.binders.mapM BinderEntry.read
  let body ← readMarkup entry.type
  return ⟨binders, body⟩

/-- Where a declaration stands, if both its file and its line are known. -/
def position (entry : Entry) : Option Position := do
  return ⟨← entry.filename, ← entry.line⟩

end Entry

/-- The parts of a name, which dots separate. -/
def nameParts : List Char → List (List Char)
  | [] => [[]]
  | c :: rest =>
    match nameParts rest with
    | [] => [[c]]
    | part :: parts => if c = '.' then [] :: part :: parts else (c :: part) :: parts

/-- Whether a name is internal by its form: one of its parts begins with an
underscore. -/
def hasInternalPart (name : String) : Bool :=
  (nameParts name.toList).any fun part => part.head? == some '_'

/-- The host of a dump.  It remembers the closures of modules asked about. -/
def Dump.host (dump : Dump) : Host Imports.Memory where
  declarationNames := .ok (dump.declarations.map Entry.name)
  isInternal name := do
    let entry ← dump.get name
    return entry.internal || hasInternalPart name
  isAutoGenerated name := do return (← dump.get name).autoGenerated
  isMeta name := do return (← dump.get name).isMeta
  kind name := do return (← dump.get name).kind
  typeOf name := do (← dump.get name).telescope
  position name := do return (← dump.get name).position
  hasAttribute name attr := do return (← dump.get name).attributes.contains attr
  equations name := do (← dump.get name).equations.mapM readMarkup
  isStructure name := do return (← dump.get name).isStructure
  structureFields name := do readNamed (← dump.get name).structureFields
  isInductive name := do return (← dump.get name).isInductive
  constructors name := do readNamed (← dump.get name).constructors
  docString name := do return (← dump.get name).docString
  instanceClass name := do return (← dump.get name).instanceClass
  moduleDocs := .ok dump.moduleDocs
  libraryNotes := .ok dump.notes
  tacticDocs := .ok dump.tacticDocs
  moduleOf name := .ok ((dump.find? name).bind Entry.module)
  provides base module memory :=
    let (answer, memory) := dump.imports.provides base module memory
    (.ok answer, memory)

end DeclDocs
