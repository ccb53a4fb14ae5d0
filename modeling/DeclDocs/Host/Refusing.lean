import DeclDocs.Host.Basic

/-! # Hosts that refuse

A host may be made to refuse some of its queries, all of a kind or those about
one name, with a message of its own.
-/
namespace DeclDocs

/-- The kinds of queries. -/
inductive Query where
  | declarationNames
  | isInternal
  | isAutoGenerated
  | isMeta
  | kind
  | typeOf
  | position
  | hasAttribute
  | equations
  | isStructure
  | structureFields
  | isInductive
  | constructors
  | docString
  | instanceClass
  | moduleDocs
  | libraryNotes
  | tacticDocs
  | moduleOf
  | provides
  deriving DecidableEq, Repr

/-- The refusal of a kind of query, or only of those whose first argument is `about`. -/
structure Refusal where
  query : Query
  about : Option String := none
  message : String

namespace Refusal

/-- Whether a refusal concerns a query with the given first argument, if it has one. -/
def concerns (refusal : Refusal) (query : Query) (argument : Option String) : Bool :=
  refusal.query == query && (refusal.about.isNone || refusal.about == argument)

/-- The answer to a query, unless one of the refusals concerns it. -/
def guard {α : Type} (refusals : List Refusal) (query : Query) (argument : Option String)
    (answer : Except Failure α) : Except Failure α :=
  match refusals.find? (·.concerns query argument) with
  | some refusal => .error (.refused refusal.message)
  | none => answer

end Refusal

/-- The host with some of its queries refused. -/
def Host.refusing {Memory : Type} (host : Host Memory) (refusals : List Refusal) : Host Memory :=
  let all {α : Type} (query : Query) (answer : Except Failure α) : Except Failure α :=
    Refusal.guard refusals query none answer
  let about {α : Type} (query : Query) (answer : String → Except Failure α) (name : String) :
      Except Failure α :=
    Refusal.guard refusals query (some name) (answer name)
  { declarationNames := all .declarationNames host.declarationNames
    isInternal := about .isInternal host.isInternal
    isAutoGenerated := about .isAutoGenerated host.isAutoGenerated
    isMeta := about .isMeta host.isMeta
    kind := about .kind host.kind
    typeOf := about .typeOf host.typeOf
    position := about .position host.position
    hasAttribute := fun name attr =>
      about .hasAttribute (host.hasAttribute · attr) name
    equations := about .equations host.equations
    isStructure := about .isStructure host.isStructure
    structureFields := about .structureFields host.structureFields
    isInductive := about .isInductive host.isInductive
    constructors := about .constructors host.constructors
    docString := about .docString host.docString
    instanceClass := about .instanceClass host.instanceClass
    moduleDocs := all .moduleDocs host.moduleDocs
    libraryNotes := all .libraryNotes host.libraryNotes
    tacticDocs := all .tacticDocs host.tacticDocs
    moduleOf := about .moduleOf host.moduleOf
    provides := fun base module memory =>
      match refusals.find? (·.concerns .provides (some base)) with
      | some refusal => (.error (.refused refusal.message), memory)
      | none => host.provides base module memory }

end DeclDocs
