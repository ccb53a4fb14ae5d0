import DeclDocs.Document.Text
import DeclDocs.Host.Basic
import DeclDocs.Telescope.Markup

/-! # Records from a host

The record of a declaration is put together from the host's answers, and every
expression in it is brought into normal form.  What goes wrong with a declaration
stays with it: it is reported in a notice, and the declaration is left out.
-/
namespace DeclDocs

/-- The attributes that a document reports, in the order in which it lists them. -/
def reportedAttributes : List String :=
  ["simp", "norm_cast", "nolint", "ext", "instance", "class", "continuity", "to_additive",
   "reassoc", "refl", "symm", "trans", "congr", "elab_as_eliminator", "inline", "irreducible"]

/-- The tag of a host's word for a kind. -/
def kindTag (word : String) : Except Failure String :=
  match Kind.ofWord? word with
  | some kind => .ok kind.tag
  | none => .error (.unknownKind word)

namespace Host

variable {Memory : Type} (host : Host Memory)

/-- Those of some attributes that a declaration has. -/
def attributesAmong (name : String) : List String → Except Failure (List String)
  | [] => .ok []
  | attr :: rest => do
    let has ← host.hasAttribute name attr
    let others ← attributesAmong name rest
    return if has then attr :: others else others

/-- The reported attributes of a declaration. -/
def attributes (name : String) : Except Failure (List String) :=
  host.attributesAmong name reportedAttributes

/-- Named markup with its expressions in normal form. -/
def normalNamed (named : List (String × Markup Empty)) : List (String × Layout Empty) :=
  named.map fun (name, markup) => (name, markup.normalLayout)

/-- The equations of a declaration whose kind has the given tag.  Propositions show none. -/
def equationLayouts (name tag : String) : Except Failure (List (Layout Empty)) :=
  if tag = Kind.proposition.tag then .ok []
  else do
    let equations ← host.equations name
    return equations.map Markup.normalLayout

/-- The fields of a declaration, if it is a structure. -/
def fieldLayouts (name : String) : Except Failure (List (String × Layout Empty)) := do
  if ← host.isStructure name then
    let fields ← host.structureFields name
    return normalNamed fields
  else return []

/-- The constructors of a declaration, if it is an inductive type other than a structure. -/
def constructorLayouts (name : String) : Except Failure (List (String × Layout Empty)) := do
  if ← host.isStructure name then return []
  else if ← host.isInductive name then
    let constructors ← host.constructors name
    return normalNamed constructors
  else return []

/-- A binder as a named argument. -/
def argLayout (binder : Binder) : Bool × Layout Empty :=
  (binder.style != .explicit, binder.markup.normalLayout)

/-- The notice that nothing is known about where a declaration stands. -/
def noPositionNotice (name : String) : Notice :=
  ⟨.debug, "No source position for " ++ name⟩

/-- What is found out about a declaration first: its kind, its type and where it
stands. -/
def outline (name : String) : Except Failure (String × Telescope × Option Position) := do
  let tag ← kindTag (← host.kind name)
  let telescope ← host.typeOf name
  let position ← host.position name
  return (tag, telescope, position)

/-- The rest of a record, after its outline. -/
def complete (name tag : String) (telescope : Telescope) (position : Option Position) :
    Except Failure (Declaration Empty) := do
  let isMeta ← host.isMeta name
  let docString ← host.docString name
  let attributes ← host.attributes name
  let equations ← host.equationLayouts name tag
  let structureFields ← host.fieldLayouts name
  let constructors ← host.constructorLayouts name
  let line := (position.map Position.line).getD 0
  match lineOf? line with
  | none => .error (.negativeLine line)
  | some line =>
    return { name, isMeta, args := telescope.named.map argLayout
             type := telescope.resultType.normalLayout, docString
             filename := (position.map Position.filename).getD "", line, attributes, equations
             kind := tag, structureFields, constructors }

/-- The record of a declaration, and the notices on the way. -/
def describe (name : String) : Except Failure (Declaration Empty) × List Notice :=
  match host.outline name with
  | .error failure => (.error failure, [])
  | .ok (tag, telescope, position) =>
    (host.complete name tag telescope position,
      if position.isNone then [noPositionNotice name] else [])

/-- Whether a declaration is none of a document's business. -/
def isHidden (name : String) : Except Failure Bool := do
  if ← host.isInternal name then return true
  else host.isAutoGenerated name

/-- The notice that a declaration is passed over. -/
def hiddenNotice (name : String) : Notice :=
  ⟨.debug, "Skipping internal declaration " ++ name⟩

/-- The record of a declaration, unless it is hidden or something fails, and the
notices on the way. -/
def record? (name : String) : Option (Declaration Empty) × List Notice :=
  match host.isHidden name with
  | .error failure => (none, [Document.skipNotice name failure.message])
  | .ok true => (none, [hiddenNotice name])
  | .ok false =>
    match host.describe name with
    | (.ok record, notices) => (some record, notices)
    | (.error failure, notices) =>
      (none, notices ++ [Document.skipNotice name failure.message])

/-- The records of some names, in order, and the notices on the way. -/
def records : List String → List (Declaration Empty) × List Notice
  | [] => ([], [])
  | name :: rest =>
    let (record, notices) := host.record? name
    let (others, more) := records rest
    (record.toList ++ others, notices ++ more)

end Host
end DeclDocs
