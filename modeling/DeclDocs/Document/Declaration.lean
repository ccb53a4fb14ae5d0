import DeclDocs.Layout.Encoding

/-! # Declaration records

What a document shows of one declaration.
-/
namespace DeclDocs

/-- The record of a declaration, whose layouts may hold foreign nodes of type `F`. -/
structure Declaration (F : Type) where
  name : String
  /-- Whether the declaration exists only inside the host. -/
  isMeta : Bool
  /-- The named arguments: whether each is implicit, and the binder. -/
  args : List (Bool × Layout F)
  /-- The type left after the named arguments. -/
  type : Layout F
  docString : Option String
  filename : String
  line : Nat
  attributes : List String
  equations : List (Layout F)
  /-- The tag of the declaration's kind. -/
  kind : String
  structureFields : List (String × Layout F) := []
  constructors : List (String × Layout F) := []
  deriving DecidableEq

/-- The line a record may have, which is not negative. -/
def lineOf? : Int → Option Nat
  | .ofNat line => some line
  | .negSucc _ => none

/-- The complaint about a negative line. -/
def negativeLineMessage (line : Int) : String :=
  "Line must be non-negative, got " ++ toString line

namespace Declaration

variable {F : Type}

/-- A named argument. -/
def argToJson? (encoding : Layout.Encoding) (arg : Bool × Layout F) : Except F Json := do
  let binder ← arg.2.toJsonIn? encoding
  return .obj [("arg", binder), ("implicit", .bool arg.1)]

/-- A named layout. -/
def namedToJson? (encoding : Layout.Encoding) (named : String × Layout F) : Except F Json := do
  let layout ← named.2.toJsonIn? encoding
  return .arr [.str named.1, layout]

/-- A record as a document writes it, or the first foreign node in its layouts. -/
def toJson? (encoding : Layout.Encoding) (record : Declaration F) : Except F Json := do
  let args ← record.args.mapM (argToJson? encoding)
  let type ← record.type.toJsonIn? encoding
  let equations ← record.equations.mapM (Layout.toJsonIn? encoding)
  let structureFields ← record.structureFields.mapM (namedToJson? encoding)
  let constructors ← record.constructors.mapM (namedToJson? encoding)
  return .obj [("name", .str record.name), ("is_meta", .bool record.isMeta), ("args", .arr args),
    ("type", type), ("doc_string", .str (record.docString.getD "")),
    ("filename", .str record.filename), ("line", .int record.line),
    ("attributes", .texts record.attributes), ("equations", .arr equations),
    ("kind", .str record.kind), ("structure_fields", .arr structureFields),
    ("constructors", .arr constructors)]

/-- A record without foreign nodes as a document writes it. -/
def toJson (encoding : Layout.Encoding) (record : Declaration Empty) : Json :=
  certain (record.toJson? encoding)

end Declaration
end DeclDocs
