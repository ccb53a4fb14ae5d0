import DeclDocs.Proofs.Document.ReadBack

/-! # The two encodings of a document

A document holds its layouts as arrays or as plain text.  The arrays lose nothing: what
is written for a layout reads back as that layout, and nothing else does
(`Layout.ofJson_eq_iff`).  The plain text can be read off the arrays as well: it is all
their texts in order but for the tags (`Layout.join_untaggedTexts_toJson`).  A tag is told
from a text by its place, not by how it is spelled, so that a layout may well have the
texts `n` and `c`.

Hence the plain encoding of a document is its array encoding with a text in the place of
each layout (`Declaration.toJson_plain`, `Document.toJson_plain`).  What is replaced, and
where, is a function on JSON values that leaves everything else as it is
(`Declaration.plainly`, `Document.plainly`).
-/
namespace DeclDocs

namespace Json

/-! ## Reading texts off arrays -/

mutual

/-- The texts of a value in order, without the tags that stand first in its arrays. -/
def untaggedTexts : Json → List String
  | .str s => [s]
  | .arr (_ :: parts) => untaggedTextsOfParts parts
  | _ => []

/-- The texts of the parts that follow the tag of an array. -/
def untaggedTextsOfParts : List Json → List String
  | [] => []
  | part :: rest => untaggedTexts part ++ untaggedTextsOfParts rest

end

/-- The texts of a value, without tags, as one text. -/
def flattened (value : Json) : Json :=
  .str (String.join value.untaggedTexts)

/-! ## Changing parts of a value -/

/-- Changes every item of an array. -/
def mapItems (f : Json → Json) : Json → Json
  | .arr items => .arr (items.map f)
  | other => other

/-- Changes the second of two items. -/
def mapSecond (f : Json → Json) : Json → Json
  | .arr [first, second] => .arr [first, f second]
  | other => other

/-- Changes what an object has under a key. -/
def mapMember (key : String) (f : Json → Json) : Json → Json
  | .obj members => .obj (members.map fun member =>
      if member.1 = key then (member.1, f member.2) else member)
  | other => other

end Json

namespace Layout

variable {F : Type}

/-- The layout itself, if none of its nodes is foreign. -/
def withoutForeign? : Layout F → Option (Layout Empty)
  | .leaf s => some (.leaf s)
  | .nest child => child.withoutForeign?.map .nest
  | .join left right => do
    let left ← left.withoutForeign?
    let right ← right.withoutForeign?
    return .join left right
  | .foreign _ => none

/-! ## Arrays -/

theorem toJson_leaf (s : String) : toJson (.leaf s) = .str s := by
  rw [toJson, toJson?_eq, encode, certain_ok]

theorem toJson_nest (child : Layout Empty) : toJson (.nest child) = nestArray child.toJson := by
  rw [toJson, toJson?_eq, encode, certain_bind, certain_pure, ← toJson?_eq, ← toJson]

theorem toJson_join (left right : Layout Empty) :
    toJson (.join left right) = joinArray left.toJson right.toJson := by
  rw [toJson, toJson?_eq, encode_join, ← toJson?_eq, ← toJson?_eq, ← toJson, ← toJson]

/-- What is written as arrays reads back. -/
theorem ofJson_toJson (layout : Layout Empty) :
    (ofJson layout.toJson).withoutForeign? = some layout := by
  induction layout with
  | leaf s => rw [toJson_leaf, ofJson, withoutForeign?]
  | nest child ih => rw [toJson_nest, nestArray, ofJson, withoutForeign?, ih, Option.map_some]
  | join left right ihl ihr =>
    rw [toJson_join, joinArray, ofJson, withoutForeign?, ihl, ihr]
    rfl
  | foreign node => exact node.elim

/-- What reads as a layout is what is written for it. -/
theorem eq_toJson_of_ofJson {value : Json} {layout : Layout Empty}
    (h : (ofJson value).withoutForeign? = some layout) : value = layout.toJson := by
  fun_induction ofJson value generalizing layout with
  | case1 s =>
    obtain rfl := Option.some.inj h
    rw [toJson_leaf]
  | case2 value ih =>
    obtain ⟨child, hchild, rfl⟩ := Option.map_eq_some_iff.mp h
    rw [toJson_nest, nestArray, ih hchild]
  | case3 first second ihl ihr =>
    obtain ⟨left, hleft, h⟩ := Option.bind_eq_some_iff.mp h
    obtain ⟨right, hright, h⟩ := Option.bind_eq_some_iff.mp h
    obtain rfl := Option.some.inj h
    rw [toJson_join, joinArray, ihl hleft, ihr hright]
  | case4 value => exact absurd h (by simp [withoutForeign?])

theorem ofJson_eq_iff {value : Json} {layout : Layout Empty} :
    (ofJson value).withoutForeign? = some layout ↔ value = layout.toJson := by
  constructor
  · exact eq_toJson_of_ofJson
  · rintro rfl
    exact ofJson_toJson layout

theorem toJson_injective : Function.Injective toJson := by
  intro layout other h
  have hread := ofJson_toJson layout
  rw [h, ofJson_toJson other] at hread
  exact (Option.some.inj hread).symm

/-- The texts of the arrays, without the tags, are the text of the layout. -/
theorem join_untaggedTexts_toJson (layout : Layout Empty) :
    String.join layout.toJson.untaggedTexts = layout.text := by
  induction layout with
  | leaf s => rw [toJson_leaf, Json.untaggedTexts, String.join_cons, String.join_nil,
      String.append_empty, text_leaf]
  | nest child ih =>
    rw [toJson_nest, nestArray, Json.untaggedTexts, Json.untaggedTextsOfParts,
      Json.untaggedTextsOfParts, List.append_nil, ih, text_nest]
  | join left right ihl ihr =>
    rw [toJson_join, joinArray, Json.untaggedTexts, Json.untaggedTextsOfParts,
      Json.untaggedTextsOfParts, Json.untaggedTextsOfParts, List.append_nil, String.join_append,
      ihl, ihr, text_join]
  | foreign node => exact node.elim

theorem toJsonIn_plain_eq (layout : Layout Empty) :
    layout.toJsonIn .plain = (layout.toJsonIn .arrays).flattened := by
  have harrays : layout.toJsonIn .arrays = layout.toJson := rfl
  rw [toJsonIn_plain, harrays, Json.flattened, join_untaggedTexts_toJson]

end Layout

namespace Declaration

/-- The record of a declaration with the text of each layout in its place. -/
def plainly (record : Json) : Json :=
  record
    |>.mapMember "args" (.mapItems (.mapMember "arg" .flattened))
    |>.mapMember "type" .flattened
    |>.mapMember "equations" (.mapItems .flattened)
    |>.mapMember "structure_fields" (.mapItems (.mapSecond .flattened))
    |>.mapMember "constructors" (.mapItems (.mapSecond .flattened))

theorem toJson_plain (record : Declaration Empty) :
    record.toJson .plain = plainly (record.toJson .arrays) := by
  simp [toJson_eq, plainly, Json.mapMember, Json.mapItems, Json.mapSecond,
    Layout.toJsonIn_plain_eq]

end Declaration

namespace Document

/-- A document with the text of each layout in its place. -/
def plainly (document : Json) : Json :=
  document.mapMember "decls" (.mapItems Declaration.plainly)

theorem toJson_plain (document : Document Empty) :
    document.toJson .plain = plainly (document.toJson .arrays) := by
  simp [toJson_eq, plainly, Json.mapMember, Json.mapItems, otherMembers,
    Declaration.toJson_plain]

/-- **The two encodings agree, and the arrays lose nothing.**  A value reads as a layout if
and only if it is the array encoding of that layout, so that different layouts have
different arrays; and the texts of the arrays, without the tags, are the text of the
layout.  The plain encoding of a record and of a document is the array encoding with the
arrays of each layout replaced by these texts. -/
theorem encodings_agree :
    (∀ (layout : Layout Empty) (value : Json),
      (Layout.ofJson value).withoutForeign? = some layout ↔ value = layout.toJson) ∧
    Function.Injective Layout.toJson ∧
    (∀ layout : Layout Empty, String.join layout.toJson.untaggedTexts = layout.text) ∧
    (∀ record : Declaration Empty,
      record.toJson .plain = Declaration.plainly (record.toJson .arrays)) ∧
    ∀ document : Document Empty,
      document.toJson .plain = plainly (document.toJson .arrays) := by
  refine ⟨?_, Layout.toJson_injective, Layout.join_untaggedTexts_toJson,
    Declaration.toJson_plain, toJson_plain⟩
  intro layout value
  exact Layout.ofJson_eq_iff

end Document
end DeclDocs
