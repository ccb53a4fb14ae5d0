import DeclDocs.Dump.Basic
import DeclDocs.Proofs.Checked.Reading
import DeclDocs.Proofs.Checked.Writing

/-! # Validation of dumps

Every record of a dump is read back from what is written of it (`Dump.check_toDump` and its
like), so that a second validation changes nothing.  The issues of a value that is no such
record lie in the value, and keys that are no field names are passed over, in the record and
in the records inside it (`Dump.isReading_check` and its like).  The shape of a record names
its fields and says which of them hold further records.
-/
namespace DeclDocs

open Checked

/-- What is promised about a reading of records and their written form: a record that has
been read is read back from what is written of it, the issues of anything else lie in it,
and keys that are no field names may be added to any object that is read as a record. -/
structure Checked.IsReliable {α : Type} (shape : Shape) (check : Json → Checked α)
    (write : α → Json) : Prop where
  stable : ∀ value record, check value = .valid record → check (write record) = .valid record
  located : ∀ value issues, check value = .invalid issues →
    issues ≠ [] ∧ ∀ issue ∈ issues, issue.LiesIn value
  ignores : ∀ value padded, Relation.ReflTransGen shape.AddsKey value padded →
    check padded = check value

theorem Checked.IsReading.isReliable {α : Type} {shape : Shape} {check : Json → Checked α}
    {write : α → Json} (h : IsReading shape check)
    (hwrite : ∀ record, check (write record) = .valid record) : IsReliable shape check write where
  stable _ record _ := hwrite record
  located value issues hinvalid := by
    have hlocated := h.located value
    rw [hinvalid] at hlocated
    exact hlocated
  ignores _ _ hadds := h.eq_of_addsKeys hadds

namespace ModuleDoc

/-- A comment holds no further records. -/
def shape : Shape :=
  .record [("filename", .plain), ("line", .plain), ("content", .plain)]

theorem isReading_check : IsReading shape check :=
  IsFields.record <| (IsFields.required rfl isReading_text).map mk
    |>.seq (.required rfl isReading_natural)
    |>.seq (.required rfl isReading_text)

theorem check_toDump (doc : ModuleDoc) : check doc.toDump = .valid doc := by
  simp [check, record, toDump, fields, required, Json.Members.get?_cons]

end ModuleDoc

namespace TacticDoc

/-- The fields of an entry, none of which holds further records. -/
def fieldShapes : List (String × Shape) :=
  [("name", .plain), ("category", .plain), ("decl_names", .plain), ("tags", .plain),
    ("description", .plain)]

/-- An entry is read in the same way if there are more fields. -/
theorem isFields_fields (more : List (String × Shape)) : IsFields (fieldShapes ++ more) fields :=
  (IsFields.required rfl isReading_text).map mk
    |>.seq (.required rfl isReading_text)
    |>.seq (.optional rfl isReading_text.list_plain)
    |>.seq (.optional rfl isReading_text.list_plain)
    |>.seq (.optional rfl isReading_text)

/-- An entry holds no further records. -/
def shape : Shape :=
  .record fieldShapes

theorem isReading_check : IsReading shape check :=
  IsFields.record (isFields_fields [])

theorem check_toDump (doc : TacticDoc) : check doc.toDump = .valid doc := by
  simp [check, record, toDump, members, fields, required, Checked.optional, Json.Members.get?_cons]

end TacticDoc

namespace LabeledTacticDoc

/-- A labeled entry holds no further records. -/
def shape : Shape :=
  .record (TacticDoc.fieldShapes ++ [("imported", .plain)])

theorem isReading_check : IsReading shape check :=
  IsFields.record <| (TacticDoc.isFields_fields _).map mk
    |>.seq (.optional rfl isReading_text)

theorem check_toDump (doc : LabeledTacticDoc) : check doc.toDump = .valid doc := by
  simp [check, record, toDump, TacticDoc.members, fields, TacticDoc.fields, required, Checked.optional,
    Json.Members.get?_cons]

end LabeledTacticDoc

namespace BinderEntry

/-- A binder holds no further records. -/
def shape : Shape :=
  .record [("name", .plain), ("info", .plain), ("type", .plain), ("dependent", .plain)]

theorem isReading_checkStyle : IsReading .plain checkStyle := by
  refine isReading_plain fun value => ?_
  unfold checkStyle
  split
  next => exact trivial
  next => exact isLocated_defect (by simp)

theorem isReading_check : IsReading shape check :=
  IsFields.record <| (IsFields.optional rfl isReading_text).map mk
    |>.seq (.optional rfl isReading_checkStyle)
    |>.seq (.required rfl isReading_anything)
    |>.seq (.optional rfl isReading_flag)

theorem checkStyle_word (style : BinderStyle) : checkStyle (.str style.word) = .valid style := by
  rw [checkStyle, BinderStyle.ofJson?_word]

theorem check_toDump (binder : BinderEntry) : check binder.toDump = .valid binder := by
  simp [check, record, toDump, fields, required, Checked.optional, Json.Members.get?_cons,
    checkStyle_word, anything]

end BinderEntry

namespace Entry

/-- A declaration holds the records of its binders. -/
def shape : Shape :=
  .record [("name", .plain), ("kind", .plain), ("module", .plain), ("is_meta", .plain),
    ("internal", .plain), ("auto_generated", .plain), ("binders", .list BinderEntry.shape),
    ("type", .plain), ("filename", .plain), ("line", .plain), ("doc_string", .plain),
    ("attributes", .plain), ("equations", .plain), ("is_structure", .plain),
    ("structure_fields", .plain), ("is_inductive", .plain), ("constructors", .plain),
    ("instance_class", .plain)]

theorem isReading_checkNamed : IsReading .plain checkNamed :=
  (isReading_text.pair isReading_anything).list_plain

theorem isReading_check : IsReading shape check :=
  IsFields.record <| (IsFields.required rfl isReading_text).map mk
    |>.seq (.required rfl isReading_text)
    |>.seq (.optional rfl isReading_text.orNull)
    |>.seq (.optional rfl isReading_flag)
    |>.seq (.optional rfl isReading_flag)
    |>.seq (.optional rfl isReading_flag)
    |>.seq (.optional rfl BinderEntry.isReading_check.list)
    |>.seq (.required rfl isReading_anything)
    |>.seq (.optional rfl isReading_text.orNull)
    |>.seq (.optional rfl isReading_integer.orNull)
    |>.seq (.optional rfl isReading_text.orNull)
    |>.seq (.optional rfl isReading_text.list_plain)
    |>.seq (.optional rfl isReading_anything.list_plain)
    |>.seq (.optional rfl isReading_flag)
    |>.seq (.optional rfl isReading_checkNamed)
    |>.seq (.optional rfl isReading_flag)
    |>.seq (.optional rfl isReading_checkNamed)
    |>.seq (.optional rfl isReading_text.orNull)

theorem checkNamed_namedToDump (named : List (String × Json)) :
    checkNamed (namedToDump named) = .valid named := by
  have hpair : ∀ entry : String × Json,
      pair text anything (.arr [.str entry.1, entry.2]) = .valid entry := fun _ => rfl
  exact list_arr hpair named

theorem check_toDump (entry : Entry) : check entry.toDump = .valid entry := by
  simp [check, record, toDump, fields, required, Checked.optional, Json.Members.get?_cons,
    checkNamed_namedToDump, list_arr BinderEntry.check_toDump, anything]

end Entry

namespace Dump

/-- A dump holds the records of its declarations and of its documentation. -/
def shape : Shape :=
  .record [("declarations", .list Entry.shape), ("module_docs", .list ModuleDoc.shape),
    ("notes", .plain), ("tactic_docs", .list TacticDoc.shape), ("imports", .plain)]

theorem isReading_check : IsReading shape check :=
  IsFields.record <| (IsFields.optional rfl Entry.isReading_check.list).map mk
    |>.seq (.optional rfl ModuleDoc.isReading_check.list)
    |>.seq (.optional rfl (isReading_text.pair isReading_text).list_plain)
    |>.seq (.optional rfl TacticDoc.isReading_check.list)
    |>.seq (.optional rfl isReading_text.list_plain.table)

theorem check_notes (notes : List (String × String)) :
    list (pair text text) (.arr (notes.map fun note => .texts [note.1, note.2])) =
      .valid notes := by
  have hpair : ∀ note : String × String,
      pair text text (.texts [note.1, note.2]) = .valid note := fun _ => rfl
  exact list_arr hpair notes

theorem check_imports (imports : Imports) :
    table (list text) (.obj (imports.map fun entry => (entry.1, .texts entry.2))) =
      .valid imports :=
  table_obj list_texts imports

theorem check_toDump (dump : Dump) : check dump.toDump = .valid dump := by
  simp [check, record, toDump, fields, Checked.optional, Json.Members.get?_cons,
    list_arr Entry.check_toDump, list_arr ModuleDoc.check_toDump,
    list_arr TacticDoc.check_toDump, check_notes, check_imports]

/-- **Validation is stable and locates its issues**, for each of the records that a dump is
made of. -/
theorem isReliable_records :
    IsReliable ModuleDoc.shape ModuleDoc.check ModuleDoc.toDump ∧
      IsReliable TacticDoc.shape TacticDoc.check TacticDoc.toDump ∧
      IsReliable LabeledTacticDoc.shape LabeledTacticDoc.check LabeledTacticDoc.toDump ∧
      IsReliable BinderEntry.shape BinderEntry.check BinderEntry.toDump ∧
      IsReliable Entry.shape Entry.check Entry.toDump ∧
      IsReliable Dump.shape Dump.check Dump.toDump :=
  ⟨ModuleDoc.isReading_check.isReliable ModuleDoc.check_toDump,
    TacticDoc.isReading_check.isReliable TacticDoc.check_toDump,
    LabeledTacticDoc.isReading_check.isReliable LabeledTacticDoc.check_toDump,
    BinderEntry.isReading_check.isReliable BinderEntry.check_toDump,
    Entry.isReading_check.isReliable Entry.check_toDump,
    Dump.isReading_check.isReliable Dump.check_toDump⟩

/-- The second item of a pair is missing, and a binder has no type. -/
example :
    (check (.obj [("declarations", .arr [.obj [("name", .str "a"), ("kind", .str "axiom"),
        ("binders", .arr [.obj [("extra", .null)]]), ("type", .null),
        ("structure_fields", .arr [.arr [.str "f"]])]])])).issues =
      [⟨[.key "declarations", .index 0, .key "binders", .index 0, .key "type"], .missing⟩,
        ⟨[.key "declarations", .index 0, .key "structure_fields", .index 0, .index 1],
          .missing⟩] := by
  decide +kernel

end Dump
end DeclDocs
