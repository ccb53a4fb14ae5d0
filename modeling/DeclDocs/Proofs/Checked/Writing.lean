import DeclDocs.Checked.Scalars

/-! # Reading what has been written

Each part of a reading gives back what has been written of it: a scalar is written as
itself, and a list, a pair or a table by writing its items.  The laws of records follow from
these by evaluation.
-/
namespace DeclDocs
namespace Checked

variable {α β : Type} {check : Json → Checked α} {write : α → Json}

@[simp] theorem within_valid (step : Step) (a : α) : within step (.valid a) = .valid a := rfl

@[simp] theorem map_valid (f : α → β) (a : α) : f <$> Checked.valid a = .valid (f a) := rfl

@[simp] theorem seq_valid (f : α → β) (a : α) :
    Checked.valid f <*> .valid a = .valid (f a) := rfl

/-! ## Scalars -/

@[simp] theorem text_str (s : String) : text (.str s) = .valid s := rfl

@[simp] theorem flag_bool (value : Bool) : flag (.bool value) = .valid value := rfl

@[simp] theorem natural_int (n : Nat) : natural (.int n) = .valid n := rfl

@[simp] theorem orNull_text? (s : Option String) : orNull text (.text? s) = .valid s := by
  cases s <;> rfl

@[simp] theorem orNull_int? (n : Option Int) :
    orNull integer ((n.map Json.int).getD .null) = .valid n := by
  cases n <;> rfl

/-! ## Lists, pairs and tables -/

theorem itemsFrom_map (h : ∀ a, check (write a) = .valid a) (position : Nat) (items : List α) :
    itemsFrom check position (items.map write) = .valid items := by
  induction items generalizing position with
  | nil => rfl
  | cons a rest ih =>
    rw [List.map_cons, itemsFrom, h, ih, within_valid, map_valid, seq_valid]

theorem list_arr (h : ∀ a, check (write a) = .valid a) (items : List α) :
    list check (.arr (items.map write)) = .valid items :=
  itemsFrom_map h 0 items

@[simp] theorem list_texts (items : List String) : list text (.texts items) = .valid items :=
  list_arr text_str items

@[simp] theorem list_anything (items : List Json) :
    list anything (.arr items) = .valid items := by
  have hsame : ∀ item : Json, anything (id item) = .valid item := fun _ => rfl
  have h := list_arr hsame items
  rwa [List.map_id] at h

theorem values_map (h : ∀ a, check (write a) = .valid a) (entries : List (String × α)) :
    values check (entries.map fun entry => (entry.1, write entry.2)) = .valid entries := by
  induction entries with
  | nil => rfl
  | cons entry rest ih =>
    rw [List.map_cons, values, h, ih, within_valid, map_valid, seq_valid]

theorem table_obj (h : ∀ a, check (write a) = .valid a) (entries : List (String × α)) :
    table check (.obj (entries.map fun entry => (entry.1, write entry.2))) = .valid entries :=
  values_map h entries

end Checked
end DeclDocs
