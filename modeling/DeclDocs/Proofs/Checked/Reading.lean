import Mathlib.Logic.Relation
import DeclDocs.Checked.Scalars
import DeclDocs.Proofs.Checked.Location

/-! # Readings that locate their issues and pass over other keys

A reading is made of a few parts: scalars, lists, pairs, tables, and the fields of records.
Each part locates its issues, and each takes no notice of keys that are no field names in
the objects that are read as records.  Which objects these are is said by a shape
(`Shape`), and adding one such key to one of them is a step (`Shape.AddsKey`).

There is one law for each part (`Checked.IsReading.list`, `Checked.IsReading.record`,
`Checked.IsFields.required` and so on), so that the law of a reading is put together like
the reading itself.
-/
namespace DeclDocs

/-- Which parts of a value are read as records, and their fields. -/
inductive Shape where
  | plain
  | list (item : Shape)
  | record (fields : List (String × Shape))

/-- Adding a key that is no field name to one object that is read as a record. -/
inductive Shape.AddsKey : Shape → Json → Json → Prop
  | here {fields : List (String × Shape)} {key : String} (before after : Json.Members)
      (value : Json) (hkey : fields.lookup key = none) :
      AddsKey (.record fields) (.obj (before ++ after)) (.obj (before ++ (key, value) :: after))
  | item {item : Shape} {value padded : Json} (before after : List Json)
      (h : AddsKey item value padded) :
      AddsKey (.list item) (.arr (before ++ value :: after)) (.arr (before ++ padded :: after))
  | field {fields : List (String × Shape)} {key : String} {shape : Shape} {value padded : Json}
      (before after : Json.Members) (hkey : fields.lookup key = some shape)
      (h : AddsKey shape value padded) :
      AddsKey (.record fields) (.obj (before ++ (key, value) :: after))
        (.obj (before ++ (key, padded) :: after))

theorem Json.Members.get?_append (before after : Json.Members) (key : String) :
    Json.Members.get? (before ++ after) key = (before.get? key).or (after.get? key) := by
  rw [get?, List.find?_append, Option.map_or, ← get?, ← get?]

namespace Checked

variable {α β : Type}

/-- A reading of values of some shape. -/
structure IsReading (shape : Shape) (check : Json → Checked α) : Prop where
  located : ∀ value, IsLocated value (check value)
  ignores : ∀ value padded, shape.AddsKey value padded → check padded = check value

/-- A reading of a record with some fields. -/
structure IsFields (fields : List (String × Shape)) (read : Json.Members → Checked α) : Prop where
  located : ∀ members, IsLocated (.obj members) (read members)
  ignores : ∀ members padded, (Shape.record fields).AddsKey (.obj members) (.obj padded) →
    read padded = read members

/-! ## Scalars -/

/-- A value without records is read as it is. -/
theorem isReading_plain {check : Json → Checked α}
    (hlocated : ∀ value, IsLocated value (check value)) : IsReading .plain check where
  located := hlocated
  ignores value padded h := by cases h

theorem isReading_anything : IsReading .plain anything :=
  isReading_plain fun _ => trivial

theorem isReading_text : IsReading .plain text := by
  refine isReading_plain fun value => ?_
  cases value with
  | str s => exact trivial
  | null | bool | int | float | arr | obj => exact isLocated_defect (by simp)

theorem isLocated_flagOfInteger (value : Json) (n : Int) :
    IsLocated value (flagOfInteger n) := by
  unfold flagOfInteger
  split
  next => exact trivial
  next =>
    split
    next => exact trivial
    next => split <;> exact isLocated_defect (by simp)

theorem isReading_flag : IsReading .plain flag := by
  refine isReading_plain fun value => ?_
  cases value with
  | bool value => exact trivial
  | int n => exact isLocated_flagOfInteger _ n
  | float number =>
    rw [flag]
    split
    next n _ => exact isLocated_flagOfInteger _ n
    next => exact isLocated_defect (by simp)
  | str s =>
    rw [flag, flagOfText]
    split
    next => exact trivial
    next =>
      split
      next => exact trivial
      next => exact isLocated_defect (by simp)
  | null | arr | obj => exact isLocated_defect (by simp)

theorem isLocated_integer (value : Json) : IsLocated value (integer value) := by
  cases value with
  | bool value => exact trivial
  | int n => exact trivial
  | float number =>
    cases number with
    | finite negative mantissa exponent =>
      rw [integer, integerOfFloat]
      split
      next => exact trivial
      next => exact isLocated_defect (by simp)
      next => exact isLocated_defect (by simp)
    | nan | infinite => exact isLocated_defect (by simp)
  | str s =>
    rw [integer, integerOfText]
    split
    next => exact isLocated_defect (by simp)
    next =>
      split
      next => exact trivial
      next => exact isLocated_defect (by simp)
  | null | arr | obj => exact isLocated_defect (by simp)

theorem isReading_integer : IsReading .plain integer :=
  isReading_plain isLocated_integer

theorem isReading_natural : IsReading .plain natural := by
  refine isReading_plain fun value => ?_
  have hinteger := isLocated_integer value
  rw [natural]
  generalize integer value = outcome at hinteger
  cases outcome with
  | valid n =>
    cases n with
    | ofNat n => exact trivial
    | negSucc n => exact isLocated_defect (by simp)
  | invalid issues => exact hinteger

theorem IsReading.orNull {check : Json → Checked α} (h : IsReading .plain check) :
    IsReading .plain (orNull check) := by
  refine isReading_plain fun value => ?_
  cases value with
  | null => exact trivial
  | bool | int | float | str | arr | obj => exact (h.located _).map some

/-! ## Lists, pairs and tables -/

theorem isLocated_itemsFrom {check : Json → Checked α} (h : ∀ value, IsLocated value (check value))
    (before items : List Json) :
    IsLocated (.arr (before ++ items)) (itemsFrom check before.length items) := by
  induction items generalizing before with
  | nil => exact trivial
  | cons item rest ih =>
    have hstep : (Json.arr (before ++ item :: rest)).LeadsTo [.index before.length] item :=
      .index (by simp) (.here item)
    have hrest := ih (before ++ [item])
    rw [List.append_assoc, List.length_append] at hrest
    exact (((h item).within hstep).map List.cons).seq hrest

theorem itemsFrom_congr {check : Json → Checked α} {value padded : Json}
    (h : check padded = check value) (position : Nat) (before after : List Json) :
    itemsFrom check position (before ++ padded :: after) =
      itemsFrom check position (before ++ value :: after) := by
  induction before generalizing position with
  | nil => rw [List.nil_append, List.nil_append, itemsFrom, itemsFrom, h]
  | cons item rest ih => rw [List.cons_append, List.cons_append, itemsFrom, itemsFrom, ih]

theorem IsReading.list {shape : Shape} {check : Json → Checked α} (h : IsReading shape check) :
    IsReading (.list shape) (list check) where
  located value := by
    cases value with
    | arr items => exact isLocated_itemsFrom h.located [] items
    | null | bool | int | float | str | obj => exact isLocated_defect (by simp)
  ignores value padded hadds := by
    cases hadds with
    | item before after hadds => exact itemsFrom_congr (h.ignores _ _ hadds) 0 before after

theorem IsReading.list_plain {check : Json → Checked α} (h : IsReading .plain check) :
    IsReading .plain (Checked.list check) :=
  isReading_plain h.list.located

/-- A pair that ends before an index lacks the item there. -/
theorem liesIn_index {items : List Json} {position : Nat} (h : items.length ≤ position) :
    Issue.LiesIn (.arr items) ⟨[.index position], .missing⟩ :=
  Issue.liesIn_missing h

theorem IsReading.pair {first : Json → Checked α} {second : Json → Checked β}
    (hfirst : IsReading .plain first) (hsecond : IsReading .plain second) :
    IsReading .plain (Checked.pair first second) := by
  refine isReading_plain fun value => ?_
  cases value with
  | arr items =>
    -- the items are looked at only if there are at most two of them
    rcases items with _ | ⟨a, _ | ⟨b, _ | ⟨c, rest⟩⟩⟩
    · refine ⟨List.cons_ne_nil _ _, ?_⟩
      intro issue hissue
      simp only [List.mem_cons, List.not_mem_nil, or_false] at hissue
      rcases hissue with rfl | rfl
      · exact liesIn_index (by simp)
      · exact liesIn_index (by simp)
    · have ha : (Json.arr [a]).LeadsTo [.index 0] a := .index rfl (.here a)
      refine ⟨List.append_ne_nil_of_right_ne_nil _ (List.cons_ne_nil _ _), ?_⟩
      intro issue hissue
      rcases List.mem_append.mp hissue with hissue | hissue
      · exact ((hfirst.located a).within ha).liesIn issue hissue
      · cases List.mem_singleton.mp hissue
        exact liesIn_index (by simp)
    · have ha : (Json.arr [a, b]).LeadsTo [.index 0] a := .index rfl (.here a)
      have hb : (Json.arr [a, b]).LeadsTo [.index 1] b := .index rfl (.here b)
      exact (((hfirst.located a).within ha).map Prod.mk).seq ((hsecond.located b).within hb)
    · exact isLocated_defect (by simp)
  | null | bool | int | float | str | obj => exact isLocated_defect (by simp)

theorem isLocated_values {check : Json → Checked α} (h : ∀ value, IsLocated value (check value))
    {members rest : Json.Members} (hrest : ∀ member ∈ rest, member ∈ members) :
    IsLocated (.obj members) (values check rest) := by
  induction rest with
  | nil => exact trivial
  | cons member rest ih =>
    obtain ⟨key, value⟩ := member
    obtain ⟨hmember, hrest⟩ := List.forall_mem_cons.mp hrest
    have hstep : (Json.obj members).LeadsTo [.key key] value := .key hmember (.here value)
    exact (((h value).within hstep).map _).seq (ih hrest)

theorem IsReading.table {check : Json → Checked α} (h : IsReading .plain check) :
    IsReading .plain (Checked.table check) := by
  refine isReading_plain fun value => ?_
  cases value with
  | obj members => exact isLocated_values h.located fun _ hmember => hmember
  | null | bool | int | float | str | arr => exact isLocated_defect (by simp)

/-! ## Records -/

/-- What stands under a field name when a key has been added: the same, or the same with the
key added inside. -/
theorem get?_of_addsKey {fields : List (String × Shape)} {members padded : Json.Members}
    (h : (Shape.record fields).AddsKey (.obj members) (.obj padded)) {name : String}
    {shape : Shape} (hname : fields.lookup name = some shape) :
    padded.get? name = members.get? name ∨
      ∃ value other, members.get? name = some value ∧ padded.get? name = some other ∧
        shape.AddsKey value other := by
  cases h with
  | @here _ key before after value hkey =>
    have hne : key ≠ name := by
      rintro rfl
      rw [hkey] at hname
      cases hname
    left
    rw [Json.Members.get?_append, Json.Members.get?_append, Json.Members.get?_cons, if_neg hne]
  | @field _ key shape' value other before after hkey h =>
    rw [Json.Members.get?_append, Json.Members.get?_append, Json.Members.get?_cons,
      Json.Members.get?_cons]
    by_cases hkeys : key = name
    · subst hkeys
      cases hkey.symm.trans hname
      rw [if_pos rfl, if_pos rfl]
      -- an earlier member with the same key hides the one that has changed
      cases before.get? key with
      | some earlier => exact .inl rfl
      | none => exact .inr ⟨value, other, rfl, rfl, h⟩
    · rw [if_neg hkeys, if_neg hkeys]
      exact .inl rfl

variable {fields : List (String × Shape)}

theorem IsFields.map {read : Json.Members → Checked α} (f : α → β) (h : IsFields fields read) :
    IsFields fields fun members => f <$> read members where
  located members := (h.located members).map f
  ignores members padded hadds := by rw [h.ignores members padded hadds]

theorem IsFields.seq {f : Json.Members → Checked (α → β)} {x : Json.Members → Checked α}
    (hf : IsFields fields f) (hx : IsFields fields x) :
    IsFields fields fun members => f members <*> x members where
  located members := (hf.located members).seq (hx.located members)
  ignores members padded hadds := by
    rw [hf.ignores members padded hadds, hx.ignores members padded hadds]

/-- The field `key` of a record, or a given outcome if it is absent. -/
def fieldOr (check : Json → Checked α) (key : String) (absent : Checked α)
    (members : Json.Members) : Checked α :=
  match members.get? key with
  | some value => (check value).within (.key key)
  | none => absent

theorem IsFields.fieldOr {shape : Shape} {check : Json → Checked α} {key : String}
    {absent : Checked α} (hkey : fields.lookup key = some shape) (h : IsReading shape check)
    (habsent : ∀ members : Json.Members, members.get? key = none →
      IsLocated (.obj members) absent) :
    IsFields fields (Checked.fieldOr check key absent) where
  located members := by
    rw [Checked.fieldOr]
    split
    next value hvalue =>
      exact (h.located value).within (.key (Json.Members.mem_of_get? hvalue) (.here value))
    next hnone => exact habsent members hnone
  ignores members padded hadds := by
    rw [Checked.fieldOr, Checked.fieldOr]
    rcases get?_of_addsKey hadds hkey with hsame | ⟨value, other, hvalue, hother, hadds⟩
    · rw [hsame]
    · rw [hvalue, hother]
      exact congrArg (within (.key key)) (h.ignores value other hadds)

theorem IsFields.required {shape : Shape} {check : Json → Checked α} {key : String}
    (hkey : fields.lookup key = some shape) (h : IsReading shape check) :
    IsFields fields (Checked.required check key) := by
  have hfield : IsFields fields
      (Checked.fieldOr check key (.invalid [⟨[.key key], .missing⟩])) := by
    refine .fieldOr hkey h fun members hnone => ⟨List.cons_ne_nil _ _, ?_⟩
    intro issue hissue
    cases List.mem_singleton.mp hissue
    exact Issue.liesIn_missing (Json.Members.get?_eq_none_iff.mp hnone)
  exact hfield

theorem IsFields.optional {shape : Shape} {check : Json → Checked α} {default : α} {key : String}
    (hkey : fields.lookup key = some shape) (h : IsReading shape check) :
    IsFields fields (Checked.optional check default key) := by
  have hfield : IsFields fields (Checked.fieldOr check key (.valid default)) :=
    .fieldOr hkey h fun _ _ => trivial
  exact hfield

theorem IsFields.record {name : String} {read : Json.Members → Checked α}
    (h : IsFields fields read) : IsReading (.record fields) (Checked.record name read) where
  located value := by
    cases value with
    | obj members => exact h.located members
    | null | bool | int | float | str | arr => exact isLocated_defect (by simp)
  ignores value padded hadds := by
    -- a key is only ever added to an object
    cases hadds with
    | here before after value hkey => exact h.ignores _ _ (.here before after value hkey)
    | field before after hkey hadds => exact h.ignores _ _ (.field before after hkey hadds)

/-- Any number of keys may be added. -/
theorem IsReading.eq_of_addsKeys {shape : Shape} {check : Json → Checked α}
    (h : IsReading shape check) {value padded : Json}
    (hadds : Relation.ReflTransGen shape.AddsKey value padded) : check padded = check value := by
  induction hadds with
  | refl => rfl
  | tail _ hadds ih => rw [h.ignores _ _ hadds, ih]

end Checked
end DeclDocs
