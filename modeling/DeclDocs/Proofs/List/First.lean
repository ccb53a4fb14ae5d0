/-! # The first of a list

What is found in the first item of a list in which anything is, when an item may hold
nothing.  Items and findings stand in a relation, so that the statement does not depend
on how, and how far, the list is searched.
-/
namespace DeclDocs

variable {α β : Type}

/-- Whether nothing is found in any item of a list. -/
def IsSilent (Finds : α → β → Prop) (items : List α) : Prop :=
  ∀ item ∈ items, ∀ finding, ¬ Finds item finding

/-- Whether `finding` is what is found in the first item of a list in which anything is. -/
def IsFirst (Finds : α → β → Prop) (items : List α) (finding : β) : Prop :=
  ∃ before item after, items = before ++ item :: after ∧
    IsSilent Finds before ∧ Finds item finding

variable {Finds : α → β → Prop} {item : α} {items rest left right : List α} {finding : β}

theorem isSilent_nil : IsSilent Finds [] :=
  List.forall_mem_nil _

theorem isSilent_cons_iff :
    IsSilent Finds (item :: rest) ↔ (∀ finding, ¬ Finds item finding) ∧ IsSilent Finds rest :=
  List.forall_mem_cons

theorem isSilent_append_iff :
    IsSilent Finds (left ++ right) ↔ IsSilent Finds left ∧ IsSilent Finds right :=
  List.forall_mem_append

theorem IsSilent.not_isFirst (h : IsSilent Finds items) : ¬ IsFirst Finds items finding := by
  rintro ⟨before, item, after, rfl, -, hitem⟩
  exact h item (by simp) finding hitem

theorem isFirst_cons_iff :
    IsFirst Finds (item :: rest) finding ↔
      Finds item finding ∨ (∀ other, ¬ Finds item other) ∧ IsFirst Finds rest finding := by
  constructor
  · rintro ⟨before, found, after, hitems, hbefore, hfound⟩
    cases before with
    | nil =>
      obtain ⟨rfl, -⟩ := List.cons.inj hitems
      exact .inl hfound
    | cons first before =>
      obtain ⟨rfl, rfl⟩ := List.cons.inj hitems
      obtain ⟨hitem, hbefore⟩ := isSilent_cons_iff.mp hbefore
      exact .inr ⟨hitem, before, found, after, rfl, hbefore, hfound⟩
  · rintro (h | ⟨hitem, before, found, after, rfl, hbefore, hfound⟩)
    · exact ⟨[], item, rest, rfl, isSilent_nil, h⟩
    · exact ⟨item :: before, found, after, rfl, isSilent_cons_iff.mpr ⟨hitem, hbefore⟩, hfound⟩

theorem isFirst_append_iff :
    IsFirst Finds (left ++ right) finding ↔
      IsFirst Finds left finding ∨ IsSilent Finds left ∧ IsFirst Finds right finding := by
  induction left with
  | nil => simp [isSilent_nil, isSilent_nil.not_isFirst]
  | cons item rest ih =>
    rw [List.cons_append, isFirst_cons_iff, isFirst_cons_iff, ih, isSilent_cons_iff, and_or_left,
      or_assoc, and_assoc]

/-- The first finding is unique if one thing at most is found in each item. -/
theorem IsFirst.unique {one other : β} (hone : IsFirst Finds items one)
    (hother : IsFirst Finds items other)
    (hsame : ∀ {item : α} {one other : β}, Finds item one → Finds item other → one = other) :
    one = other := by
  induction items with
  | nil => exact absurd hone isSilent_nil.not_isFirst
  | cons item rest ih =>
    rcases isFirst_cons_iff.mp hone with hone | ⟨hsilent, hone⟩
    · rcases isFirst_cons_iff.mp hother with hother | ⟨hsilent, -⟩
      · exact hsame hone hother
      · exact absurd hone (hsilent one)
    · rcases isFirst_cons_iff.mp hother with hother | ⟨-, hother⟩
      · exact absurd hother (hsilent other)
      · exact ih hone hother

end DeclDocs
