import DeclDocs.Json.Basic

/-! # Layouts

A layout is a formatted expression: pieces of text, concatenated, with some
parts marked as nests.  A nest never changes the text; it tells the reader of
the document which parts belong together on a line.

A layout may hold *foreign* nodes, values that are no part of a layout and that
some careless caller put there.  The passes over layouts refuse them, and the
refusal is the first foreign node that the pass meets.  `Layout Empty` is the
type of layouts without foreign nodes, on which no pass can fail.
-/
namespace DeclDocs

/-- A formatted expression whose foreign nodes are of type `F`. -/
inductive Layout (F : Type) where
  | leaf (text : String)
  | nest (child : Layout F)
  | join (left right : Layout F)
  | foreign (node : F)
  deriving Inhabited, DecidableEq, Repr

/-- The answer of a computation that has nothing to fail with. -/
def certain {α : Type} : Except Empty α → α
  | .ok answer => answer
  | .error absurdity => nomatch absurdity

@[simp] theorem ok_certain {α : Type} (x : Except Empty α) : .ok (certain x) = x := by
  cases x with
  | ok => rfl
  | error absurdity => nomatch absurdity

@[simp] theorem certain_ok {α : Type} (answer : α) : certain (.ok answer) = answer := rfl

@[simp] theorem certain_pure {α : Type} (answer : α) :
    certain (pure answer) = answer := rfl

@[simp] theorem certain_bind {α β : Type} (x : Except Empty α) (f : α → Except Empty β) :
    certain (x >>= f) = certain (f (certain x)) := by
  cases x with
  | ok answer => rfl
  | error absurdity => nomatch absurdity

theorem bind_eq_ok_iff {ε α β : Type} {x : Except ε α} {f : α → Except ε β} {b : β} :
    (x >>= f) = .ok b ↔ ∃ a, x = .ok a ∧ f a = .ok b := by
  cases x with
  | ok a => simp [bind, Except.bind]
  | error e => simp [bind, Except.bind]

theorem bind_eq_error_iff {ε α β : Type} {x : Except ε α} {f : α → Except ε β} {e : ε} :
    (x >>= f) = .error e ↔ x = .error e ∨ ∃ a, x = .ok a ∧ f a = .error e := by
  cases x with
  | ok a => simp [bind, Except.bind]
  | error e => simp [bind, Except.bind]

/-- A concatenation of a first part and others after it, leaning left, by a given way to
concatenate two. -/
def compose {α : Type} (join : α → α → α) (first : α) (rest : List α) : α :=
  rest.foldl join first

/-- The complaint about a concatenation of no parts. -/
def noPartsMessage : String := "compose() needs at least one part"

/-- A concatenation of any parts, if there are any. -/
def composeAll {α : Type} (join : α → α → α) : List α → Except String α
  | [] => .error noPartsMessage
  | first :: rest => .ok (compose join first rest)

/-- If a text is that of two parts, one after another, the text of a whole is that of its parts. -/
theorem text_compose {α : Type} {join : α → α → α} {text : α → String}
    (h : ∀ left right, text (join left right) = text left ++ text right) (first : α)
    (rest : List α) : text (compose join first rest) = text first ++ String.join (rest.map text) := by
  induction rest generalizing first with
  | nil => rw [List.map_nil, String.join_nil, String.append_empty]; rfl
  | cons part rest ih =>
    rw [List.map_cons, String.join_cons, ← String.append_assoc, ← h]
    exact ih (join first part)

/-- Without parts there is a complaint, and with parts a whole whose text is theirs. -/
theorem composeAll_cases {α : Type} {join : α → α → α} {text : α → String}
    (h : ∀ left right, text (join left right) = text left ++ text right) (parts : List α) :
    (parts = [] ∧ composeAll join parts = .error noPartsMessage) ∨
      ∃ whole, composeAll join parts = .ok whole ∧ text whole = String.join (parts.map text) := by
  cases parts with
  | nil => exact .inl ⟨rfl, rfl⟩
  | cons first rest =>
    refine .inr ⟨compose join first rest, rfl, ?_⟩
    rw [text_compose h, List.map_cons, String.join_cons]

namespace Layout

variable {F : Type}

/-- The number of nodes. -/
def size : Layout F → Nat
  | .leaf _ => 1
  | .nest child => child.size + 1
  | .join left right => left.size + right.size + 1
  | .foreign _ => 1

theorem size_pos (layout : Layout F) : 0 < layout.size := by
  cases layout <;> simp [size]

/-- The number of nodes of several layouts. -/
def totalSize (layouts : List (Layout F)) : Nat :=
  layouts.foldr (fun layout total => layout.size + total) 0

@[simp] theorem totalSize_cons (layout : Layout F) (rest : List (Layout F)) :
    totalSize (layout :: rest) = layout.size + totalSize rest := rfl

end Layout
end DeclDocs
