import DeclDocs.Layout.Normal
import DeclDocs.Proofs.Layout.Rows

/-! # Attached brackets

Where no node is foreign nothing can be refused, and attaching brackets is a
plain function on chains: `closed` attaches the closing brackets, `closedAfter`
those of the items after the first, and `opened` the opening brackets.  A text
that another item can take the place of is *loose*: it is empty and left out, or
it is a bracket and left pending.  `closedAfter_text_cases` and
`opened_text_cases` say all that can happen to a text, and the passes over
layouts are expressed by the functions on chains (`attachClosing_eq`,
`attachOpening_eq`, `attachBrackets_eq`).

Both passes leave an item at every level (`filled_closed`, `filled_opened`), so
that the chain of a result is the chain that was computed.
-/
namespace DeclDocs

/-- Whether a text is empty or one of some brackets. -/
def IsLoose (brackets : List String) (s : String) : Prop :=
  s = "" ∨ s ∈ brackets

theorem join_concat (texts : List String) (s : String) :
    String.join (texts ++ [s]) = String.join texts ++ s := by
  rw [String.join_append, String.join_cons, String.join_nil, String.append_empty]

namespace Chain

/-- The chain with closing brackets attached, when `pending` follows it. -/
def closed (chain : Chain Empty) (pending : List String) : Chain Empty :=
  certain (chain.attachClosing pending)

/-- The items after the first of a chain with closing brackets attached, and
what is still pending on their left. -/
def closedAfter (chain : Chain Empty) (pending : List String) : Chain Empty × List String :=
  certain (chain.closeAfter pending)

/-- The chain with opening brackets attached, when `pending` stands before it. -/
def opened (chain : Chain Empty) (pending : List String) : Chain Empty :=
  certain (chain.attachOpening pending)

/-! ## Closing brackets -/

@[simp] theorem closed_nil (pending : List String) :
    closed .nil pending = .text (String.join pending) .nil := rfl

@[simp] theorem closed_text (s : String) (rest : Chain Empty) (pending : List String) :
    (text s rest).closed pending =
      .text (s ++ String.join (rest.closedAfter pending).2) (rest.closedAfter pending).1 := by
  rw [closed, attachClosing, certain_bind]
  rfl

@[simp] theorem closed_nest (inner rest : Chain Empty) (pending : List String) :
    (nest inner rest).closed pending =
      .nest (inner.closed (rest.closedAfter pending).2) (rest.closedAfter pending).1 := by
  rw [closed, attachClosing, certain_bind, certain_bind]
  rfl

@[simp] theorem closedAfter_nil (pending : List String) :
    closedAfter .nil pending = (.nil, pending) := rfl

@[simp] theorem closedAfter_empty (rest : Chain Empty) (pending : List String) :
    (text "" rest).closedAfter pending = rest.closedAfter pending := by
  rw [closedAfter, closeAfter, certain_bind]
  rfl

theorem ne_empty_of_mem_closingBrackets {s : String} (h : s ∈ closingBrackets) : s ≠ "" := by
  rintro rfl
  exact absurd h (by decide)

theorem closedAfter_bracket {s : String} (h : s ∈ closingBrackets) (rest : Chain Empty)
    (pending : List String) :
    (text s rest).closedAfter pending =
      ((rest.closedAfter pending).1, s :: (rest.closedAfter pending).2) := by
  rw [closedAfter, closeAfter, certain_bind]
  simp only [if_neg (ne_empty_of_mem_closingBrackets h), if_pos h]
  rfl

theorem closedAfter_text {s : String} (h : ¬ IsLoose closingBrackets s)
    (rest : Chain Empty) (pending : List String) :
    (text s rest).closedAfter pending =
      (.text (s ++ String.join (rest.closedAfter pending).2) (rest.closedAfter pending).1, []) := by
  obtain ⟨hempty, hbracket⟩ := not_or.mp h
  rw [closedAfter, closeAfter, certain_bind]
  simp only [if_neg hempty, if_neg hbracket]
  rfl

/-- A text after the first item is left out if it is empty, left pending if it is
a closing bracket, and takes what is pending otherwise. -/
theorem closedAfter_text_cases (s : String) (rest : Chain Empty) (pending : List String) :
    (s = "" ∧ (text s rest).closedAfter pending = rest.closedAfter pending) ∨
    (s ∈ closingBrackets ∧ (text s rest).closedAfter pending =
      ((rest.closedAfter pending).1, s :: (rest.closedAfter pending).2)) ∨
    (¬ IsLoose closingBrackets s ∧ (text s rest).closedAfter pending =
      (.text (s ++ String.join (rest.closedAfter pending).2)
        (rest.closedAfter pending).1, [])) := by
  by_cases hempty : s = ""
  · exact Or.inl ⟨hempty, hempty ▸ closedAfter_empty rest pending⟩
  by_cases hbracket : s ∈ closingBrackets
  · exact Or.inr (Or.inl ⟨hbracket, closedAfter_bracket hbracket rest pending⟩)
  · have hloose := not_or.mpr ⟨hempty, hbracket⟩
    exact Or.inr (Or.inr ⟨hloose, closedAfter_text hloose rest pending⟩)

@[simp] theorem closedAfter_nest (inner rest : Chain Empty) (pending : List String) :
    (nest inner rest).closedAfter pending =
      (.nest (inner.closed (rest.closedAfter pending).2) (rest.closedAfter pending).1, []) := by
  rw [closedAfter, closeAfter, certain_bind, certain_bind]
  rfl

/-- What is left pending on the left of a row is closing brackets, if what is pending on
its right is. -/
theorem mem_closingBrackets_closedAfter (chain : Chain Empty) {pending : List String}
    (hpending : ∀ t ∈ pending, t ∈ closingBrackets) :
    ∀ t ∈ (chain.closedAfter pending).2, t ∈ closingBrackets := by
  induction chain with
  | nil => exact hpending
  | text s rest ih =>
    rcases closedAfter_text_cases s rest pending with ⟨-, h⟩ | ⟨hs, h⟩ | ⟨-, h⟩
    · rw [h]
      exact ih
    · rw [h]
      exact List.forall_mem_cons.mpr ⟨hs, ih⟩
    · rw [h]
      exact List.forall_mem_nil _
  | nest inner rest =>
    rw [closedAfter_nest]
    exact List.forall_mem_nil _
  | foreign node => exact node.elim

mutual

theorem filled_closed : ∀ (chain : Chain Empty) (pending : List String),
    (chain.closed pending).Filled
  | .nil, pending => ⟨List.cons_ne_nil _ _, trivial⟩
  | .text s rest, pending => by
    rw [closed_text]
    exact ⟨List.cons_ne_nil _ _, inNests_closedAfter rest pending⟩
  | .nest inner rest, pending => by
    rw [closed_nest]
    exact ⟨List.cons_ne_nil _ _, filled_closed inner _, inNests_closedAfter rest pending⟩
  | .foreign node _, _ => node.elim

theorem inNests_closedAfter : ∀ (chain : Chain Empty) (pending : List String),
    (chain.closedAfter pending).1.InNests (· ≠ [])
  | .nil, pending => trivial
  | .text s rest, pending => by
    have ih := inNests_closedAfter rest pending
    rcases closedAfter_text_cases s rest pending with ⟨-, h⟩ | ⟨-, h⟩ | ⟨-, h⟩ <;> rw [h] <;>
      exact ih
  | .nest inner rest, pending => by
    rw [closedAfter_nest]
    exact ⟨filled_closed inner _, inNests_closedAfter rest pending⟩
  | .foreign node _, _ => node.elim

end

/-! ## Opening brackets -/

@[simp] theorem opened_nil (pending : List String) :
    opened .nil pending = .text (String.join pending) .nil := rfl

/-- The last item takes what is pending, whatever it is. -/
@[simp] theorem opened_text_last (s : String) (pending : List String) :
    (text s .nil).opened pending = .text (String.join pending ++ s) .nil := rfl

theorem opened_empty {rest : Chain Empty} (hrest : rest ≠ .nil) (pending : List String) :
    (text "" rest).opened pending = rest.opened pending := by
  rw [opened, attachOpening.eq_3 _ _ _ hrest, if_pos rfl, ← opened]

theorem ne_empty_of_mem_openingBrackets {s : String} (h : s ∈ openingBrackets) : s ≠ "" := by
  rintro rfl
  exact absurd h (by decide)

theorem opened_bracket {s : String} (h : s ∈ openingBrackets) {rest : Chain Empty}
    (hrest : rest ≠ .nil) (pending : List String) :
    (text s rest).opened pending = rest.opened (pending ++ [s]) := by
  rw [opened, attachOpening.eq_3 _ _ _ hrest, if_neg (ne_empty_of_mem_openingBrackets h),
    if_pos h, ← opened]

theorem opened_text {s : String} (h : ¬ IsLoose openingBrackets s) {rest : Chain Empty}
    (hrest : rest ≠ .nil) (pending : List String) :
    (text s rest).opened pending = .text (String.join pending ++ s) (rest.opened []) := by
  obtain ⟨hempty, hbracket⟩ := not_or.mp h
  rw [opened, attachOpening.eq_3 _ _ _ hrest, if_neg hempty, if_neg hbracket, certain_bind,
    certain_pure, ← opened]

/-- A text before the last item is left out if it is empty, left pending if it is
an opening bracket, and takes what is pending otherwise. -/
theorem opened_text_cases (s : String) {rest : Chain Empty} (hrest : rest ≠ .nil)
    (pending : List String) :
    (s = "" ∧ (text s rest).opened pending = rest.opened pending) ∨
    (s ∈ openingBrackets ∧ (text s rest).opened pending = rest.opened (pending ++ [s])) ∨
    (¬ IsLoose openingBrackets s ∧
      (text s rest).opened pending = .text (String.join pending ++ s) (rest.opened [])) := by
  by_cases hempty : s = ""
  · exact Or.inl ⟨hempty, hempty ▸ opened_empty hrest pending⟩
  by_cases hbracket : s ∈ openingBrackets
  · exact Or.inr (Or.inl ⟨hbracket, opened_bracket hbracket hrest pending⟩)
  · have hloose := not_or.mpr ⟨hempty, hbracket⟩
    exact Or.inr (Or.inr ⟨hloose, opened_text hloose hrest pending⟩)

@[simp] theorem opened_nest_last (inner : Chain Empty) (pending : List String) :
    (nest inner .nil).opened pending = .nest (inner.opened pending) .nil := by
  rw [opened, attachOpening.eq_4, certain_bind, certain_pure, ← opened]

theorem opened_nest (inner : Chain Empty) {rest : Chain Empty} (hrest : rest ≠ .nil)
    (pending : List String) :
    (nest inner rest).opened pending = .nest (inner.opened pending) (rest.opened []) := by
  rw [opened, attachOpening.eq_5 _ _ _ hrest, certain_bind, certain_bind, certain_pure,
    ← opened, ← opened]

/-- The row with opening brackets attached.  A row of no items has none afterwards. -/
def openedRow : Chain Empty → Chain Empty
  | .nil => .nil
  | chain => chain.opened []

theorem openedRow_of_ne_nil {chain : Chain Empty} (h : chain ≠ .nil) :
    chain.openedRow = chain.opened [] := by
  cases chain with
  | nil => exact absurd rfl h
  | text | nest | foreign => rfl

theorem opened_text_row {s : String} (h : ¬ IsLoose openingBrackets s) (rest : Chain Empty)
    (pending : List String) :
    (text s rest).opened pending = .text (String.join pending ++ s) rest.openedRow := by
  by_cases hrest : rest = .nil
  · rw [hrest, opened_text_last, openedRow]
  · rw [opened_text h hrest, openedRow_of_ne_nil hrest]

theorem opened_nest_row (inner rest : Chain Empty) (pending : List String) :
    (nest inner rest).opened pending = .nest (inner.opened pending) rest.openedRow := by
  by_cases hrest : rest = .nil
  · rw [hrest, opened_nest_last, openedRow]
  · rw [opened_nest inner hrest, openedRow_of_ne_nil hrest]

theorem filled_opened (chain : Chain Empty) (pending : List String) :
    (chain.opened pending).Filled := by
  induction chain generalizing pending with
  | nil => exact ⟨List.cons_ne_nil _ _, trivial⟩
  | text s rest ih =>
    by_cases hrest : rest = .nil
    · rw [hrest, opened_text_last]
      exact ⟨List.cons_ne_nil _ _, trivial⟩
    rcases opened_text_cases s hrest pending with ⟨-, h⟩ | ⟨-, h⟩ | ⟨-, h⟩
    · rw [h]
      exact ih pending
    · rw [h]
      exact ih (pending ++ [s])
    · rw [h]
      exact ⟨List.cons_ne_nil _ _, (ih []).2⟩
  | nest inner rest ihi ih =>
    by_cases hrest : rest = .nil
    · rw [hrest, opened_nest_last]
      exact ⟨List.cons_ne_nil _ _, ihi pending, trivial⟩
    · rw [opened_nest inner hrest]
      exact ⟨List.cons_ne_nil _ _, ihi pending, (ih []).2⟩
  | foreign node => exact node.elim

end Chain

namespace Layout

/-! ## The passes over layouts -/

theorem attachClosing_eq (layout : Layout Empty) (pending : List String) :
    layout.attachClosing pending = (layout.chain.closed pending).leanLeft := by
  rw [attachClosing, attachClosing?, certain_bind, certain_pure, ← Chain.closed]

theorem attachOpening_eq (layout : Layout Empty) (pending : List String) :
    layout.attachOpening pending = (layout.chain.opened pending).leanRight := by
  rw [attachOpening, attachOpening?, certain_bind, certain_pure, ← Chain.opened]

theorem chain_attachClosing (layout : Layout Empty) (pending : List String) :
    (layout.attachClosing pending).chain = layout.chain.closed pending := by
  rw [attachClosing_eq, Chain.chain_leanLeft _ (Chain.filled_closed _ _)]

theorem chain_attachOpening (layout : Layout Empty) (pending : List String) :
    (layout.attachOpening pending).chain = layout.chain.opened pending := by
  rw [attachOpening_eq, Chain.chain_leanRight (Chain.filled_opened _ _)]

/-- Attaching all brackets is attaching the closing ones and then the opening
ones, on the chain of the layout. -/
theorem attachBrackets_eq (layout : Layout Empty) :
    layout.attachBrackets = ((layout.chain.closed []).opened []).leanRight := by
  rw [attachBrackets, attachBrackets?, certain_bind, ← attachClosing, ← attachOpening,
    attachOpening_eq, chain_attachClosing]

theorem chain_attachBrackets (layout : Layout Empty) :
    layout.attachBrackets.chain = (layout.chain.closed []).opened [] := by
  rw [attachBrackets_eq, Chain.chain_leanRight (Chain.filled_opened _ _)]

theorem normalize_eq (layout : Layout Empty) :
    layout.normalize = layout.attachBrackets.simplify := by
  rw [normalize, normalize?, certain_bind, ← attachBrackets, ← simplify]

end Layout
end DeclDocs
