import DeclDocs.Proofs.Layout.Glued

/-! # The order in which brackets are attached

Closing brackets are attached first and opening brackets second, but the order makes no
difference to the items of any row (`Layout.chain_attachOpening_attachClosing`).  It shows
only in the way the concatenations lean, which is the way of the later pass.

An opening bracket in front of a closing one is claimed by both passes.  If it goes first
it makes the closing bracket a text of two characters, which is then no bracket; if the
closing bracket goes first the same text comes about from the other side
(`Chain.opened_bracket_join`).  To see this for every row, the law is proved with brackets
pending on both sides (`Chain.closed_opened`), along with what the items after the first of
a row leave pending, which is the same before and after opening brackets are attached
(`Chain.closedAfter_openedRow`).
-/
namespace DeclDocs

theorem not_isLoose_of_mem_closingBrackets {s : String} (h : s ∈ closingBrackets) :
    ¬ IsLoose openingBrackets s := by
  have hdisjoint : ∀ bracket ∈ closingBrackets, bracket ∉ openingBrackets := by decide
  exact not_or.mpr ⟨Chain.ne_empty_of_mem_closingBrackets h, hdisjoint s h⟩

theorem not_isLoose_of_mem_openingBrackets {s : String} (h : s ∈ openingBrackets) :
    ¬ IsLoose closingBrackets s := by
  have hdisjoint : ∀ bracket ∈ openingBrackets, bracket ∉ closingBrackets := by decide
  exact not_or.mpr ⟨Chain.ne_empty_of_mem_openingBrackets h, hdisjoint s h⟩

namespace Chain

/-! ## Rows that may be empty -/

theorem openedRow_text {s : String} (h : ¬ IsLoose openingBrackets s) (rest : Chain Empty) :
    (text s rest).openedRow = .text s rest.openedRow := by
  rw [openedRow_of_ne_nil (by simp), opened_text_row h, String.join_nil, String.empty_append]

theorem openedRow_text_last (s : String) : (text s .nil).openedRow = .text s .nil := by
  rw [openedRow_of_ne_nil (by simp), opened_text_last, String.join_nil, String.empty_append]

theorem openedRow_nest (inner rest : Chain Empty) :
    (nest inner rest).openedRow = .nest (inner.opened []) rest.openedRow := by
  rw [openedRow_of_ne_nil (by simp), opened_nest_row]

/-! ## Brackets that meet -/

/-- In front of closing brackets, an opening bracket may as well be pending. -/
theorem opened_bracket_join {s : String} (hs : s ∈ openingBrackets) {closing : List String}
    (hclosing : ∀ t ∈ closing, t ∈ closingBrackets) (row : Chain Empty)
    (pending : List String) :
    (text (s ++ String.join closing) row).opened pending =
      (text (String.join closing) row).opened (pending ++ [s]) := by
  by_cases hrow : row = .nil
  · rw [hrow, opened_text_last, opened_text_last, join_concat, String.append_assoc]
  cases closing with
  | nil =>
    rw [String.join_nil, String.append_empty, opened_bracket hs hrow, opened_empty hrow]
  | cons t closing =>
    -- neither text is loose: the first bracket of `closing` closes
    have ht := not_isLoose_of_mem_closingBrackets (hclosing t List.mem_cons_self)
    have hjoin := not_isLoose_append exists_singleton_of_mem_openingBrackets ht
      (String.join closing)
    have hboth := not_isLoose_prepend exists_singleton_of_mem_openingBrackets hjoin s
    rw [String.join_cons, opened_text hboth hrow, opened_text hjoin hrow, join_concat,
      String.append_assoc]

/-- What the items of a row leave pending is taken by its first item, or else by an empty
text in front of it, which is then left out if it got nothing. -/
theorem opened_text_closedAfter {rest : Chain Empty} (hrest : rest ≠ .nil)
    (after before : List String) :
    (text (String.join (rest.closedAfter after).2) (rest.closedAfter after).1).opened before =
      (rest.closed after).opened before := by
  cases rest with
  | nil => exact absurd rfl hrest
  | text s rest =>
    rw [closed_text]
    rcases closedAfter_text_cases s rest after with ⟨rfl, h⟩ | ⟨-, h⟩ | ⟨-, h⟩
    · rw [h, String.empty_append]
    · rw [h, String.join_cons]
    · rw [h, String.join_nil, opened_empty (by simp)]
  | nest inner rest => rw [closed_nest, closedAfter_nest, String.join_nil, opened_empty (by simp)]
  | foreign node => exact node.elim

/-- With something in front of it that is not loose, the first item of a row keeps its
place, so that the items of the row leave nothing pending. -/
theorem closedAfter_opened {before : List String}
    (hbefore : ¬ IsLoose closingBrackets (String.join before)) (chain : Chain Empty)
    (after : List String) :
    (chain.opened before).closedAfter after = ((chain.opened before).closed after, []) := by
  induction chain generalizing before with
  | nil => rw [opened_nil, closedAfter_text hbefore, closed_text]
  | text s rest ih =>
    have hstays := not_isLoose_append exists_singleton_of_mem_closingBrackets hbefore s
    by_cases hrest : rest = .nil
    · rw [hrest, opened_text_last, closedAfter_text hstays, closed_text]
    rcases opened_text_cases s hrest before with ⟨-, h⟩ | ⟨-, h⟩ | ⟨-, h⟩
    · rw [h, ih hbefore]
    · rw [← join_concat] at hstays
      rw [h, ih hstays]
    · rw [h, closedAfter_text hstays, closed_text]
  | nest inner rest => rw [opened_nest_row, closedAfter_nest, closed_nest]
  | foreign node => exact node.elim

/-! ## Either order -/

mutual

/-- Closing and opening brackets may be attached in either order, whatever is pending in
front of the row and whatever closing brackets are pending behind it. -/
theorem closed_opened : ∀ (chain : Chain Empty) (before : List String) {after : List String},
    (∀ t ∈ after, t ∈ closingBrackets) →
    (chain.opened before).closed after = (chain.closed after).opened before
  | .nil, before, after, _ => by
    rw [opened_nil, closed_text, closedAfter_nil, closed_nil, opened_text_last]
  | .text s rest, before, after, hafter => by
    by_cases hrest : rest = .nil
    · rw [hrest, opened_text_last, closed_text, closed_text, closedAfter_nil, opened_text_last,
        String.append_assoc]
    rw [closed_text]
    rcases opened_text_cases s hrest before with ⟨rfl, h⟩ | ⟨hbracket, h⟩ | ⟨hloose, -⟩
    · rw [h, closed_opened rest before hafter, String.empty_append,
        opened_text_closedAfter hrest]
    · have hclosing := mem_closingBrackets_closedAfter rest hafter
      rw [h, closed_opened rest _ hafter, opened_bracket_join hbracket hclosing,
        opened_text_closedAfter hrest]
    · have hstays := not_isLoose_append exists_singleton_of_mem_openingBrackets hloose
        (String.join (rest.closedAfter after).2)
      rw [opened_text_row hloose, closed_text, closedAfter_openedRow rest hafter,
        opened_text_row hstays, String.append_assoc]
  | .nest inner rest, before, after, hafter => by
    have hclosing := mem_closingBrackets_closedAfter rest hafter
    rw [opened_nest_row, closed_nest, closedAfter_openedRow rest hafter,
      closed_opened inner before hclosing, closed_nest, opened_nest_row]
  | .foreign node _, _, _, _ => node.elim

/-- The items after the first leave the same pending with opening brackets attached. -/
theorem closedAfter_openedRow : ∀ (chain : Chain Empty) {after : List String},
    (∀ t ∈ after, t ∈ closingBrackets) →
    chain.openedRow.closedAfter after =
      ((chain.closedAfter after).1.openedRow, (chain.closedAfter after).2)
  | .nil, _, _ => rfl
  | .text s rest, after, hafter => by
    by_cases hrest : rest = .nil
    · rw [hrest, openedRow_text_last]
      rcases closedAfter_text_cases s .nil after with ⟨-, h⟩ | ⟨-, h⟩ | ⟨-, h⟩
      · rw [h]
        rfl
      · rw [h]
        rfl
      · rw [h, closedAfter_nil, openedRow_text_last]
    have ih := closedAfter_openedRow rest hafter
    rw [openedRow_of_ne_nil hrest] at ih
    rcases opened_text_cases s hrest [] with ⟨rfl, h⟩ | ⟨hbracket, h⟩ | ⟨hloose, -⟩
    · rw [openedRow_of_ne_nil (by simp), h, ih, closedAfter_empty]
    · -- the bracket is pending to the right, and keeps its place on the left
      have hclosing := mem_closingBrackets_closedAfter rest hafter
      have hstays := not_isLoose_of_mem_openingBrackets hbracket
      have hbefore : ¬ IsLoose closingBrackets (String.join ([] ++ [s])) := by
        simpa using hstays
      rw [openedRow_of_ne_nil (by simp), h, closedAfter_opened hbefore,
        closed_opened rest _ hafter, closedAfter_text hstays, openedRow_of_ne_nil (by simp),
        opened_bracket_join hbracket hclosing, opened_text_closedAfter hrest]
    · have hempty := (not_or.mp hloose).1
      rw [openedRow_text hloose, openedRow_of_ne_nil hrest]
      rcases closedAfter_text_cases s rest after with ⟨hs, -⟩ | ⟨hs, h⟩ | ⟨hs, h⟩
      · exact absurd hs hempty
      · rw [closedAfter_bracket hs, h, ih]
      · have hstays := not_isLoose_append exists_singleton_of_mem_openingBrackets
          hloose (String.join (rest.closedAfter after).2)
        rw [closedAfter_text hs, h, ih, openedRow_text hstays]
  | .nest inner rest, after, hafter => by
    have hclosing := mem_closingBrackets_closedAfter rest hafter
    rw [openedRow_nest, closedAfter_nest, closedAfter_nest, closedAfter_openedRow rest hafter,
      closed_opened inner [] hclosing, openedRow_nest]
  | .foreign node _, _, _ => node.elim

end

end Chain

namespace Layout

/-- **The two ways to attach brackets commute.**  Whichever comes first, closing or opening
brackets, the result has the same texts and nests in the same order, at the root and inside
every nest; only the concatenations lean the other way. -/
theorem chain_attachOpening_attachClosing (layout : Layout Empty) :
    ((layout.attachClosing []).attachOpening []).chain =
      ((layout.attachOpening []).attachClosing []).chain := by
  have hnone : ∀ t ∈ ([] : List String), t ∈ closingBrackets := List.forall_mem_nil _
  calc ((layout.attachClosing []).attachOpening []).chain
      = (layout.chain.closed []).opened [] := by rw [chain_attachOpening, chain_attachClosing]
    _ = (layout.chain.opened []).closed [] := by rw [Chain.closed_opened layout.chain [] hnone]
    _ = ((layout.attachOpening []).attachClosing []).chain := by
      rw [chain_attachClosing, chain_attachOpening]

end Layout
end DeclDocs
