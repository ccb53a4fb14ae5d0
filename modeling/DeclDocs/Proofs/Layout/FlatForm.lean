import DeclDocs.Markup.Basic
import DeclDocs.Proofs.Layout.Loose

/-! # Flat forms

A printer may group its output in many ways: it may put groups and highlights
around parts, indent nests by any width, associate concatenations to either side,
and put empty texts anywhere.  The *flat form* of markup forgets all this and
keeps, at every level, the row of texts and nests.  Normal layouts depend on
nothing else (`normalLayout_eq`).

The proof follows the passes.  Attaching closing brackets commutes with
tidying a chain (`closed_tidied`): only the first item of a row may still be an
empty text afterwards, because it was there to carry brackets.  On such a chain
attaching opening brackets gives the same as on the tidied one
(`opened_tidied`), for there the first item, if it is empty and others follow, is
left out like any other.
-/
namespace DeclDocs
namespace Chain

variable {F : Type}

/-- A row of no items with one empty text in it, and any other row as it is. -/
def orEmptyText : Chain F → Chain F
  | .nil => .text "" .nil
  | chain => chain

/-- The chain without the empty texts of its rows.  Inside a nest a row that has
nothing else keeps one of them. -/
def withoutEmpty : Chain F → Chain F
  | .nil => .nil
  | .text s rest => if s = "" then rest.withoutEmpty else .text s rest.withoutEmpty
  | .nest inner rest => .nest inner.withoutEmpty.orEmptyText rest.withoutEmpty
  | .foreign node rest => .foreign node rest.withoutEmpty

/-- The chain without the empty texts of its rows, where a row that has nothing
else keeps one of them. -/
def tidied (chain : Chain F) : Chain F :=
  chain.withoutEmpty.orEmptyText

end Chain

namespace Markup

variable {F : Type}

/-- The texts and nests of markup in rows, without groups, highlights and indents. -/
def chain : Markup F → Chain F
  | .raw s => .text s .nil
  | .group child => child.chain
  | .highlight _ child => child.chain
  | .nest _ child => .nest child.chain .nil
  | .join left right => left.chain ++ right.chain
  | .foreign node => .foreign node .nil

/-- What is left of markup when it is forgotten how the printer grouped it. -/
def flatForm (markup : Markup F) : Chain F :=
  markup.chain.tidied

theorem chain_toLayout (markup : Markup Empty) : markup.toLayout.chain = markup.chain := by
  induction markup with
  | raw s => rw [toLayout_raw, Layout.chain_leaf, chain]
  | group child ih => rw [toLayout_group, ih, chain]
  | highlight color child ih => rw [toLayout_highlight, ih, chain]
  | nest indent child ih => rw [toLayout_nest, Layout.chain_nest, ih, chain]
  | join left right ihl ihr => rw [toLayout_join, Layout.chain_join, ihl, ihr, chain]
  | foreign node => exact node.elim

end Markup

namespace Chain

section Tidying

variable {F : Type}

@[simp] theorem orEmptyText_nil : orEmptyText (.nil : Chain F) = .text "" .nil := rfl

@[simp] theorem orEmptyText_text (s : String) (rest : Chain F) :
    (text s rest).orEmptyText = .text s rest := rfl

@[simp] theorem orEmptyText_nest (inner rest : Chain F) :
    (nest inner rest).orEmptyText = .nest inner rest := rfl

theorem orEmptyText_of_ne_nil {chain : Chain F} (h : chain ≠ .nil) :
    chain.orEmptyText = chain := by
  cases chain with
  | nil => exact absurd rfl h
  | text | nest | foreign => rfl

/-- A text in front of a row.  An empty one is only kept in an empty row. -/
def ledBy (s : String) (rest : Chain F) : Chain F :=
  if s = "" then rest.orEmptyText else .text s rest

theorem ledBy_empty (rest : Chain F) : rest.ledBy "" = rest.orEmptyText := by
  rw [ledBy, if_pos rfl]

theorem ledBy_of_ne_empty {s : String} (hs : s ≠ "") (rest : Chain F) :
    rest.ledBy s = .text s rest := by
  rw [ledBy, if_neg hs]

theorem withoutEmpty_empty (rest : Chain F) :
    (text "" rest).withoutEmpty = rest.withoutEmpty := by
  rw [withoutEmpty, if_pos rfl]

theorem withoutEmpty_text {s : String} (hs : s ≠ "") (rest : Chain F) :
    (text s rest).withoutEmpty = .text s rest.withoutEmpty := by
  rw [withoutEmpty, if_neg hs]

theorem withoutEmpty_nest (inner rest : Chain F) :
    (nest inner rest).withoutEmpty = .nest inner.tidied rest.withoutEmpty := by
  rw [withoutEmpty, tidied]

theorem tidied_text (s : String) (rest : Chain F) :
    (text s rest).tidied = rest.withoutEmpty.ledBy s := by
  by_cases hs : s = ""
  · rw [hs, tidied, withoutEmpty_empty, ledBy_empty]
  · rw [tidied, withoutEmpty_text hs, ledBy_of_ne_empty hs, orEmptyText_text]

theorem tidied_nest (inner rest : Chain F) :
    (nest inner rest).tidied = .nest inner.tidied rest.withoutEmpty := by
  rw [tidied, withoutEmpty_nest, orEmptyText_nest]

theorem empty_not_mem_row_withoutEmpty (chain : Chain F) :
    some "" ∉ chain.withoutEmpty.row := by
  induction chain with
  | nil => simp [withoutEmpty, row]
  | text s rest ih =>
    by_cases hs : s = ""
    · rw [hs, withoutEmpty_empty]
      exact ih
    · rw [withoutEmpty_text hs]
      simp [row, Ne.symm hs, ih]
  | nest inner rest _ ih => simpa [withoutEmpty, row] using ih
  | foreign node rest ih => simpa [withoutEmpty, row] using ih

theorem withoutEmpty_eq_nil_iff {chain : Chain F} (hrow : some "" ∉ chain.row) :
    chain.withoutEmpty = .nil ↔ chain = .nil := by
  cases chain with
  | nil => exact Iff.rfl
  | text s rest =>
    have hs : s ≠ "" := by
      rintro rfl
      exact hrow List.mem_cons_self
    simp [withoutEmpty_text hs]
  | nest | foreign => simp [withoutEmpty]

end Tidying

/-! ## Closing brackets -/

/-- In a row without empty texts the first item takes what the items after an
empty text would leave pending to it. -/
theorem closed_orEmptyText {chain : Chain Empty} (h : some "" ∉ chain.row)
    (pending : List String) :
    chain.orEmptyText.closed pending =
      (chain.closedAfter pending).1.ledBy (String.join (chain.closedAfter pending).2) := by
  cases chain with
  | nil =>
    rw [orEmptyText_nil, closed_text, closedAfter_nil, String.empty_append, ledBy]
    split
    next hjoin => rw [hjoin, orEmptyText_nil]
    next => rfl
  | text s rest =>
    have hs : s ≠ "" := by
      rintro rfl
      exact h List.mem_cons_self
    rw [orEmptyText_text, closed_text]
    rcases closedAfter_text_cases s rest pending with ⟨hempty, -⟩ | ⟨-, h⟩ | ⟨-, h⟩
    · exact absurd hempty hs
    · rw [h, String.join_cons, ledBy_of_ne_empty (by simp [hs])]
    · rw [h, String.join_nil, ledBy_empty, orEmptyText_text]
  | nest inner rest =>
    rw [orEmptyText_nest, closed_nest, closedAfter_nest, String.join_nil, ledBy_empty,
      orEmptyText_nest]
  | foreign node => exact node.elim

mutual

/-- Attaching closing brackets commutes with tidying. -/
theorem closed_tidied : ∀ (chain : Chain Empty) (pending : List String),
    chain.tidied.closed pending = (chain.closed pending).tidied
  | .nil, pending => by
    rw [closed_nil, tidied_text, tidied, withoutEmpty, closed_orEmptyText (by simp [row]),
      closedAfter_nil]
  | .text s rest, pending => by
    rw [closed_text, tidied_text, tidied_text]
    by_cases hs : s = ""
    · -- the empty first text only carries what the items after it leave pending
      rw [hs, ledBy_empty, closed_orEmptyText (empty_not_mem_row_withoutEmpty rest),
        closedAfter_withoutEmpty rest, String.empty_append]
    · rw [ledBy_of_ne_empty hs, closed_text, closedAfter_withoutEmpty rest,
        ledBy_of_ne_empty (by simp [hs])]
  | .nest inner rest, pending => by
    rw [tidied_nest, closed_nest, closed_nest, tidied_nest, closedAfter_withoutEmpty rest,
      closed_tidied inner]
  | .foreign node _, _ => node.elim

/-- What is left pending does not depend on the empty texts of a row. -/
theorem closedAfter_withoutEmpty : ∀ (chain : Chain Empty) (pending : List String),
    chain.withoutEmpty.closedAfter pending =
      ((chain.closedAfter pending).1.withoutEmpty, (chain.closedAfter pending).2)
  | .nil, pending => rfl
  | .text s rest, pending => by
    have ih := closedAfter_withoutEmpty rest pending
    rcases closedAfter_text_cases s rest pending with ⟨rfl, h⟩ | ⟨hbracket, h⟩ | ⟨hloose, h⟩
    · rw [h, withoutEmpty_empty, ih]
    · rw [h, withoutEmpty_text (ne_empty_of_mem_closingBrackets hbracket),
        closedAfter_bracket hbracket, ih]
    · have hs := (not_or.mp hloose).1
      rw [h, withoutEmpty_text hs, closedAfter_text hloose, ih, withoutEmpty_text (by simp [hs])]
  | .nest inner rest, pending => by
    rw [withoutEmpty_nest, closedAfter_nest, closedAfter_nest, withoutEmpty_nest,
      closedAfter_withoutEmpty rest, closed_tidied inner]
  | .foreign node _, _ => node.elim

end

/-! ## Opening brackets -/

/-- No text after the first item of the row is empty. -/
def EmptyOnlyFirst (row : Row) : Prop :=
  some "" ∉ row.tail

theorem emptyOnlyFirst_of_noLooseClosing {row : Row} (h : NoLooseClosing row) :
    EmptyOnlyFirst row :=
  fun hmem => h "" hmem (Or.inl rfl)

theorem opened_text_congr (s : String) {rest after : Chain Empty}
    (hnil : after = .nil ↔ rest = .nil) (h : ∀ pending, after.opened pending = rest.opened pending)
    (pending : List String) : (text s after).opened pending = (text s rest).opened pending := by
  by_cases hrest : rest = .nil
  · rw [hrest, hnil.mpr hrest]
  have hafter : after ≠ .nil := mt hnil.mp hrest
  rcases opened_text_cases s hrest pending with ⟨rfl, hs⟩ | ⟨hbracket, hs⟩ | ⟨hloose, hs⟩
  · rw [hs, opened_empty hafter, h]
  · rw [hs, opened_bracket hbracket hafter, h]
  · rw [hs, opened_text hloose hafter, h]

theorem opened_nest_congr {inner inside rest after : Chain Empty}
    (hinner : ∀ pending, inside.opened pending = inner.opened pending)
    (hnil : after = .nil ↔ rest = .nil) (h : ∀ pending, after.opened pending = rest.opened pending)
    (pending : List String) :
    (nest inside after).opened pending = (nest inner rest).opened pending := by
  by_cases hrest : rest = .nil
  · rw [hrest, hnil.mpr hrest, opened_nest_last, opened_nest_last, hinner]
  · rw [opened_nest inside (mt hnil.mp hrest), opened_nest inner hrest, hinner, h]

mutual

/-- Where empty texts only come first, opening brackets attach to a chain as they
do to the tidied one. -/
theorem opened_tidied : ∀ chain : Chain Empty, EmptyOnlyFirst chain.row →
    chain.InNests EmptyOnlyFirst →
    ∀ pending, chain.tidied.opened pending = chain.opened pending
  | .nil, _, _, pending => by
    rw [tidied, withoutEmpty, orEmptyText_nil, opened_text_last, String.append_empty, opened_nil]
  | .text s rest, hrow, hnests, pending => by
    have ih := opened_withoutEmpty rest hrow hnests
    have hnil := withoutEmpty_eq_nil_iff hrow
    by_cases hs : s = ""
    · by_cases hrest : rest = .nil
      · rw [hs, hrest]; rfl
      · -- with others after it the empty text is left out on either side
        rw [hs, tidied_text, ledBy_empty, orEmptyText_of_ne_nil (mt hnil.mp hrest),
          opened_empty hrest, ih]
    · rw [tidied_text, ledBy_of_ne_empty hs]
      exact opened_text_congr s hnil ih pending
  | .nest inner rest, hrow, hnests, pending => by
    obtain ⟨⟨hinner, hinners⟩, hrests⟩ := hnests
    rw [tidied_nest]
    exact opened_nest_congr (opened_tidied inner hinner hinners) (withoutEmpty_eq_nil_iff hrow)
      (opened_withoutEmpty rest hrow hrests) pending
  | .foreign node _, _, _, _ => node.elim

theorem opened_withoutEmpty : ∀ chain : Chain Empty, some "" ∉ chain.row →
    chain.InNests EmptyOnlyFirst →
    ∀ pending, chain.withoutEmpty.opened pending = chain.opened pending
  | .nil, _, _, pending => rfl
  | .text s rest, hrow, hnests, pending => by
    obtain ⟨hs, hrest⟩ := not_or.mp (mt List.mem_cons.mpr hrow)
    rw [withoutEmpty_text (fun h => hs (congrArg some h.symm))]
    exact opened_text_congr s (withoutEmpty_eq_nil_iff hrest)
      (opened_withoutEmpty rest hrest hnests) pending
  | .nest inner rest, hrow, hnests, pending => by
    obtain ⟨⟨hinner, hinners⟩, hrests⟩ := hnests
    have hrest : some "" ∉ rest.row := mt (List.mem_cons_of_mem none) hrow
    rw [withoutEmpty_nest]
    exact opened_nest_congr (opened_tidied inner hinner hinners) (withoutEmpty_eq_nil_iff hrest)
      (opened_withoutEmpty rest hrest hrests) pending
  | .foreign node _, _, _, _ => node.elim

end

/-- Brackets attach to a chain as they do to the tidied one. -/
theorem attached_tidied (chain : Chain Empty) :
    (chain.tidied.closed []).opened [] = (chain.closed []).opened [] := by
  obtain ⟨hrow, hnests⟩ := noLooseClosing_closed chain []
  rw [closed_tidied]
  exact opened_tidied _ (emptyOnlyFirst_of_noLooseClosing hrow)
    (hnests.imp fun _ => emptyOnlyFirst_of_noLooseClosing) []

end Chain

namespace Markup

/-- The normal layout of markup is made from its flat form. -/
theorem normalLayout_eq (markup : Markup Empty) :
    markup.normalLayout =
      ((markup.flatForm.closed []).opened []).leanRight.simplify := by
  rw [normalLayout, Layout.normalize_eq, Layout.attachBrackets_eq, chain_toLayout, flatForm,
    Chain.attached_tidied]

/-- **Normal layouts are blind to how the printer grouped its output**: markup with
one flat form has one normal layout. -/
theorem normalLayout_eq_of_flatForm_eq {p q : Markup Empty} (h : p.flatForm = q.flatForm) :
    p.normalLayout = q.normalLayout := by
  rw [normalLayout_eq, normalLayout_eq, h]

/-- An application, printed with a highlighted head and empty texts about, and
printed plainly. -/
theorem normalLayout_eq_of_regrouping :
    let grouped : Markup Empty :=
      .group (.join (.raw "") (.join (.highlight "red" (.join (.raw "f ") (.raw "(")))
        (.nest (.width 2) (.join (.join (.raw "x y") (.raw "")) (.raw ")")))))
    let plain : Markup Empty :=
      .join (.join (.raw "f ") (.raw "(")) (.nest (.flag true) (.join (.raw "x y") (.raw ")")))
    grouped ≠ plain ∧ grouped.flatForm = plain.flatForm ∧
      grouped.normalLayout = plain.normalLayout := by
  intro grouped plain
  have hflat : grouped.flatForm = plain.flatForm := by decide
  exact ⟨by decide, hflat, normalLayout_eq_of_flatForm_eq hflat⟩

end Markup
end DeclDocs
