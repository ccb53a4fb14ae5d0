import DeclDocs.Proofs.Layout.Text
import DeclDocs.Telescope.Markup

/-! # The text of a telescope

What a binder reads as, in brackets of its own (`Binder.text`) or in front of a type
(`Binder.leadingText`), and where a telescope is split: before its first ordinary arrow
(`Telescope.IsSplit`).

The markup of a binder is made of many small parts, with a blank at the beginning of a
nest.  Its text puts them together again (`Binder.text_markup`), and the text of
binders in front of a body is theirs, one after another, and the body's
(`Telescope.text_quantify`).
-/
namespace DeclDocs

namespace Markup

theorem text_normalLayout (markup : Markup Empty) : markup.normalLayout.text = markup.text := by
  rw [normalLayout, Layout.text_normalize, text_toLayout]

theorem text_row_nil (first : Markup Empty) : (row first []).text = first.text := rfl

theorem text_row_cons (first second : Markup Empty) (rest : List (Markup Empty)) :
    (row first (second :: rest)).text = first.text ++ (row second rest).text := by
  have hrow : ∀ (first : Markup Empty) rest,
      (row first rest).text = first.text ++ String.join (rest.map text) :=
    text_compose fun _ _ => rfl
  rw [hrow, hrow, List.map_cons, String.join_cons]

end Markup

namespace Binder

/-- Whether a binder has no name, or one that stands for none. -/
def IsNameless (binder : Binder) : Prop :=
  binder.name = "" ∨ binder.name = "_"

instance (binder : Binder) : Decidable binder.IsNameless :=
  inferInstanceAs (Decidable (binder.name = "" ∨ binder.name = "_"))

/-- Whether a binder is an ordinary arrow: it has no name, and nothing mentions it. -/
def IsPlain (binder : Binder) : Prop :=
  binder.IsNameless ∧ binder.dependent = false

instance (binder : Binder) : Decidable binder.IsPlain :=
  inferInstanceAs (Decidable (binder.IsNameless ∧ binder.dependent = false))

/-- The text of a binder in its brackets.  An instance without a name shows nothing
but its class. -/
def text (binder : Binder) : String :=
  let shown :=
    if binder.IsNameless ∧ binder.style = .instImplicit then binder.type.text
    else (if binder.name = "" then "_" else binder.name) ++ " : " ++ binder.type.text
  binder.style.brackets.1 ++ shown ++ binder.style.brackets.2

/-- The text of a binder in front of a type. -/
def leadingText (binder : Binder) : String :=
  if binder.IsPlain then binder.type.text ++ " → " else "∀ " ++ binder.text ++ ", "

theorem isAnonymous_iff (binder : Binder) : binder.isAnonymous = true ↔ binder.IsNameless := by
  rw [isAnonymous, Bool.or_eq_true, beq_iff_eq, beq_iff_eq, IsNameless]

theorem isArrow_iff (binder : Binder) : binder.isArrow = true ↔ binder.IsPlain := by
  rw [isArrow, Bool.and_eq_true, isAnonymous_iff, Bool.not_eq_true', IsPlain]

theorem text_inner (binder : Binder) :
    binder.inner.text =
      if binder.IsNameless ∧ binder.style = .instImplicit then binder.type.text
      else (if binder.name = "" then "_" else binder.name) ++ " : " ++ binder.type.text := by
  have hclass : (binder.isAnonymous && binder.style == .instImplicit) = true ↔
      binder.IsNameless ∧ binder.style = .instImplicit := by
    rw [Bool.and_eq_true, isAnonymous_iff, beq_iff_eq]
  by_cases h : binder.IsNameless ∧ binder.style = .instImplicit
  · rw [inner, if_pos (hclass.mpr h), if_pos h]
  · have hcolon : " : " = " :" ++ " " := rfl
    rw [inner, if_neg (mt hclass.mp h), if_neg h, hcolon]
    simp only [Markup.text, Markup.text_row_cons, Markup.text_row_nil, String.append_assoc]

theorem text_markup (binder : Binder) : binder.markup.text = binder.text := by
  show (Markup.row (.raw binder.style.brackets.1)
    [binder.inner, .raw binder.style.brackets.2]).text = binder.text
  rw [text]
  simp only [Markup.text, Markup.text_row_cons, Markup.text_row_nil, text_inner,
    String.append_assoc]

theorem text_markupBefore (binder : Binder) (rest : Markup Empty) :
    (binder.markupBefore rest).text = binder.leadingText ++ rest.text := by
  by_cases h : binder.IsPlain
  · have harrow : " → " = " →" ++ " " := rfl
    rw [markupBefore, if_pos ((isArrow_iff binder).mpr h), leadingText, if_pos h, harrow]
    simp only [Markup.text, Markup.text_row_cons, Markup.text_row_nil, String.append_assoc]
  · have hcomma : ", " = "," ++ " " := rfl
    rw [markupBefore, if_neg (mt (isArrow_iff binder).mp h), leadingText, if_neg h, hcomma,
      ← text_markup]
    simp only [Markup.text, Markup.text_row_cons, Markup.text_row_nil, String.append_assoc]

end Binder

namespace Telescope

theorem text_quantify (binders : List Binder) (body : Markup Empty) :
    (quantify binders body).text = String.join (binders.map Binder.leadingText) ++ body.text := by
  induction binders with
  | nil => rw [quantify, List.foldr_nil, List.map_nil, String.join_nil, String.empty_append]
  | cons binder rest ih =>
    rw [quantify] at ih ⊢
    rw [List.foldr_cons, Binder.text_markupBefore, ih, List.map_cons, String.join_cons,
      String.append_assoc]

/-- Whether a telescope is split before its first ordinary arrow: the named binders have
none among them, and the rest begins with one. -/
structure IsSplit (telescope : Telescope) (named rest : List Binder) : Prop where
  binders_eq : telescope.binders = named ++ rest
  named_not_plain : ∀ binder ∈ named, ¬ binder.IsPlain
  rest_plain : ∀ binder ∈ rest.head?, binder.IsPlain

theorem named_append_unnamed (telescope : Telescope) :
    telescope.named ++ telescope.unnamed = telescope.binders :=
  List.take_append_drop ..

theorem named_eq_takeWhile (telescope : Telescope) :
    telescope.named = telescope.binders.takeWhile fun binder => !binder.isArrow :=
  (List.prefix_iff_eq_take.mp (List.takeWhile_prefix _)).symm

theorem unnamed_eq_dropWhile (telescope : Telescope) :
    telescope.unnamed = telescope.binders.dropWhile fun binder => !binder.isArrow := by
  have hsplit := List.takeWhile_append_dropWhile (p := fun binder => !binder.isArrow)
    (l := telescope.binders)
  rw [← named_eq_takeWhile] at hsplit
  exact (List.append_cancel_left (hsplit.trans (named_append_unnamed telescope).symm)).symm

/-- The named arguments of a telescope are the binders before its first ordinary arrow. -/
theorem isSplit_named_unnamed (telescope : Telescope) :
    telescope.IsSplit telescope.named telescope.unnamed where
  binders_eq := telescope.named_append_unnamed.symm
  named_not_plain := by
    intro binder hbinder
    rw [named_eq_takeWhile] at hbinder
    have harrow := List.all_eq_true.mp List.all_takeWhile binder hbinder
    rw [← Binder.isArrow_iff]
    simpa using harrow
  rest_plain := by
    intro binder hbinder
    rw [unnamed_eq_dropWhile] at hbinder
    have harrow := List.head?_dropWhile_not (fun binder => !binder.isArrow) telescope.binders
    rw [hbinder] at harrow
    rw [← Binder.isArrow_iff]
    simpa using harrow

end Telescope
end DeclDocs
