import DeclDocs.Markup.Basic

/-! # Telescopes

The type of a declaration is split into its leading binders and a body.  The
binders up to the first arrow are shown as named arguments; the rest is shown
as part of the type.
-/
namespace DeclDocs

/-- How a binder is written in source. -/
inductive BinderStyle where
  /-- An explicit argument, `(x : A)`. -/
  | explicit
  /-- An implicit argument, `{x : A}`. -/
  | implicit
  /-- A strict implicit argument, `⦃x : A⦄`. -/
  | strictImplicit
  /-- An instance argument, `[x : A]`. -/
  | instImplicit
  deriving Inhabited, DecidableEq, Repr

namespace BinderStyle

/-- The word for a style in a dump. -/
def word : BinderStyle → String
  | .explicit => "default"
  | .implicit => "implicit"
  | .strictImplicit => "strict_implicit"
  | .instImplicit => "inst_implicit"

/-- The style that a JSON value is the word for. -/
def ofJson? : Json → Option BinderStyle
  | .str "default" => some .explicit
  | .str "implicit" => some .implicit
  | .str "strict_implicit" => some .strictImplicit
  | .str "inst_implicit" => some .instImplicit
  | _ => none

@[simp] theorem ofJson?_word (style : BinderStyle) : ofJson? (.str style.word) = some style := by
  cases style <;> rfl

/-- The brackets around a binder of a style. -/
def brackets : BinderStyle → String × String
  | .explicit => ("(", ")")
  | .implicit => ("\x7b", "\x7d")
  | .strictImplicit => ("⦃", "⦄")
  | .instImplicit => ("[", "]")

end BinderStyle

/-- One binder of a telescope. -/
structure Binder where
  name : String := ""
  style : BinderStyle := .explicit
  type : Markup Empty
  /-- Whether the rest of the telescope mentions the bound variable. -/
  dependent : Bool := false
  deriving DecidableEq

namespace Binder

/-- Whether the binder has no name to show. -/
def isAnonymous (binder : Binder) : Bool :=
  binder.name == "" || binder.name == "_"

/-- Whether the binder is an ordinary arrow. -/
def isArrow (binder : Binder) : Bool :=
  binder.isAnonymous && !binder.dependent

end Binder

/-- A declaration's type: its leading binders and the body they range over. -/
structure Telescope where
  binders : List Binder
  body : Markup Empty
  deriving DecidableEq

namespace Telescope

/-- How many of the leading binders are shown as named arguments: those before
the first arrow. -/
def namedCount (binders : List Binder) : Nat :=
  (binders.takeWhile fun binder => !binder.isArrow).length

/-- The binders shown as named arguments. -/
def named (telescope : Telescope) : List Binder :=
  telescope.binders.take (namedCount telescope.binders)

/-- The binders left in the type. -/
def unnamed (telescope : Telescope) : List Binder :=
  telescope.binders.drop (namedCount telescope.binders)

end Telescope
end DeclDocs
