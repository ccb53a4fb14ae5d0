import DeclDocs.Telescope.Basic

/-! # How telescopes are written

A binder is written with its brackets, `{α : Type u}`, and an anonymous instance
binder as just its class, `[has_add α]`.  Binders in front of a type are written as
arrows or as universal quantifiers.
-/
namespace DeclDocs

/-- Some parts in a row. -/
def Markup.row {F : Type} (first : Markup F) (rest : List (Markup F)) : Markup F :=
  compose .join first rest

namespace Binder

/-- What stands between the brackets of a binder. -/
def inner (binder : Binder) : Markup Empty :=
  if binder.isAnonymous && binder.style == .instImplicit then binder.type
  else
    .row (.raw (if binder.name = "" then "_" else binder.name))
      [.raw " :", .nest (.width 1) (.row (.raw " ") [binder.type])]

/-- A binder with its brackets. -/
def markup (binder : Binder) : Markup Empty :=
  let (opening, closing) := binder.style.brackets
  .group (.nest (.width 1) (.row (.raw opening) [binder.inner, .raw closing]))

/-- A binder in front of the rest of a type. -/
def markupBefore (binder : Binder) (rest : Markup Empty) : Markup Empty :=
  let head : Markup Empty :=
    if binder.isArrow then .row binder.type [.raw " →"]
    else .row (.raw "∀ ") [binder.markup, .raw ","]
  .group (.row head [.nest (.width 2) (.row (.raw " ") [rest])])

end Binder

namespace Telescope

/-- Binders in front of a body. -/
def quantify (binders : List Binder) (body : Markup Empty) : Markup Empty :=
  binders.foldr Binder.markupBefore body

/-- The type of the declaration after its named arguments. -/
def resultType (telescope : Telescope) : Markup Empty :=
  quantify telescope.unnamed telescope.body

end Telescope
end DeclDocs
