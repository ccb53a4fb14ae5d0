import DeclDocs.Layout.Simplify

/-! # Simplified layouts

A layout is *simplified* if there is nothing left to merge and every nest says
something: no concatenation has two texts that meet (`TextsMeet`), and the child of
a nest is no nest itself, and a text only if that can be broken.  Texts that stand
next to each other deeper on both sides do not count, because merging looks only
one step into either side.

One run of simplification leads there from any layout, however it leans.  Merging
two simplified sides puts a new text where one of the two stood that met, and
nothing meets the new text: its other neighbour had met the old one already
(`isSimplified_merge`).  So there is nothing to do for a second run.
-/
namespace DeclDocs
namespace Layout

section Shape

variable {F : Type}

/-- Two texts that merging can reach: each of them is its side's whole layout, or
one of them is that and the other one step into its side. -/
inductive TextsMeet : Layout F → Layout F → Prop
  | wholes (a b : String) : TextsMeet (leaf a) (leaf b)
  | opening (a b : String) (rest : Layout F) : TextsMeet (leaf a) (join (leaf b) rest)
  | closing (rest : Layout F) (a b : String) : TextsMeet (join rest (leaf a)) (leaf b)

/-- Whether a nest around the layout says something. -/
def NeedsNest : Layout F → Prop
  | .leaf s => Text.hasBlank s = true
  | .nest _ => False
  | .join _ _ => True
  | .foreign _ => True

/-- Whether no concatenation in the layout has texts that meet, and every nest says
something about its child. -/
def IsSimplified : Layout F → Prop
  | .leaf _ => True
  | .nest child => child.NeedsNest ∧ child.IsSimplified
  | .join left right => ¬ TextsMeet left right ∧ left.IsSimplified ∧ right.IsSimplified
  | .foreign _ => True

/-! ## Merging and enclosing -/

theorem merge_eq_join {left right : Layout F} (h : ¬ TextsMeet left right) :
    left.merge right = join left right := by
  rcases merge_cases left right with ⟨a, b, rfl, rfl, -⟩ | ⟨a, b, rest, rfl, rfl, -⟩ |
    ⟨rest, a, b, rfl, rfl, -⟩ | hjoin
  · exact absurd (.wholes a b) h
  · exact absurd (.opening a b rest) h
  · exact absurd (.closing rest a b) h
  · exact hjoin

/-- What meets a text on its left does so whatever the text says. -/
theorem TextsMeet.of_leaf_left {a : String} {right : Layout F} (h : TextsMeet (leaf a) right)
    (b : String) : TextsMeet (leaf b) right := by
  cases h with
  | wholes a c => exact .wholes b c
  | opening a c rest => exact .opening b c rest

/-- What meets a text on its right does so whatever the text says. -/
theorem TextsMeet.of_leaf_right {a : String} {left : Layout F} (h : TextsMeet left (leaf a))
    (b : String) : TextsMeet left (leaf b) := by
  cases h with
  | wholes c a => exact .wholes c b
  | closing rest c a => exact .closing rest c b

theorem isSimplified_merge {left right : Layout F} (hleft : left.IsSimplified)
    (hright : right.IsSimplified) : (left.merge right).IsSimplified := by
  by_cases hmeet : TextsMeet left right
  · cases hmeet with
    | wholes a b => exact trivial
    | opening a b rest =>
      obtain ⟨hapart, -, hrest⟩ := hright
      refine ⟨?_, trivial, hrest⟩
      intro hnew
      exact hapart (hnew.of_leaf_left b)
    | closing rest a b =>
      obtain ⟨hapart, hrest, -⟩ := hleft
      refine ⟨?_, hrest, trivial⟩
      intro hnew
      exact hapart (hnew.of_leaf_right a)
  · rw [merge_eq_join hmeet]
    exact ⟨hmeet, hleft, hright⟩

theorem enclose_eq_nest {child : Layout F} (h : child.NeedsNest) : child.enclose = nest child := by
  cases child with
  | leaf s => exact if_pos h
  | nest => exact absurd h id
  | join | foreign => rfl

theorem isSimplified_enclose {child : Layout F} (h : child.IsSimplified) :
    child.enclose.IsSimplified := by
  cases child with
  | leaf s =>
    rw [enclose]
    split
    next hs => exact ⟨hs, h⟩
    next => exact h
  | nest child => exact h
  | join | foreign => exact ⟨trivial, h⟩

end Shape

/-! ## Simplification -/

theorem isSimplified_simplify (layout : Layout Empty) : layout.simplify.IsSimplified := by
  induction layout with
  | leaf s =>
    rw [simplify_leaf]
    exact trivial
  | nest child ih =>
    rw [simplify_nest]
    exact isSimplified_enclose ih
  | join left right ihl ihr =>
    rw [simplify_join]
    exact isSimplified_merge ihl ihr
  | foreign node => exact node.elim

theorem simplify_of_isSimplified {layout : Layout Empty} (h : layout.IsSimplified) :
    layout.simplify = layout := by
  induction layout with
  | leaf s => rw [simplify_leaf]
  | nest child ih =>
    obtain ⟨hneeds, hchild⟩ := h
    rw [simplify_nest, ih hchild, enclose_eq_nest hneeds]
  | join left right ihl ihr =>
    obtain ⟨hapart, hleft, hright⟩ := h
    rw [simplify_join, ihl hleft, ihr hright, merge_eq_join hapart]
  | foreign node => exact node.elim

/-- **Simplification reaches its normal form in one run.**  Its results are simplified,
the layouts that it leaves as they are are just the simplified ones, and a second run
changes nothing, for layouts of any association. -/
theorem simplify_in_one_run (layout : Layout Empty) :
    layout.simplify.IsSimplified ∧
      (layout.simplify = layout ↔ layout.IsSimplified) ∧
      layout.simplify.simplify = layout.simplify := by
  have hresult : layout.simplify.IsSimplified := isSimplified_simplify layout
  refine ⟨hresult, ⟨?_, simplify_of_isSimplified⟩, simplify_of_isSimplified hresult⟩
  intro hfixed
  rw [← hfixed]
  exact hresult

/-- Two texts that stand next to each other, each of them one step into its side, are
left apart. -/
example :
    let layout : Layout Empty :=
      .join (.join (.nest (.leaf "a b")) (.leaf "c")) (.join (.leaf "d") (.nest (.leaf "e f")))
    layout.simplify = layout := by
  decide +kernel

end Layout
end DeclDocs
