import DeclDocs.Proofs.Layout.Canonical
import DeclDocs.Proofs.Layout.Text

/-! # The nests of a layout

A nest is known by what it encloses and where: its own text, the text of the layout
before it, and the nests around it.  This module lists the nests of a layout in
order (`nestings`) and says what becomes of them.

Simplification keeps the nests whose text can be broken and whose child is no nest
itself, in their places (`nestings_simplify`).  The rule of the pass is local: it looks
at a child that is already simplified.  It amounts to the rule on the layout as it
was (`needsNest_simplify_iff`), because a layout whose text cannot be broken is
simplified to one text, and because nothing but a nest is simplified to a nest.

Attaching brackets moves brackets across the boundaries of nests, but no bracket is
blank, so that a nest encloses a blank afterwards if and only if it did before
(`blanks_closed`, `blanks_opened`).  Hence normalization leaves one text exactly where
no nest encloses a blank (`normalize_eq_leaf_iff`).
-/
namespace DeclDocs

/-- What a nest encloses: a text, after some other text. -/
structure Enclosure where
  /-- The text of the whole layout before the nest. -/
  before : String
  text : String
  /-- Whether the child of the nest is a nest itself. -/
  doubled : Bool
  deriving DecidableEq, Repr

/-- Whether simplification keeps a nest: its text can be broken, and its child is no
nest. -/
def Enclosure.survives (enclosure : Enclosure) : Bool :=
  Text.hasBlank enclosure.text && !enclosure.doubled

/-- A nest together with the nests around it, the innermost first. -/
structure Nesting where
  self : Enclosure
  around : List Enclosure
  deriving DecidableEq, Repr

/-- What is left of some nests when only those of a kind are kept. -/
def keepNests (kept : Enclosure → Bool) (nestings : List Nesting) : List Nesting :=
  (nestings.filter fun nesting => kept nesting.self).map fun nesting =>
    { nesting with around := nesting.around.filter kept }

theorem keepNests_append (kept : Enclosure → Bool) (nestings more : List Nesting) :
    keepNests kept (nestings ++ more) = keepNests kept nestings ++ keepNests kept more := by
  rw [keepNests, List.filter_append, List.map_append, ← keepNests, ← keepNests]

theorem keepNests_cons_of_kept {kept : Enclosure → Bool} {nesting : Nesting}
    (h : kept nesting.self = true) (rest : List Nesting) :
    keepNests kept (nesting :: rest) =
      { nesting with around := nesting.around.filter kept } :: keepNests kept rest := by
  simp [keepNests, h]

theorem keepNests_cons_of_dropped {kept : Enclosure → Bool} {nesting : Nesting}
    (h : ¬ kept nesting.self = true) (rest : List Nesting) :
    keepNests kept (nesting :: rest) = keepNests kept rest := by
  simp [keepNests, h]

namespace Layout

/-- Whether the layout is a nest. -/
def isNest {F : Type} : Layout F → Bool
  | .nest _ => true
  | _ => false

/-- The nests of a layout that stands after a text and inside some nests. -/
def nestingsAfter (before : String) (around : List Enclosure) : Layout Empty → List Nesting
  | .leaf _ => []
  | .nest child =>
    let self : Enclosure := ⟨before, child.text, child.isNest⟩
    ⟨self, around⟩ :: child.nestingsAfter before (self :: around)
  | .join left right =>
    left.nestingsAfter before around ++ right.nestingsAfter (before ++ left.text) around
  | .foreign absurdity => absurdity.elim

/-- The nests of a layout: a nest before those inside it, and those on the left first. -/
def nestings (layout : Layout Empty) : List Nesting :=
  layout.nestingsAfter "" []

/-! ## Simplification -/

theorem nestingsAfter_merge (left right : Layout Empty) (before : String)
    (around : List Enclosure) :
    (left.merge right).nestingsAfter before around =
      left.nestingsAfter before around ++ right.nestingsAfter (before ++ left.text) around := by
  rcases merge_cases left right with ⟨a, b, rfl, rfl, h⟩ | ⟨a, b, rest, rfl, rfl, h⟩ |
    ⟨rest, a, b, rfl, rfl, h⟩ | h
  · rw [h]
    rfl
  · rw [h, nestingsAfter, nestingsAfter, nestingsAfter, nestingsAfter, nestingsAfter, text_leaf,
      text_leaf, text_leaf, String.append_assoc, List.nil_append, List.nil_append]
  · rw [h, nestingsAfter, nestingsAfter, nestingsAfter, nestingsAfter, nestingsAfter,
      List.append_nil, List.append_nil]
  · rw [h, nestingsAfter]

/-- A layout whose text cannot be broken is simplified to that text. -/
theorem simplify_eq_leaf {layout : Layout Empty} (h : Text.hasBlank layout.text = false) :
    layout.simplify = .leaf layout.text := by
  induction layout with
  | leaf s => rw [simplify_leaf, text_leaf]
  | nest child ih =>
    rw [text_nest] at h ⊢
    rw [simplify_nest, ih h, enclose, if_neg (by simp [h])]
  | join left right ihl ihr =>
    rw [text_join, Text.hasBlank_append, Bool.or_eq_false_iff] at h
    obtain ⟨hleft, hright⟩ := h
    rw [simplify_join, ihl hleft, ihr hright, text_join, merge]
  | foreign node => exact node.elim

theorem isNest_merge (left right : Layout Empty) : (left.merge right).isNest = false := by
  rcases merge_cases left right with ⟨a, b, -, -, h⟩ | ⟨a, b, rest, -, -, h⟩ |
    ⟨rest, a, b, -, -, h⟩ | h <;> rw [h] <;> rfl

theorem isNest_simplify {layout : Layout Empty} (h : layout.isNest = false) :
    layout.simplify.isNest = false := by
  cases layout with
  | leaf s => rw [simplify_leaf]; rfl
  | nest child => exact absurd h (by simp [isNest])
  | join left right => rw [simplify_join, isNest_merge]
  | foreign node => exact node.elim

theorem NeedsNest.isNest_eq_false {layout : Layout Empty} (h : layout.NeedsNest) :
    layout.isNest = false := by
  cases layout with
  | nest child => exact h.elim
  | leaf | join | foreign => rfl

theorem needsNest_of_hasBlank {layout : Layout Empty} (hnest : layout.isNest = false)
    (hblank : Text.hasBlank layout.text = true) : layout.NeedsNest := by
  cases layout with
  | leaf s => rwa [text_leaf] at hblank
  | nest child => exact absurd hnest (by simp [isNest])
  | join | foreign => trivial

theorem enclose_eq_self {child : Layout Empty} (h : ¬ child.NeedsNest) :
    child.enclose = child := by
  cases child with
  | leaf s => exact if_neg h
  | nest child => rfl
  | join left right => exact absurd trivial h
  | foreign node => exact node.elim

theorem not_needsNest_enclose (child : Layout Empty) : ¬ child.enclose.NeedsNest := by
  intro h
  by_cases hneeds : child.NeedsNest
  · rw [enclose_eq_nest hneeds] at h
    exact h
  · rw [enclose_eq_self hneeds] at h
    exact hneeds h

/-- The child of a nest needs the nest when it is simplified if and only if its text
can be broken and it is no nest before it is simplified. -/
theorem needsNest_simplify_iff (child : Layout Empty) :
    child.simplify.NeedsNest ↔ Text.hasBlank child.text = true ∧ child.isNest = false := by
  constructor
  · intro hneeds
    constructor
    · -- without a blank the child would be a single text that needs no nest
      by_contra hblank
      rw [simplify_eq_leaf (Bool.eq_false_iff.mpr hblank)] at hneeds
      exact hblank hneeds
    · cases child with
      | nest child =>
        rw [simplify_nest] at hneeds
        exact absurd hneeds (not_needsNest_enclose _)
      | leaf | join | foreign => rfl
  · rintro ⟨hblank, hnest⟩
    rw [← text_simplify] at hblank
    exact needsNest_of_hasBlank (isNest_simplify hnest) hblank

/-- The nests that survive simplification, wherever the layout stands. -/
theorem nestingsAfter_simplify (layout : Layout Empty) (before : String)
    (around : List Enclosure) :
    layout.simplify.nestingsAfter before (around.filter Enclosure.survives) =
      keepNests Enclosure.survives (layout.nestingsAfter before around) := by
  induction layout generalizing before around with
  | leaf s =>
    rw [simplify_leaf]
    rfl
  | nest child ih =>
    have hsurvives : Enclosure.survives ⟨before, child.text, child.isNest⟩ = true ↔
        child.simplify.NeedsNest := by
      rw [needsNest_simplify_iff, Enclosure.survives, Bool.and_eq_true, Bool.not_eq_true']
    have hinside := ih before (⟨before, child.text, child.isNest⟩ :: around)
    rw [simplify_nest, nestingsAfter]
    by_cases hneeds : child.simplify.NeedsNest
    · have hkept := hsurvives.mpr hneeds
      have hdoubled := ((needsNest_simplify_iff child).mp hneeds).2
      rw [List.filter_cons_of_pos hkept] at hinside
      rw [keepNests_cons_of_kept hkept, ← hinside, enclose_eq_nest hneeds, nestingsAfter,
        text_simplify, hneeds.isNest_eq_false, hdoubled]
    · have hdropped := mt hsurvives.mp hneeds
      rw [List.filter_cons_of_neg hdropped] at hinside
      rw [keepNests_cons_of_dropped hdropped, ← hinside, enclose_eq_self hneeds]
  | join left right ihl ihr =>
    rw [simplify_join, nestingsAfter_merge, text_simplify, ihl, ihr, nestingsAfter,
      keepNests_append]
  | foreign node => exact node.elim

/-! ## One text -/

/-- The texts that the nests of a layout enclose, in the order of the nests. -/
def nestTexts : Layout Empty → List String
  | .leaf _ => []
  | .nest child => child.text :: child.nestTexts
  | .join left right => left.nestTexts ++ right.nestTexts
  | .foreign absurdity => absurdity.elim

theorem map_text_nestingsAfter (layout : Layout Empty) (before : String)
    (around : List Enclosure) :
    ((layout.nestingsAfter before around).map fun nesting => nesting.self.text) =
      layout.nestTexts := by
  induction layout generalizing before around with
  | leaf s => rfl
  | nest child ih => rw [nestingsAfter, List.map_cons, ih, nestTexts]
  | join left right ihl ihr => rw [nestingsAfter, List.map_append, ihl, ihr, nestTexts]
  | foreign node => exact node.elim

theorem eq_leaf_of_enclose_eq_leaf {child : Layout Empty} {s : String}
    (h : child.enclose = .leaf s) : child = .leaf s ∧ Text.hasBlank s = false := by
  by_cases hneeds : child.NeedsNest
  · rw [enclose_eq_nest hneeds] at h
    exact absurd h (by simp)
  · rw [enclose_eq_self hneeds] at h
    rw [h] at hneeds
    exact ⟨h, Bool.eq_false_iff.mpr hneeds⟩

theorem eq_leaf_of_merge_eq_leaf {left right : Layout Empty} {s : String}
    (h : left.merge right = .leaf s) : left = .leaf left.text ∧ right = .leaf right.text := by
  rcases merge_cases left right with ⟨a, b, rfl, rfl, -⟩ | ⟨a, b, rest, -, -, hmerge⟩ |
    ⟨rest, a, b, -, -, hmerge⟩ | hmerge
  · rw [text_leaf, text_leaf]
    exact ⟨rfl, rfl⟩
  all_goals
    rw [hmerge] at h
    exact absurd h (by simp)

/-- Simplification leaves one text if and only if no nest encloses a blank. -/
theorem simplify_eq_leaf_iff (layout : Layout Empty) :
    layout.simplify = .leaf layout.text ↔
      ∀ enclosed ∈ layout.nestTexts, Text.hasBlank enclosed = false := by
  induction layout with
  | leaf s => simp [nestTexts]
  | nest child ih =>
    rw [nestTexts, List.forall_mem_cons, text_nest]
    constructor
    · intro h
      rw [simplify_nest] at h
      obtain ⟨hchild, hblank⟩ := eq_leaf_of_enclose_eq_leaf h
      exact ⟨hblank, ih.mp hchild⟩
    · rintro ⟨hblank, -⟩
      rw [← text_nest] at hblank ⊢
      exact simplify_eq_leaf hblank
  | join left right ihl ihr =>
    rw [nestTexts, List.forall_mem_append, ← ihl, ← ihr, simplify_join, text_join]
    constructor
    · intro h
      obtain ⟨hleft, hright⟩ := eq_leaf_of_merge_eq_leaf h
      rw [text_simplify] at hleft hright
      exact ⟨hleft, hright⟩
    · rintro ⟨hleft, hright⟩
      rw [hleft, hright, merge]
  | foreign node => exact node.elim

end Layout

namespace Chain

/-- The texts that the nests of a chain enclose, in the order of the nests. -/
def nestTexts : Chain Empty → List String
  | .nil => []
  | .text _ rest => rest.nestTexts
  | .nest inner rest => inner.allText :: inner.nestTexts ++ rest.nestTexts
  | .foreign absurdity _ => absurdity.elim

/-- For every nest of a chain, whether it encloses a blank. -/
def blanks (chain : Chain Empty) : List Bool :=
  chain.nestTexts.map Text.hasBlank

theorem nestTexts_append (chain after : Chain Empty) :
    (chain ++ after).nestTexts = chain.nestTexts ++ after.nestTexts := by
  induction chain with
  | nil => rfl
  | text s rest ih => rw [text_append, nestTexts, ih, nestTexts]
  | nest inner rest _ ih =>
    rw [nest_append, nestTexts, ih, nestTexts, List.append_assoc]
  | foreign node => exact node.elim

theorem blanks_nest (inner rest : Chain Empty) :
    (nest inner rest).blanks = Text.hasBlank inner.allText :: inner.blanks ++ rest.blanks := by
  rw [blanks, nestTexts, List.map_append, List.map_cons, ← blanks, ← blanks]

theorem blanks_nest_congr {inner inner' rest rest' : Chain Empty}
    (htext : Text.hasBlank inner.allText = Text.hasBlank inner'.allText)
    (hinner : inner.blanks = inner'.blanks) (hrest : rest.blanks = rest'.blanks) :
    (nest inner rest).blanks = (nest inner' rest').blanks := by
  rw [blanks_nest, blanks_nest, htext, hinner, hrest]

/-- Whether there is no blank in what is pending. -/
def Solid (pending : List String) : Prop :=
  Text.hasBlank (String.join pending) = false

theorem solid_nil : Solid [] := by
  unfold Solid
  decide

theorem solid_cons {s : String} {pending : List String} :
    Solid (s :: pending) ↔ Text.hasBlank s = false ∧ Solid pending := by
  rw [Solid, String.join_cons, Text.hasBlank_append, Bool.or_eq_false_iff, ← Solid]

theorem solid_concat {s : String} {pending : List String} :
    Solid (pending ++ [s]) ↔ Solid pending ∧ Text.hasBlank s = false := by
  rw [Solid, join_concat, Text.hasBlank_append, Bool.or_eq_false_iff, ← Solid]

theorem hasBlank_allText_closed (inner : Chain Empty) {pending : List String}
    (hsolid : Solid pending) :
    Text.hasBlank (inner.closed pending).allText = Text.hasBlank inner.allText := by
  rw [allText_closed, Text.hasBlank_append, hsolid, Bool.or_false]

theorem hasBlank_allText_opened (inner : Chain Empty) {pending : List String}
    (hsolid : Solid pending) :
    Text.hasBlank (inner.opened pending).allText = Text.hasBlank inner.allText := by
  rw [allText_opened, Text.hasBlank_append, hsolid, Bool.false_or]

theorem hasBlank_closingBracket : ∀ s ∈ closingBrackets, Text.hasBlank s = false := by
  decide

theorem hasBlank_openingBracket : ∀ s ∈ openingBrackets, Text.hasBlank s = false := by
  decide

mutual

/-- Closing brackets that enter a nest bring no blank with them. -/
theorem blanks_closed : ∀ (chain : Chain Empty) (pending : List String), Solid pending →
    (chain.closed pending).blanks = chain.blanks
  | .nil, _, _ => rfl
  | .text s rest, pending, hsolid => by
    rw [closed_text]
    exact (blanks_closedAfter rest pending hsolid).1
  | .nest inner rest, pending, hsolid => by
    obtain ⟨hrest, hleft⟩ := blanks_closedAfter rest pending hsolid
    rw [closed_nest]
    exact blanks_nest_congr (hasBlank_allText_closed inner hleft) (blanks_closed inner _ hleft) hrest
  | .foreign node _, _, _ => node.elim

theorem blanks_closedAfter : ∀ (chain : Chain Empty) (pending : List String), Solid pending →
    (chain.closedAfter pending).1.blanks = chain.blanks ∧ Solid (chain.closedAfter pending).2
  | .nil, _, hsolid => ⟨rfl, hsolid⟩
  | .text s rest, pending, hsolid => by
    have hrest := blanks_closedAfter rest pending hsolid
    rcases closedAfter_text_cases s rest pending with ⟨-, h⟩ | ⟨hbracket, h⟩ | ⟨-, h⟩
    · rw [h]
      exact hrest
    · rw [h]
      exact ⟨hrest.1, solid_cons.mpr ⟨hasBlank_closingBracket s hbracket, hrest.2⟩⟩
    · rw [h]
      exact ⟨hrest.1, solid_nil⟩
  | .nest inner rest, pending, hsolid => by
    -- the nest takes in whatever is pending behind it, so that nothing is left
    obtain ⟨hrest, hleft⟩ := blanks_closedAfter rest pending hsolid
    have hinner := blanks_closed inner _ hleft
    rw [closedAfter_nest]
    exact ⟨blanks_nest_congr (hasBlank_allText_closed inner hleft) hinner hrest, solid_nil⟩
  | .foreign node _, _, _ => node.elim

end

/-- Opening brackets that enter a nest bring no blank with them. -/
theorem blanks_opened (chain : Chain Empty) {pending : List String} (hsolid : Solid pending) :
    (chain.opened pending).blanks = chain.blanks := by
  induction chain generalizing pending with
  | nil => rfl
  | text s rest ih =>
    by_cases hrest : rest = .nil
    · rw [hrest, opened_text_last]
      rfl
    rcases opened_text_cases s hrest pending with ⟨-, h⟩ | ⟨hbracket, h⟩ | ⟨-, h⟩
    · rw [h]
      exact ih hsolid
    · rw [h]
      exact ih (solid_concat.mpr ⟨hsolid, hasBlank_openingBracket s hbracket⟩)
    · rw [h]
      exact ih solid_nil
  | nest inner rest ihi ih =>
    have htext := hasBlank_allText_opened inner hsolid
    by_cases hrest : rest = .nil
    · rw [hrest, opened_nest_last]
      exact blanks_nest_congr htext (ihi hsolid) rfl
    · rw [opened_nest inner hrest]
      exact blanks_nest_congr htext (ihi hsolid) (ih solid_nil)
  | foreign node => exact node.elim

end Chain

namespace Layout

theorem nestTexts_chain (layout : Layout Empty) : layout.chain.nestTexts = layout.nestTexts := by
  induction layout with
  | leaf s => rw [chain_leaf]; rfl
  | nest child ih =>
    rw [chain_nest, Chain.nestTexts, Chain.nestTexts, List.append_nil, allText_chain, ih, nestTexts]
  | join left right ihl ihr => rw [chain_join, Chain.nestTexts_append, ihl, ihr, nestTexts]
  | foreign node => exact node.elim

/-- Attaching brackets changes no nest that encloses a blank into one that does not,
or the other way round. -/
theorem map_hasBlank_attachBrackets (layout : Layout Empty) :
    layout.attachBrackets.nestTexts.map Text.hasBlank = layout.nestTexts.map Text.hasBlank := by
  have hclosed := Chain.blanks_closed layout.chain [] Chain.solid_nil
  have hopened := Chain.blanks_opened (layout.chain.closed []) Chain.solid_nil
  rw [hclosed, ← chain_attachBrackets, Chain.blanks, Chain.blanks, nestTexts_chain,
    nestTexts_chain] at hopened
  exact hopened

/-- Normalization leaves one text if and only if no nest encloses a blank. -/
theorem normalize_eq_leaf_iff (layout : Layout Empty) :
    layout.normalize = .leaf layout.text ↔
      ∀ enclosed ∈ layout.nestTexts, Text.hasBlank enclosed = false := by
  have hattached := simplify_eq_leaf_iff layout.attachBrackets
  rw [← normalize_eq, text_attachBrackets] at hattached
  have hblanks : (∀ blank ∈ layout.attachBrackets.nestTexts.map Text.hasBlank, blank = false) ↔
      ∀ blank ∈ layout.nestTexts.map Text.hasBlank, blank = false := by
    rw [map_hasBlank_attachBrackets]
  rw [List.forall_mem_map, List.forall_mem_map] at hblanks
  exact hattached.trans hblanks

/-- **The nests that survive.**  The nests of a simplified layout are those nests of the
layout whose text can be broken and whose child is no nest itself; each stands in its
place, encloses the text that it enclosed and has the same surviving nests around it.
A normal layout is a single text if and only if no nest of the layout encloses a
blank. -/
theorem nestings_simplify :
    (∀ layout : Layout Empty,
      layout.simplify.nestings = keepNests Enclosure.survives layout.nestings) ∧
    ∀ layout : Layout Empty, layout.normalize = .leaf layout.text ↔
      ∀ nesting ∈ layout.nestings, Text.hasBlank nesting.self.text = false := by
  constructor
  · intro layout
    exact nestingsAfter_simplify layout "" []
  · intro layout
    rw [normalize_eq_leaf_iff, ← map_text_nestingsAfter layout "" [], List.forall_mem_map,
      ← nestings]

/-- A nest around a nest goes, and so does one around a text that cannot be broken. -/
example :
    (simplify (.nest (.join (.leaf "a ") (.nest (.nest (.join (.nest (.leaf "b"))
      (.leaf " c"))))))).nestings =
      [⟨⟨"", "a b c", false⟩, []⟩, ⟨⟨"a ", "b c", false⟩, [⟨"", "a b c", false⟩]⟩] := by
  decide +kernel

end Layout
end DeclDocs
