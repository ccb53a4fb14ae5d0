import Mathlib.Logic.Relation
import DeclDocs.Layout.Encoding
import DeclDocs.Layout.Simplify
import DeclDocs.Proofs.Layout.Rows

/-! # Walks and recursion

Layouts are walked with stacks, so that long concatenations need no deep recursion: to simplify
them, to write them as arrays or as text, and to read their items.  Each walk comes to what a
plain recursion says.

Simplification is the one walk with a stack of results, from which a round may take more than
is there.  Its rounds are a relation here (`Walk.Round`), and the run lemma is about a node on
top of any stack and any results: some rounds later the result of the recursion has taken its
place (`Walk.reaches_visit`).  A round is all that can happen to a walk, so that a walk that
has begun with one layout can only be on its way to the one result of that layout.
-/
namespace DeclDocs
namespace Layout

variable {F : Type}

/-! ## Rounds of simplification -/

namespace Walk

/-- A round takes the next node off the stack and visits it. -/
inductive Round : Walk F → Walk F → Prop
  | visit {node : Layout F} {partsDone : Bool} {stack : List (Layout F × Bool)}
      {results : List (Layout F)} {next : Walk F}
      (h : visit stack node partsDone results = some (.ok next)) :
      Round ⟨(node, partsDone) :: stack, results⟩ next

/-- Some rounds after another. -/
def Reaches : Walk F → Walk F → Prop :=
  Relation.ReflTransGen Round

theorem Round.rightUnique : Relator.RightUnique (Round (F := F)) := by
  rintro walk one other ⟨hone⟩ ⟨hother⟩
  exact Except.ok.inj (Option.some.inj (hone.symm.trans hother))

/-- With no node on its stack a walk is over. -/
theorem eq_of_reaches_of_stack_nil {results : List (Layout F)} {walk : Walk F}
    (h : Reaches ⟨[], results⟩ walk) : walk = ⟨[], results⟩ := by
  cases h.cases_head with
  | inl heq => exact heq.symm
  | inr hround =>
    obtain ⟨next, hround, -⟩ := hround
    cases hround

/-- A node that is visited first ends as its result on top of the other results, and what is
below it on the stack is as before. -/
theorem reaches_visit (layout : Layout Empty) (stack : List (Layout Empty × Bool))
    (results : List (Layout Empty)) :
    Reaches ⟨(layout, false) :: stack, results⟩ ⟨stack, layout.simplify :: results⟩ := by
  induction layout generalizing stack results with
  | leaf s =>
    rw [simplify_leaf]
    exact .single (.visit rfl)
  | join left right ihl ihr =>
    have hparts : Reaches
        ⟨(left, false) :: (right, false) :: (.join left right, true) :: stack, results⟩
        ⟨(.join left right, true) :: stack, right.simplify :: left.simplify :: results⟩ :=
      (ihl _ _).trans (ihr _ _)
    rw [simplify_join]
    exact .head (.visit rfl) (hparts.tail (.visit rfl))
  | nest child ih =>
    by_cases hnest : ∃ inner, child = .nest inner
    · -- the inner nest takes the place of the outer one
      obtain ⟨inner, rfl⟩ := hnest
      have hpass : simplify (.nest (.nest inner)) = simplify (.nest inner) := by
        rw [simplify_nest, simplify_nest, enclose_enclose]
      rw [hpass]
      exact .head (.visit rfl) (ih stack results)
    · have hchild : ∀ inner, child ≠ .nest inner := fun inner h => hnest ⟨inner, h⟩
      rw [simplify_nest]
      exact .head (.visit (visit_nest hchild _ _))
        ((ih _ _).tail (.visit (visit_nest_again hchild _ _ _)))
  | foreign node => exact node.elim

/-- Whatever a walk has come to that began with one layout, it goes on to the one result. -/
theorem reaches_end (layout : Layout Empty) {walk : Walk Empty}
    (h : Reaches ⟨[(layout, false)], []⟩ walk) : Reaches walk ⟨[], [layout.simplify]⟩ := by
  rcases Relation.ReflTransGen.total_of_right_unique Round.rightUnique h
    (reaches_visit layout [] []) with hahead | hbehind
  · exact hahead
  · rw [eq_of_reaches_of_stack_nil hbehind]
    exact .refl

end Walk

/-! ## Items -/

/-- The largest parts of a layout that are no concatenations, in order. -/
def parts : Layout F → List (Layout F)
  | .join left right => left.parts ++ right.parts
  | layout => [layout]

theorem map_layout_items (layout : Layout F) : layout.items.map Item.layout = layout.parts := by
  induction layout with
  | leaf | nest | foreign => simp [parts, Item.layout]
  | join left right ihl ihr => rw [items_join, List.map_append, ihl, ihr, parts]

/-- **Walks with a stack equal plain recursion.**  From every state that simplification can be
in, it comes to the end after some rounds, with an empty stack and exactly one result; hence no
round takes a result that is not there.  What it comes to is what is said by recursion, from the
leaves up.  The arrays that are filled in place, the text and the items are those of the
recursions too.  The items, which are the largest parts that are no concatenations, are never
none, neither of the layout nor inside of any nest: there is always a first one and a last
one. -/
theorem walks_equal_recursion :
    (∀ (layout : Layout Empty) (walk : Walk Empty),
      Walk.Reaches ⟨[(layout, false)], []⟩ walk →
        Walk.Reaches walk ⟨[], [certain layout.bottomUp]⟩) ∧
    ∀ {F : Type} (layout : Layout F),
      Walk.run ⟨[(layout, false)], []⟩ = some layout.bottomUp ∧
      writeArrays layout = some layout.encode ∧
      textOnStack "" [layout] = layout.flatten ∧
      (itemsOnStack [layout]).map Item.layout = layout.parts ∧
      itemsOnStack [layout] ≠ [] ∧ layout.chain.Filled := by
  constructor
  · intro layout walk hwalk
    rw [← simplify?_eq, ← simplify]
    exact Walk.reaches_end layout hwalk
  · intro F layout
    exact ⟨Walk.run_eq layout, writeArrays_eq layout, text?_eq layout, map_layout_items layout,
      items_ne_nil layout, filled_chain layout⟩

/-- A walk three rounds on its way, when a nest has just made way for the one inside of it while
a concatenation waits for its second part. -/
theorem walks_equal_recursion_midway :
    let layout : Layout Empty := .join (.leaf "f ") (.nest (.nest (.leaf "x")))
    let midway : Walk Empty := ⟨[(.nest (.leaf "x"), false), (layout, true)], [.leaf "f "]⟩
    Walk.Reaches ⟨[(layout, false)], []⟩ midway ∧
      Walk.Reaches midway ⟨[], [.leaf "f x"]⟩ := by
  intro layout midway
  have hmidway : Walk.Reaches ⟨[(layout, false)], []⟩ midway :=
    .head (.visit rfl) (.head (.visit rfl) (.single (.visit rfl)))
  exact ⟨hmidway, walks_equal_recursion.1 layout midway hmidway⟩

end Layout
end DeclDocs
