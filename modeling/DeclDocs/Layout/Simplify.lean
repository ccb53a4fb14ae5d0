import DeclDocs.Layout.Basic
import DeclDocs.Text.Blank

/-! # Simplification

Neighbouring texts are merged and nests that say nothing are dropped: a nest
around a nest, and a nest around a text that cannot be broken.  `simplify` walks
a layout with a stack of nodes and a stack of results.  A node with parts is
visited twice, before its parts and after them; only a nest around a nest makes
way for the inner one at once.  `bottomUp` says by plain recursion what the walk
computes, and `Walk.run_eq` is the proof that the walk never runs out of results
and ends with exactly that one.
-/
namespace DeclDocs
namespace Layout

variable {F : Type}

/-- The concatenation of two layouts, merging the texts that meet if each of
them is its side's whole layout or one step into it. -/
def merge : Layout F → Layout F → Layout F
  | .leaf a, .leaf b => .leaf (a ++ b)
  | .leaf a, .join (.leaf b) rest => .join (.leaf (a ++ b)) rest
  | .join rest (.leaf a), .leaf b => .join rest (.leaf (a ++ b))
  | left, right => .join left right

/-- What merging can do: the texts that meet become one, or nothing is merged. -/
theorem merge_cases (left right : Layout F) :
    (∃ a b, left = .leaf a ∧ right = .leaf b ∧ left.merge right = .leaf (a ++ b)) ∨
    (∃ a b rest, left = .leaf a ∧ right = .join (.leaf b) rest ∧
      left.merge right = .join (.leaf (a ++ b)) rest) ∨
    (∃ rest a b, left = .join rest (.leaf a) ∧ right = .leaf b ∧
      left.merge right = .join rest (.leaf (a ++ b))) ∨
    left.merge right = .join left right := by
  fun_cases merge left right with
  | case1 a b => exact Or.inl ⟨a, b, rfl, rfl, rfl⟩
  | case2 a b rest => exact Or.inr (Or.inl ⟨a, b, rest, rfl, rfl, rfl⟩)
  | case3 rest a b => exact Or.inr (Or.inr (Or.inl ⟨rest, a, b, rfl, rfl, rfl⟩))
  | case4 => exact Or.inr (Or.inr (Or.inr rfl))

/-- The nest around a child, dropped if the child is a nest itself or a text
without a blank. -/
def enclose : Layout F → Layout F
  | .leaf s => if Text.hasBlank s then .nest (.leaf s) else .leaf s
  | .nest child => .nest child
  | child => .nest child

/-- Merges neighbouring texts and drops needless nests, from the leaves up. -/
def bottomUp : Layout F → Except F (Layout F)
  | .leaf s => .ok (.leaf s)
  | .join left right => do
    let left ← left.bottomUp
    let right ← right.bottomUp
    return merge left right
  | .nest (.nest child) => (Layout.nest child).bottomUp
  | .nest child => do
    let child ← child.bottomUp
    return enclose child
  | .foreign node => .error node

/-- The state of a walk: the nodes that are still to be visited, the next one first, each with
whether its parts have been visited already, and the results so far, the last one first. -/
structure Walk (F : Type) where
  stack : List (Layout F × Bool)
  results : List (Layout F)

namespace Walk

/-- One round of a walk, the visit of a node that has been taken off the stack.  There is no
answer if it takes a result that is not there. -/
def visit (stack : List (Layout F × Bool)) :
    Layout F → Bool → (results : List (Layout F)) → Option (Except F (Walk F))
  | .leaf s, _, results => some (.ok ⟨stack, .leaf s :: results⟩)
  | .join left right, false, results =>
    some (.ok ⟨(left, false) :: (right, false) :: (.join left right, true) :: stack, results⟩)
  | .join _ _, true, right :: left :: results => some (.ok ⟨stack, left.merge right :: results⟩)
  | .join _ _, true, _ => none
  | .nest (.nest child), _, results => some (.ok ⟨(.nest child, false) :: stack, results⟩)
  | .nest child, false, results =>
    some (.ok ⟨(child, false) :: (.nest child, true) :: stack, results⟩)
  | .nest _, true, child :: results => some (.ok ⟨stack, child.enclose :: results⟩)
  | .nest _, true, [] => none
  | .foreign node, _, _ => some (.error node)

/-- The work that is left for a node on the stack. -/
def work : Layout F × Bool → Nat
  | (layout, false) => 2 * layout.size
  | (.nest (.nest child), true) => 2 * (Layout.nest (.nest child)).size
  | (_, true) => 1

/-- The work that is left for the nodes on the stack. -/
def totalWork (stack : List (Layout F × Bool)) : Nat :=
  stack.foldr (fun node total => work node + total) 0

@[simp] theorem totalWork_cons (node : Layout F × Bool) (stack : List (Layout F × Bool)) :
    totalWork (node :: stack) = work node + totalWork stack := rfl

theorem work_pos (node : Layout F × Bool) : 0 < work node := by
  unfold work
  split
  next layout => have := layout.size_pos; omega
  next child => have := (Layout.nest (.nest child)).size_pos; omega
  next => exact Nat.one_pos

/-- Every round leaves less to do. -/
theorem totalWork_visit_lt {stack : List (Layout F × Bool)} {node : Layout F} {partsDone : Bool}
    {results : List (Layout F)} {next : Walk F}
    (h : visit stack node partsDone results = some (.ok next)) :
    totalWork next.stack < totalWork ((node, partsDone) :: stack) := by
  have hpos := work_pos (node, partsDone)
  cases node with
  | leaf s =>
    obtain rfl := Except.ok.inj (Option.some.inj h)
    exact Nat.lt_add_of_pos_left hpos
  | join left right =>
    cases partsDone with
    | false =>
      obtain rfl := Except.ok.inj (Option.some.inj h)
      simp only [totalWork_cons, work, size]
      omega
    | true =>
      obtain _ | ⟨right, _ | ⟨left, results⟩⟩ := results
      · cases h
      · cases h
      · obtain rfl := Except.ok.inj (Option.some.inj h)
        exact Nat.lt_add_of_pos_left hpos
  | foreign node => cases h
  | nest child =>
    cases child with
    | nest child =>
      obtain rfl := Except.ok.inj (Option.some.inj h)
      cases partsDone <;> (simp only [totalWork_cons, work, size]; omega)
    | leaf | join | foreign =>
      cases partsDone with
      | false =>
        obtain rfl := Except.ok.inj (Option.some.inj h)
        simp only [totalWork_cons, work, size]
        omega
      | true =>
        cases results with
        | nil => cases h
        | cons child results =>
          obtain rfl := Except.ok.inj (Option.some.inj h)
          exact Nat.lt_add_of_pos_left hpos

/-- Walks until the stack is empty.  There is no answer if a visit has none, or if the walk
does not end with exactly one result. -/
def run (walk : Walk F) : Option (Except F (Layout F)) :=
  match walk with
  | ⟨[], [result]⟩ => some (.ok result)
  | ⟨[], _⟩ => none
  | ⟨(node, partsDone) :: stack, results⟩ =>
    match _hvisit : visit stack node partsDone results with
    | some (.ok next) => run next
    | some (.error node) => some (.error node)
    | none => none
  termination_by totalWork walk.stack
  decreasing_by exact totalWork_visit_lt _hvisit

theorem run_cons (node : Layout F) (partsDone : Bool) (stack : List (Layout F × Bool))
    (results : List (Layout F)) :
    run ⟨(node, partsDone) :: stack, results⟩ =
      match visit stack node partsDone results with
      | some (.ok next) => run next
      | some (.error node) => some (.error node)
      | none => none := by
  rw [run]
  split <;> simp [*]

theorem visit_nest {child : Layout F} (h : ∀ inner, child ≠ .nest inner)
    (stack : List (Layout F × Bool)) (results : List (Layout F)) :
    visit stack (.nest child) false results =
      some (.ok ⟨(child, false) :: (.nest child, true) :: stack, results⟩) := by
  cases child with
  | nest inner => exact absurd rfl (h inner)
  | leaf | join | foreign => rfl

theorem visit_nest_again {child : Layout F} (h : ∀ inner, child ≠ .nest inner)
    (stack : List (Layout F × Bool)) (result : Layout F) (results : List (Layout F)) :
    visit stack (.nest child) true (result :: results) =
      some (.ok ⟨stack, result.enclose :: results⟩) := by
  cases child with
  | nest inner => exact absurd rfl (h inner)
  | leaf | join | foreign => rfl

/-- A visit ends with the result of the recursion on top of the results, or with its
refusal. -/
theorem run_visit (layout : Layout F) (stack : List (Layout F × Bool))
    (results : List (Layout F)) :
    run ⟨(layout, false) :: stack, results⟩ =
      match layout.bottomUp with
      | .ok result => run ⟨stack, result :: results⟩
      | .error node => some (.error node) := by
  fun_induction bottomUp layout generalizing stack results with
  | case1 s => rw [run_cons, visit]
  | case2 left right ihl ihr =>
    rw [run_cons, visit]
    simp only [ihl]
    cases left.bottomUp with
    | error node => rfl
    | ok left =>
      simp only [ihr]
      cases right.bottomUp with
      | error node => rfl
      | ok right => exact run_cons ..
  | case3 child ih =>
    rw [run_cons, visit]
    exact ih stack results
  | case4 child hchild ih =>
    rw [run_cons, visit_nest hchild]
    simp only [ih]
    cases child.bottomUp with
    | error node => rfl
    | ok result =>
      refine (run_cons ..).trans ?_
      rw [visit_nest_again hchild]
      rfl
  | case5 node => rw [run_cons, visit]

theorem run_eq (layout : Layout F) : run ⟨[(layout, false)], []⟩ = some layout.bottomUp := by
  rw [run_visit]
  cases layout.bottomUp with
  | error node => rfl
  | ok result => simp [run]

end Walk

/-- The layout with neighbouring texts merged and needless nests dropped. -/
def simplify? (layout : Layout F) : Except F (Layout F) :=
  (Walk.run ⟨[(layout, false)], []⟩).get (by simp [Walk.run_eq])

theorem simplify?_eq (layout : Layout F) : layout.simplify? = layout.bottomUp := by
  simp [simplify?, Walk.run_eq]

/-- Simplification where no node is foreign. -/
def simplify (layout : Layout Empty) : Layout Empty :=
  certain layout.simplify?

/-- A second nest around a child is dropped. -/
@[simp] theorem enclose_enclose (child : Layout F) : child.enclose.enclose = child.enclose := by
  cases child with
  | leaf s =>
    by_cases hs : Text.hasBlank s = true
    · rw [enclose, if_pos hs, enclose]
    · rw [enclose, if_neg hs, enclose, if_neg hs]
  | nest | join | foreign => rfl

@[simp] theorem simplify_leaf (s : String) : simplify (.leaf s) = .leaf s := by
  rw [simplify, simplify?_eq, bottomUp, certain_ok]

@[simp] theorem simplify_join (left right : Layout Empty) :
    simplify (.join left right) = left.simplify.merge right.simplify := by
  rw [simplify, simplify?_eq, bottomUp, certain_bind, certain_bind, certain_pure,
    ← simplify?_eq, ← simplify?_eq, ← simplify, ← simplify]

/-- A nest is simplified by enclosing its simplified child, also where the
recursion passes over a nest around a nest. -/
@[simp] theorem simplify_nest (child : Layout Empty) :
    simplify (.nest child) = child.simplify.enclose := by
  induction child with
  | nest child ih =>
    have hpass : simplify (.nest (.nest child)) = simplify (.nest child) := by
      rw [simplify, simplify?_eq, bottomUp, ← simplify?_eq, ← simplify]
    rw [hpass, ih, enclose_enclose]
  | leaf | join | foreign =>
    rw [simplify, simplify?_eq, bottomUp, certain_bind, certain_pure, ← simplify?_eq, ← simplify]
    simp

end Layout
end DeclDocs
