import DeclDocs.Layout.Basic

/-! # Chains

However its concatenations lean, a layout reads as a row of items: texts, nests
and foreign nodes.  This module reads the items off a layout, with a stack of
the parts still to be read so that long concatenations need no deep recursion,
and builds a layout back from a chain, leaning to either side.  The brackets are
attached on chains, where neighbours stand next to each other.
-/
namespace DeclDocs
namespace Layout

variable {F : Type}

/-- One item of a concatenation: a node that is no concatenation itself. -/
inductive Item (F : Type) where
  | text (s : String)
  | nest (child : Layout F)
  | foreign (node : F)
  deriving DecidableEq, Repr

/-- An item as a layout of its own. -/
def Item.layout : Item F → Layout F
  | .text s => .leaf s
  | .nest child => .nest child
  | .foreign node => .foreign node

/-- The items of the layouts on a stack, the top of the stack first. -/
def itemsOnStack : List (Layout F) → List (Item F)
  | [] => []
  | .leaf s :: stack => .text s :: itemsOnStack stack
  | .nest child :: stack => .nest child :: itemsOnStack stack
  | .foreign node :: stack => .foreign node :: itemsOnStack stack
  | .join left right :: stack => itemsOnStack (left :: right :: stack)
  termination_by stack => totalSize stack
  decreasing_by all_goals simp [size] <;> omega

/-- The items of a layout, in order. -/
def items (layout : Layout F) : List (Item F) :=
  itemsOnStack [layout]

theorem itemsOnStack_cons (layout : Layout F) (stack : List (Layout F)) :
    itemsOnStack (layout :: stack) = items layout ++ itemsOnStack stack := by
  induction layout generalizing stack with
  | leaf | nest | foreign => simp [items, itemsOnStack]
  | join left right ihl ihr =>
    rw [items, itemsOnStack, itemsOnStack, ihl (right :: stack), ihl [right], ihr stack,
      ihr [], itemsOnStack, List.append_nil, List.append_assoc]

@[simp] theorem items_leaf (s : String) : items (.leaf s : Layout F) = [.text s] := by
  simp [items, itemsOnStack]

@[simp] theorem items_nest (child : Layout F) : items (.nest child) = [.nest child] := by
  simp [items, itemsOnStack]

@[simp] theorem items_foreign (node : F) : items (.foreign node) = [.foreign node] := by
  simp [items, itemsOnStack]

@[simp] theorem items_join (left right : Layout F) :
    items (.join left right) = items left ++ items right := by
  rw [items, itemsOnStack, itemsOnStack_cons, ← items]

/-- A layout has at least one item. -/
theorem items_ne_nil (layout : Layout F) : items layout ≠ [] := by
  induction layout with
  | leaf | nest | foreign => simp
  | join left right ihl _ => simp [ihl]

/-- The child of a nest among the items is smaller than the whole. -/
theorem size_lt_of_nest_mem_items {layout child : Layout F}
    (h : Item.nest child ∈ items layout) : child.size < layout.size := by
  induction layout with
  | leaf | foreign => simp at h
  | nest => simp only [items_nest, List.mem_singleton, Item.nest.injEq] at h; simp [h, size]
  | join left right ihl ihr =>
    rw [items_join, List.mem_append] at h
    rcases h with h | h
    · have := ihl h; simp only [size]; omega
    · have := ihr h; simp only [size]; omega

end Layout

/-- A row of items, in which the child of a nest is a row again. -/
inductive Chain (F : Type) where
  | nil
  | text (s : String) (rest : Chain F)
  | nest (inner rest : Chain F)
  | foreign (node : F) (rest : Chain F)
  deriving Inhabited, DecidableEq, Repr

namespace Chain

variable {F : Type}

/-- One chain after another. -/
def append : Chain F → Chain F → Chain F
  | .nil, after => after
  | .text s rest, after => .text s (rest.append after)
  | .nest inner rest, after => .nest inner (rest.append after)
  | .foreign node rest, after => .foreign node (rest.append after)

instance : Append (Chain F) := ⟨append⟩

@[simp] theorem nil_append (after : Chain F) : (.nil : Chain F) ++ after = after := rfl

@[simp] theorem text_append (s : String) (rest after : Chain F) :
    .text s rest ++ after = .text s (rest ++ after) := rfl

@[simp] theorem nest_append (inner rest after : Chain F) :
    .nest inner rest ++ after = .nest inner (rest ++ after) := rfl

@[simp] theorem foreign_append (node : F) (rest after : Chain F) :
    .foreign node rest ++ after = .foreign node (rest ++ after) := rfl

@[simp] theorem append_nil (chain : Chain F) : chain ++ (.nil : Chain F) = chain := by
  induction chain with
  | nil => rfl
  | text | nest | foreign => simp [*]

theorem append_assoc (a b c : Chain F) : a ++ b ++ c = a ++ (b ++ c) := by
  induction a with
  | nil => rfl
  | text | nest | foreign => simp [*]

end Chain

namespace Layout

variable {F : Type}

/-- The chain that a layout reads as. -/
def chain (layout : Layout F) : Chain F :=
  layout.items.attach.foldr (fun ⟨item, member⟩ rest =>
    match item, member with
    | .text s, _ => .text s rest
    | .nest child, _ => .nest child.chain rest
    | .foreign node, _ => .foreign node rest) .nil
  termination_by layout.size
  decreasing_by exact size_lt_of_nest_mem_items (by assumption)

/-- The chain of a row of items. -/
def chainOfItems (items : List (Item F)) : Chain F :=
  items.foldr (fun item rest =>
    match item with
    | .text s => .text s rest
    | .nest child => .nest child.chain rest
    | .foreign node => .foreign node rest) .nil

theorem chain_eq_chainOfItems (layout : Layout F) : layout.chain = chainOfItems layout.items := by
  rw [chain, chainOfItems, ← List.foldr_attach (l := layout.items)]
  congr 1
  funext ⟨item, _⟩ rest
  cases item <;> rfl

@[simp] theorem chain_leaf (s : String) :
    (.leaf s : Layout F).chain = .text s .nil := by
  rw [chain_eq_chainOfItems]; simp [chainOfItems]

@[simp] theorem chain_nest (child : Layout F) :
    (.nest child : Layout F).chain = .nest child.chain .nil := by
  rw [chain_eq_chainOfItems]; simp [chainOfItems]

@[simp] theorem chain_foreign (node : F) :
    (.foreign node : Layout F).chain = .foreign node .nil := by
  rw [chain_eq_chainOfItems]; simp [chainOfItems]

theorem chainOfItems_append (xs ys : List (Item F)) :
    chainOfItems (xs ++ ys) = chainOfItems xs ++ chainOfItems ys := by
  induction xs with
  | nil => rfl
  | cons item rest ih =>
    cases item <;> simpa [chainOfItems] using ih

@[simp] theorem chain_join (left right : Layout F) :
    (.join left right : Layout F).chain = left.chain ++ right.chain := by
  simp only [chain_eq_chainOfItems, items_join, chainOfItems_append]

end Layout

namespace Chain

variable {F : Type}

mutual

/-- The layout of a chain whose concatenations lean left.  The empty chain has
the layout of the empty text. -/
def leanLeft : Chain F → Layout F
  | .nil => .leaf ""
  | .text s rest => rest.leanLeftFrom (.leaf s)
  | .nest inner rest => rest.leanLeftFrom (.nest inner.leanLeft)
  | .foreign node rest => rest.leanLeftFrom (.foreign node)

/-- The items of a chain joined one by one to what stands on their left. -/
def leanLeftFrom : Chain F → Layout F → Layout F
  | .nil, done => done
  | .text s rest, done => rest.leanLeftFrom (.join done (.leaf s))
  | .nest inner rest, done => rest.leanLeftFrom (.join done (.nest inner.leanLeft))
  | .foreign node rest, done => rest.leanLeftFrom (.join done (.foreign node))

end

/-- The layout of a chain whose concatenations lean right.  The empty chain has
the layout of the empty text. -/
def leanRight : Chain F → Layout F
  | .nil => .leaf ""
  | .text s .nil => .leaf s
  | .text s rest => .join (.leaf s) rest.leanRight
  | .nest inner .nil => .nest inner.leanRight
  | .nest inner rest => .join (.nest inner.leanRight) rest.leanRight
  | .foreign node .nil => .foreign node
  | .foreign node rest => .join (.foreign node) rest.leanRight

end Chain
end DeclDocs
