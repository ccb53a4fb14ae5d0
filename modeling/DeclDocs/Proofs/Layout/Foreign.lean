import DeclDocs.Layout.Encoding
import DeclDocs.Markup.Dump
import DeclDocs.Proofs.Layout.Rows

/-! # Foreign nodes

No pass lets a foreign node through.  It refuses one, and which one tells from which end the
pass reads: closing brackets are attached from the right, so that the last foreign node is met
first, and everything else is done from the left.  A pass that runs after another one never
meets a foreign node, because a pass that has a result has taken it from a layout without any
and has put none in.

Both facts are one judgment on outcomes (`Screens`), which goes through a sequence of
computations step by step: the whole refuses what the first part refuses, or else what the
second part does (`Screens.bind`).  The foreign nodes of a layout are listed in the order of
its text (`Layout.foreignNodes`); where the parts of a pass run from left to right, the first
of the list is met, and where they run from right to left, the last.
-/
namespace DeclDocs

variable {F α β : Type}

/-- The foreign node that a computation has refused, if it has. -/
def refusal? : Except F α → Option F
  | .ok _ => none
  | .error node => some node

/-- What becomes of foreign nodes in a computation, where `nodes` lists the foreign nodes of
its results: the given one is refused, and if none is given, there is a result, which has
none. -/
inductive Screens (nodes : α → List F) : Except F α → Option F → Prop
  | refuses (node : F) : Screens nodes (.error node) (some node)
  | passes {result : α} (h : nodes result = []) : Screens nodes (.ok result) none

namespace Screens

variable {nodes : α → List F} {after : β → List F} {x : Except F α} {f : α → Except F β}
  {first later : Option F}

theorem refusal?_eq (h : Screens nodes x first) : refusal? x = first := by
  cases h with
  | refuses node => rfl
  | passes _ => rfl

/-- Of two computations in turn the first to refuse a node decides. -/
theorem bind (hx : Screens nodes x first)
    (hf : ∀ result, nodes result = [] → Screens after (f result) later) :
    Screens after (x >>= f) (first.or later) := by
  cases hx with
  | refuses node => exact .refuses node
  | passes h => exact hf _ h

/-- What is done with a result cannot refuse anything. -/
theorem map {g : α → β} (hx : Screens nodes x first)
    (hg : ∀ result, nodes result = [] → after (g result) = []) :
    Screens after (do return g (← x)) first := by
  cases hx with
  | refuses node => exact .refuses node
  | passes h => exact .passes (hg _ h)

end Screens

/-! ## Layouts and chains -/

namespace Layout

/-- The foreign nodes of a layout, in the order of its text. -/
def foreignNodes : Layout F → List F
  | .leaf _ => []
  | .nest child => child.foreignNodes
  | .join left right => left.foreignNodes ++ right.foreignNodes
  | .foreign node => [node]

theorem foreignNodes_merge (left right : Layout F) :
    (left.merge right).foreignNodes = left.foreignNodes ++ right.foreignNodes := by
  rcases merge_cases left right with ⟨a, b, rfl, rfl, h⟩ | ⟨a, b, rest, rfl, rfl, h⟩ |
    ⟨rest, a, b, rfl, rfl, h⟩ | h
  all_goals
    rw [h]
    simp only [foreignNodes, List.append_nil, List.nil_append]

theorem foreignNodes_enclose (child : Layout F) :
    child.enclose.foreignNodes = child.foreignNodes := by
  cases child with
  | leaf s =>
    rw [enclose]
    split <;> rfl
  | nest | join | foreign => rfl

end Layout

namespace Chain

/-- The foreign nodes of a chain, in the order of its text. -/
def foreignNodes : Chain F → List F
  | .nil => []
  | .text _ rest => rest.foreignNodes
  | .nest inner rest => inner.foreignNodes ++ rest.foreignNodes
  | .foreign node rest => node :: rest.foreignNodes

theorem foreignNodes_append (chain after : Chain F) :
    (chain ++ after).foreignNodes = chain.foreignNodes ++ after.foreignNodes := by
  induction chain with
  | nil => rfl
  | text s rest ih => exact ih
  | nest inner rest _ ih => rw [nest_append, foreignNodes, foreignNodes, ih, List.append_assoc]
  | foreign node rest ih => rw [foreign_append, foreignNodes, foreignNodes, ih, List.cons_append]

mutual

theorem foreignNodes_leanLeft : ∀ chain : Chain F,
    chain.leanLeft.foreignNodes = chain.foreignNodes
  | .nil => rfl
  | .text s rest => foreignNodes_leanLeftFrom rest (.leaf s)
  | .nest inner rest => by
    rw [leanLeft, foreignNodes_leanLeftFrom rest, Layout.foreignNodes,
      foreignNodes_leanLeft inner, foreignNodes]
  | .foreign node rest => foreignNodes_leanLeftFrom rest (.foreign node)

theorem foreignNodes_leanLeftFrom : ∀ (chain : Chain F) (done : Layout F),
    (chain.leanLeftFrom done).foreignNodes = done.foreignNodes ++ chain.foreignNodes
  | .nil, done => (List.append_nil _).symm
  | .text s rest, done => by
    rw [leanLeftFrom, foreignNodes_leanLeftFrom rest, Layout.foreignNodes, Layout.foreignNodes,
      List.append_nil, foreignNodes]
  | .nest inner rest, done => by
    rw [leanLeftFrom, foreignNodes_leanLeftFrom rest, Layout.foreignNodes, Layout.foreignNodes,
      foreignNodes_leanLeft inner, List.append_assoc, foreignNodes]
  | .foreign node rest, done => by
    rw [leanLeftFrom, foreignNodes_leanLeftFrom rest, Layout.foreignNodes, Layout.foreignNodes,
      List.append_assoc, List.singleton_append, foreignNodes]

end

theorem foreignNodes_leanRight (chain : Chain F) :
    chain.leanRight.foreignNodes = chain.foreignNodes := by
  induction chain with
  | nil => rfl
  | text s rest ih =>
    by_cases hrest : rest = .nil
    · rw [hrest]
      rfl
    · rw [leanRight_text s hrest, Layout.foreignNodes, Layout.foreignNodes, List.nil_append, ih,
        foreignNodes]
  | nest inner rest ihi ih =>
    by_cases hrest : rest = .nil
    · rw [hrest, leanRight, Layout.foreignNodes, ihi, foreignNodes, foreignNodes, List.append_nil]
    · rw [leanRight_nest inner hrest, Layout.foreignNodes, Layout.foreignNodes, ihi, ih,
        foreignNodes]
  | foreign node rest ih =>
    by_cases hrest : rest = .nil
    · rw [hrest]
      rfl
    · rw [leanRight_foreign node hrest, Layout.foreignNodes, Layout.foreignNodes, ih,
        List.singleton_append, foreignNodes]

/-! ## The passes over chains -/

mutual

/-- Closing brackets are attached from the right: the rest of a chain comes before its first
item. -/
theorem screens_attachClosing : ∀ (chain : Chain F) (pending : List String),
    Screens foreignNodes (chain.attachClosing pending) chain.foreignNodes.getLast?
  | .nil, pending => .passes rfl
  | .text s rest, pending => by
    rw [attachClosing, foreignNodes]
    exact (screens_closeAfter rest pending).map fun _ hrest => hrest
  | .nest inner rest, pending => by
    rw [attachClosing, foreignNodes, List.getLast?_append]
    refine (screens_closeAfter rest pending).bind ?_
    rintro ⟨rest, pending⟩ hrest
    refine (screens_attachClosing inner pending).map fun inner hinner => ?_
    rw [foreignNodes, hinner, hrest, List.append_nil]
  | .foreign node rest, pending => by
    rw [attachClosing, foreignNodes, ← List.singleton_append, List.getLast?_append]
    exact (screens_closeAfter rest pending).bind fun _ _ => .refuses node

theorem screens_closeAfter : ∀ (chain : Chain F) (pending : List String),
    Screens (fun left : Chain F × List String => left.1.foreignNodes)
      (chain.closeAfter pending) chain.foreignNodes.getLast?
  | .nil, pending => .passes rfl
  | .text s rest, pending => by
    rw [closeAfter, foreignNodes, ← Option.or_none (o := rest.foreignNodes.getLast?)]
    refine (screens_closeAfter rest pending).bind ?_
    rintro ⟨rest, pending⟩ hrest
    -- an empty text is dropped, a bracket goes to what is pending, any other text is kept
    dsimp only
    split
    next => exact .passes hrest
    next =>
      split
      next => exact .passes hrest
      next => exact .passes hrest
  | .nest inner rest, pending => by
    rw [closeAfter, foreignNodes, List.getLast?_append]
    refine (screens_closeAfter rest pending).bind ?_
    rintro ⟨rest, pending⟩ hrest
    refine (screens_attachClosing inner pending).map fun inner hinner => ?_
    simp only [foreignNodes, hinner, hrest, List.append_nil]
  | .foreign node rest, pending => by
    rw [closeAfter, foreignNodes, ← List.singleton_append, List.getLast?_append]
    exact (screens_closeAfter rest pending).bind fun _ _ => .refuses node

end

/-- Opening brackets are attached from the left. -/
theorem screens_attachOpening (chain : Chain F) (pending : List String) :
    Screens foreignNodes (chain.attachOpening pending) chain.foreignNodes.head? := by
  fun_induction attachOpening chain pending with
  | case1 => exact .passes rfl
  | case2 => exact .passes rfl
  | case3 pending rest hrest ih => exact ih
  | case4 pending s rest hrest hne hbracket ih => exact ih
  | case5 pending s rest hrest hne hbracket ih => exact ih.map fun _ h => h
  | case6 inner pending ih =>
    rw [foreignNodes, foreignNodes, List.append_nil]
    refine ih.map fun inner hinner => ?_
    rw [foreignNodes, hinner, foreignNodes, List.append_nil]
  | case7 inner pending rest hrest ihi ih =>
    rw [foreignNodes, List.head?_append]
    refine ihi.bind fun inner hinner => ih.map fun rest hrest => ?_
    rw [foreignNodes, hinner, hrest, List.append_nil]
  | case8 pending node rest => exact .refuses node

end Chain

namespace Layout

theorem foreignNodes_chain (layout : Layout F) :
    layout.chain.foreignNodes = layout.foreignNodes := by
  induction layout with
  | leaf s => rw [chain_leaf]; rfl
  | nest child ih =>
    rw [chain_nest, Chain.foreignNodes, Chain.foreignNodes, List.append_nil, ih, foreignNodes]
  | join left right ihl ihr =>
    rw [chain_join, Chain.foreignNodes_append, ihl, ihr, foreignNodes]
  | foreign node => rw [chain_foreign]; rfl

/-! ## The passes over layouts -/

variable (layout : Layout F)

theorem screens_attachClosing? (pending : List String) :
    Screens foreignNodes (layout.attachClosing? pending) layout.foreignNodes.getLast? := by
  rw [attachClosing?, ← foreignNodes_chain]
  refine (Chain.screens_attachClosing layout.chain pending).map fun chain hchain => ?_
  rw [Chain.foreignNodes_leanLeft, hchain]

theorem screens_attachOpening? (pending : List String) :
    Screens foreignNodes (layout.attachOpening? pending) layout.foreignNodes.head? := by
  rw [attachOpening?, ← foreignNodes_chain]
  refine (Chain.screens_attachOpening layout.chain pending).map fun chain hchain => ?_
  rw [Chain.foreignNodes_leanRight, hchain]

/-- The second pass over brackets has nothing left to refuse. -/
theorem screens_attachBrackets? :
    Screens foreignNodes layout.attachBrackets? layout.foreignNodes.getLast? := by
  rw [attachBrackets?, ← Option.or_none (o := layout.foreignNodes.getLast?)]
  refine (screens_attachClosing? layout []).bind fun closed hclosed => ?_
  have hopened := screens_attachOpening? closed []
  rwa [hclosed, List.head?_nil] at hopened

theorem screens_bottomUp : Screens foreignNodes layout.bottomUp layout.foreignNodes.head? := by
  fun_induction bottomUp layout with
  | case1 s => exact .passes rfl
  | case2 left right ihl ihr =>
    rw [foreignNodes, List.head?_append]
    refine ihl.bind fun left hleft => ihr.map fun right hright => ?_
    rw [foreignNodes_merge, hleft, hright, List.append_nil]
  | case3 child ih => exact ih
  | case4 child hchild ih =>
    refine ih.map fun child hchild => ?_
    rw [foreignNodes_enclose, hchild]
  | case5 node => exact .refuses node

theorem screens_simplify? : Screens foreignNodes layout.simplify? layout.foreignNodes.head? := by
  rw [simplify?_eq]
  exact screens_bottomUp layout

/-- Simplification has nothing left to refuse. -/
theorem screens_normalize? :
    Screens foreignNodes layout.normalize? layout.foreignNodes.getLast? := by
  rw [normalize?, ← Option.or_none (o := layout.foreignNodes.getLast?)]
  refine (screens_attachBrackets? layout).bind fun attached hattached => ?_
  have hsimplified := screens_simplify? attached
  rwa [hattached, List.head?_nil] at hsimplified

/-- What is written has no foreign nodes. -/
theorem screens_toJson? : Screens (fun _ => []) layout.toJson? layout.foreignNodes.head? := by
  rw [toJson?_eq]
  induction layout with
  | leaf s => exact .passes rfl
  | nest child ih => exact ih.map fun _ h => h
  | join left right ihl ihr =>
    rw [foreignNodes, List.head?_append]
    exact ihl.bind fun _ _ => ihr.map fun _ h => h
  | foreign node => exact .refuses node

theorem screens_text? : Screens (fun _ => []) layout.text? layout.foreignNodes.head? := by
  rw [text?_eq]
  induction layout with
  | leaf s => exact .passes rfl
  | nest child ih => exact ih
  | join left right ihl ihr =>
    rw [foreignNodes, List.head?_append]
    exact ihl.bind fun _ _ => ihr.map fun _ h => h
  | foreign node => exact .refuses node

end Layout

/-! ## Markup -/

namespace Markup

/-- The foreign nodes of markup, in the order of its text. -/
def foreignNodes : Markup F → List F
  | .raw _ => []
  | .group child => child.foreignNodes
  | .highlight _ child => child.foreignNodes
  | .nest _ child => child.foreignNodes
  | .join left right => left.foreignNodes ++ right.foreignNodes
  | .foreign node => [node]

theorem screens_toLayout? (markup : Markup F) :
    Screens Layout.foreignNodes markup.toLayout? markup.foreignNodes.head? := by
  induction markup with
  | raw s => exact .passes rfl
  | group child ih => exact ih
  | highlight color child ih => exact ih
  | nest indent child ih => exact ih.map fun _ h => h
  | join left right ihl ihr =>
    rw [foreignNodes, List.head?_append]
    refine ihl.bind fun left hleft => ihr.map fun right hright => ?_
    rw [Layout.foreignNodes, hleft, hright, List.append_nil]
  | foreign node => exact .refuses node

end Markup

/-- **Every pass refuses foreign nodes, in its own order.**  A pass refuses a node if and only
if there is a foreign one.  Attaching closing brackets, and with it every pass that begins with
it, refuses the last one in the order of the text, and all other passes refuse the first one;
so does reading a layout off markup.  The complaint shows the node that is refused. -/
theorem passes_refuse_foreign_nodes :
    (∀ {F : Type} (layout : Layout F) (pending : List String),
      refusal? (layout.attachClosing? pending) = layout.foreignNodes.getLast? ∧
      refusal? layout.attachBrackets? = layout.foreignNodes.getLast? ∧
      refusal? layout.normalize? = layout.foreignNodes.getLast? ∧
      refusal? (layout.attachOpening? pending) = layout.foreignNodes.head? ∧
      refusal? layout.simplify? = layout.foreignNodes.head? ∧
      refusal? layout.toJson? = layout.foreignNodes.head? ∧
      refusal? layout.text? = layout.foreignNodes.head?) ∧
    (∀ {F : Type} (markup : Markup F),
      refusal? markup.toLayout? = markup.foreignNodes.head?) ∧
    ∀ node : Json,
      Layout.foreignMessage node = "Not an Efmt node: " ++ node.literal ∧
      Markup.foreignMessage node = "Not a pretty-printer tree node: " ++ node.literal := by
  refine ⟨?_, ?_, fun node => ⟨rfl, rfl⟩⟩
  · intro F layout pending
    exact ⟨(layout.screens_attachClosing? pending).refusal?_eq,
      layout.screens_attachBrackets?.refusal?_eq, layout.screens_normalize?.refusal?_eq,
      (layout.screens_attachOpening? pending).refusal?_eq, layout.screens_simplify?.refusal?_eq,
      layout.screens_toJson?.refusal?_eq, layout.screens_text?.refusal?_eq⟩
  · intro F markup
    exact markup.screens_toLayout?.refusal?_eq

end DeclDocs
