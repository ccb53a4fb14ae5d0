import DeclDocs.Layout.Arrays

/-! # How layouts are written

A document holds layouts in one of two encodings.  The array encoding keeps the
nests, and the plain encoding is the text alone.  Both walk the layout with a
stack of what is still to be written, the left part of a concatenation first.
-/
namespace DeclDocs
namespace Layout

variable {F : Type}

/-! ## Arrays -/

/-- The array encoding of a layout, or the first foreign node in it. -/
def toJson? (layout : Layout F) : Except F Json :=
  (writeArrays layout).get (by simp [writeArrays_eq])

theorem toJson?_eq (layout : Layout F) : layout.toJson? = layout.encode := by
  simp [toJson?, writeArrays_eq]

/-- The array encoding where no node is foreign. -/
def toJson (layout : Layout Empty) : Json :=
  certain layout.toJson?

/-- Reads the array encoding.  Whatever else stands in its place is a foreign node. -/
def ofJson : Json → Layout Json
  | .str s => .leaf s
  | .arr [.str "n", child] => .nest (ofJson child)
  | .arr [.str "c", left, right] => .join (ofJson left) (ofJson right)
  | other => .foreign other

/-- The complaint about a foreign node of a layout. -/
def foreignMessage (node : Json) : String :=
  "Not an Efmt node: " ++ node.literal

/-! ## Text -/

/-- The text of a layout, by recursion. -/
def flatten : Layout F → Except F String
  | .leaf s => .ok s
  | .nest child => child.flatten
  | .join left right => do
    let left ← left.flatten
    let right ← right.flatten
    return left ++ right
  | .foreign node => .error node

/-- Appends the texts of the layouts on a stack, the top of the stack first, to
the text written so far. -/
def textOnStack (written : String) : List (Layout F) → Except F String
  | [] => .ok written
  | .leaf s :: stack => textOnStack (written ++ s) stack
  | .nest child :: stack => textOnStack written (child :: stack)
  | .join left right :: stack => textOnStack written (left :: right :: stack)
  | .foreign node :: _ => .error node
  termination_by stack => totalSize stack
  decreasing_by all_goals simp [size] <;> omega

theorem textOnStack_cons (written : String) (layout : Layout F) (stack : List (Layout F)) :
    textOnStack written (layout :: stack) =
      layout.flatten.bind fun s => textOnStack (written ++ s) stack := by
  induction layout generalizing written stack with
  | leaf s => rw [textOnStack]; rfl
  | nest child ih => rw [textOnStack, ih]; rfl
  | join left right ihl ihr =>
    rw [textOnStack, ihl, flatten]
    cases left.flatten with
    | error node => rfl
    | ok a =>
      simp only [Except.bind, ihr]
      cases right.flatten with
      | error node => rfl
      | ok b => simp [bind, Except.bind, pure, Except.pure, String.append_assoc]
  | foreign node => rw [textOnStack]; rfl

/-- The text of a layout. -/
def text? (layout : Layout F) : Except F String :=
  textOnStack "" [layout]

theorem text?_eq (layout : Layout F) : layout.text? = layout.flatten := by
  rw [text?, textOnStack_cons]
  cases layout.flatten with
  | error node => rfl
  | ok s => simp [Except.bind, textOnStack]

/-- The text of a layout without foreign nodes. -/
def text (layout : Layout Empty) : String :=
  certain layout.text?

@[simp] theorem text_leaf (s : String) : text (.leaf s) = s := by
  rw [text, text?_eq, flatten, certain_ok]

@[simp] theorem text_nest (child : Layout Empty) : text (.nest child) = child.text := by
  rw [text, text?_eq, flatten, ← text?_eq, ← text]

@[simp] theorem text_join (left right : Layout Empty) :
    text (.join left right) = left.text ++ right.text := by
  rw [text, text?_eq, flatten, certain_bind, certain_bind, certain_pure, ← text?_eq, ← text?_eq,
    ← text, ← text]

/-! ## Either encoding -/

/-- How a document writes layouts: as arrays that keep the nests, or as plain text. -/
inductive Encoding where
  | arrays
  | plain
  deriving DecidableEq, Repr

/-- A layout in an encoding. -/
def toJsonIn? (encoding : Encoding) (layout : Layout F) : Except F Json :=
  match encoding with
  | .arrays => layout.toJson?
  | .plain => return .str (← layout.text?)

end Layout
end DeclDocs
