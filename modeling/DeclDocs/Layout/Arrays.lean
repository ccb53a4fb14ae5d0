import DeclDocs.Json.Literal
import DeclDocs.Layout.Basic

/-! # Layouts as arrays

The array encoding of a layout keeps its nests: a text is a string, a nest is `["n", child]`
and a concatenation is `["c", left, right]`.  `encode` says this by recursion.

The arrays are written with a stack of the layouts that are still to be written, each with the
array that it belongs in, so that long concatenations need no deep recursion.  A new array is
put in its place before it is filled.  What stands there is the array itself and not a copy of
what it holds so far: arrays live in a store, are known by their addresses, and are read when
all of them are filled.

`fill_cons` is what the loop does with one layout, whatever else is on the stack: it puts one
slot at the end of an array and makes some arrays, and changes nothing else.  `shows_slotAt` is
what this slot shows, whatever is made after these arrays.  Together they say that the loop ends
with the encoding (`writeArrays_eq`).
-/
namespace DeclDocs
namespace Layout

variable {F : Type}

/-- The array of a nest. -/
def nestArray (child : Json) : Json :=
  .arr [.str "n", child]

/-- The array of a concatenation. -/
def joinArray (left right : Json) : Json :=
  .arr [.str "c", left, right]

/-- The array encoding, by recursion. -/
def encode : Layout F → Except F Json
  | .leaf s => .ok (.str s)
  | .nest child => do
    let child ← child.encode
    return nestArray child
  | .join left right => do
    let left ← left.encode
    let right ← right.encode
    return joinArray left right
  | .foreign node => .error node

/-! ## Filling arrays -/

/-- What stands in an array that is being filled: a text, or another array by its address. -/
inductive Slot where
  | text (s : String)
  | array (address : Nat)
  deriving DecidableEq, Repr

/-- The arrays that have been made, each at its address, which is the number of arrays that had
been made before it. -/
abbrev Store := Array (List Slot)

namespace Store

/-- The store with one more slot at the end of the array at an address. -/
def extend (store : Store) (address : Nat) (slot : Slot) : Store :=
  store.modify address (· ++ [slot])

/-- The store with a new array, which holds a tag so far and stands at the end of the array at
an address. -/
def link (store : Store) (address : Nat) (tag : String) : Store :=
  (extend store address (.array store.size)).push [.text tag]

end Store

/-- Fills the arrays in the store with the layouts on a stack, each of which goes to the end of
the array whose address stands beside it.  The array of a layout is put in its place as soon as
it is made, and filled there. -/
def fill : List (Layout F × Nat) → Store → Except F Store
  | [], store => .ok store
  | (.leaf s, parent) :: stack, store => fill stack (store.extend parent (.text s))
  | (.nest child, parent) :: stack, store =>
    fill ((child, store.size) :: stack) (store.link parent "n")
  | (.join left right, parent) :: stack, store =>
    fill ((left, store.size) :: (right, store.size) :: stack) (store.link parent "c")
  | (.foreign node, _) :: _, _ => .error node
  termination_by stack => totalSize (stack.map Prod.fst)
  decreasing_by all_goals simp [size] <;> omega

/-- The value of a slot in a store of `count` arrays, where `newer` has the values of the newest
of them, the newest first. -/
def Slot.value? (count : Nat) (newer : Array Json) : Slot → Option Json
  | .text s => some (.str s)
  | .array address => if address < count then newer[count - 1 - address]? else none

/-- Reads one more array, from the values of all arrays that are newer. -/
def readArray (count : Nat) (slots : List Slot) (newer? : Option (Array Json)) :
    Option (Array Json) := do
  let newer ← newer?
  let parts ← slots.mapM (Slot.value? count newer)
  return newer.push (.arr parts)

/-- What stands first in the oldest array of a store.  An array holds newer ones only, so that
the arrays are read from the newest on. -/
def Store.first? (store : Store) : Option Json := do
  let values ← store.foldr (readArray store.size) (some #[])
  let root ← store[0]?
  let slot ← root.head?
  slot.value? store.size values

/-- Writes a layout into an array of its own and takes it from there.  There is no answer if
there is nothing in that array. -/
def writeArrays (layout : Layout F) : Option (Except F Json) :=
  match fill [(layout, 0)] #[[]] with
  | .ok store => store.first?.map .ok
  | .error node => some (.error node)

/-! ## What filling leaves -/

namespace Store

@[simp] theorem size_extend (store : Store) (address : Nat) (slot : Slot) :
    (extend store address slot).size = store.size :=
  Array.size_modify

theorem extend_append {store : Store} {address : Nat} (h : address < store.size) (made : Store)
    (slot : Slot) : extend (store ++ made) address slot = extend store address slot ++ made := by
  refine Array.ext (by simp) fun i _ _ => ?_
  simp only [extend, Array.getElem_modify, Array.getElem_append, Array.size_modify]
  grind

theorem extend_push {store : Store} {address : Nat} (h : store.size = address) (slots : List Slot)
    (slot : Slot) : extend (store.push slots) address slot = store.push (slots ++ [slot]) := by
  refine Array.ext (by simp) fun i _ _ => ?_
  simp only [extend, Array.getElem_modify, Array.getElem_push]
  grind

theorem extend_append_cons {store : Store} {address : Nat} (h : store.size = address)
    (slots : List Slot) (made : List (List Slot)) (slot : Slot) :
    extend (store ++ (slots :: made).toArray) address slot =
      store ++ ((slots ++ [slot]) :: made).toArray := by
  have hlast : address < (store.push slots).size := by
    rw [Array.size_push, h]
    omega
  rw [← List.push_append_toArray, extend_append hlast, extend_push h, List.push_append_toArray]

theorem append_made (store : Store) (made later : List (List Slot)) :
    store ++ made.toArray ++ later.toArray = store ++ (made ++ later).toArray := by
  simp

theorem extend_link (store : Store) (address : Nat) (tag : String) (slot : Slot) :
    extend (link store address tag) store.size slot =
      (extend store address (.array store.size)).push [.text tag, slot] :=
  extend_push (size_extend ..) [.text tag] slot

@[simp] theorem size_link (store : Store) (address : Nat) (tag : String) :
    (link store address tag).size = store.size + 1 := by
  rw [link, Array.size_push, size_extend]

end Store

/-- The slot that is put into the array of a layout's parent, if the next array that is made is
the one at `address`. -/
def slotAt (address : Nat) : Layout F → Slot
  | .leaf s => .text s
  | _ => .array address

/-- The arrays that are made for a layout, if the first of them is the one at `address`. -/
def arraysAt (address : Nat) : Layout F → List (List Slot)
  | .leaf _ => []
  | .nest child =>
    [.text "n", child.slotAt (address + 1)] :: child.arraysAt (address + 1)
  | .join left right =>
    let forLeft := left.arraysAt (address + 1)
    let next := address + 1 + forLeft.length
    [.text "c", left.slotAt (address + 1), right.slotAt next] ::
      (forLeft ++ right.arraysAt next)
  | .foreign _ => []

/-- Filling an array with a layout puts the slot of the layout at its end and makes the arrays
of the layout, or ends with the refusal. -/
theorem fill_cons (layout : Layout F) (parent : Nat) (stack : List (Layout F × Nat))
    (store : Store) :
    fill ((layout, parent) :: stack) store =
      layout.encode.bind fun _ => fill stack
        (store.extend parent (layout.slotAt store.size) ++
          (layout.arraysAt store.size).toArray) := by
  induction layout generalizing parent stack store with
  | leaf s =>
    rw [fill, slotAt, arraysAt, Array.append_empty]
    rfl
  | nest child ih =>
    rw [fill, ih, Store.size_link, Store.extend_link, List.push_append_toArray, encode]
    cases child.encode <;> rfl
  | join left right ihl ihr =>
    rw [fill, ihl, Store.size_link, Store.extend_link, List.push_append_toArray, encode]
    cases left.encode with
    | error node => rfl
    | ok leftJson =>
      have hsize : (store.extend parent (.array store.size) ++
          ([.text "c", left.slotAt (store.size + 1)] :: left.arraysAt (store.size + 1)).toArray).size =
            store.size + 1 + (left.arraysAt (store.size + 1)).length := by
        simp
        omega
      simp only [Except.bind]
      rw [ihr, hsize, Store.extend_append_cons (Store.size_extend ..), Store.append_made]
      cases right.encode <;> rfl
  | foreign node => rw [fill]; rfl

/-! ## What the slots show -/

/-- Whether some slots show some values when the arrays `made`, the first of them at `address`,
are in the store, whatever is made after these. -/
def Shows (address : Nat) (made : List (List Slot)) (slots : List Slot) (values : List Json) :
    Prop :=
  ∀ (count : Nat) (newer : Array Json), address + made.length + newer.size = count →
    ∃ read : Array Json, read.size = made.length ∧
      made.foldr (readArray count) (some newer) = some (newer ++ read) ∧
      slots.mapM (Slot.value? count (newer ++ read)) = some values

theorem Slot.value?_append {count : Nat} {newer : Array Json} {slot : Slot} {value : Json}
    (h : slot.value? count newer = some value) (read : Array Json) :
    slot.value? count (newer ++ read) = some value := by
  cases slot with
  | text s => exact h
  | array address =>
    simp only [value?] at h ⊢
    grind

theorem mapM_value?_append {count : Nat} {newer : Array Json} {slots : List Slot}
    {values : List Json} (h : slots.mapM (Slot.value? count newer) = some values)
    (read : Array Json) : slots.mapM (Slot.value? count (newer ++ read)) = some values := by
  induction slots generalizing values with
  | nil => exact h
  | cons slot rest ih =>
    rw [List.mapM_cons, Option.bind_eq_bind, Option.bind_eq_some_iff] at h
    obtain ⟨value, hslot, h⟩ := h
    rw [Option.bind_eq_bind, Option.bind_eq_some_iff] at h
    obtain ⟨others, hrest, h⟩ := h
    rw [List.mapM_cons, Slot.value?_append hslot, ih hrest]
    exact h

theorem shows_text (address : Nat) (s : String) : Shows address [] [.text s] [.str s] :=
  fun _ newer _ => ⟨#[], rfl, by simp, rfl⟩

/-- Slots that stand after others go with the arrays that were made after theirs. -/
theorem Shows.append {address : Nat} {made later : List (List Slot)} {slots others : List Slot}
    {values more : List Json} (h : Shows address made slots values)
    (hlater : Shows (address + made.length) later others more) :
    Shows address (made ++ later) (slots ++ others) (values ++ more) := by
  intro count newer hcount
  rw [List.length_append] at hcount
  obtain ⟨second, hsecond, hreadLater, hmore⟩ := hlater count newer (by omega)
  obtain ⟨first, hfirst, hread, hvalues⟩ :=
    h count (newer ++ second) (by rw [Array.size_append]; omega)
  refine ⟨second ++ first, by rw [Array.size_append, List.length_append]; omega, ?_, ?_⟩
  · rw [List.foldr_append, hreadLater, hread, Array.append_assoc]
  · rw [← Array.append_assoc, List.mapM_append, hvalues, mapM_value?_append hmore]
    rfl

/-- An array shows the values of its slots. -/
theorem Shows.array {address : Nat} {made : List (List Slot)} {slots : List Slot}
    {values : List Json} (h : Shows (address + 1) made slots values) :
    Shows address (slots :: made) [.array address] [.arr values] := by
  intro count newer hcount
  rw [List.length_cons] at hcount
  obtain ⟨read, hsize, hread, hvalues⟩ := h count newer (by omega)
  refine ⟨read.push (.arr values), by rw [Array.size_push, hsize, List.length_cons], ?_, ?_⟩
  · rw [List.foldr_cons, hread, readArray, Option.bind_eq_bind, Option.bind_some, hvalues,
      Array.append_push]
    rfl
  · have hold : address < count := by omega
    have hlast : count - 1 - address = (newer ++ read).size := by
      rw [Array.size_append]
      omega
    rw [List.mapM_cons, Slot.value?, if_pos hold, hlast, Array.append_push,
      Array.getElem?_push_size]
    rfl

/-- The slot of a layout shows its encoding. -/
theorem shows_slotAt {layout : Layout F} {json : Json} (h : layout.encode = .ok json)
    (address : Nat) : Shows address (layout.arraysAt address) [layout.slotAt address] [json] := by
  induction layout generalizing json address with
  | leaf s =>
    cases h
    exact shows_text address s
  | nest child ih =>
    obtain ⟨childJson, hchild, h⟩ := bind_eq_ok_iff.mp h
    cases h
    exact ((shows_text _ "n").append (ih hchild _)).array
  | join left right ihl ihr =>
    obtain ⟨leftJson, hleft, h⟩ := bind_eq_ok_iff.mp h
    obtain ⟨rightJson, hright, h⟩ := bind_eq_ok_iff.mp h
    cases h
    exact (((shows_text _ "c").append (ihl hleft _)).append (ihr hright _)).array
  | foreign node => cases h

theorem first?_of_shows {made : List (List Slot)} {slot : Slot} {value : Json}
    (h : Shows 1 made [slot] [value]) :
    Store.first? ([slot] :: made).toArray = some value := by
  obtain ⟨read, -, hread, hvalue⟩ :=
    h (made.length + 1) #[] (by rw [Array.size_empty]; omega)
  rw [Array.empty_append] at hread hvalue
  have hroot : readArray (made.length + 1) [slot] (some read) =
      some (read.push (.arr [value])) := by
    rw [readArray, Option.bind_eq_bind, Option.bind_some, hvalue]
    rfl
  have hslot : slot.value? (made.length + 1) (read.push (.arr [value])) = some value := by
    rw [List.mapM_cons, Option.bind_eq_bind, Option.bind_eq_some_iff] at hvalue
    obtain ⟨found, hfound, hvalue⟩ := hvalue
    cases hvalue
    exact Slot.value?_append hfound #[_]
  rw [Store.first?, ← Array.foldr_toList, List.size_toArray, List.length_cons, List.foldr_cons,
    hread, hroot]
  exact hslot

theorem writeArrays_eq (layout : Layout F) : writeArrays layout = some layout.encode := by
  rw [writeArrays, fill_cons]
  cases h : layout.encode with
  | error node => rfl
  | ok json =>
    have hstore : Store.extend #[[]] 0 (layout.slotAt 1) ++ (layout.arraysAt 1).toArray =
        ([layout.slotAt 1] :: layout.arraysAt 1).toArray := by
      simp [Store.extend]
    have hfirst := first?_of_shows (shows_slotAt h 1)
    rw [← hstore] at hfirst
    simp only [Except.bind, fill]
    exact congrArg (Option.map Except.ok) hfirst

end Layout
end DeclDocs
