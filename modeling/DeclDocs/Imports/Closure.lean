import DeclDocs.Dump.Basic

/-! # What a module imports

Importing a module makes available the module itself and whatever it imports,
directly or through other modules.  The search keeps the modules seen so far and
those among them whose imports are still to be looked at.  A module is marked as
seen when it is put on the list, so that every module is looked at once and the
search ends on any import graph, cycles included.
-/
namespace DeclDocs
namespace Imports

/-- The modules that `module` imports directly. -/
def direct (imports : Imports) (module : String) : List String :=
  ((imports.find? (·.1 == module)).map (·.2)).getD []

/-- All modules that some module imports. -/
def mentioned (imports : Imports) : List String :=
  imports.flatMap (·.2)

theorem mem_mentioned_of_mem_direct {imports : Imports} {source target : String}
    (h : target ∈ imports.direct source) : target ∈ imports.mentioned := by
  unfold direct at h
  cases found : imports.find? (·.1 == source) with
  | none => simp [found] at h
  | some pair =>
    simp only [found, Option.map_some, Option.getD_some] at h
    exact List.mem_flatMap.2 ⟨pair, List.mem_of_find?_eq_some found, h⟩

/-- A search: the modules seen, and those still to be looked at. -/
structure Search where
  seen : List String
  pending : List String

namespace Search

/-- Marks a module and puts it on the list, unless it has been seen. -/
def enqueue (search : Search) (module : String) : Search :=
  if module ∈ search.seen then search
  else ⟨module :: search.seen, module :: search.pending⟩

/-- Marks all of some modules and puts those on the list that had not been seen. -/
def scan (search : Search) (modules : List String) : Search :=
  modules.foldl enqueue search

/-- How many mentions of modules lie outside what has been seen. -/
def unseen (imports : Imports) (seen : List String) : Nat :=
  (imports.mentioned.filter fun module => !seen.contains module).length

/-- What bounds the rest of a search. -/
def weight (imports : Imports) (search : Search) : Nat :=
  unseen imports search.seen + search.pending.length

theorem length_filter_cons_lt {module : String} {seen modules : List String}
    (hm : module ∈ modules) (hs : module ∉ seen) :
    (modules.filter fun m => !(module :: seen).contains m).length <
      (modules.filter fun m => !seen.contains m).length := by
  have hle : ∀ rest : List String,
      (rest.filter fun m => !(module :: seen).contains m).length ≤
        (rest.filter fun m => !seen.contains m).length := by
    intro rest
    rw [← List.countP_eq_length_filter, ← List.countP_eq_length_filter]
    refine List.countP_mono_left fun x _ hx => ?_
    simp only [List.contains_cons, Bool.not_or, Bool.and_eq_true] at hx
    exact hx.2
  obtain ⟨before, after, rfl⟩ := List.append_of_mem hm
  have hb := hle before
  have ha := hle after
  have hs' : seen.contains module = false := by simpa using hs
  simp only [List.filter_append, List.length_append, List.filter_cons, List.contains_cons,
    BEq.rfl, Bool.true_or, Bool.not_true, Bool.false_eq_true, if_false, hs', Bool.not_false,
    if_true, List.length_cons] at hb ha ⊢
  omega

theorem weight_enqueue_le {imports : Imports} {module : String} (search : Search)
    (h : module ∈ imports.mentioned) :
    weight imports (search.enqueue module) ≤ weight imports search := by
  unfold enqueue
  split
  · exact Nat.le_refl _
  · next hs =>
    have := length_filter_cons_lt h hs
    simp only [weight, unseen, List.length_cons]
    omega

theorem weight_scan_le {imports : Imports} (search : Search) (modules : List String)
    (h : ∀ module ∈ modules, module ∈ imports.mentioned) :
    weight imports (search.scan modules) ≤ weight imports search := by
  induction modules generalizing search with
  | nil => exact Nat.le_refl _
  | cons module rest ih =>
    exact Nat.le_trans (ih _ fun m hm => h m (List.mem_cons_of_mem _ hm))
      (weight_enqueue_le search (h module List.mem_cons_self))

/-- Looks at the pending modules one after another, until none is left. -/
def run (imports : Imports) (search : Search) : List String :=
  match search with
  | ⟨seen, []⟩ => seen
  | ⟨seen, module :: pending⟩ => run imports (scan ⟨seen, pending⟩ (imports.direct module))
  termination_by weight imports search
  decreasing_by
    refine Nat.lt_of_le_of_lt
      (weight_scan_le ⟨seen, pending⟩ _ fun m hm => mem_mentioned_of_mem_direct hm) ?_
    simp [weight]

end Search

/-- The modules that importing `base` makes available, in no particular order. -/
def closure (imports : Imports) (base : String) : List String :=
  Search.run imports ⟨[base], [base]⟩

/-- The closures computed so far, by base module. -/
structure Memory where
  closures : List (String × List String) := []

/-- The closure of `base`, from memory or searched for and remembered. -/
def knownClosure (imports : Imports) (base : String) (memory : Memory) : List String × Memory :=
  match memory.closures.find? (·.1 == base) with
  | some (_, known) => (known, memory)
  | none =>
    let found := imports.closure base
    (found, ⟨(base, found) :: memory.closures⟩)

/-- Whether importing `base` makes `module` available. -/
def provides (imports : Imports) (base module : String) (memory : Memory) : Bool × Memory :=
  let (known, memory) := imports.knownClosure base memory
  (known.contains module, memory)

end Imports
end DeclDocs
