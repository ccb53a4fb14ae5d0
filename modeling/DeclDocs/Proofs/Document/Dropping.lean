import DeclDocs.Proofs.Document.Grouped
import DeclDocs.Proofs.Document.Rendering

/-! # Leaving declarations out

Declarations can be left out of a document for any reason (`Document.dropping`).  Their names
are then taken off the lists of instances: off the list of each class, and off no other
(`Document.get_keepInstances`), and a class whose list is empty goes too.
-/
namespace DeclDocs
namespace Document

variable {dropped : List String} {groups : Grouped String}

theorem keepInstances_cons (dropped : List String) (key : String) (names : List String)
    (rest : Grouped String) :
    keepInstances dropped ((key, names) :: rest) =
      if names.filter (· ∉ dropped) = [] then keepInstances dropped rest
      else (key, names.filter (· ∉ dropped)) :: keepInstances dropped rest := by
  rw [keepInstances_eq, keepInstances_eq, List.filterMap_cons]
  by_cases hempty : names.filter (· ∉ dropped) = []
  · simp only [hempty, if_pos]
  · simp only [hempty, if_false]

theorem keys_keepInstances_sublist (dropped : List String) (groups : Grouped String) :
    (keepInstances dropped groups).keys.Sublist groups.keys := by
  induction groups with
  | nil => exact List.Sublist.refl []
  | cons group rest ih =>
    obtain ⟨key, names⟩ := group
    rw [keepInstances_cons]
    split
    next => exact ih.cons key
    next => exact ih.cons_cons key

theorem ne_nil_of_mem_keepInstances {group : String × List String}
    (hgroup : group ∈ keepInstances dropped groups) : group.2 ≠ [] := by
  have hnames := (List.mem_filter.mp hgroup).2
  simpa using hnames

/-- If every class has one list, names are taken off the list of a class and off no other. -/
theorem get_keepInstances (h : groups.keys.Nodup) (key : String) :
    (keepInstances dropped groups).get key = (groups.get key).filter (· ∉ dropped) := by
  induction groups with
  | nil => rfl
  | cons group rest ih =>
    obtain ⟨k, names⟩ := group
    rw [Grouped.keys, List.map_cons, List.nodup_cons] at h
    obtain ⟨hnew, hrest⟩ := h
    rw [keepInstances_cons, Grouped.get_cons]
    by_cases hkey : k = key
    · subst hkey
      rw [if_pos rfl]
      split
      next hempty => rw [ih hrest, Grouped.get_of_not_mem_keys hnew, hempty, List.filter_nil]
      next => rw [Grouped.get_cons, if_pos rfl]
    · rw [if_neg hkey]
      split
      next => exact ih hrest
      next => rw [Grouped.get_cons, if_neg hkey, ih hrest]

/-- A document without some of its declarations, and without their names among the
instances. -/
def dropping (drop : Declaration Empty → Bool) (document : Document Empty) : Document Empty :=
  { document with
    declarations := document.declarations.filter fun record => !drop record
    instances := keepInstances ((document.declarations.filter drop).map Declaration.name)
      document.instances }

@[simp] theorem declarations_dropping (drop : Declaration Empty → Bool)
    (document : Document Empty) : (document.dropping drop).declarations =
      document.declarations.filter fun record => !drop record := rfl

theorem keys_dropping_sublist (drop : Declaration Empty → Bool) (document : Document Empty) :
    (document.dropping drop).instances.keys.Sublist document.instances.keys :=
  keys_keepInstances_sublist _ document.instances

/-- What is written of a document is what is left without the declarations that nest too
deeply. -/
theorem kept_eq_dropping (limit : NestingLimit) (encoding : Layout.Encoding)
    (document : Document Empty) :
    document.kept limit encoding = document.dropping (Declaration.isTooDeep limit encoding) := by
  rw [kept, dropping, keepInstances_eq]
  rfl

end Document
end DeclDocs
