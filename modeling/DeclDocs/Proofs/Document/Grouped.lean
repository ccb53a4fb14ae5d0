import Mathlib.Data.List.Induction
import DeclDocs.Document.Grouped

/-! # Laws of grouping

Adding a value under a key leaves the keys distinct (`Grouped.nodup_keys_add`) and in order of
their first appearance (`Grouped.keys_add_eq_eraseDups`), and puts the value at the end of the
group of its key, and nowhere else (`Grouped.get_add`).  Value by value this gives the groups
of a list: one for each key, with the values that have it (`Grouped.of_eq`).
-/
namespace DeclDocs
namespace Grouped

variable {α : Type}

/-- The keys of some groups, in order. -/
def keys (groups : Grouped α) : List String :=
  groups.map Prod.fst

@[simp] theorem get_nil (key : String) : get ([] : Grouped α) key = [] := rfl

theorem get_cons (k : String) (values : List α) (rest : Grouped α) (key : String) :
    get ((k, values) :: rest) key = if k = key then values else get rest key := by
  by_cases h : k = key
  · simp [get, h]
  · have hne : (k == key) = false := by simpa using h
    simp [get, List.find?, h, hne]

theorem get_add (groups : Grouped α) (key : String) (value : α) (k : String) :
    (groups.add key value).get k =
      if key = k then groups.get k ++ [value] else groups.get k := by
  induction groups with
  | nil => simp [add, get_cons]
  | cons group rest ih =>
    obtain ⟨k', values⟩ := group
    rw [add]
    by_cases hkey : k' = key
    · subst hkey
      rw [if_pos rfl, get_cons, get_cons]
      by_cases hk : k' = k <;> simp [hk]
    · rw [if_neg hkey, get_cons, get_cons, ih]
      by_cases hk : k' = k
      · subst hk
        simp [Ne.symm hkey]
      · simp [hk]

theorem keys_add (groups : Grouped α) (key : String) (value : α) :
    (groups.add key value).keys =
      if key ∈ groups.keys then groups.keys else groups.keys ++ [key] := by
  induction groups with
  | nil => rfl
  | cons group rest ih =>
    obtain ⟨k, values⟩ := group
    simp only [keys, List.map_cons, List.mem_cons] at ih ⊢
    rw [add]
    by_cases hkey : k = key
    · simp [hkey]
    · rw [if_neg hkey, List.map_cons, ih]
      by_cases hrest : key ∈ rest.map Prod.fst
      · simp [hrest]
      · simp [hrest, Ne.symm hkey]

theorem nodup_keys_add {groups : Grouped α} (h : groups.keys.Nodup) (key : String) (value : α) :
    (groups.add key value).keys.Nodup := by
  rw [keys_add]
  split
  next => exact h
  next hnew =>
    rw [List.nodup_append]
    refine ⟨h, by simp, ?_⟩
    rintro k hk _ hlast rfl
    rw [List.mem_singleton] at hlast
    exact hnew (hlast ▸ hk)

/-- A key that is new comes last, so that the keys stay in order of their first appearance. -/
theorem keys_add_eq_eraseDups {groups : Grouped α} {seen : List String}
    (h : groups.keys = seen.eraseDups) (key : String) (value : α) :
    (groups.add key value).keys = (seen ++ [key]).eraseDups := by
  rw [keys_add, h, List.eraseDups_append]
  by_cases hkey : key ∈ seen <;> simp [List.removeAll, List.mem_eraseDups, List.eraseDups_cons, hkey]

theorem get_of_not_mem_keys {groups : Grouped α} {key : String} (h : key ∉ groups.keys) :
    groups.get key = [] := by
  have hfind : groups.find? (·.1 == key) = none := by
    rw [List.find?_eq_none]
    intro group hgroup
    have hne : group.1 ≠ key := fun heq => h (List.mem_map.mpr ⟨group, hgroup, heq⟩)
    simpa using hne
  rw [get, hfind]
  rfl

theorem exists_mem_of_mem_get {groups : Grouped α} {key : String} {x : α}
    (hx : x ∈ groups.get key) : ∃ values, (key, values) ∈ groups ∧ x ∈ values := by
  rw [get] at hx
  cases hfound : groups.find? (·.1 == key) with
  | none => simp [hfound] at hx
  | some group =>
    have hkey : group.1 = key := by simpa using List.find?_some hfound
    simp only [hfound, Option.map_some, Option.getD_some] at hx
    exact ⟨group.2, hkey ▸ List.mem_of_find?_eq_some hfound, hx⟩

/-- If every key has one group, a group is what is found under its key. -/
theorem get_eq_of_mem {groups : Grouped α} (h : groups.keys.Nodup) {group : String × List α}
    (hgroup : group ∈ groups) : groups.get group.1 = group.2 := by
  induction groups with
  | nil => cases hgroup
  | cons head rest ih =>
    obtain ⟨k, values⟩ := head
    rw [keys, List.map_cons, List.nodup_cons] at h
    obtain ⟨hnew, hrest⟩ := h
    rw [get_cons]
    rcases List.mem_cons.mp hgroup with rfl | hlater
    · exact if_pos rfl
    · have hne : k ≠ group.1 := by
        intro heq
        exact hnew (List.mem_map.mpr ⟨group, hlater, heq.symm⟩)
      rw [if_neg hne]
      exact ih hrest hlater

/-- If every key has one group, the groups are what is found under the keys. -/
theorem eq_map_get {groups : Grouped α} (h : groups.keys.Nodup) :
    groups = groups.keys.map fun key => (key, groups.get key) := by
  rw [keys, List.map_map]
  refine (List.map_id groups).symm.trans (List.map_congr_left fun group hgroup => ?_)
  rw [Function.comp_apply, get_eq_of_mem h hgroup, id]

/-- Adding a value adds it once to what the groups hold together. -/
theorem flatMap_add_perm (groups : Grouped α) (key : String) (value : α) :
    ((groups.add key value).flatMap Prod.snd).Perm (groups.flatMap Prod.snd ++ [value]) := by
  induction groups with
  | nil => exact .refl _
  | cons group rest ih =>
    obtain ⟨k, values⟩ := group
    rw [add]
    by_cases hkey : k = key
    · rw [if_pos hkey, List.flatMap_cons, List.flatMap_cons, List.append_assoc,
        List.append_assoc]
      exact List.perm_append_comm.append_left values
    · rw [if_neg hkey, List.flatMap_cons, List.flatMap_cons, List.append_assoc]
      exact ih.append_left values

/-! ## The groups of a list -/

theorem of_concat (key : α → String) (values : List α) (value : α) :
    of key (values ++ [value]) = (of key values).add (key value) value := by
  rw [of, List.foldl_append]
  rfl

/-- The keys are those of the values, in order of their first appearance. -/
theorem keys_of (key : α → String) (values : List α) :
    (of key values).keys = (values.map key).eraseDups := by
  induction values using List.reverseRecOn with
  | nil => rfl
  | append_singleton values value ih =>
    rw [of_concat, keys_add_eq_eraseDups ih, List.map_append, List.map_singleton]

/-- Every key has one group. -/
theorem nodup_keys_of (key : α → String) (values : List α) : (of key values).keys.Nodup := by
  induction values using List.reverseRecOn with
  | nil => exact List.nodup_nil
  | append_singleton values value ih =>
    rw [of_concat]
    exact nodup_keys_add ih _ _

/-- The group of a key holds the values that have it, in their order. -/
theorem get_of (key : α → String) (values : List α) (k : String) :
    (of key values).get k = values.filter (key · = k) := by
  induction values using List.reverseRecOn with
  | nil => rfl
  | append_singleton values value ih =>
    rw [of_concat, get_add, ih, List.filter_append]
    by_cases hkey : key value = k <;> simp [hkey]

theorem of_eq (key : α → String) (values : List α) :
    of key values =
      (values.map key).eraseDups.map fun k => (k, values.filter (key · = k)) := by
  rw [eq_map_get (nodup_keys_of key values), keys_of]
  simp only [get_of]

/-- The groups together hold the values, each as often as it is there. -/
theorem flatMap_of_perm (key : α → String) (values : List α) :
    ((of key values).flatMap Prod.snd).Perm values := by
  induction values using List.reverseRecOn with
  | nil => exact .refl _
  | append_singleton values value ih =>
    rw [of_concat]
    exact (flatMap_add_perm _ _ _).trans (ih.append_right [value])

/-- A group holds no value but those that were grouped. -/
theorem mem_of_mem_of {key : α → String} {values : List α} {group : String × List α}
    (hgroup : group ∈ of key values) {x : α} (hx : x ∈ group.2) : x ∈ values := by
  rw [of_eq, List.mem_map] at hgroup
  obtain ⟨k, -, rfl⟩ := hgroup
  exact (List.mem_filter.mp hx).1

end Grouped
end DeclDocs
