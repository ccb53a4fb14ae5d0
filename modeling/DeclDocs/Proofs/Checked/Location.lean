import DeclDocs.Checked.Basic

/-! # Where issues lie

Every issue of a reading lies in the value that is read (`Issue.LiesIn`): its path leads to a
value inside, and if something is missing, the path without its last step leads to a value
that the last step does not go on from.  A reading that fails has at least one issue.  Both
are kept when outcomes are put together and when a part is read (`Checked.IsLocated.seq`,
`Checked.IsLocated.within`).
-/
namespace DeclDocs

/-- Whether a path leads from a value to one inside it. -/
inductive Json.LeadsTo : Json → List Step → Json → Prop
  | here (value : Json) : LeadsTo value [] value
  | key {members : Json.Members} {name : String} {value target : Json} {path : List Step}
      (hmember : (name, value) ∈ members) (h : LeadsTo value path target) :
      LeadsTo (.obj members) (.key name :: path) target
  | index {items : List Json} {position : Nat} {value target : Json} {path : List Step}
      (hitem : items[position]? = some value) (h : LeadsTo value path target) :
      LeadsTo (.arr items) (.index position :: path) target

/-- Whether a value is an object without a key, or a list that ends before an index. -/
def Step.IsAbsentFrom : Step → Json → Prop
  | .key name, .obj members => ∀ value, (name, value) ∉ members
  | .index position, .arr items => items.length ≤ position
  | _, _ => False

/-- Whether an issue can be found in a value. -/
inductive Issue.LiesIn (value : Json) : Issue → Prop
  | present {path : List Step} {defect : Defect} {target : Json} (hdefect : defect ≠ .missing)
      (h : value.LeadsTo path target) : LiesIn value ⟨path, defect⟩
  | missing {path : List Step} {step : Step} {parent : Json} (h : value.LeadsTo path parent)
      (habsent : step.IsAbsentFrom parent) : LiesIn value ⟨path ++ [step], .missing⟩

theorem Json.LeadsTo.trans {value middle target : Json} {path rest : List Step}
    (h : value.LeadsTo path middle) (hrest : middle.LeadsTo rest target) :
    value.LeadsTo (path ++ rest) target := by
  induction h with
  | here value => exact hrest
  | key hmember _ ih => exact .key hmember (ih hrest)
  | index hitem _ ih => exact .index hitem (ih hrest)

/-- An issue of a part lies in the whole, one step further away. -/
theorem Issue.LiesIn.within {value part : Json} {step : Step} {issue : Issue}
    (hstep : value.LeadsTo [step] part) (h : issue.LiesIn part) :
    Issue.LiesIn value { issue with path := step :: issue.path } := by
  cases h with
  | present hdefect h => exact .present hdefect (hstep.trans h)
  | missing h habsent => exact .missing (hstep.trans h) habsent

theorem Issue.liesIn_missing {value : Json} {step : Step} (h : step.IsAbsentFrom value) :
    Issue.LiesIn value ⟨[step], .missing⟩ :=
  .missing (.here value) h

theorem Json.Members.get?_eq_none_iff {members : Json.Members} {key : String} :
    members.get? key = none ↔ ∀ value, (key, value) ∉ members := by
  rw [get?, Option.map_eq_none_iff, List.find?_eq_none]
  constructor
  · intro h value hmem
    exact h (key, value) hmem (beq_self_eq_true key)
  · rintro h ⟨name, value⟩ hmem hname
    cases eq_of_beq hname
    exact h value hmem

theorem Json.Members.mem_of_get? {members : Json.Members} {key : String} {value : Json}
    (h : members.get? key = some value) : (key, value) ∈ members := by
  obtain ⟨⟨name, found⟩, hfind, rfl⟩ := Option.map_eq_some_iff.mp h
  obtain rfl : name = key := by simpa using List.find?_some hfind
  exact List.mem_of_find?_eq_some hfind

namespace Checked

variable {α β : Type} {value : Json}

/-- Whether an outcome of reading a value has its issues in it, at least one if it is not
valid. -/
def IsLocated (value : Json) : Checked α → Prop
  | .valid _ => True
  | .invalid issues => issues ≠ [] ∧ ∀ issue ∈ issues, issue.LiesIn value

theorem isLocated_defect {what : Defect} (h : what ≠ .missing) :
    IsLocated value (defect what : Checked α) := by
  refine ⟨List.cons_ne_nil _ _, ?_⟩
  intro issue hissue
  cases List.mem_singleton.mp hissue
  exact .present h (.here value)

theorem IsLocated.liesIn {x : Checked α} (h : IsLocated value x) :
    ∀ issue ∈ x.issues, issue.LiesIn value := by
  cases x with
  | valid a => exact List.forall_mem_nil _
  | invalid issues => exact h.2

theorem IsLocated.map {x : Checked α} (f : α → β) (h : IsLocated value x) :
    IsLocated value (f <$> x) := by
  cases x with
  | valid a => exact trivial
  | invalid issues => exact h

theorem IsLocated.seq {f : Checked (α → β)} {x : Checked α} (hf : IsLocated value f)
    (hx : IsLocated value x) : IsLocated value (f <*> x) := by
  cases f with
  | valid f =>
    cases x with
    | valid a => exact trivial
    | invalid issues => exact hx
  | invalid issues =>
    refine ⟨List.append_ne_nil_of_left_ne_nil hf.1 _, ?_⟩
    intro issue hissue
    rcases List.mem_append.mp hissue with hissue | hissue
    · exact hf.2 issue hissue
    · exact hx.liesIn issue hissue

theorem IsLocated.within {part : Json} {step : Step} {x : Checked α}
    (hstep : value.LeadsTo [step] part) (h : IsLocated part x) :
    IsLocated value (x.within step) := by
  cases x with
  | valid a => exact trivial
  | invalid issues =>
    obtain ⟨hne, hissues⟩ := h
    refine ⟨by simpa using hne, ?_⟩
    intro issue hissue
    obtain ⟨inner, hinner, rfl⟩ := List.mem_map.mp hissue
    exact (hissues inner hinner).within hstep

end Checked
end DeclDocs
