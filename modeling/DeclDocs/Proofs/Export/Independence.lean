import Mathlib.Data.List.Basic
import DeclDocs.Proofs.Export.Answers
import DeclDocs.Proofs.Export.Document

/-! # Declarations do not interfere

What a dump says of the declarations of one name reaches a document only under that name
(`Dump.document_of_differOnlyAt`).
-/
namespace DeclDocs

namespace Host

variable {Memory : Type} {host : Host Memory}

theorem filter_records (names : List String) (name : String) :
    ((names.filterMap fun asked => (host.record? asked).1).filter fun record =>
        record.name ≠ name) =
      (names.filter (· ≠ name)).filterMap fun asked => (host.record? asked).1 := by
  rw [List.filter_filterMap, List.filterMap_filter]
  refine List.filterMap_congr fun asked _ => ?_
  -- a record has the name that was asked for
  cases hrecord : (host.record? asked).1 with
  | none => simp
  | some record =>
    have hname : record.name = asked := name_of_record hrecord
    by_cases h : asked = name <;> simp [Option.filter, hname, h]

theorem filter_get_instances (records : List (Declaration Empty)) (className name : String) :
    ((host.instances records).1.get className).filter (· ≠ name) =
      ((records.filter fun record => record.name ≠ name).filter fun record =>
        host.IsInstanceOf className record).map Declaration.name := by
  rw [get_instances, List.filter_map, List.filter_filter, List.filter_filter]
  simp only [Function.comp_apply, Bool.and_comm]

end Host

namespace Dump

/-- Two dumps differ in nothing but what they say of the declarations of a name, and not in
how many there are, in their places on the list, or in their modules. -/
structure DifferOnlyAt (name : String) (dump other : Dump) : Prop where
  /-- The names and the modules are the same, in order. -/
  places : (dump.declarations.map fun entry => (entry.name, entry.module)) =
    other.declarations.map fun entry => (entry.name, entry.module)
  /-- The declarations of other names are the same. -/
  others : (dump.declarations.filter fun entry => entry.name ≠ name) =
    other.declarations.filter fun entry => entry.name ≠ name
  moduleDocs : dump.moduleDocs = other.moduleDocs
  notes : dump.notes = other.notes
  tacticDocs : dump.tacticDocs = other.tacticDocs
  imports : dump.imports = other.imports

theorem find?_eq_find?_filter (dump : Dump) {name asked : String} (h : asked ≠ name) :
    dump.find? asked =
      (dump.declarations.filter fun entry => entry.name ≠ name).reverse.find? (·.name == asked) := by
  -- an entry with the name that is asked for is not filtered out
  rw [find?, ← List.filter_reverse, List.find?_filter]
  congr 1
  funext entry
  by_cases hasked : entry.name = asked
  · simp [hasked, h]
  · simp [hasked]

theorem moduleOf_eq (dump : Dump) (asked : String) :
    (dump.find? asked).bind Entry.module =
      ((dump.declarations.map fun entry => (entry.name, entry.module)).reverse.find?
        (·.1 == asked)).bind Prod.snd := by
  rw [← List.map_reverse, List.find?_map, Option.bind_map]
  rfl

theorem describeAlike_of_find?_eq {dump other : Dump} {asked : String}
    (h : dump.find? asked = other.find? asked) : dump.host.DescribeAlike other.host asked := by
  have hget : dump.get asked = other.get asked := by rw [get, get, h]
  constructor
  case hasAttribute => intro attr; simp only [host, hget]
  all_goals simp only [host, hget]

namespace DifferOnlyAt

variable {name asked : String} {dump other : Dump} (h : dump.DifferOnlyAt name other)

include h

theorem names_eq : dump.declarations.map Entry.name = other.declarations.map Entry.name := by
  have hnames := congrArg (List.map Prod.fst) h.places
  rwa [List.map_map, List.map_map] at hnames

theorem find?_eq (hasked : asked ≠ name) : dump.find? asked = other.find? asked := by
  rw [find?_eq_find?_filter dump hasked, find?_eq_find?_filter other hasked, h.others]

theorem moduleOf_eq : dump.host.moduleOf = other.host.moduleOf := by
  funext asked
  show Except.ok ((dump.find? asked).bind Entry.module) = _
  rw [Dump.moduleOf_eq, h.places, ← Dump.moduleOf_eq]
  rfl

theorem provides_eq : dump.host.provides = other.host.provides := by
  funext base module memory
  show _ = other.host.provides base module memory
  simp only [host, h.imports]

theorem records_eq (names : List String) :
    ((names.filterMap fun asked => (dump.host.record? asked).1).filter fun record =>
        record.name ≠ name) =
      (names.filterMap fun asked => (other.host.record? asked).1).filter fun record =>
        record.name ≠ name := by
  rw [Host.filter_records, Host.filter_records]
  refine List.filterMap_congr fun asked hasked => ?_
  have hne : asked ≠ name := by simpa using (List.mem_filter.mp hasked).2
  rw [Host.record?_congr (describeAlike_of_find?_eq (h.find?_eq hne))]

theorem isInstanceOf_iff {record : Declaration Empty} (hname : record.name ≠ name)
    (className : String) :
    dump.host.IsInstanceOf className record ↔ other.host.IsInstanceOf className record := by
  have hclass : dump.host.instanceClass record.name = other.host.instanceClass record.name := by
    simp only [host, get, h.find?_eq hname]
  constructor
  · rintro ⟨hattribute, hinstance, hnamed⟩
    exact ⟨hattribute, hclass ▸ hinstance, hnamed⟩
  · rintro ⟨hattribute, hinstance, hnamed⟩
    exact ⟨hattribute, hclass ▸ hinstance, hnamed⟩

/-- The lists of instances differ at most in the name, if the records do. -/
theorem instances_eq {records others : List (Declaration Empty)}
    (hrecords : (records.filter fun record => record.name ≠ name) =
      others.filter fun record => record.name ≠ name) (className : String) :
    ((dump.host.instances records).1.get className).filter (· ≠ name) =
      ((other.host.instances others).1.get className).filter (· ≠ name) := by
  rw [Host.filter_get_instances, Host.filter_get_instances, ← hrecords]
  congr 1
  refine List.filter_congr fun record hrecord => ?_
  have hname : record.name ≠ name := by simpa using (List.mem_filter.mp hrecord).2
  rw [decide_eq_decide]
  exact h.isInstanceOf_iff hname className

end DifferOnlyAt

/-- **Declarations do not interfere.**  If two dumps differ in nothing but what they say of the
declarations of a name, their documents agree on everything else: they have the same records
of other names, in the same order, the same docs, notes and labeled tactic docs, and each class
has the same instances of other names, in the same order. -/
theorem document_of_differOnlyAt (name : String) (dump other : Dump)
    (h : dump.DifferOnlyAt name other) (memory : Imports.Memory) :
    ∃ document notices document' notices',
      dump.host.document memory = .ok (document, notices) ∧
      other.host.document memory = .ok (document', notices') ∧
      (document.declarations.filter fun record => record.name ≠ name) =
        (document'.declarations.filter fun record => record.name ≠ name) ∧
      document.moduleDocs = document'.moduleDocs ∧
      document.notes = document'.notes ∧
      document.tacticDocs = document'.tacticDocs ∧
      ∀ className, (document.instances.get className).filter (· ≠ name) =
        (document'.instances.get className).filter (· ≠ name) := by
  obtain ⟨document, notices, hdocument, hmoduleDocs, hnotes, -⟩ :=
    dump.host_answersInventory.exists_assembles memory
  obtain ⟨document', notices', hdocument', hmoduleDocs', hnotes', -⟩ :=
    other.host_answersInventory.exists_assembles memory
  have hrecords : (document.declarations.filter fun record => record.name ≠ name) =
      document'.declarations.filter fun record => record.name ≠ name := by
    rw [hdocument.declarations_eq, hdocument'.declarations_eq, h.names_eq]
    exact h.records_eq _
  refine ⟨document, notices, document', notices',
    Host.document_eq_ok_iff.mpr ⟨_, hdocument⟩, Host.document_eq_ok_iff.mpr ⟨_, hdocument'⟩,
    hrecords, ?_, ?_, ?_, ?_⟩
  · rw [hmoduleDocs, hmoduleDocs', h.moduleDocs]
  · rw [hnotes, hnotes', h.notes]
  · -- the labels depend on where declarations are and on the imports, which are the same
    have hlabeled : dump.host.labeledTacticDocs memory = other.host.labeledTacticDocs memory :=
      Host.labeledTacticDocs_congr h.moduleOf_eq h.provides_eq (congrArg Except.ok h.tacticDocs) _
    have htacticDocs := hdocument.tacticDocs
    rw [hlabeled, hdocument'.tacticDocs, Except.ok.injEq] at htacticDocs
    exact htacticDocs.symm
  · intro className
    rw [hdocument.instances_eq, hdocument'.instances_eq]
    exact h.instances_eq hrecords className

/-- A dump that lists `b` twice, the second time with the given content. -/
def withContent (content : Entry) : Dump where
  declarations :=
    [{ name := "a", kind := "definition", module := some "m", type := .str "t"
       attributes := ["instance"], instanceClass := some "c" },
     { name := "b", kind := "constant", type := .null }, content]
  tacticDocs := [{ name := "tac", category := "tactic", declNames := ["b"] }]
  imports := [("init", ["m"])]

/-- An instance. -/
def instanceContent : Entry :=
  { name := "b", kind := "axiom", module := some "m", type := .str "t"
    attributes := ["instance"], instanceClass := some "c" }

/-- No instance, and nothing that has a record. -/
def malformedContent : Entry :=
  { name := "b", kind := "axiom", module := some "m", type := .null, internal := true }

theorem document_of_differOnlyAt_content :
    (withContent instanceContent).DifferOnlyAt "b" (withContent malformedContent) ∧
    ∃ document notices document' notices',
      (withContent instanceContent).host.document {} = .ok (document, notices) ∧
      (withContent malformedContent).host.document {} = .ok (document', notices') ∧
      document.tacticDocs = document'.tacticDocs ∧
      (document.instances.get "c").filter (· ≠ "b") =
        (document'.instances.get "c").filter (· ≠ "b") := by
  have h : (withContent instanceContent).DifferOnlyAt "b" (withContent malformedContent) :=
    ⟨rfl, rfl, rfl, rfl, rfl, rfl⟩
  obtain ⟨document, notices, document', notices', hdocument, hdocument', -, -, -, htacticDocs,
    hinstances⟩ := document_of_differOnlyAt "b" _ _ h {}
  exact ⟨h, document, notices, document', notices', hdocument, hdocument', htacticDocs,
    hinstances "c"⟩

end Dump
end DeclDocs
