import DeclDocs.Host.OfDump
import DeclDocs.Proofs.Document.Dropping
import DeclDocs.Proofs.Export.Document

/-! # Instances and declarations stay in step

The lists of instances are put together when a document is built, and names are taken off them
when it is written.  Both times they are what one rule makes of the records at hand
(`Dump.classOf?`, `Dump.instanceNames`), whichever records are left out in writing
(`Dump.instances_in_step`).

Records are left out for what they hold, and instances are taken off the lists by name.  That
comes to the same, because a document of a host has no two different records of one name
(`Host.eq_of_name_eq`).
-/
namespace DeclDocs
namespace Dump

variable (dump : Dump)

/-- The class that a record is listed under: that of the last declaration that the dump lists
with the record's name, if the record carries the attribute `instance` and the class has a
name. -/
def classOf? (record : Declaration Empty) : Option String :=
  if "instance" ∈ record.attributes then
    ((dump.find? record.name).bind Entry.instanceClass).filter (· ≠ "")
  else none

/-- The names of those among some records that are listed under a class, in order and as often
as they occur. -/
def instanceNames (records : List (Declaration Empty)) (className : String) : List String :=
  (records.filter fun record => dump.classOf? record = some className).map Declaration.name

variable {dump}

theorem fst_classOf_eq (record : Declaration Empty) :
    (dump.host.classOf record).1 = dump.classOf? record := by
  have hclass : dump.host.instanceClass record.name =
      Entry.instanceClass <$> dump.get record.name := rfl
  rw [Host.classOf, classOf?, hclass, get]
  by_cases hattribute : "instance" ∈ record.attributes
  · rw [if_pos (by simpa using hattribute), if_pos hattribute]
    cases dump.find? record.name with
    | none => rfl
    | some entry =>
      rcases hname : entry.instanceClass with _ | name
      · simp [Functor.map, Except.map, hname]
      · by_cases hempty : name = "" <;>
          simp [Functor.map, Except.map, hname, hempty, Option.filter]
  · rw [if_neg (by simpa using hattribute), if_neg hattribute]

theorem isInstanceOf_iff (className : String) (record : Declaration Empty) :
    dump.host.IsInstanceOf className record ↔ dump.classOf? record = some className := by
  rw [← Host.fst_classOf_eq_some_iff, fst_classOf_eq]

theorem hasAttribute_of_classOf? {record : Declaration Empty} {className : String}
    (h : dump.classOf? record = some className) : "instance" ∈ record.attributes :=
  ((isInstanceOf_iff className record).mpr h).hasAttribute

theorem get_instances_eq (records : List (Declaration Empty)) (className : String) :
    (dump.host.instances records).1.get className = dump.instanceNames records className := by
  rw [Host.get_instances, instanceNames]
  simp only [isInstanceOf_iff]

theorem keys_instances_eq (records : List (Declaration Empty)) :
    (dump.host.instances records).1.keys = (records.filterMap dump.classOf?).eraseDups := by
  rw [Host.keys_instances]
  simp only [fst_classOf_eq]

/-- No class is listed without an instance. -/
theorem ne_nil_of_mem_instances {records : List (Declaration Empty)} {group : String × List String}
    (hgroup : group ∈ (dump.host.instances records).1) : group.2 ≠ [] := by
  have hkey : group.1 ∈ (dump.host.instances records).1.keys := List.mem_map_of_mem hgroup
  rw [keys_instances_eq, List.mem_eraseDups, List.mem_filterMap] at hkey
  obtain ⟨record, hrecord, hclass⟩ := hkey
  have hname : record.name ∈ dump.instanceNames records group.1 :=
    List.mem_map_of_mem (List.mem_filter.mpr ⟨hrecord, by simpa using hclass⟩)
  rw [← get_instances_eq, Grouped.get_eq_of_mem (Host.nodup_keys_instances records) hgroup] at hname
  exact List.ne_nil_of_mem hname

/-- Leaving out records leaves the names of the others on the lists, if no two different
records have one name. -/
theorem filter_instanceNames {records : List (Declaration Empty)}
    (hunique : ∀ record ∈ records, ∀ other ∈ records, other.name = record.name → other = record)
    (drop : Declaration Empty → Bool) (className : String) :
    (dump.instanceNames records className).filter
        (· ∉ (records.filter drop).map Declaration.name) =
      dump.instanceNames (records.filter fun record => !drop record) className := by
  rw [instanceNames, instanceNames, List.filter_map, List.filter_filter, List.filter_filter]
  congr 1
  refine List.filter_congr fun record hrecord => ?_
  have hdropped : record.name ∈ (records.filter drop).map Declaration.name ↔
      drop record = true := by
    constructor
    · intro hname
      obtain ⟨other, hother, heq⟩ := List.mem_map.mp hname
      obtain ⟨hmem, hdrop⟩ := List.mem_filter.mp hother
      rwa [hunique record hrecord other hmem heq] at hdrop
    · intro hdrop
      exact List.mem_map_of_mem (List.mem_filter.mpr ⟨hrecord, hdrop⟩)
  simp only [Function.comp_apply, hdropped]
  cases drop record <;> simp

end Dump

/-- What a host lists of one name has one record. -/
theorem Host.eq_of_name_eq {Memory : Type} {host : Host Memory} {names : List String}
    {record other : Declaration Empty}
    (hrecord : record ∈ names.filterMap fun name => (host.record? name).1)
    (hother : other ∈ names.filterMap fun name => (host.record? name).1)
    (hname : other.name = record.name) : other = record := by
  obtain ⟨asked, -, hasked⟩ := List.mem_filterMap.mp hrecord
  obtain ⟨asked', -, hasked'⟩ := List.mem_filterMap.mp hother
  rw [← Host.name_of_record hasked'] at hasked'
  rw [← Host.name_of_record hasked, ← hname, hasked', Option.some.injEq] at hasked
  exact hasked

namespace Dump

/-- **Instances and declarations stay in step.**  In the document of a dump every class that
has an instance is listed once, in order of first appearance, with the names of its instances
among the records, in order and as often as they occur.

The same holds of the lists that are left when any of the records are left out, equal records
alike: no list is empty, a name on a list is that of a record which is left and carries the
attribute `instance`, and each list is the one the rule gives for the records that are left.
What is written of a document is what is left without the records that nest too deeply. -/
theorem instances_in_step (dump : Dump) (memory : Imports.Memory) :
    ∃ document notices, dump.host.document memory = .ok (document, notices) ∧
      document.declarations =
        (dump.declarations.map Entry.name).filterMap (fun name => (dump.host.record? name).1) ∧
      document.instances.keys = (document.declarations.filterMap dump.classOf?).eraseDups ∧
      document.instances.keys.Nodup ∧
      (∀ group ∈ document.instances, group.2 ≠ []) ∧
      (∀ className,
        document.instances.get className = dump.instanceNames document.declarations className) ∧
      (∀ drop : Declaration Empty → Bool,
        let left := document.dropping drop
        left.instances.keys.Nodup ∧
          (∀ group ∈ left.instances, group.2 ≠ [] ∧ ∀ name ∈ group.2,
            ∃ record ∈ left.declarations, record.name = name ∧ "instance" ∈ record.attributes) ∧
          ∀ className,
            left.instances.get className = dump.instanceNames left.declarations className) ∧
      ∀ limit encoding, (document.render limit encoding).1 =
        ((document.dropping (Declaration.isTooDeep limit encoding)).toJson encoding).render := by
  obtain ⟨document, notices, hassembles, -⟩ := dump.host_answersInventory.exists_assembles memory
  have hkeys : document.instances.keys.Nodup := by
    rw [hassembles.instances_eq]
    exact Host.nodup_keys_instances document.declarations
  have hget : ∀ className,
      document.instances.get className = dump.instanceNames document.declarations className := by
    intro className
    rw [hassembles.instances_eq, get_instances_eq]
  have hunique : ∀ record ∈ document.declarations, ∀ other ∈ document.declarations,
      other.name = record.name → other = record := by
    rw [hassembles.declarations_eq]
    exact fun record hrecord other hother => Host.eq_of_name_eq hrecord hother
  refine ⟨document, notices, Host.document_eq_ok_iff.mpr ⟨_, hassembles⟩,
    hassembles.declarations_eq, ?_, hkeys, ?_, hget, ?_, ?_⟩
  · rw [hassembles.instances_eq, keys_instances_eq]
  · rw [hassembles.instances_eq]
    exact fun group hgroup => ne_nil_of_mem_instances hgroup
  · intro drop left
    have hkeysLeft : left.instances.keys.Nodup :=
      hkeys.sublist (Document.keys_dropping_sublist drop document)
    have hgetLeft : ∀ className,
        left.instances.get className = dump.instanceNames left.declarations className := by
      intro className
      show (Document.keepInstances _ document.instances).get className = _
      rw [Document.get_keepInstances hkeys, hget, filter_instanceNames hunique]
      rfl
    refine ⟨hkeysLeft, fun group hgroup => ⟨Document.ne_nil_of_mem_keepInstances hgroup, ?_⟩,
      hgetLeft⟩
    intro name hname
    rw [← Grouped.get_eq_of_mem hkeysLeft hgroup, hgetLeft] at hname
    obtain ⟨record, hrecord, rfl⟩ := List.mem_map.mp hname
    obtain ⟨hmem, hclass⟩ := List.mem_filter.mp hrecord
    exact ⟨record, hmem, rfl, hasAttribute_of_classOf? (of_decide_eq_true hclass)⟩
  · intro limit encoding
    rw [Document.fst_render, Document.kept_eq_dropping]

/-- A dump of four instances of two classes, of which the first and the last are one
declaration. -/
def twoClasses : Dump where
  declarations :=
    let entry (name className : String) : Entry :=
      { name, kind := "definition", type := .str "t", attributes := ["simp", "instance"]
        instanceClass := some className }
    [entry "a" "c", entry "b" "d", entry "e" "c", entry "a" "c"]

theorem instances_in_step_twoClasses :
    ∃ document notices, twoClasses.host.document {} = .ok (document, notices) ∧
      document.instances.keys = ["c", "d"] ∧
      document.instances.get "c" = ["a", "e", "a"] ∧
      (document.dropping (·.name ≠ "b")).instances.get "c" = [] ∧
      let left := document.dropping (·.name = "a")
      left.instances.get "c" = ["e"] ∧
        ∃ names, ("c", names) ∈ left.instances ∧ names ≠ [] ∧ "e" ∈ names ∧
          ∃ record ∈ left.declarations, record.name = "e" ∧ "instance" ∈ record.attributes := by
  obtain ⟨document, notices, hdocument, hdeclarations, hkeys, -, -, hget, hleft, -⟩ :=
    instances_in_step twoClasses {}
  obtain ⟨-, hmembers, hgetLeft⟩ := hleft (·.name = "a")
  obtain ⟨-, -, hgetB⟩ := hleft (·.name ≠ "b")
  have hlist : (document.dropping (·.name = "a")).instances.get "c" = ["e"] := by
    rw [hgetLeft, Document.declarations_dropping, hdeclarations]
    decide +kernel
  obtain ⟨names, hnames, hmem⟩ :=
    Grouped.exists_mem_of_mem_get (show "e" ∈ _ by rw [hlist]; exact List.mem_singleton_self "e")
  obtain ⟨hne, hrecord⟩ := hmembers ("c", names) hnames
  refine ⟨document, notices, hdocument, ?_, ?_, ?_, hlist, names, hnames, hne, hmem,
    hrecord "e" hmem⟩
  · rw [hkeys, hdeclarations]
    decide +kernel
  · rw [hget, hdeclarations]
    decide +kernel
  · rw [hgetB, Document.declarations_dropping, hdeclarations]
    decide +kernel

end Dump
end DeclDocs
