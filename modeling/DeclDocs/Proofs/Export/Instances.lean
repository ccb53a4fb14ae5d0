import DeclDocs.Export.Instances
import DeclDocs.Proofs.Document.Grouped
import DeclDocs.Proofs.Export.Outcome

/-! # The instances of a class

A class lists the records that carry the attribute `instance` and for which the host names
the class (`Host.get_instances`), and the classes stand in order of their first appearance
(`Host.keys_instances`).  A class that cannot be found out costs one warning and the place of
one record on a list (`Host.snd_instances`).
-/
namespace DeclDocs
namespace Host

variable {Memory : Type} {host : Host Memory}

/-- A record belongs on the list of a class. -/
structure IsInstanceOf (host : Host Memory) (className : String) (record : Declaration Empty) :
    Prop where
  hasAttribute : "instance" ∈ record.attributes
  instanceClass : host.instanceClass record.name = .ok (some className)
  named : className ≠ ""

/-- The warnings about the class of a record: one if the record is an instance and its class
cannot be found out. -/
def classLosses (host : Host Memory) (record : Declaration Empty) : List Notice :=
  if "instance" ∈ record.attributes then
    match host.instanceClass record.name with
    | .error failure => [noClassNotice record.name failure.message]
    | .ok _ => []
  else []

theorem fst_classOf_eq_some_iff {className : String} {record : Declaration Empty} :
    (host.classOf record).1 = some className ↔ host.IsInstanceOf className record := by
  constructor
  · intro h
    unfold classOf at h
    split at h
    next hattribute =>
      split at h
      next => cases h
      next => cases h
      next name hclass =>
        by_cases hname : name = ""
        · simp [hname] at h
        · obtain rfl : name = className := by simpa [hname] using h
          exact ⟨by simpa using hattribute, hclass, hname⟩
    next => cases h
  · rintro ⟨hattribute, hclass, hnamed⟩
    simp [classOf, hattribute, hclass, hnamed]

instance (className : String) (record : Declaration Empty) :
    Decidable (host.IsInstanceOf className record) :=
  decidable_of_iff ((host.classOf record).1 = some className) fst_classOf_eq_some_iff

theorem snd_classOf (record : Declaration Empty) :
    (host.classOf record).2 = host.classLosses record := by
  rw [classOf, classLosses]
  by_cases hattribute : "instance" ∈ record.attributes
  · rcases host.instanceClass record.name with failure | _ | name <;> simp [hattribute]
  · simp [hattribute]

theorem warnings_classLosses (record : Declaration Empty) :
    warnings (host.classLosses record) = host.classLosses record := by
  unfold classLosses
  split
  next => split <;> rfl
  next => rfl

variable (host) in
/-- Listing one more record leaves all lists as they are, except that of its class. -/
theorem listInstances_cons (listed : Grouped String) (record : Declaration Empty)
    (rest : List (Declaration Empty)) :
    ((host.classOf record).1 = none ∧
      (host.listInstances listed (record :: rest)).1 = (host.listInstances listed rest).1) ∨
    ∃ className, (host.classOf record).1 = some className ∧
      (host.listInstances listed (record :: rest)).1 =
        (host.listInstances (listed.add className record.name) rest).1 := by
  rw [listInstances]
  rcases host.classOf record with ⟨_ | className, notices⟩
  · exact .inl ⟨rfl, rfl⟩
  · exact .inr ⟨className, rfl, rfl⟩

theorem snd_listInstances (listed : Grouped String) (records : List (Declaration Empty)) :
    (host.listInstances listed records).2 = records.flatMap host.classLosses := by
  induction records generalizing listed with
  | nil => rfl
  | cons record rest ih =>
    rw [listInstances, List.flatMap_cons, ← snd_classOf]
    simp only [ih]

/-- The notices about the instances among some records are one warning for each instance
whose class cannot be found out. -/
theorem snd_instances (records : List (Declaration Empty)) :
    (host.instances records).2 = records.flatMap host.classLosses :=
  snd_listInstances [] records

theorem get_listInstances (listed : Grouped String) (records : List (Declaration Empty))
    (className : String) :
    (host.listInstances listed records).1.get className =
      listed.get className ++
        (records.filter fun record => host.IsInstanceOf className record).map Declaration.name := by
  induction records generalizing listed with
  | nil => simp [listInstances]
  | cons record rest ih =>
    rw [List.filter_cons]
    rcases listInstances_cons host listed record rest with
      ⟨hnone, heq⟩ | ⟨name, hname, heq⟩
    · have hnot : ¬ host.IsInstanceOf className record := by
        rw [← fst_classOf_eq_some_iff, hnone]
        simp
      rw [heq, ih, if_neg (by simpa using hnot)]
    · rw [heq, ih, Grouped.get_add]
      have hiff : host.IsInstanceOf className record ↔ name = className := by
        rw [← fst_classOf_eq_some_iff, hname, Option.some.injEq]
      by_cases h : name = className
      · simp [h, hiff.mpr h]
      · simp [h, mt hiff.mp h]

/-- The list of a class holds the names of its instances, in the order of the records. -/
theorem get_instances (records : List (Declaration Empty)) (className : String) :
    (host.instances records).1.get className =
      (records.filter fun record => host.IsInstanceOf className record).map Declaration.name := by
  rw [instances, get_listInstances, Grouped.get_nil, List.nil_append]

theorem keys_listInstances {listed : Grouped String} {seen : List String}
    (h : listed.keys = seen.eraseDups) (records : List (Declaration Empty)) :
    (host.listInstances listed records).1.keys =
      (seen ++ records.filterMap fun record => (host.classOf record).1).eraseDups := by
  induction records generalizing listed seen with
  | nil => simpa [listInstances] using h
  | cons record rest ih =>
    rcases listInstances_cons host listed record rest with
      ⟨hnone, heq⟩ | ⟨className, hsome, heq⟩
    · rw [heq, ih h, List.filterMap_cons]
      simp only [hnone]
    · rw [heq, ih (Grouped.keys_add_eq_eraseDups h className record.name), List.filterMap_cons,
        List.append_assoc, List.singleton_append]
      simp only [hsome]

/-- The classes stand in order of their first appearance among the records. -/
theorem keys_instances (records : List (Declaration Empty)) :
    (host.instances records).1.keys =
      (records.filterMap fun record => (host.classOf record).1).eraseDups :=
  keys_listInstances (show Grouped.keys [] = [].eraseDups from rfl) records

theorem nodup_keys_listInstances {listed : Grouped String} (h : listed.keys.Nodup)
    (records : List (Declaration Empty)) : (host.listInstances listed records).1.keys.Nodup := by
  induction records generalizing listed with
  | nil => exact h
  | cons record rest ih =>
    rcases listInstances_cons host listed record rest with
      ⟨-, heq⟩ | ⟨className, -, heq⟩
    · rw [heq]
      exact ih h
    · rw [heq]
      exact ih (Grouped.nodup_keys_add h _ _)

/-- A class has one list. -/
theorem nodup_keys_instances (records : List (Declaration Empty)) :
    (host.instances records).1.keys.Nodup :=
  nodup_keys_listInstances (show (Grouped.keys []).Nodup from List.nodup_nil) records

end Host
end DeclDocs
