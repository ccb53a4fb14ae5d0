import DeclDocs.Proofs.Export.Record

/-! # What comes of a declaration

A declaration has a record, or it is hidden, or something fails (`Host.outcome`).  A failure
leaves the declaration out with one warning, and there is no warning otherwise
(`Host.warnings_record?`).
-/
namespace DeclDocs

/-- The warnings among some notices. -/
def warnings (notices : List Notice) : List Notice :=
  notices.filter fun notice => notice.level = .warning

@[simp] theorem warnings_append (first second : List Notice) :
    warnings (first ++ second) = warnings first ++ warnings second :=
  List.filter_append _ _

theorem warnings_flatMap {α : Type} (items : List α) (notices : α → List Notice) :
    warnings (items.flatMap notices) = items.flatMap fun item => warnings (notices item) :=
  List.filter_flatMap

namespace Host

variable {Memory : Type} (host : Host Memory) (name : String)

/-- What comes of a declaration: its record, or none because it is hidden, unless something
fails. -/
def outcome : Except Failure (Option (Declaration Empty)) := do
  if ← host.isHidden name then return none
  else
    let record ← (host.describe name).1
    return some record

/-- The warnings about a declaration: one if it fails. -/
def losses : List Notice :=
  match host.outcome name with
  | .error failure => [Document.skipNotice name failure.message]
  | .ok _ => []

variable {host name}

theorem losses_of_error {failure : Failure} (h : host.outcome name = .error failure) :
    host.losses name = [Document.skipNotice name failure.message] := by
  rw [losses, h]

theorem losses_of_ok {result : Option (Declaration Empty)} (h : host.outcome name = .ok result) :
    host.losses name = [] := by
  rw [losses, h]

theorem warnings_describe : warnings (host.describe name).2 = [] := by
  unfold describe
  split
  next => rfl
  next => split <;> rfl

/-- A declaration is passed over in silence if and only if it is hidden. -/
theorem outcome_eq_none_iff : host.outcome name = .ok none ↔ host.isHidden name = .ok true := by
  unfold outcome
  rcases host.isHidden name with failure | _ | _
  · simp [bind, Except.bind]
  · rcases (host.describe name).1 with failure | record <;> simp [bind, Except.bind, pure, Except.pure]
  · simp [bind, Except.bind, pure, Except.pure]

/-! One equation for each way through the record of a declaration. -/

theorem record?_of_refused {failure : Failure} (h : host.isHidden name = .error failure) :
    host.record? name = (none, [Document.skipNotice name failure.message]) := by
  rw [record?, h]

theorem record?_of_hidden (h : host.isHidden name = .ok true) :
    host.record? name = (none, [hiddenNotice name]) := by
  rw [record?, h]

theorem record?_of_described {record : Declaration Empty} (h : host.isHidden name = .ok false)
    (hrecord : (host.describe name).1 = .ok record) :
    host.record? name = (some record, (host.describe name).2) := by
  rw [record?, h]
  generalize host.describe name = described at hrecord ⊢
  obtain ⟨answer, notices⟩ := described
  cases hrecord
  rfl

theorem record?_of_undescribed {failure : Failure} (h : host.isHidden name = .ok false)
    (hfailure : (host.describe name).1 = .error failure) :
    host.record? name =
      (none, (host.describe name).2 ++ [Document.skipNotice name failure.message]) := by
  rw [record?, h]
  generalize host.describe name = described at hfailure ⊢
  obtain ⟨answer, notices⟩ := described
  cases hfailure
  rfl

variable (host name) in
/-- The three ways a declaration can go, each with its record and its warnings. -/
theorem record?_cases :
    (∃ record, host.outcome name = .ok (some record) ∧ (host.record? name).1 = some record ∧
      warnings (host.record? name).2 = []) ∨
    (host.outcome name = .ok none ∧ (host.record? name).1 = none ∧
      warnings (host.record? name).2 = []) ∨
    ∃ failure, host.outcome name = .error failure ∧ (host.record? name).1 = none ∧
      warnings (host.record? name).2 = [Document.skipNotice name failure.message] := by
  have hwarnings : warnings (host.describe name).2 = [] := warnings_describe
  rcases hhidden : host.isHidden name with failure | _ | _
  · rw [record?_of_refused hhidden]
    exact .inr (.inr ⟨failure, by rw [outcome, hhidden]; rfl, rfl, rfl⟩)
  · rcases hdescribe : (host.describe name).1 with failure | record
    · rw [record?_of_undescribed hhidden hdescribe, warnings_append, hwarnings]
      exact .inr (.inr ⟨failure, by rw [outcome, hhidden, hdescribe]; rfl, rfl, rfl⟩)
    · rw [record?_of_described hhidden hdescribe]
      exact .inl ⟨record, by rw [outcome, hhidden, hdescribe]; rfl, rfl, hwarnings⟩
  · rw [record?_of_hidden hhidden]
    exact .inr (.inl ⟨outcome_eq_none_iff.mpr hhidden, rfl, rfl⟩)

theorem record?_eq_some_iff_outcome {record : Declaration Empty} :
    (host.record? name).1 = some record ↔ host.outcome name = .ok (some record) := by
  rcases record?_cases host name with
    ⟨found, houtcome, hrecord, -⟩ | ⟨houtcome, hrecord, -⟩ | ⟨failure, houtcome, hrecord, -⟩ <;>
  simp [houtcome, hrecord]

theorem fst_record?_of_error {failure : Failure} (h : host.outcome name = .error failure) :
    (host.record? name).1 = none := by
  rw [Option.eq_none_iff_forall_ne_some]
  intro record hrecord
  rw [record?_eq_some_iff_outcome, h] at hrecord
  cases hrecord

theorem name_of_record {record : Declaration Empty} (h : (host.record? name).1 = some record) :
    record.name = name := by
  obtain ⟨-, _, _, _, -, hcompletes⟩ := record?_eq_some_iff.mp h
  exact hcompletes.name_eq

/-- Each failure is reported in one warning, and nothing else is. -/
theorem warnings_record? : warnings (host.record? name).2 = host.losses name := by
  rcases record?_cases host name with
    ⟨record, houtcome, -, hwarnings⟩ | ⟨houtcome, -, hwarnings⟩ | ⟨failure, houtcome, -, hwarnings⟩
  · rw [hwarnings, losses_of_ok houtcome]
  · rw [hwarnings, losses_of_ok houtcome]
  · rw [hwarnings, losses_of_error houtcome]

/-! ## What a record depends on -/

/-- Two hosts give the same answers about a name, except perhaps about its class. -/
structure DescribeAlike {Memory Memory' : Type} (host : Host Memory) (other : Host Memory')
    (name : String) : Prop where
  isInternal : host.isInternal name = other.isInternal name
  isAutoGenerated : host.isAutoGenerated name = other.isAutoGenerated name
  isMeta : host.isMeta name = other.isMeta name
  kind : host.kind name = other.kind name
  typeOf : host.typeOf name = other.typeOf name
  position : host.position name = other.position name
  hasAttribute : ∀ attr, host.hasAttribute name attr = other.hasAttribute name attr
  equations : host.equations name = other.equations name
  isStructure : host.isStructure name = other.isStructure name
  structureFields : host.structureFields name = other.structureFields name
  isInductive : host.isInductive name = other.isInductive name
  constructors : host.constructors name = other.constructors name
  docString : host.docString name = other.docString name

section Congr

variable {Memory' : Type} {other : Host Memory'}

theorem attributesAmong_congr (h : host.DescribeAlike other name) (attrs : List String) :
    host.attributesAmong name attrs = other.attributesAmong name attrs := by
  induction attrs with
  | nil => rfl
  | cons attr rest ih => rw [attributesAmong, attributesAmong, h.hasAttribute, ih]

theorem outline_congr (h : host.DescribeAlike other name) :
    host.outline name = other.outline name := by
  rw [outline, outline, h.kind, h.typeOf, h.position]

theorem complete_congr (h : host.DescribeAlike other name) (tag : String) (telescope : Telescope)
    (position : Option Position) :
    host.complete name tag telescope position = other.complete name tag telescope position := by
  have hattributes : host.attributes name = other.attributes name :=
    attributesAmong_congr h reportedAttributes
  have hequations : host.equationLayouts name tag = other.equationLayouts name tag := by
    rw [equationLayouts, equationLayouts, h.equations]
  have hfields : host.fieldLayouts name = other.fieldLayouts name := by
    rw [fieldLayouts, fieldLayouts, h.isStructure, h.structureFields]
  have hconstructors : host.constructorLayouts name = other.constructorLayouts name := by
    rw [constructorLayouts, constructorLayouts, h.isStructure, h.isInductive, h.constructors]
  rw [complete, complete, h.isMeta, h.docString, hattributes, hequations, hfields, hconstructors]

/-- The record of a declaration depends on nothing but the answers about it. -/
theorem record?_congr (h : host.DescribeAlike other name) :
    host.record? name = other.record? name := by
  have hhidden : host.isHidden name = other.isHidden name := by
    rw [isHidden, isHidden, h.isInternal, h.isAutoGenerated]
  have hdescribe : host.describe name = other.describe name := by
    simp only [describe, outline_congr h, complete_congr h]
  rw [record?, record?, hhidden, hdescribe]

end Congr

end Host
end DeclDocs
