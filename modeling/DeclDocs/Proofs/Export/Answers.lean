import DeclDocs.Proofs.Export.Outcome

/-! # Answers by an entry

The host of a dump answers every query about a name from the last declaration of that name
(`Dump.find?_eq_some_iff`, `Dump.host_answersBy`).  What it tells of attributes, equations,
fields and constructors follows from the answers.
-/
namespace DeclDocs

/-- A host answers the queries about a name as an entry says. -/
structure Host.AnswersBy {Memory : Type} (host : Host Memory) (name : String) (entry : Entry) :
    Prop where
  isInternal : host.isInternal name = .ok (entry.internal || hasInternalPart name)
  isAutoGenerated : host.isAutoGenerated name = .ok entry.autoGenerated
  isMeta : host.isMeta name = .ok entry.isMeta
  kind : host.kind name = .ok entry.kind
  typeOf : host.typeOf name = entry.telescope
  position : host.position name = .ok entry.position
  hasAttribute : ∀ attr, host.hasAttribute name attr = .ok (entry.attributes.contains attr)
  equations : host.equations name = entry.equations.mapM readMarkup
  isStructure : host.isStructure name = .ok entry.isStructure
  structureFields : host.structureFields name = readNamed entry.structureFields
  isInductive : host.isInductive name = .ok entry.isInductive
  constructors : host.constructors name = readNamed entry.constructors
  docString : host.docString name = .ok entry.docString
  instanceClass : host.instanceClass name = .ok entry.instanceClass

namespace Dump

variable {dump : Dump} {name : String} {entry : Entry}

theorem host_answersBy (h : dump.find? name = some entry) : dump.host.AnswersBy name entry := by
  have hget : dump.get name = .ok entry := get_eq_ok_iff.mpr h
  constructor
  case hasAttribute => intro attr; simp only [host, hget]; rfl
  all_goals simp only [host, hget]; rfl

/-- The declaration of a name is the last one listed with it. -/
theorem find?_eq_some_iff :
    dump.find? name = some entry ↔ ∃ before after,
      dump.declarations = before ++ entry :: after ∧ entry.name = name ∧
        ∀ later ∈ after, later.name ≠ name := by
  rw [find?, List.find?_eq_some_iff_append]
  constructor
  · rintro ⟨hname, after, before, hlist, hafter⟩
    refine ⟨before.reverse, after.reverse, ?_, by simpa using hname, ?_⟩
    · simpa using congrArg List.reverse hlist
    · intro later hlater
      simpa using hafter later (List.mem_reverse.mp hlater)
  · rintro ⟨before, after, hlist, hname, hafter⟩
    refine ⟨by simpa using hname, after.reverse, before.reverse, by simp [hlist], ?_⟩
    intro later hlater
    simpa using hafter later (List.mem_reverse.mp hlater)

end Dump

namespace Host.AnswersBy

variable {Memory : Type} {host : Host Memory} {name : String} {entry : Entry}
  (h : host.AnswersBy name entry)

include h

theorem isHidden_eq :
    host.isHidden name =
      .ok (entry.internal || hasInternalPart name || entry.autoGenerated) := by
  rw [isHidden, h.isInternal, h.isAutoGenerated]
  cases entry.internal || hasInternalPart name <;> rfl

theorem attributesAmong_eq (attrs : List String) :
    host.attributesAmong name attrs = .ok (attrs.filter entry.attributes.contains) := by
  induction attrs with
  | nil => rfl
  | cons attr rest ih =>
    rw [attributesAmong, h.hasAttribute, ih, List.filter_cons]
    rfl

theorem attributes_eq :
    host.attributes name = .ok (reportedAttributes.filter entry.attributes.contains) :=
  h.attributesAmong_eq reportedAttributes

theorem fieldLayouts_eq :
    host.fieldLayouts name =
      if entry.isStructure then normalNamed <$> readNamed entry.structureFields else .ok [] := by
  rw [fieldLayouts, h.isStructure, h.structureFields]
  rfl

theorem constructorLayouts_eq :
    host.constructorLayouts name =
      if entry.isInductive && !entry.isStructure then normalNamed <$> readNamed entry.constructors
      else .ok [] := by
  rw [constructorLayouts, h.isStructure, h.isInductive, h.constructors]
  cases entry.isStructure <;> cases entry.isInductive <;> rfl

theorem equationLayouts_eq (tag : String) :
    host.equationLayouts name tag =
      if tag = Kind.proposition.tag then .ok []
      else List.map Markup.normalLayout <$> entry.equations.mapM readMarkup := by
  rw [equationLayouts, h.equations]
  rfl

end Host.AnswersBy
end DeclDocs
