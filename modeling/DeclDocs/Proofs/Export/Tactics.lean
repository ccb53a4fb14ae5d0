import DeclDocs.Export.Tactics
import DeclDocs.Proofs.Export.Outcome

/-! # The labels of tactic docs

Every entry is labeled if the host knows where declarations are and what modules import
(`Host.exists_labelAll`), and nothing else has a part in the labels
(`Host.labeledTacticDocs_congr`).
-/
namespace DeclDocs
namespace Host

variable {Memory : Type} {host : Host Memory}

/-- The host knows in which module each name is declared, if in any, and what each module
makes available. -/
structure KnowsModules (host : Host Memory) : Prop where
  moduleOf : ∀ name, ∃ module, host.moduleOf name = .ok module
  provides : ∀ base module memory, ∃ answer, (host.provides base module memory).1 = .ok answer

theorem exists_firstProvider (h : host.KnowsModules) (module : String)
    (bases : List (String × String)) (memory : Memory) :
    ∃ label, (host.firstProvider module bases memory).1 = .ok label := by
  induction bases generalizing memory with
  | nil => exact ⟨"", rfl⟩
  | cons base rest ih =>
    obtain ⟨base, label⟩ := base
    obtain ⟨answer, hanswer⟩ := h.provides base module memory
    rw [firstProvider]
    generalize host.provides base module memory = result at hanswer ⊢
    obtain ⟨result, memory⟩ := result
    cases hanswer
    cases answer with
    | true => exact ⟨label, rfl⟩
    | false => exact ih memory

theorem exists_label (h : host.KnowsModules) (doc : TacticDoc) (memory : Memory) :
    ∃ imported, (host.label doc memory).answer = .ok imported := by
  unfold label
  split
  next => exact ⟨"", rfl⟩
  next declaration _ _ =>
    obtain ⟨module?, hmodule⟩ := h.moduleOf declaration
    rw [hmodule]
    cases module? with
    | none => exact ⟨"", rfl⟩
    | some module => exact exists_firstProvider h module importPriority memory

/-- Every entry is labeled, and nothing about it changes but its label. -/
theorem exists_labelAll (h : host.KnowsModules) (docs : List TacticDoc) (memory : Memory) :
    ∃ labeled, (host.labelAll docs memory).answer = .ok labeled ∧
      labeled.map LabeledTacticDoc.toTacticDoc = docs := by
  induction docs generalizing memory with
  | nil => exact ⟨[], rfl, rfl⟩
  | cons doc rest ih =>
    obtain ⟨imported, hlabel⟩ := exists_label h doc memory
    rw [labelAll]
    generalize host.label doc memory = result at hlabel ⊢
    obtain ⟨answer, notices, memory⟩ := result
    cases hlabel
    obtain ⟨labeled, hlabeled, hdocs⟩ := ih memory
    refine ⟨{ doc with imported } :: labeled, ?_, by rw [List.map_cons, hdocs]⟩
    simp only [hlabeled]
    rfl

theorem warnings_label (doc : TacticDoc) (memory : Memory) :
    warnings (host.label doc memory).notices = [] := by
  unfold label
  split
  next => rfl
  next => split <;> rfl

theorem warnings_labelAll (docs : List TacticDoc) (memory : Memory) :
    warnings (host.labelAll docs memory).notices = [] := by
  induction docs generalizing memory with
  | nil => rfl
  | cons doc rest ih =>
    have hlabel : warnings (host.label doc memory).notices = [] := warnings_label doc memory
    rw [labelAll]
    generalize host.label doc memory = result at hlabel ⊢
    obtain ⟨failure | imported, notices, memory⟩ := result
    · exact hlabel
    · rw [warnings_append, ih memory, List.append_nil]
      exact hlabel

/-- No warning is about a label. -/
theorem warnings_labeledTacticDocs (memory : Memory) :
    warnings (host.labeledTacticDocs memory).notices = [] := by
  unfold labeledTacticDocs
  split
  next => rfl
  next docs _ => exact warnings_labelAll docs memory

section Congr

variable {other : Host Memory} (hmoduleOf : host.moduleOf = other.moduleOf)
  (hprovides : host.provides = other.provides)

include hprovides in
theorem firstProvider_congr (module : String) (bases : List (String × String)) (memory : Memory) :
    host.firstProvider module bases memory = other.firstProvider module bases memory := by
  induction bases generalizing memory with
  | nil => rfl
  | cons base rest ih =>
    rw [firstProvider, firstProvider, hprovides]
    simp only [ih]

include hmoduleOf hprovides

theorem label_congr (doc : TacticDoc) (memory : Memory) :
    host.label doc memory = other.label doc memory := by
  simp only [label, hmoduleOf, firstProvider_congr hprovides]

theorem labelAll_congr (docs : List TacticDoc) (memory : Memory) :
    host.labelAll docs memory = other.labelAll docs memory := by
  induction docs generalizing memory with
  | nil => rfl
  | cons doc rest ih =>
    rw [labelAll, labelAll, label_congr hmoduleOf hprovides]
    simp only [ih]

/-- Hosts that agree on the entries and on the modules agree on the labels. -/
theorem labeledTacticDocs_congr (htacticDocs : host.tacticDocs = other.tacticDocs)
    (memory : Memory) : host.labeledTacticDocs memory = other.labeledTacticDocs memory := by
  simp only [labeledTacticDocs, htacticDocs, labelAll_congr hmoduleOf hprovides]

end Congr

end Host
end DeclDocs
