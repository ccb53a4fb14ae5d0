import DeclDocs.Export.Document
import DeclDocs.Proofs.Export.Instances
import DeclDocs.Proofs.Export.Tactics

/-! # The document of a host

There is a document if and only if the queries that are not about a single declaration are
answered, and `Host.Assembles` says what it then holds and which notices come with it.
-/
namespace DeclDocs

namespace Host

variable {Memory : Type} {host : Host Memory}

theorem fst_records (names : List String) :
    (host.records names).1 = names.filterMap fun name => (host.record? name).1 := by
  induction names with
  | nil => rfl
  | cons name rest ih =>
    rw [records, List.filterMap_cons]
    simp only [← ih]
    cases (host.record? name).1 <;> rfl

theorem snd_records (names : List String) :
    (host.records names).2 = names.flatMap fun name => (host.record? name).2 := by
  induction names with
  | nil => rfl
  | cons name rest ih => rw [records, List.flatMap_cons, ← ih]

/-- A document and some notices are those of a host that lists some names. -/
structure Assembles (host : Host Memory) (memory : Memory) (names : List String)
    (document : Document Empty) (notices : List Notice) : Prop where
  declarationNames : host.declarationNames = .ok names
  moduleDocs : host.moduleDocs = .ok document.moduleDocs
  libraryNotes : host.libraryNotes = .ok document.notes
  tacticDocs : (host.labeledTacticDocs memory).answer = .ok document.tacticDocs
  declarations_eq :
    document.declarations = names.filterMap fun name => (host.record? name).1
  instances_eq : document.instances = (host.instances document.declarations).1
  notices_eq : notices =
    foundNotice names.length :: (names.flatMap fun name => (host.record? name).2) ++
      exportedNotice names.length document.declarations.length ::
        ((host.labeledTacticDocs memory).notices ++
          document.declarations.flatMap host.classLosses)

theorem document_eq_ok_iff {memory : Memory} {document : Document Empty} {notices : List Notice} :
    host.document memory = .ok (document, notices) ↔
      ∃ names, host.Assembles memory names document notices := by
  simp only [Host.document, bind_eq_ok_iff, mapError_eq_ok_iff, pure, Except.pure,
    Except.ok.injEq, Prod.mk.injEq]
  constructor
  · rintro ⟨names, hnames, moduleDocs, hmoduleDocs, notes, hnotes, tacticDocs, htacticDocs, rfl,
      rfl⟩
    exact ⟨names, hnames, hmoduleDocs, hnotes, htacticDocs, fst_records names, rfl,
      by rw [snd_records, snd_instances]⟩
  · rintro ⟨names, hnames, hmoduleDocs, hnotes, htacticDocs, hdeclarations, hinstances, hnotices⟩
    refine ⟨names, hnames, _, hmoduleDocs, _, hnotes, _, htacticDocs, ?_, ?_⟩
    · rw [fst_records, ← hdeclarations, ← hinstances]
    · rw [hnotices, snd_records, fst_records, ← hdeclarations, snd_instances]

/-- The only warnings are about declarations that fail and about classes that cannot be
found out. -/
theorem Assembles.warnings_eq {memory : Memory} {names : List String} {document : Document Empty}
    {notices : List Notice} (h : host.Assembles memory names document notices) :
    warnings notices =
      names.flatMap host.losses ++ document.declarations.flatMap host.classLosses := by
  -- the notices before and after the declarations are no warnings
  have hfound : ∀ rest, warnings (foundNotice names.length :: rest) = warnings rest :=
    fun rest => rfl
  have hexported : ∀ exported rest,
      warnings (exportedNotice names.length exported :: rest) = warnings rest :=
    fun exported rest => rfl
  rw [h.notices_eq, List.cons_append, hfound, warnings_append, hexported, warnings_append,
    warnings_labeledTacticDocs, List.nil_append, warnings_flatMap, warnings_flatMap]
  simp only [warnings_record?, warnings_classLosses]

/-- The host answers the queries that are not about a single declaration. -/
structure AnswersInventory (host : Host Memory) (names : List String)
    (moduleDocs : List ModuleDoc) (notes : List (String × String)) (docs : List TacticDoc) :
    Prop where
  declarationNames : host.declarationNames = .ok names
  moduleDocs_eq : host.moduleDocs = .ok moduleDocs
  libraryNotes : host.libraryNotes = .ok notes
  tacticDocs : host.tacticDocs = .ok docs
  knowsModules : host.KnowsModules

theorem AnswersInventory.exists_assembles {names : List String} {moduleDocs : List ModuleDoc}
    {notes : List (String × String)} {docs : List TacticDoc}
    (h : host.AnswersInventory names moduleDocs notes docs) (memory : Memory) :
    ∃ document notices, host.Assembles memory names document notices ∧
      document.moduleDocs = moduleDocs ∧ document.notes = notes ∧
      document.tacticDocs.map LabeledTacticDoc.toTacticDoc = docs := by
  obtain ⟨labeled, hlabeled, hdocs⟩ := exists_labelAll h.knowsModules docs memory
  have htacticDocs : (host.labeledTacticDocs memory).answer = .ok labeled := by
    rw [labeledTacticDocs, h.tacticDocs]
    exact hlabeled
  let declarations := names.filterMap fun name => (host.record? name).1
  let document : Document Empty :=
    { declarations, moduleDocs, notes, tacticDocs := labeled
      instances := (host.instances declarations).1 }
  exact ⟨document, _, ⟨h.declarationNames, h.moduleDocs_eq, h.libraryNotes, htacticDocs, rfl, rfl,
    rfl⟩, rfl, rfl, hdocs⟩

end Host

theorem Dump.host_answersInventory (dump : Dump) :
    dump.host.AnswersInventory (dump.declarations.map Entry.name) dump.moduleDocs dump.notes
      dump.tacticDocs :=
  ⟨rfl, rfl, rfl, rfl, fun _ => ⟨_, rfl⟩, fun _ _ _ => ⟨_, rfl⟩⟩

end DeclDocs
