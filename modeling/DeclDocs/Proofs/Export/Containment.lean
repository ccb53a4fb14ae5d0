import DeclDocs.Host.OfDump
import DeclDocs.Host.Refusing
import DeclDocs.Proofs.Export.Document

/-! # Failures are contained

A host may refuse any of the queries about single declarations.  There is a document all
the same, and a declaration that something goes wrong with is missing from it, with a
warning (`Host.document_of_answersInventory`).  Only the names must be had: without them
there is no document, and nothing else is asked.
-/
namespace DeclDocs
namespace Host

variable {Memory : Type}

/-- What is known of classes has no part in the records. -/
theorem record?_withInstanceClass (host : Host Memory)
    (instanceClass : String → Except Failure (Option String)) (name : String) :
    ({ host with instanceClass } : Host Memory).record? name = host.record? name :=
  record?_congr ⟨rfl, rfl, rfl, rfl, rfl, rfl, fun _ => rfl, rfl, rfl, rfl, rfl, rfl, rfl⟩

theorem document_of_noNames (host : Host Memory) (failure : Failure) (memory : Memory) :
    ({ host with declarationNames := .error failure } : Host Memory).document memory =
      .error (.noNames failure) :=
  rfl

/-- **Failures are contained.**  Let a host answer the queries that are not about a single
declaration, and let it answer or refuse any of the others.  Then it has a document.  Its
records are those that can be had of the names, in order and as often as the names occur.
Each occurrence of a name that something fails for is left out with one warning.  Each record
of an instance whose class is refused is left off all lists of instances, with one warning,
and stays in the document.  There are no other warnings.

If the names are refused, there is no document.  Nothing else has been asked then: the other
answers of the host, which may be any, make no difference. -/
theorem document_of_answersInventory (host : Host Memory) (memory : Memory) :
    (∀ names moduleDocs notes docs, host.AnswersInventory names moduleDocs notes docs →
      ∃ document notices, host.document memory = .ok (document, notices) ∧
        document.declarations = names.filterMap (fun name => (host.record? name).1) ∧
        -- what fails has no record
        (∀ name failure, host.outcome name = .error failure → (host.record? name).1 = none) ∧
        -- the answers about classes make no difference to the records, only to the lists
        (∀ instanceClass name,
          (host.record? name).1 = ({ host with instanceClass }.record? name).1) ∧
        document.instances.keys.Nodup ∧
        (∀ className, document.instances.get className =
          (document.declarations.filter fun record => host.IsInstanceOf className record).map
            Declaration.name) ∧
        -- one warning for each loss
        warnings notices =
          names.flatMap host.losses ++ document.declarations.flatMap host.classLosses) ∧
    ∀ failure, { host with declarationNames := .error failure }.document memory =
      .error (.noNames failure) := by
  refine ⟨?_, fun failure => document_of_noNames host failure memory⟩
  intro names moduleDocs notes docs h
  obtain ⟨document, notices, hassembles, -⟩ := h.exists_assembles memory
  refine ⟨document, notices, document_eq_ok_iff.mpr ⟨names, hassembles⟩,
    hassembles.declarations_eq, fun name failure => fst_record?_of_error, ?_, ?_, ?_,
    hassembles.warnings_eq⟩
  · intro instanceClass name
    exact congrArg Prod.fst (record?_withInstanceClass host instanceClass name).symm
  · rw [hassembles.instances_eq]
    exact nodup_keys_instances document.declarations
  · intro className
    rw [hassembles.instances_eq, get_instances]

/-- A host that lists one instance twice and does not name its class, that does not tell the
kind of another one, and that has no equations for a theorem. -/
def reluctant : Host Imports.Memory :=
  let entry (name kind : String) : Entry :=
    { name, kind, type := .str "t", attributes := ["instance"], instanceClass := some "c" }
  let dump : Dump :=
    { declarations := [entry "a" "definition", entry "b" "axiom", entry "a" "definition",
        entry "_d" "unknown", entry "e" "theorem"] }
  dump.host.refusing
    [{ query := .instanceClass, about := some "a", message := "no class" },
     { query := .kind, about := some "b", message := "no kind" },
     { query := .equations, about := some "e", message := "no equations" }]

theorem document_of_answersInventory_reluctant :
    reluctant.AnswersInventory ["a", "b", "a", "_d", "e"] [] [] [] ∧
      ∃ document notices, reluctant.document {} = .ok (document, notices) ∧
        document.declarations.map Declaration.name = ["a", "a", "e"] ∧
        document.instances.get "c" = ["e"] ∧
        warnings notices =
          [Document.skipNotice "b" "no kind", noClassNotice "a" "no class",
            noClassNotice "a" "no class"] := by
  have hinventory : reluctant.AnswersInventory ["a", "b", "a", "_d", "e"] [] [] [] :=
    ⟨rfl, rfl, rfl, rfl, ⟨fun name => ⟨_, rfl⟩, fun base module memory => ⟨_, rfl⟩⟩⟩
  obtain ⟨document, notices, hdocument, hdeclarations, -, -, -, hinstances, hwarnings⟩ :=
    (document_of_answersInventory reluctant {}).1 _ _ _ _ hinventory
  refine ⟨hinventory, document, notices, hdocument, ?_, ?_, ?_⟩
  · rw [hdeclarations]
    decide +kernel
  · rw [hinstances, hdeclarations]
    decide +kernel
  · rw [hwarnings, hdeclarations]
    decide +kernel

end Host
end DeclDocs
