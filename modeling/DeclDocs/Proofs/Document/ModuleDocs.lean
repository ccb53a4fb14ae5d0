import DeclDocs.Proofs.Document.Grouped
import DeclDocs.Proofs.Document.Rendering

/-! # Module docs in a document

A document writes the module docs file by file.  The files stand in the order in which they
appear first (`ModuleDoc.files`), and under each of them stand its own docs, in their order
(`ModuleDoc.ofFile`).  This is what grouping value by value comes to (`Grouped.of_eq`), so that
no doc is lost, and none is written twice or under another file.
-/
namespace DeclDocs

namespace ModuleDoc

/-- The files of some docs, each once, in the order in which they appear first. -/
def files (docs : List ModuleDoc) : List String :=
  (docs.map filename).eraseDups

/-- The docs of a file, in their order. -/
def ofFile (file : String) (docs : List ModuleDoc) : List ModuleDoc :=
  docs.filter (·.filename = file)

theorem groups_eq (docs : List ModuleDoc) :
    Grouped.of filename docs = (files docs).map fun file => (file, ofFile file docs) :=
  Grouped.of_eq filename docs

theorem nodup_files (docs : List ModuleDoc) : (files docs).Nodup := by
  rw [files, ← Grouped.keys_of]
  exact Grouped.nodup_keys_of filename docs

theorem mem_files_iff {docs : List ModuleDoc} {file : String} :
    file ∈ files docs ↔ ∃ doc ∈ docs, doc.filename = file := by
  rw [files, List.mem_eraseDups, List.mem_map]

/-- The docs of the files together are all docs, each as often as it is there. -/
theorem flatMap_ofFile_perm (docs : List ModuleDoc) :
    ((files docs).flatMap fun file => ofFile file docs).Perm docs := by
  have hgroups := Grouped.flatMap_of_perm filename docs
  rwa [groups_eq, List.flatMap_map] at hgroups

end ModuleDoc

namespace Document

theorem moduleDocsToJson_eq (docs : List ModuleDoc) :
    moduleDocsToJson docs =
      .obj ((ModuleDoc.files docs).map fun file =>
        (file, .arr ((ModuleDoc.ofFile file docs).map moduleDocToJson))) := by
  rw [moduleDocsToJson, ModuleDoc.groups_eq, List.map_map]
  rfl

/-- **Module docs are grouped by file, in order and without loss.**  Among the members of a
document the module docs are one object, which has every file with docs exactly once, in the
order in which the files appear first.  Under each file stand its docs and no others, in their
order and as often as they are there, each with its line and its content; so there are as many
entries as docs. -/
theorem moduleDocs_grouped_by_file :
    (∀ (encoding : Layout.Encoding) (document : Document Empty), ∃ members,
      document.toJson encoding = .obj members ∧
      Json.Members.get? members "mod_docs" = some (.obj ((ModuleDoc.files document.moduleDocs).map fun file =>
        (file, .arr ((ModuleDoc.ofFile file document.moduleDocs).map fun doc =>
          .obj [("line", .int doc.line), ("doc", .str doc.content)]))))) ∧
    ∀ docs : List ModuleDoc,
      (ModuleDoc.files docs).Nodup ∧
      (∀ file, file ∈ ModuleDoc.files docs ↔ ∃ doc ∈ docs, doc.filename = file) ∧
      ((ModuleDoc.files docs).flatMap fun file => ModuleDoc.ofFile file docs).length =
        docs.length := by
  constructor
  · intro encoding document
    refine ⟨_, toJson_eq encoding document, ?_⟩
    rw [Json.Members.get?_cons, if_neg (by decide), otherMembers, Json.Members.get?_cons,
      if_pos rfl, moduleDocsToJson_eq]
    rfl
  · intro docs
    exact ⟨ModuleDoc.nodup_files docs, fun file => ModuleDoc.mem_files_iff,
      (ModuleDoc.flatMap_ofFile_perm docs).length_eq⟩

/-- Two files whose docs alternate. -/
example :
    moduleDocsToJson [⟨"b", 3, "one"⟩, ⟨"a", 7, "two"⟩, ⟨"b", 1, "three"⟩] =
      .obj [("b", .arr [.obj [("line", .int 3), ("doc", .str "one")],
          .obj [("line", .int 1), ("doc", .str "three")]]),
        ("a", .arr [.obj [("line", .int 7), ("doc", .str "two")]])] := by
  rfl

end Document
end DeclDocs
