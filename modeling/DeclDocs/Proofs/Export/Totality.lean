import DeclDocs.Host.OfDump
import DeclDocs.Proofs.Document.ReadBack
import DeclDocs.Proofs.Export.Answers
import DeclDocs.Proofs.Export.Document

/-! # Every dump is exported

A dump may say anything of its declarations.  There is a document of it all the same, and a
text of the document in either encoding, with all notes and tactic docs of the dump
(`Dump.exists_export`).

Nothing that is written at one go, be it a declaration or another member of the document, nests
too deeply.  The lines in a document have no more digits than those in its dump
(`Dump.linesWithin_document`), so that the text can be read again.
-/
namespace DeclDocs

namespace Document

/-- The members of a document after the declarations. -/
theorem exists_otherMembers (document : Document Empty) :
    ∃ moduleDocs instances : Json.Members, document.otherMembers =
      [("mod_docs", .obj moduleDocs),
       ("notes", .arr (document.notes.map fun note => .texts [note.1, note.2])),
       ("tactic_docs", .arr (document.tacticDocs.map LabeledTacticDoc.toJson)),
       ("instances", .obj instances)] :=
  ⟨_, _, rfl⟩

end Document

theorem eq_ofNat_of_lineOf? {line : Int} {n : Nat} (h : lineOf? line = some n) :
    line = Int.ofNat n := by
  cases line with
  | ofNat m => exact congrArg Int.ofNat (Option.some.inj h)
  | negSucc m => cases h

theorem Entry.line_of_position {entry : Entry} {position : Position}
    (h : entry.position = some position) : entry.line = some position.line := by
  rw [Entry.position] at h
  simp only [Option.bind_eq_bind, Option.bind_eq_some_iff] at h
  obtain ⟨filename, -, line, hline, hposition⟩ := h
  cases hposition
  exact hline

namespace Dump

variable {dump : Dump}

/-- The line of a record is that of a declaration which the dump lists, or it is not known and
counts as zero. -/
theorem line_of_record {name : String} {record : Declaration Empty}
    (h : (dump.host.record? name).1 = some record) :
    record.line = 0 ∨ ∃ entry ∈ dump.declarations, entry.line = some (Int.ofNat record.line) := by
  obtain ⟨-, tag, telescope, position, houtline, hcompletes⟩ := Host.record?_eq_some_iff.mp h
  obtain ⟨-, -, hposition⟩ := Host.outline_eq_ok_iff.mp houtline
  obtain ⟨entry, hget, hentry⟩ := bind_eq_ok_iff.mp hposition
  obtain rfl : entry.position = position := Except.ok.inj hentry
  have hline := hcompletes.line_eq
  cases hknown : entry.position with
  | none =>
    rw [hknown] at hline
    exact .inl (Option.some.inj hline).symm
  | some position =>
    rw [hknown] at hline
    obtain ⟨before, after, hlist, -, -⟩ := find?_eq_some_iff.mp (get_eq_ok_iff.mp hget)
    refine .inr ⟨entry, by simp [hlist], ?_⟩
    rw [Entry.line_of_position hknown]
    exact congrArg some (eq_ofNat_of_lineOf? hline)

/-- No line in a dump has more digits than the limit. -/
structure LinesWithin (digitLimit : Nat) (dump : Dump) : Prop where
  declarations : ∀ entry ∈ dump.declarations, ∀ line, entry.line = some (Int.ofNat line) →
    Decimal.digitCount line ≤ digitLimit
  moduleDocs : ∀ doc ∈ dump.moduleDocs, Decimal.digitCount doc.line ≤ digitLimit

theorem linesWithin_document (h : dump.LinesWithin Decimal.digitLimit) {memory : Imports.Memory}
    {names : List String} {document : Document Empty} {notices : List Notice}
    (hassembles : dump.host.Assembles memory names document notices) :
    document.LinesWithin Decimal.digitLimit where
  declarations record hrecord := by
    rw [hassembles.declarations_eq] at hrecord
    obtain ⟨name, -, hname⟩ := List.mem_filterMap.mp hrecord
    rcases line_of_record hname with hzero | ⟨entry, hentry, hline⟩
    · rw [hzero]
      decide
    · exact h.declarations entry hentry record.line hline
  moduleDocs doc hdoc := by
    have hdocs : dump.moduleDocs = document.moduleDocs := Except.ok.inj hassembles.moduleDocs
    exact h.moduleDocs doc (hdocs ▸ hdoc)

/-- **Every dump is exported.**  Whatever a dump holds, there is a document of it, and in either
encoding a text of the document.  The text is that of a JSON object with five members in this
order: the declarations, the module docs, the notes, the tactic docs and the instances.  The
notes are those of the dump, and so are the tactic docs but for their labels, both in order.
The parts that are written one by one do not nest too deeply.  If the lines of the dump are not
too long, the text is read as that object again. -/
theorem exists_export (dump : Dump) (memory : Imports.Memory) :
    ∃ document notices, dump.host.document memory = .ok (document, notices) ∧
      ∀ (limit : NestingLimit) encoding, ∃ (text : String) (dropped : List Notice)
          (declarations : List Json) (moduleDocs : Json.Members)
          (tacticDocs : List LabeledTacticDoc) (instances : Json.Members),
        document.render? limit encoding = .ok (text, dropped) ∧
        tacticDocs.map LabeledTacticDoc.toTacticDoc = dump.tacticDocs ∧
        let others : Json.Members :=
          [("mod_docs", .obj moduleDocs),
           ("notes", .arr (dump.notes.map fun note => .texts [note.1, note.2])),
           ("tactic_docs", .arr (tacticDocs.map LabeledTacticDoc.toJson)),
           ("instances", .obj instances)]
        let json := Json.obj (("decls", .arr declarations) :: others)
        text = json.render ∧
          (∀ declaration ∈ declarations, declaration.depth ≤ limit.levels) ∧
          (∀ member ∈ others, member.2.depth ≤ 3) ∧
          (dump.LinesWithin Decimal.digitLimit → ∀ limits : Json.Limits,
            limit.levels + 2 ≤ limits.nesting → Decimal.digitLimit ≤ limits.digits →
              Json.parse limits text = .ok json) := by
  obtain ⟨document, notices, hassembles, -, hnotes, htacticDocs⟩ :=
    dump.host_answersInventory.exists_assembles memory
  refine ⟨document, notices, Host.document_eq_ok_iff.mpr ⟨_, hassembles⟩, fun limit encoding => ?_⟩
  have hkeys : document.instances.keys.Nodup := by
    rw [hassembles.instances_eq]
    exact Host.nodup_keys_instances document.declarations
  have htext : (document.render limit encoding).1 =
      ((document.kept limit encoding).toJson encoding).render :=
    Document.fst_render limit encoding document
  obtain ⟨moduleDocs, instances, hothers⟩ := 
    Document.exists_otherMembers (document.kept limit encoding)
  have hjson := Document.toJson_eq encoding (document.kept limit encoding)
  have hdepth := Document.depth_otherMembers_le (document.kept limit encoding)
  rw [hothers] at hjson hdepth
  refine ⟨(document.render limit encoding).1, (document.render limit encoding).2,
    (document.kept limit encoding).declarations.map (Declaration.toJson encoding), moduleDocs,
    document.tacticDocs, instances, (ok_certain (document.render? limit encoding)).symm, htacticDocs, ?_⟩
  rw [← hnotes]
  intro others json
  refine ⟨htext.trans (congrArg Json.render hjson), ?_, hdepth, ?_⟩
  · rw [List.forall_mem_map]
    exact fun record hrecord => Document.depth_le_of_mem_kept hrecord
  · intro hlines limits hnesting hdigits
    have hread := Document.parse_render_kept limit encoding hkeys (linesWithin_document hlines hassembles)
      hnesting hdigits
    rwa [← htext, hjson] at hread

/-- A dump of a declaration of no known kind whose type is no markup, of another one of the same
name, whose class has no name, and of a third one on a negative line, with a tactic doc for a
declaration that is not listed. -/
def unruly : Dump where
  declarations :=
    [{ name := "a", kind := "lemma", type := .arr [.null] },
     { name := "a", kind := "theorem", type := .str "t", filename := some "f", line := some 12
       attributes := ["instance"], instanceClass := some "" },
     { name := "b", kind := "axiom", type := .str "t", filename := some "f", line := some (-1) }]
  moduleDocs := [⟨"f", 7, "x"⟩]
  notes := [("n", "1"), ("n", "2")]
  tacticDocs := [{ name := "tac", category := "tactic", declNames := ["c"] }]
  imports := [("init", ["init"])]

theorem exists_export_unruly :
    let limit := NestingLimit.usual
    unruly.LinesWithin Decimal.digitLimit ∧
      ∃ document notices text dropped declarations moduleDocs, ∃ tacticDoc : LabeledTacticDoc,
        ∃ instances, unruly.host.document {} = .ok (document, notices) ∧
        document.render? limit .arrays = .ok (text, dropped) ∧
        tacticDoc.declNames = ["c"] ∧
        (Json.obj instances).depth ≤ 3 ∧
        Json.parse ⟨limit.levels + 2, Decimal.digitLimit⟩ text =
          .ok (.obj [("decls", .arr declarations), ("mod_docs", .obj moduleDocs),
            ("notes", .arr [.texts ["n", "1"], .texts ["n", "2"]]),
            ("tactic_docs", .arr [tacticDoc.toJson]), ("instances", .obj instances)]) := by
  intro limit
  have hlines : unruly.LinesWithin Decimal.digitLimit := by
    refine ⟨?_, by decide⟩
    intro entry hentry line hline
    rcases List.mem_cons.mp hentry with rfl | hentry
    · cases hline
    · rcases List.mem_cons.mp hentry with rfl | hentry
      · cases hline
        decide
      · rw [List.mem_singleton.mp hentry] at hline
        cases hline
  obtain ⟨document, notices, hdocument, hexport⟩ := exists_export unruly {}
  obtain ⟨text, dropped, declarations, moduleDocs, tacticDocs, instances, hrender, htacticDocs, -,
    -, hdepth, hread⟩ := hexport limit .arrays
  obtain ⟨tacticDoc, rfl, htacticDoc⟩ := List.map_eq_singleton_iff.mp htacticDocs
  exact ⟨hlines, document, notices, text, dropped, declarations, moduleDocs, tacticDoc, instances,
    hdocument, hrender, congrArg TacticDoc.declNames htacticDoc,
    hdepth ("instances", .obj instances) (by simp),
    hread hlines ⟨limit.levels + 2, Decimal.digitLimit⟩ (Nat.le_refl _) (Nat.le_refl _)⟩

end Dump
end DeclDocs
