import DeclDocs.Markup.Dump
import DeclDocs.Proofs.Export.Record

/-! # The grammar of markup in a dump

Which JSON values write markup (`Markup.IsDump`), and that the reader accepts just these
(`Markup.exists_ofDump_iff`).
-/
namespace DeclDocs
namespace Markup

/-- The JSON values that write markup: a text, or an object with the one key of a node and
what belongs to it. -/
inductive IsDump : Json → Prop
  | raw (text : String) : IsDump (.str text)
  | group {child : Json} (h : IsDump child) : IsDump (.obj [("group", child)])
  | highlight (color : Json) {child : Json} (h : IsDump child) :
      IsDump (.obj [("highlight", .arr [color, child])])
  | nest {indent child : Json}
      (hindent : (∃ columns, indent = .int columns) ∨ ∃ value, indent = .bool value)
      (h : IsDump child) : IsDump (.obj [("nest", .arr [indent, child])])
  | compose {left right : Json} (hleft : IsDump left) (hright : IsDump right) :
      IsDump (.obj [("compose", .arr [left, right])])

theorem exists_indentOfDump?_iff (indent : Json) :
    (∃ found, indentOfDump? indent = some found) ↔
      (∃ columns, indent = .int columns) ∨ ∃ value, indent = .bool value := by
  cases indent <;> simp [indentOfDump?]

theorem isDump_of_ofDump {data : Json} {markup : Markup Empty} (h : ofDump data = .ok markup) :
    IsDump data := by
  fun_induction ofDump data generalizing markup with
  | case1 text => exact .raw text
  | case2 child ih =>
    obtain ⟨found, hchild, -⟩ := bind_eq_ok_iff.mp h
    exact .group (ih hchild)
  | case3 color child ih =>
    obtain ⟨found, hchild, -⟩ := bind_eq_ok_iff.mp h
    exact .highlight color (ih hchild)
  | case4 indent child hnone => cases h
  | case5 indent child found hindent ih =>
    obtain ⟨_, hchild, -⟩ := bind_eq_ok_iff.mp h
    exact .nest ((exists_indentOfDump?_iff indent).mp ⟨found, hindent⟩) (ih hchild)
  | case6 left right ihl ihr =>
    obtain ⟨_, hleft, h⟩ := bind_eq_ok_iff.mp h
    obtain ⟨_, hright, -⟩ := bind_eq_ok_iff.mp h
    exact .compose (ihl hleft) (ihr hright)
  | case7 => cases h
  | case8 => cases h
  | case9 => cases h

theorem exists_ofDump_of_isDump {data : Json} (h : IsDump data) :
    ∃ markup, ofDump data = .ok markup := by
  induction h with
  | raw text => exact ⟨.raw text, by rw [ofDump]⟩
  | group h ih =>
    obtain ⟨child, hchild⟩ := ih
    exact ⟨.group child, by rw [ofDump, hchild]; rfl⟩
  | highlight color h ih =>
    obtain ⟨child, hchild⟩ := ih
    exact ⟨.highlight color.label child, by rw [ofDump, hchild]; rfl⟩
  | nest hindent h ih =>
    obtain ⟨found, hfound⟩ := (exists_indentOfDump?_iff _).mpr hindent
    obtain ⟨child, hchild⟩ := ih
    exact ⟨.nest found child, by rw [ofDump, hfound, hchild]; rfl⟩
  | compose hleft hright ihl ihr =>
    obtain ⟨left, hleft⟩ := ihl
    obtain ⟨right, hright⟩ := ihr
    exact ⟨.join left right, by rw [ofDump, hleft, hright]; rfl⟩

/-- The reader accepts the JSON values that write markup, and no others. -/
theorem exists_ofDump_iff (data : Json) : (∃ markup, ofDump data = .ok markup) ↔ IsDump data :=
  ⟨fun ⟨_, h⟩ => isDump_of_ofDump h, exists_ofDump_of_isDump⟩

end Markup

theorem exists_readMarkup_iff (data : Json) :
    (∃ markup, readMarkup data = .ok markup) ↔ Markup.IsDump data := by
  simp only [← Markup.exists_ofDump_iff, readMarkup, mapError_eq_ok_iff]

end DeclDocs
