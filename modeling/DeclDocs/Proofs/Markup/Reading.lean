import DeclDocs.Proofs.List.First
import DeclDocs.Proofs.Markup.Grammar

/-! # Reading markup from a dump

The reader accepts just the JSON values that write markup, and of any other value it
names the first node that offends.  What a node has to be is said without the reader,
one condition for each thing that can be wrong with it (`Markup.Offends`); the nodes of
a value are listed outside-in and from left to right (`Markup.nodes`).  When the reader
goes into a child, the nodes before it do not offend, so that the first of the nodes of
the child to offend is the first of all.

What has been read is written back as it was, except that a color has become the text
that stands for it (`Markup.toDump_of_ofDump`).
-/
namespace DeclDocs
namespace Markup

/-! ## Offending nodes -/

/-- The keys of the nodes that are not raw text. -/
def tags : List String :=
  ["group", "highlight", "nest", "compose"]

/-- What is wrong with a node by itself, whatever its children are. -/
def Offends (data : Json) : Malformation → Prop
  | .notNode shown =>
    shown = data ∧ (∀ text, data ≠ .str text) ∧ ∀ tag payload, data ≠ .obj [(tag, payload)]
  | .notPair tag payload =>
    data = .obj [(tag, payload)] ∧ tag ≠ "group" ∧ ∀ first second, payload ≠ .arr [first, second]
  | .indentNotInteger indent =>
    (∃ child, data = .obj [("nest", .arr [indent, child])]) ∧
      (∀ columns, indent ≠ .int columns) ∧ ∀ value, indent ≠ .bool value
  | .unknownTag tag =>
    (∃ first second, data = .obj [(tag, .arr [first, second])]) ∧ tag ∉ tags

/-- The nodes of a value that is read as markup: every node before its children, and
these from left to right. -/
def nodes (data : Json) : List Json :=
  data ::
    match data with
    | .obj [("group", child)] => nodes child
    | .obj [("highlight", .arr [_, child])] => nodes child
    | .obj [("nest", .arr [_, child])] => nodes child
    | .obj [("compose", .arr [left, right])] => nodes left ++ nodes right
    | _ => []

theorem exists_nodes_eq_cons (data : Json) : ∃ rest, nodes data = data :: rest := by
  unfold nodes
  exact ⟨_, rfl⟩

theorem nodes_text (text : String) : nodes (.str text) = [.str text] := by
  simp [nodes]

theorem nodes_group (child : Json) :
    nodes (.obj [("group", child)]) = .obj [("group", child)] :: nodes child := by
  rw [nodes]

theorem nodes_highlight (color child : Json) :
    nodes (.obj [("highlight", .arr [color, child])]) =
      .obj [("highlight", .arr [color, child])] :: nodes child := by
  rw [nodes]

theorem nodes_nest (indent child : Json) :
    nodes (.obj [("nest", .arr [indent, child])]) =
      .obj [("nest", .arr [indent, child])] :: nodes child := by
  rw [nodes]

theorem nodes_compose (left right : Json) :
    nodes (.obj [("compose", .arr [left, right])]) =
      .obj [("compose", .arr [left, right])] :: (nodes left ++ nodes right) := by
  rw [nodes]

/-- A node offends in one way at most. -/
theorem offends_unique {data : Json} {one other : Malformation} (hone : Offends data one)
    (hother : Offends data other) : one = other := by
  cases one <;> cases other <;> simp only [Offends] at hone hother <;> grind [tags]

theorem not_offends_text (text : String) (malformation : Malformation) :
    ¬ Offends (.str text) malformation := by
  intro h
  cases malformation with
  | notNode => exact h.2.1 text rfl
  | notPair => cases h.1
  | indentNotInteger =>
    obtain ⟨⟨child, hdata⟩, -⟩ := h
    cases hdata
  | unknownTag =>
    obtain ⟨⟨first, second, hdata⟩, -⟩ := h
    cases hdata

theorem not_offends_group (child : Json) (malformation : Malformation) :
    ¬ Offends (.obj [("group", child)]) malformation := by
  intro h
  cases malformation with
  | notNode => exact h.2.2 "group" child rfl
  | notPair =>
    obtain ⟨hdata, htag, -⟩ := h
    cases hdata
    exact htag rfl
  | indentNotInteger =>
    obtain ⟨⟨child, hdata⟩, -⟩ := h
    simp at hdata
  | unknownTag =>
    obtain ⟨⟨first, second, hdata⟩, htag⟩ := h
    cases hdata
    simp [tags] at htag

/-- A node with a known key and an array of two does not offend, unless it is a nest
whose indent is no integer. -/
theorem not_offends_pair {tag : String} {first second : Json} (htag : tag ∈ tags)
    (hindent : tag = "nest" → ∃ indent, indentOfDump? first = some indent)
    (malformation : Malformation) : ¬ Offends (.obj [(tag, .arr [first, second])]) malformation := by
  intro h
  cases malformation with
  | notNode => exact h.2.2 tag _ rfl
  | notPair =>
    obtain ⟨hdata, -, hpair⟩ := h
    cases hdata
    exact hpair first second rfl
  | indentNotInteger =>
    obtain ⟨⟨child, hdata⟩, hint, hflag⟩ := h
    cases hdata
    rcases (exists_indentOfDump?_iff first).mp (hindent rfl) with ⟨columns, h⟩ | ⟨value, h⟩
    · exact hint columns h
    · exact hflag value h
  | unknownTag =>
    obtain ⟨⟨first, second, hdata⟩, hunknown⟩ := h
    cases hdata
    exact hunknown htag

theorem not_offends_highlight (color child : Json) (malformation : Malformation) :
    ¬ Offends (.obj [("highlight", .arr [color, child])]) malformation :=
  not_offends_pair (by simp [tags]) (by simp) malformation

theorem not_offends_nest {indent : Json} {found : Indent} (h : indentOfDump? indent = some found)
    (child : Json) (malformation : Malformation) :
    ¬ Offends (.obj [("nest", .arr [indent, child])]) malformation :=
  not_offends_pair (by simp [tags]) (fun _ => ⟨found, h⟩) malformation

theorem not_offends_compose (left right : Json) (malformation : Malformation) :
    ¬ Offends (.obj [("compose", .arr [left, right])]) malformation :=
  not_offends_pair (by simp [tags]) (by simp) malformation

theorem offends_nest {indent : Json} (h : indentOfDump? indent = none) (child : Json) :
    Offends (.obj [("nest", .arr [indent, child])]) (.indentNotInteger indent) := by
  refine ⟨⟨child, rfl⟩, ?_, ?_⟩
  · rintro columns rfl
    cases h
  · rintro value rfl
    cases h

theorem isFirst_of_offends {data : Json} {malformation : Malformation}
    (h : Offends data malformation) : IsFirst Offends (nodes data) malformation := by
  obtain ⟨rest, hnodes⟩ := exists_nodes_eq_cons data
  rw [hnodes]
  exact isFirst_cons_iff.mpr (.inl h)

/-! ## Reading -/

/-- In a value that is read no node offends. -/
theorem isSilent_of_ofDump {data : Json} {markup : Markup Empty} (h : ofDump data = .ok markup) :
    IsSilent Offends (nodes data) := by
  fun_induction ofDump data generalizing markup with
  | case1 text =>
    rw [nodes_text]
    exact isSilent_cons_iff.mpr ⟨not_offends_text text, isSilent_nil⟩
  | case2 child ih =>
    obtain ⟨_, hchild, -⟩ := bind_eq_ok_iff.mp h
    rw [nodes_group]
    exact isSilent_cons_iff.mpr ⟨not_offends_group child, ih hchild⟩
  | case3 color child ih =>
    obtain ⟨_, hchild, -⟩ := bind_eq_ok_iff.mp h
    rw [nodes_highlight]
    exact isSilent_cons_iff.mpr ⟨not_offends_highlight color child, ih hchild⟩
  | case4 => cases h
  | case5 indent child found hindent ih =>
    obtain ⟨_, hchild, -⟩ := bind_eq_ok_iff.mp h
    rw [nodes_nest]
    exact isSilent_cons_iff.mpr ⟨not_offends_nest hindent child, ih hchild⟩
  | case6 left right ihl ihr =>
    obtain ⟨_, hleft, h⟩ := bind_eq_ok_iff.mp h
    obtain ⟨_, hright, -⟩ := bind_eq_ok_iff.mp h
    have hchildren : IsSilent Offends (nodes left ++ nodes right) :=
      isSilent_append_iff.mpr ⟨ihl hleft, ihr hright⟩
    rw [nodes_compose]
    exact isSilent_cons_iff.mpr ⟨not_offends_compose left right, hchildren⟩
  | case7 => cases h
  | case8 => cases h
  | case9 => cases h

/-- Of a value that is not read the reader names the first offence. -/
theorem isFirst_of_ofDump {data : Json} {malformation : Malformation}
    (h : ofDump data = .error malformation) : IsFirst Offends (nodes data) malformation := by
  fun_induction ofDump data with
  | case1 => cases h
  | case2 child ih =>
    rw [nodes_group, isFirst_cons_iff]
    rcases bind_eq_error_iff.mp h with hchild | ⟨_, _, h⟩
    · exact .inr ⟨not_offends_group child, ih hchild⟩
    · cases h
  | case3 color child ih =>
    rw [nodes_highlight, isFirst_cons_iff]
    rcases bind_eq_error_iff.mp h with hchild | ⟨_, _, h⟩
    · exact .inr ⟨not_offends_highlight color child, ih hchild⟩
    · cases h
  | case4 indent child hnone =>
    cases h
    exact isFirst_of_offends (offends_nest hnone child)
  | case5 indent child found hindent ih =>
    rw [nodes_nest, isFirst_cons_iff]
    rcases bind_eq_error_iff.mp h with hchild | ⟨_, _, h⟩
    · exact .inr ⟨not_offends_nest hindent child, ih hchild⟩
    · cases h
  | case6 left right ihl ihr =>
    rw [nodes_compose, isFirst_cons_iff]
    refine .inr ⟨not_offends_compose left right, isFirst_append_iff.mpr ?_⟩
    -- the right part is read only when no node of the left part offends
    rcases bind_eq_error_iff.mp h with hleft | ⟨_, hleft, h⟩
    · exact .inl (ihl hleft)
    rcases bind_eq_error_iff.mp h with hright | ⟨_, _, h⟩
    · exact .inr ⟨isSilent_of_ofDump hleft, ihr hright⟩
    · cases h
  | case7 tag first second hgroup hhighlight hnest hcompose =>
    cases h
    refine isFirst_of_offends ⟨⟨first, second, rfl⟩, ?_⟩
    simp only [tags, List.mem_cons, List.not_mem_nil, or_false, not_or]
    exact ⟨hgroup, hhighlight, hnest, hcompose⟩
  | case8 tag payload hgroup _ _ _ hpair =>
    cases h
    exact isFirst_of_offends ⟨rfl, hgroup, hpair⟩
  | case9 data htext _ _ _ _ _ hkey =>
    cases h
    exact isFirst_of_offends ⟨rfl, htext, hkey⟩

theorem ofDump_eq_error_iff {data : Json} {malformation : Malformation} :
    ofDump data = .error malformation ↔ IsFirst Offends (nodes data) malformation := by
  refine ⟨isFirst_of_ofDump, fun hfirst => ?_⟩
  cases hread : ofDump data with
  | ok markup => exact absurd hfirst (isSilent_of_ofDump hread).not_isFirst
  | error found =>
    have hfound : IsFirst Offends (nodes data) found := isFirst_of_ofDump hread
    have hsame : found = malformation := hfound.unique hfirst offends_unique
    rw [hsame]

theorem exists_ofDump_eq_error_iff (data : Json) :
    (∃ malformation, ofDump data = .error malformation) ↔ ¬ IsDump data := by
  rw [← exists_ofDump_iff]
  cases ofDump data <;> simp

/-- The indent of a nest is looked at before its child, and the left part of a
concatenation before the right one. -/
example :
    ofDump (.obj [("compose", .arr [.obj [("nest", .arr [.null, .int 3])], .int 4])]) =
      .error (.indentNotInteger .null) := by
  rfl

/-! ## Writing back -/

/-- A value that is read as markup, with every color replaced by the text that stands
for it. -/
def withLabels : Json → Json
  | .obj [("group", child)] => .obj [("group", withLabels child)]
  | .obj [("highlight", .arr [color, child])] =>
    .obj [("highlight", .arr [.str color.label, withLabels child])]
  | .obj [("nest", .arr [indent, child])] => .obj [("nest", .arr [indent, withLabels child])]
  | .obj [("compose", .arr [left, right])] =>
    .obj [("compose", .arr [withLabels left, withLabels right])]
  | data => data

theorem indentToDump_of_indentOfDump? {data : Json} {indent : Indent}
    (h : indentOfDump? data = some indent) : indentToDump indent = data := by
  cases data with
  | int columns | bool value =>
    cases h
    rfl
  | null | float | str | arr | obj => cases h

/-- What has been read is written back as it was, with the labels of its colors. -/
theorem toDump_of_ofDump {data : Json} {markup : Markup Empty} (h : ofDump data = .ok markup) :
    markup.toDump = withLabels data := by
  fun_induction ofDump data generalizing markup with
  | case1 text =>
    cases h
    simp [withLabels, toDump]
  | case2 child ih =>
    obtain ⟨found, hchild, h⟩ := bind_eq_ok_iff.mp h
    cases h
    rw [toDump, withLabels, ih hchild]
  | case3 color child ih =>
    obtain ⟨found, hchild, h⟩ := bind_eq_ok_iff.mp h
    cases h
    rw [toDump, withLabels, ih hchild]
  | case4 => cases h
  | case5 indent child width hindent ih =>
    obtain ⟨found, hchild, h⟩ := bind_eq_ok_iff.mp h
    cases h
    rw [toDump, withLabels, ih hchild, indentToDump_of_indentOfDump? hindent]
  | case6 left right ihl ihr =>
    obtain ⟨_, hleft, h⟩ := bind_eq_ok_iff.mp h
    obtain ⟨_, hright, h⟩ := bind_eq_ok_iff.mp h
    cases h
    rw [toDump, withLabels, ihl hleft, ihr hright]
  | case7 => cases h
  | case8 => cases h
  | case9 => cases h

/-- **The reader of markup accepts its grammar and nothing else.**  Any other value it
refuses for the first of its nodes to offend, outside-in and from left to right.  What
has been read is written back with the labels of its colors, and all markup that is
written is read back. -/
theorem ofDump_accepts_grammar (data : Json) :
    ((∃ markup, ofDump data = .ok markup) ↔ IsDump data) ∧
      ((∃ malformation, ofDump data = .error malformation) ↔ ¬ IsDump data) ∧
      (∀ malformation,
        ofDump data = .error malformation ↔ IsFirst Offends (nodes data) malformation) ∧
      (∀ markup, ofDump data = .ok markup → markup.toDump = withLabels data) ∧
      ∀ markup : Markup Empty, ofDump markup.toDump = .ok markup :=
  ⟨exists_ofDump_iff data, exists_ofDump_eq_error_iff data, fun _ => ofDump_eq_error_iff,
    fun _ => toDump_of_ofDump, ofDump_toDump⟩

end Markup
end DeclDocs
