import DeclDocs.Proofs.Layout.Attached

/-! # Loose texts

A row has no loose closing text when none stands after its first item, which
keeps its place whatever it is, and no loose opening text when none stands before its
last.

Attaching closing brackets leaves no loose closing text at any level
(`noLooseClosing_closed`), whatever is pending: a text that is not loose itself
does not become a bracket by taking more text at its end.
Where no text is loose, and nothing is pending, attaching changes nothing
(`closed_eq_self`, `opened_eq_self`).
-/
namespace DeclDocs

/-- No text of the row is loose. -/
def NoLoose (brackets : List String) (row : Row) : Prop :=
  ∀ s, some s ∈ row → ¬ IsLoose brackets s

/-- No text after the first item of the row is loose. -/
def NoLooseClosing (row : Row) : Prop :=
  NoLoose closingBrackets row.tail

/-- No text before the last item of the row is loose. -/
def NoLooseOpening (row : Row) : Prop :=
  NoLoose openingBrackets row.dropLast

theorem noLoose_nil (brackets : List String) : NoLoose brackets [] :=
  fun _ hs => absurd hs List.not_mem_nil

theorem noLoose_text_cons {brackets : List String} {s : String} {row : Row} :
    NoLoose brackets (some s :: row) ↔ ¬ IsLoose brackets s ∧ NoLoose brackets row := by
  simp [NoLoose]

theorem noLoose_none_cons {brackets : List String} {row : Row} :
    NoLoose brackets (none :: row) ↔ NoLoose brackets row := by
  simp [NoLoose]

/-- Where other items follow, the first text of a row must not be loose. -/
theorem noLooseOpening_text_cons {s : String} {row : Row} (h : row ≠ []) :
    NoLooseOpening (some s :: row) ↔ ¬ IsLoose openingBrackets s ∧ NoLooseOpening row := by
  rw [NoLooseOpening, List.dropLast_cons_of_ne_nil h, noLoose_text_cons, NoLooseOpening]

theorem noLooseOpening_none_cons {row : Row} :
    NoLooseOpening (none :: row) ↔ NoLooseOpening row := by
  cases row with
  | nil => exact Iff.rfl
  | cons item row =>
    rw [NoLooseOpening, List.dropLast_cons_of_ne_nil (List.cons_ne_nil item row),
      noLoose_none_cons, NoLooseOpening]

theorem eq_of_append_eq_singleton {s t : String} {c : Char} (hs : s ≠ "")
    (h : s ++ t = String.singleton c) : s = String.singleton c := by
  have hlist : s.toList ++ t.toList = [c] := by
    simpa using congrArg String.toList h
  rcases List.append_eq_singleton_iff.mp hlist with ⟨hnil, -⟩ | ⟨hsingle, -⟩
  · exact absurd (String.toList_eq_nil_iff.mp hnil) hs
  · exact String.toList_inj.mp (by simpa using hsingle)

/-- Every closing bracket is a single character. -/
theorem exists_singleton_of_mem_closingBrackets :
    ∀ bracket ∈ closingBrackets, ∃ c, bracket = String.singleton c := by
  intro bracket h
  simp only [closingBrackets, List.mem_cons, List.not_mem_nil, or_false] at h
  rcases h with rfl | rfl | rfl | rfl
  · exact ⟨')', rfl⟩
  · exact ⟨']', rfl⟩
  · exact ⟨'\x7d', rfl⟩
  · exact ⟨'⦄', rfl⟩

/-- A text that is not loose among some brackets stays so with more text behind it. -/
theorem not_isLoose_append {brackets : List String}
    (hsingle : ∀ bracket ∈ brackets, ∃ c, bracket = String.singleton c) {s : String}
    (h : ¬ IsLoose brackets s) (behind : String) : ¬ IsLoose brackets (s ++ behind) := by
  obtain ⟨hs, hbracket⟩ := not_or.mp h
  rintro (hempty | hmem)
  · exact hs (String.append_eq_empty_iff.mp hempty).1
  · obtain ⟨c, hc⟩ := hsingle _ hmem
    have hsc := eq_of_append_eq_singleton hs hc
    exact hbracket (hsc.trans hc.symm ▸ hmem)

namespace Chain

mutual

/-- Attaching closing brackets leaves none of them loose. -/
theorem noLooseClosing_closed : ∀ (chain : Chain Empty) (pending : List String),
    (chain.closed pending).AtEveryLevel NoLooseClosing
  | .nil, pending => ⟨noLoose_nil _, trivial⟩
  | .text s rest, pending => by
    rw [closed_text]
    exact noLoose_closedAfter rest pending
  | .nest inner rest, pending => by
    obtain ⟨hrow, hnests⟩ := noLoose_closedAfter rest pending
    rw [closed_nest]
    exact ⟨hrow, noLooseClosing_closed inner _, hnests⟩
  | .foreign node _, _ => node.elim

theorem noLoose_closedAfter : ∀ (chain : Chain Empty) (pending : List String),
    NoLoose closingBrackets (chain.closedAfter pending).1.row ∧
      (chain.closedAfter pending).1.InNests NoLooseClosing
  | .nil, pending => ⟨noLoose_nil _, trivial⟩
  | .text s rest, pending => by
    obtain ⟨hrow, hnests⟩ := noLoose_closedAfter rest pending
    rcases closedAfter_text_cases s rest pending with ⟨-, h⟩ | ⟨-, h⟩ | ⟨hloose, h⟩
    · rw [h]
      exact ⟨hrow, hnests⟩
    · rw [h]
      exact ⟨hrow, hnests⟩
    · have hstays := not_isLoose_append exists_singleton_of_mem_closingBrackets hloose
        (String.join (rest.closedAfter pending).2)
      rw [h]
      exact ⟨noLoose_text_cons.mpr ⟨hstays, hrow⟩, hnests⟩
  | .nest inner rest, pending => by
    obtain ⟨hrow, hnests⟩ := noLoose_closedAfter rest pending
    rw [closedAfter_nest]
    exact ⟨noLoose_none_cons.mpr hrow, noLooseClosing_closed inner _, hnests⟩
  | .foreign node _, _ => node.elim

end

/-! ## Nothing to attach -/

mutual

/-- Where no closing text is loose, attaching closing brackets changes nothing. -/
theorem closed_eq_self : ∀ chain : Chain Empty, chain.Filled →
    chain.AtEveryLevel NoLooseClosing → chain.closed [] = chain
  | .nil, hfilled, _ => absurd rfl hfilled.ne_nil
  | .text s rest, hfilled, h => by
    rw [closed_text, closedAfter_eq_self rest hfilled.2 h.1 h.2, String.join_nil,
      String.append_empty]
  | .nest inner rest, hfilled, h => by
    rw [closed_nest, closedAfter_eq_self rest hfilled.2.2 h.1 h.2.2,
      closed_eq_self inner hfilled.2.1 h.2.1]
  | .foreign node _, _, _ => node.elim

theorem closedAfter_eq_self : ∀ chain : Chain Empty, chain.InNests (· ≠ []) →
    NoLoose closingBrackets chain.row → chain.InNests NoLooseClosing →
    chain.closedAfter [] = (chain, [])
  | .nil, _, _, _ => rfl
  | .text s rest, hnests, hrow, h => by
    obtain ⟨hloose, hrest⟩ := noLoose_text_cons.mp hrow
    rw [closedAfter_text hloose, closedAfter_eq_self rest hnests hrest h, String.join_nil,
      String.append_empty]
  | .nest inner rest, hnests, hrow, h => by
    have hrest := noLoose_none_cons.mp hrow
    rw [closedAfter_nest, closedAfter_eq_self rest hnests.2 hrest h.2,
      closed_eq_self inner hnests.1 h.1]
  | .foreign node _, _, _, _ => node.elim

end

/-- Where no opening text is loose, attaching opening brackets changes nothing. -/
theorem opened_eq_self {chain : Chain Empty} (hfilled : chain.Filled)
    (h : chain.AtEveryLevel NoLooseOpening) : chain.opened [] = chain := by
  induction chain with
  | nil => exact absurd rfl hfilled.ne_nil
  | text s rest ih =>
    by_cases hrest : rest = .nil
    · rw [hrest, opened_text_last, String.join_nil, String.empty_append]
    have hfill : rest.Filled := InNests.filled hfilled.2 hrest
    obtain ⟨hloose, hrow⟩ := (noLooseOpening_text_cons hfill.1).mp h.1
    rw [opened_text hloose hrest, ih hfill ⟨hrow, h.2⟩, String.join_nil,
      String.empty_append]
  | nest inner rest ihi ih =>
    obtain ⟨-, hinner, hnests⟩ := hfilled
    obtain ⟨hrow, hinside, hinsides⟩ := h
    by_cases hrest : rest = .nil
    · rw [hrest, opened_nest_last, ihi hinner hinside]
    · rw [opened_nest inner hrest, ihi hinner hinside,
        ih (InNests.filled hnests hrest) ⟨noLooseOpening_none_cons.mp hrow, hinsides⟩]
  | foreign node => exact node.elim

end Chain
end DeclDocs
