import DeclDocs.Proofs.Layout.FixedPoint

/-! # Attached brackets stay attached

Attaching brackets glues every row of a layout, and once is enough: a second run
changes nothing, not even the way the concatenations lean.

The second of the two passes could undo the first, for it drops items that stand
first and puts more text in front of others.  It does not (`noLooseClosing_opened`).
An item that comes to stand first stood further on before, where no closing text was
loose; and a text that is not loose does not become a bracket by taking more text at
its beginning (`not_isLoose_prepend`).  The same holds of the opening texts that
the pass leaves in their places (`noLooseOpening_opened`), whatever is pending.
-/
namespace DeclDocs

/-- Every opening bracket is a single character. -/
theorem exists_singleton_of_mem_openingBrackets :
    ∀ bracket ∈ openingBrackets, ∃ c, bracket = String.singleton c := by
  intro bracket h
  simp only [openingBrackets, List.mem_cons, List.not_mem_nil, or_false] at h
  rcases h with rfl | rfl | rfl | rfl
  · exact ⟨'(', rfl⟩
  · exact ⟨'[', rfl⟩
  · exact ⟨'\x7b', rfl⟩
  · exact ⟨'⦃', rfl⟩

theorem eq_of_append_eq_singleton_right {s t : String} {c : Char} (ht : t ≠ "")
    (h : s ++ t = String.singleton c) : t = String.singleton c := by
  have hlist : s.toList ++ t.toList = [c] := by
    simpa using congrArg String.toList h
  rcases List.append_eq_singleton_iff.mp hlist with ⟨-, hsingle⟩ | ⟨-, hnil⟩
  · exact String.toList_inj.mp (by simpa using hsingle)
  · exact absurd (String.toList_eq_nil_iff.mp hnil) ht

/-- A text that is not loose among some brackets stays so with more text before it. -/
theorem not_isLoose_prepend {brackets : List String}
    (hsingle : ∀ bracket ∈ brackets, ∃ c, bracket = String.singleton c) {s : String}
    (h : ¬ IsLoose brackets s) (before : String) : ¬ IsLoose brackets (before ++ s) := by
  obtain ⟨hs, hbracket⟩ := not_or.mp h
  rintro (hempty | hmem)
  · exact hs (String.append_eq_empty_iff.mp hempty).2
  · obtain ⟨c, hc⟩ := hsingle _ hmem
    have hsc := eq_of_append_eq_singleton_right hs hc
    exact hbracket (hsc.trans hc.symm ▸ hmem)

theorem NoLoose.tail {brackets : List String} {row : Row} (h : NoLoose brackets row) :
    NoLoose brackets row.tail :=
  fun s hs => h s (List.mem_of_mem_tail hs)

namespace Chain

/-- Attaching opening brackets leaves none of them loose. -/
theorem noLooseOpening_opened (chain : Chain Empty) (pending : List String) :
    (chain.opened pending).AtEveryLevel NoLooseOpening := by
  induction chain generalizing pending with
  | nil => exact ⟨noLoose_nil _, trivial⟩
  | text s rest ih =>
    by_cases hrest : rest = .nil
    · rw [hrest, opened_text_last]
      exact ⟨noLoose_nil _, trivial⟩
    rcases opened_text_cases s hrest pending with ⟨-, h⟩ | ⟨-, h⟩ | ⟨hloose, h⟩
    · rw [h]
      exact ih pending
    · rw [h]
      exact ih (pending ++ [s])
    · obtain ⟨hrow, hnests⟩ := ih []
      have hstays := not_isLoose_prepend exists_singleton_of_mem_openingBrackets
        hloose (String.join pending)
      rw [h]
      exact ⟨(noLooseOpening_text_cons (filled_opened rest []).1).mpr ⟨hstays, hrow⟩, hnests⟩
  | nest inner rest ihi ih =>
    by_cases hrest : rest = .nil
    · rw [hrest, opened_nest_last]
      exact ⟨noLoose_nil _, ihi pending, trivial⟩
    · obtain ⟨hrow, hnests⟩ := ih []
      rw [opened_nest inner hrest]
      exact ⟨noLooseOpening_none_cons.mpr hrow, ihi pending, hnests⟩
  | foreign node => exact node.elim

mutual

/-- Attaching opening brackets keeps closing texts from being loose. -/
theorem noLooseClosing_opened : ∀ chain : Chain Empty, chain.AtEveryLevel NoLooseClosing →
    ∀ pending, (chain.opened pending).AtEveryLevel NoLooseClosing
  | .nil, _, _ => ⟨noLoose_nil _, trivial⟩
  | .text s rest, hclosing, pending => by
    obtain ⟨hrow, hnests⟩ := hclosing
    by_cases hrest : rest = .nil
    · rw [hrest, opened_text_last]
      exact ⟨noLoose_nil _, trivial⟩
    have ih := noLoose_opened rest hrest hrow hnests
    -- a text that gives up the first place leaves it to one that is not loose
    rcases opened_text_cases s hrest pending with ⟨-, h⟩ | ⟨-, h⟩ | ⟨-, h⟩
    · rw [h]
      exact ⟨(ih pending).1.tail, (ih pending).2⟩
    · rw [h]
      exact ⟨(ih (pending ++ [s])).1.tail, (ih (pending ++ [s])).2⟩
    · rw [h]
      exact ih []
  | .nest inner rest, hclosing, pending => by
    obtain ⟨hrow, hinner, hnests⟩ := hclosing
    have hinside := noLooseClosing_opened inner hinner pending
    by_cases hrest : rest = .nil
    · rw [hrest, opened_nest_last]
      exact ⟨noLoose_nil _, hinside, trivial⟩
    · obtain ⟨hrows, hinsides⟩ := noLoose_opened rest hrest hrow hnests []
      rw [opened_nest inner hrest]
      exact ⟨hrows, hinside, hinsides⟩
  | .foreign node _, _, _ => node.elim

/-- In a row without loose closing texts none becomes loose, not even the first. -/
theorem noLoose_opened : ∀ chain : Chain Empty, chain ≠ .nil →
    NoLoose closingBrackets chain.row → chain.InNests NoLooseClosing → ∀ pending,
      NoLoose closingBrackets (chain.opened pending).row ∧
        (chain.opened pending).InNests NoLooseClosing
  | .nil, hne, _, _, _ => absurd rfl hne
  | .text s rest, _, hrow, hnests, pending => by
    obtain ⟨hloose, hrow⟩ := noLoose_text_cons.mp hrow
    have hstays := not_isLoose_prepend exists_singleton_of_mem_closingBrackets
      hloose (String.join pending)
    by_cases hrest : rest = .nil
    · rw [hrest, opened_text_last]
      exact ⟨noLoose_text_cons.mpr ⟨hstays, noLoose_nil _⟩, trivial⟩
    have ih := noLoose_opened rest hrest hrow hnests
    rcases opened_text_cases s hrest pending with ⟨-, h⟩ | ⟨-, h⟩ | ⟨-, h⟩
    · rw [h]
      exact ih pending
    · rw [h]
      exact ih (pending ++ [s])
    · obtain ⟨hrows, hinsides⟩ := ih []
      rw [h]
      exact ⟨noLoose_text_cons.mpr ⟨hstays, hrows⟩, hinsides⟩
  | .nest inner rest, _, hrow, hinsides, pending => by
    obtain ⟨hinner, hnests⟩ := hinsides
    have hrow := noLoose_none_cons.mp hrow
    have hinside := noLooseClosing_opened inner hinner pending
    by_cases hrest : rest = .nil
    · rw [hrest, opened_nest_last]
      exact ⟨noLoose_none_cons.mpr (noLoose_nil _), hinside, trivial⟩
    · obtain ⟨hrows, hinsides⟩ := noLoose_opened rest hrest hrow hnests []
      rw [opened_nest inner hrest]
      exact ⟨noLoose_none_cons.mpr hrows, hinside, hinsides⟩
  | .foreign node _, _, _, _, _ => node.elim

end

/-- Attaching all brackets glues every row of a chain. -/
theorem isGlued_attached (chain : Chain Empty) :
    ((chain.closed []).opened []).AtEveryLevel IsGlued := by
  have hclosing := noLooseClosing_opened _ (noLooseClosing_closed chain []) []
  have hopening := noLooseOpening_opened (chain.closed []) []
  exact atEveryLevel_isGlued_iff.mpr ⟨hclosing, hopening⟩

/-- A chain whose rows are glued has no bracket left to attach. -/
theorem attached_eq_self {chain : Chain Empty} (hfilled : chain.Filled)
    (hglued : chain.AtEveryLevel IsGlued) : (chain.closed []).opened [] = chain := by
  obtain ⟨hclosing, hopening⟩ := atEveryLevel_isGlued_iff.mp hglued
  rw [closed_eq_self chain hfilled hclosing, opened_eq_self hfilled hopening]

end Chain

namespace Layout

/-- **Attaching brackets establishes its discipline, once and for all.**  The
concatenations of the result lean right, every row of it is glued, and attaching
brackets again gives the same layout. -/
theorem attachBrackets_glues (layout : Layout Empty) :
    layout.attachBrackets.LeansRight ∧ layout.attachBrackets.AtEveryLevel IsGlued ∧
      layout.attachBrackets.attachBrackets = layout.attachBrackets := by
  have hglued := Chain.isGlued_attached layout.chain
  refine ⟨leansRight_attachBrackets layout, ?_, ?_⟩
  · rw [← atEveryLevel_chain, chain_attachBrackets]
    exact hglued
  · have hfilled := Chain.filled_opened (layout.chain.closed []) []
    rw [attachBrackets_eq layout.attachBrackets, chain_attachBrackets,
      Chain.attached_eq_self hfilled hglued, ← attachBrackets_eq]

end Layout
end DeclDocs
