import Mathlib.Data.List.Forall2
import DeclDocs.Proofs.Export.Answers
import DeclDocs.Proofs.Export.Tactics
import DeclDocs.Proofs.Imports.Reachability
import DeclDocs.Proofs.List.First

/-! # Labels are about reachability

The label of a documentation entry is that of the first base module, in the order in which
they are tried, from which the module of the entry's first declaration can be reached
(`Dump.IsLabel`).  An entry has one label, the empty one if it has no declaration with a
module or if no base module gets there.

The search for the base module asks the host one import query after another, and each of
them may add to what the host remembers.  What is remembered stays right through every
query (`Dump.isRight_after`), hence through any run of queries (`Dump.isRight_afterAll`),
and as long as it is right the labels do not depend on it.
-/
namespace DeclDocs

/-! ## Runs of queries -/

/-- A query that may change what a host remembers about imports. -/
inductive ImportQuery where
  | provides (base module : String)
  | label (doc : TacticDoc)
  | labels

namespace Host

variable {Memory : Type} (host : Host Memory)

/-- What a host remembers after a query. -/
def after : ImportQuery → Memory → Memory
  | .provides base module, memory => (host.provides base module memory).2
  | .label doc, memory => (host.label doc memory).memory
  | .labels, memory => (host.labeledTacticDocs memory).memory

/-- What a host remembers after some queries, one after another. -/
def afterAll (queries : List ImportQuery) (memory : Memory) : Memory :=
  queries.foldl (fun memory query => host.after query memory) memory

end Host

namespace Dump

/-! ## The label of an entry -/

/-- Whether `module` can be reached from `base` over the imports of a dump, in any number
of steps. -/
def Reaches (dump : Dump) (base module : String) : Prop :=
  Relation.ReflTransGen dump.imports.Edge base module

/-- Whether the last declaration of a name is in a module. -/
def IsDeclaredIn (dump : Dump) (name module : String) : Prop :=
  ∃ before entry after, dump.declarations = before ++ entry :: after ∧ entry.name = name ∧
    (∀ later ∈ after, later.name ≠ name) ∧ entry.module = some module

/-- Whether a base module with a label makes a module available. -/
def Labels (dump : Dump) (module : String) (base : String × String) (label : String) : Prop :=
  base.2 = label ∧ dump.Reaches base.1 module

/-- The label of an entry. -/
inductive IsLabel (dump : Dump) (doc : TacticDoc) : String → Prop
  | provided {declaration module label : String}
      (hdeclaration : doc.declNames.head? = some declaration)
      (hmodule : dump.IsDeclaredIn declaration module)
      (hlabel : IsFirst (dump.Labels module) importPriority label) : IsLabel dump doc label
  | unknown
      (h : ∀ declaration module, doc.declNames.head? = some declaration →
        dump.IsDeclaredIn declaration module → IsSilent (dump.Labels module) importPriority) :
      IsLabel dump doc ""

variable {dump : Dump} {memory : Imports.Memory} {name module : String} {doc : TacticDoc}

theorem isDeclaredIn_iff :
    dump.IsDeclaredIn name module ↔ (dump.find? name).bind Entry.module = some module := by
  rw [Option.bind_eq_some_iff]
  constructor
  · rintro ⟨before, entry, after, hlist, hname, hafter, hmodule⟩
    exact ⟨entry, find?_eq_some_iff.mpr ⟨before, after, hlist, hname, hafter⟩, hmodule⟩
  · rintro ⟨entry, hfind, hmodule⟩
    obtain ⟨before, after, hlist, hname, hafter⟩ := find?_eq_some_iff.mp hfind
    exact ⟨before, entry, after, hlist, hname, hafter, hmodule⟩

/-- A name is declared in one module at most. -/
theorem IsDeclaredIn.unique {other : String} (hmodule : dump.IsDeclaredIn name module)
    (hother : dump.IsDeclaredIn name other) : module = other := by
  rw [isDeclaredIn_iff] at hmodule hother
  exact Option.some.inj (hmodule.symm.trans hother)

theorem labels_unique {base : String × String} {one other : String}
    (hone : dump.Labels module base one) (hother : dump.Labels module base other) :
    one = other :=
  hone.1.symm.trans hother.1

/-- An entry has one label. -/
theorem IsLabel.unique {one other : String} (hone : dump.IsLabel doc one)
    (hother : dump.IsLabel doc other) : one = other := by
  cases hone with
  | provided hdeclaration hmodule hone =>
    cases hother with
    | provided hdeclaration' hmodule' hother =>
      cases hdeclaration.symm.trans hdeclaration'
      cases hmodule.unique hmodule'
      exact hone.unique hother labels_unique
    | unknown h => exact absurd hone (h _ _ hdeclaration hmodule).not_isFirst
  | unknown h =>
    cases hother with
    | provided hdeclaration hmodule hother =>
      exact absurd hother (h _ _ hdeclaration hmodule).not_isFirst
    | unknown => rfl

/-! ## The search for a base module -/

/-- The first base module to reach a module is found, and what is remembered stays right. -/
theorem firstProvider_spec (h : memory.IsRight dump.imports) (module : String)
    (bases : List (String × String)) :
    ∃ label, (dump.host.firstProvider module bases memory).1 = .ok label ∧
      (IsFirst (dump.Labels module) bases label ∨
        label = "" ∧ IsSilent (dump.Labels module) bases) ∧
      (dump.host.firstProvider module bases memory).2.IsRight dump.imports := by
  induction bases generalizing memory with
  | nil => exact ⟨"", rfl, .inr ⟨rfl, isSilent_nil⟩, h⟩
  | cons entry rest ih =>
    obtain ⟨base, label⟩ := entry
    have hanswer := fst_provides h base module
    have hright := isRight_snd_provides h base module
    rw [Host.firstProvider]
    -- the next base module is asked about with what is remembered after this answer
    generalize dump.host.provides base module memory = result at hanswer hright ⊢
    obtain ⟨answer, memory⟩ := result
    cases hanswer
    have hreach : (dump.imports.closure base).contains module = true ↔
        dump.Reaches base module :=
      List.contains_iff_mem.trans Imports.mem_closure_iff
    cases hfound : (dump.imports.closure base).contains module with
    | true =>
      have hlabels : dump.Labels module (base, label) label := ⟨rfl, hreach.mp hfound⟩
      exact ⟨label, rfl, .inl (isFirst_cons_iff.mpr (.inl hlabels)), hright⟩
    | false =>
      have hsilent : ∀ found, ¬ dump.Labels module (base, label) found := by
        rintro found ⟨-, hreaches⟩
        rw [hreach.mpr hreaches] at hfound
        cases hfound
      obtain ⟨found, hfound, hfirst, hright⟩ := ih hright
      refine ⟨found, hfound, ?_, hright⟩
      rcases hfirst with hfirst | ⟨hempty, hrest⟩
      · exact .inl (isFirst_cons_iff.mpr (.inr ⟨hsilent, hfirst⟩))
      · exact .inr ⟨hempty, isSilent_cons_iff.mpr ⟨hsilent, hrest⟩⟩

/-- The answer about an entry is its label, and what is remembered stays right. -/
theorem label_spec (h : memory.IsRight dump.imports) (doc : TacticDoc) :
    ∃ label, (dump.host.label doc memory).answer = .ok label ∧ dump.IsLabel doc label ∧
      (dump.host.label doc memory).memory.IsRight dump.imports := by
  cases hnames : doc.declNames with
  | nil =>
    refine ⟨"", by simp [Host.label, hnames], .unknown ?_, by simpa [Host.label, hnames] using h⟩
    intro declaration module hdeclaration
    simp [hnames] at hdeclaration
  | cons declaration others =>
    have hhead : doc.declNames.head? = some declaration := by rw [hnames]; rfl
    have hmoduleOf : dump.host.moduleOf declaration =
        .ok ((dump.find? declaration).bind Entry.module) := rfl
    simp only [Host.label, hnames, hmoduleOf]
    cases hmodule : (dump.find? declaration).bind Entry.module with
    | none =>
      refine ⟨"", rfl, .unknown ?_, h⟩
      intro declaration' module hdeclaration hdeclared
      cases hhead.symm.trans hdeclaration
      rw [isDeclaredIn_iff, hmodule] at hdeclared
      cases hdeclared
    | some module =>
      have hdeclared : dump.IsDeclaredIn declaration module := isDeclaredIn_iff.mpr hmodule
      obtain ⟨label, hlabel, hfirst, hright⟩ := firstProvider_spec h module importPriority
      refine ⟨label, hlabel, ?_, hright⟩
      rcases hfirst with hfirst | ⟨rfl, hsilent⟩
      · exact .provided hhead hdeclared hfirst
      · refine .unknown ?_
        intro declaration' module' hdeclaration hdeclared'
        cases hhead.symm.trans hdeclaration
        cases hdeclared.unique hdeclared'
        exact hsilent

/-- Every entry of a list gets its label, and what is remembered stays right. -/
theorem labelAll_spec (h : memory.IsRight dump.imports) (docs : List TacticDoc) :
    ∃ labeled, (dump.host.labelAll docs memory).answer = .ok labeled ∧
      List.Forall₂ (fun doc entry => entry.toTacticDoc = doc ∧ dump.IsLabel doc entry.imported)
        docs labeled ∧
      (dump.host.labelAll docs memory).memory.IsRight dump.imports := by
  induction docs generalizing memory with
  | nil => exact ⟨[], rfl, .nil, h⟩
  | cons doc rest ih =>
    obtain ⟨label, hlabel, hisLabel, hright⟩ := label_spec h doc
    rw [Host.labelAll]
    generalize dump.host.label doc memory = result at hlabel hright ⊢
    obtain ⟨answer, notices, memory⟩ := result
    cases hlabel
    obtain ⟨labeled, hlabeled, hall, hright⟩ := ih hright
    refine ⟨{ doc with imported := label } :: labeled, ?_, .cons ⟨rfl, hisLabel⟩ hall, hright⟩
    simp only [hlabeled]
    rfl

/-! ## Labels after a run of queries -/

/-- A query keeps what is remembered right. -/
theorem isRight_after (h : memory.IsRight dump.imports) (query : ImportQuery) :
    (dump.host.after query memory).IsRight dump.imports := by
  cases query with
  | provides base module => exact isRight_snd_provides h base module
  | label doc =>
    obtain ⟨-, -, -, hright⟩ := label_spec h doc
    exact hright
  | labels =>
    obtain ⟨-, -, -, hright⟩ := labelAll_spec h dump.tacticDocs
    exact hright

theorem isRight_afterAll (h : memory.IsRight dump.imports) (queries : List ImportQuery) :
    (dump.host.afterAll queries memory).IsRight dump.imports := by
  induction queries generalizing memory with
  | nil => exact h
  | cons query rest ih => exact ih (isRight_after h query)

/-- **Entries are labeled by reachability, in order of priority.**  After any queries to the
host of a dump, it gives one entry for each entry of the dump, in order, with all fields as
they were; its label is the first of the labels whose base module reaches the module of the
last declaration named first in the entry, or the empty one if there is none.  Names after
the first make no difference to the label. -/
theorem labeledTacticDocs_by_reachability (dump : Dump) (earlier : List ImportQuery) :
    (∃ labeled,
      (dump.host.labeledTacticDocs (dump.host.afterAll earlier {})).answer = .ok labeled ∧
        List.Forall₂ (fun doc entry => entry.toTacticDoc = doc ∧
          ∀ label, entry.imported = label ↔ dump.IsLabel doc label) dump.tacticDocs labeled) ∧
      ∀ doc : TacticDoc,
        (dump.host.label { doc with declNames := doc.declNames.take 1 }
            (dump.host.afterAll earlier {})).answer =
          (dump.host.label doc (dump.host.afterAll earlier {})).answer := by
  have hright : (dump.host.afterAll earlier {}).IsRight dump.imports :=
    isRight_afterAll (Imports.Memory.isRight_nothing dump.imports) earlier
  constructor
  · obtain ⟨labeled, hlabeled, hall, -⟩ := labelAll_spec hright dump.tacticDocs
    refine ⟨labeled, hlabeled, hall.imp ?_⟩
    rintro doc entry ⟨hdoc, hlabel⟩
    refine ⟨hdoc, fun label => ⟨?_, hlabel.unique⟩⟩
    rintro rfl
    exact hlabel
  · intro doc
    cases hnames : doc.declNames with
    | nil => simp [Host.label, hnames]
    | cons declaration others =>
      simp only [Host.label, hnames, List.take_succ_cons, List.take_zero]
      cases dump.host.moduleOf declaration with
      | error failure => rfl
      | ok module? => cases module? <;> rfl

end Dump
end DeclDocs
