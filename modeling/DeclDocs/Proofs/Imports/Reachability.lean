import Mathlib.Logic.Function.Iterate
import Mathlib.Logic.Relation
import DeclDocs.Host.OfDump

/-! # Import queries are about reachability

A module makes available what can be reached from it in the import graph, and the search
finds just that, on any graph.  Its invariant (`Imports.Search.Sound`) joins the modules seen,
the modules pending and the edges: whatever has been seen can be reached, and the imports of
whatever is no longer pending have been seen.  Every round keeps the invariant
(`Imports.Search.Sound.step`) and lowers the weight of the search, so that after as many rounds
as the graph has mentions of modules, and one more, nothing is pending
(`Imports.Search.iterate_step`).

Remembered closures are those that a new search would find (`Imports.Memory.IsRight`).  So
earlier queries make no difference to an answer (`Dump.provides_iff_reachable`).
-/
namespace DeclDocs
namespace Imports

/-- An edge of the import graph: `source` imports `target` directly. -/
def Edge (imports : Imports) (source target : String) : Prop :=
  target ∈ imports.direct source

namespace Search

variable {imports : Imports} {base : String} {search : Search}

/-! ## One round -/

theorem mem_seen_enqueue {module m : String} :
    m ∈ (search.enqueue module).seen ↔ m = module ∨ m ∈ search.seen := by
  unfold enqueue
  split
  next hseen =>
    constructor
    · exact .inr
    · rintro (rfl | hm)
      · exact hseen
      · exact hm
  next => exact List.mem_cons

theorem mem_pending_enqueue {module m : String} :
    m ∈ (search.enqueue module).pending ↔
      m ∈ search.pending ∨ (m = module ∧ m ∉ search.seen) := by
  unfold enqueue
  split
  next hseen =>
    constructor
    · exact .inl
    · rintro (hm | ⟨rfl, hnew⟩)
      · exact hm
      · exact absurd hseen hnew
  next hnew =>
    rw [List.mem_cons, or_comm]
    refine or_congr_right ⟨?_, And.left⟩
    rintro rfl
    exact ⟨rfl, hnew⟩

theorem mem_seen_scan {modules : List String} {m : String} :
    m ∈ (search.scan modules).seen ↔ m ∈ search.seen ∨ m ∈ modules := by
  induction modules generalizing search with
  | nil => simp [scan]
  | cons module rest ih =>
    show m ∈ ((search.enqueue module).scan rest).seen ↔ _
    rw [ih, mem_seen_enqueue, List.mem_cons, or_assoc, or_left_comm]

theorem mem_pending_scan {modules : List String} {m : String} :
    m ∈ (search.scan modules).pending ↔
      m ∈ search.pending ∨ (m ∈ modules ∧ m ∉ search.seen) := by
  induction modules generalizing search with
  | nil => simp [scan]
  | cons module rest ih =>
    show m ∈ ((search.enqueue module).scan rest).pending ↔ _
    rw [ih, mem_pending_enqueue, mem_seen_enqueue, List.mem_cons]
    by_cases hm : m = module <;> simp [hm]

/-- One round: the first pending module is taken off the list, and those of its imports that
had not been seen are put on it. -/
def step (imports : Imports) (search : Search) : Search :=
  match search.pending with
  | [] => search
  | module :: pending => scan ⟨search.seen, pending⟩ (imports.direct module)

theorem step_of_pending_nil (h : search.pending = []) : search.step imports = search := by
  rw [step, h]

theorem weight_step_lt (h : search.pending ≠ []) :
    weight imports (search.step imports) < weight imports search := by
  obtain ⟨seen, pending⟩ := search
  cases pending with
  | nil => exact absurd rfl h
  | cons module pending =>
    have hscan : weight imports (scan ⟨seen, pending⟩ (imports.direct module)) ≤
        weight imports ⟨seen, pending⟩ :=
      weight_scan_le _ _ fun m hm => mem_mentioned_of_mem_direct hm
    refine Nat.lt_of_le_of_lt hscan ?_
    simp [weight]

theorem run_step : run imports (search.step imports) = run imports search := by
  obtain ⟨seen, pending⟩ := search
  cases pending with
  | nil => rfl
  | cons module pending =>
    have hrun : run imports ⟨seen, module :: pending⟩ =
        run imports (scan ⟨seen, pending⟩ (imports.direct module)) := by
      rw [run]
    rw [hrun]
    rfl

/-- **The search ends.**  After as many rounds as the weight of the search nothing is
pending. -/
theorem iterate_step {rounds : Nat} (h : weight imports search ≤ rounds) :
    (step imports)^[rounds] search = ⟨run imports search, []⟩ := by
  induction rounds generalizing search with
  | zero =>
    obtain ⟨seen, pending⟩ := search
    have hpending : pending = [] := by
      rw [weight] at h
      exact List.length_eq_zero_iff.mp (by simp only at h; omega)
    subst hpending
    rw [run]
    rfl
  | succ rounds ih =>
    rw [Function.iterate_succ_apply]
    by_cases hpending : search.pending = []
    · rw [step_of_pending_nil hpending]
      obtain ⟨seen, pending⟩ := search
      cases hpending
      rw [Function.iterate_fixed (step_of_pending_nil rfl), run]
    · have hlt : weight imports (search.step imports) < weight imports search :=
        weight_step_lt hpending
      rw [ih (by omega), run_step]

/-- Three modules in a circle, of which one is imported twice, and one that is not listed. -/
example :
    let imports : Imports := [("a", ["b"]), ("b", ["c", "b", "c"]), ("c", ["a", "d"])]
    ((step imports)^[4] ⟨["b"], ["b"]⟩).seen = ["d", "a", "c", "b"] ∧
      ((step imports)^[4] ⟨["b"], ["b"]⟩).pending = [] := by
  decide +kernel

/-! ## What a search has found -/

/-- **The invariant of a search.**  It joins the modules seen, the modules pending and the
edges of the graph. -/
structure Sound (imports : Imports) (base : String) (search : Search) : Prop where
  base_mem : base ∈ search.seen
  mem_of_pending : ∀ m ∈ search.pending, m ∈ search.seen
  reached : ∀ m ∈ search.seen, Relation.ReflTransGen imports.Edge base m
  closed : ∀ m ∈ search.seen, m ∉ search.pending → ∀ target, imports.Edge m target →
    target ∈ search.seen

theorem sound_start (imports : Imports) (base : String) :
    Sound imports base ⟨[base], [base]⟩ where
  base_mem := List.mem_singleton_self base
  mem_of_pending _ hm := hm
  reached m hm := by
    rw [List.mem_singleton.mp hm]
  closed m hm hnot := absurd hm hnot

/-- A round keeps the invariant. -/
theorem Sound.step (h : Sound imports base search) :
    Sound imports base (search.step imports) := by
  obtain ⟨seen, pending⟩ := search
  cases pending with
  | nil => exact h
  | cons module pending =>
    have hmodule : module ∈ seen := h.mem_of_pending module List.mem_cons_self
    show Sound imports base (scan ⟨seen, pending⟩ (imports.direct module))
    constructor
    case base_mem => exact mem_seen_scan.mpr (.inl h.base_mem)
    case mem_of_pending =>
      intro m hm
      rw [mem_seen_scan]
      rcases mem_pending_scan.mp hm with hm | ⟨hm, -⟩
      · exact .inl (h.mem_of_pending m (List.mem_cons_of_mem module hm))
      · exact .inr hm
    case reached =>
      intro m hm
      rcases mem_seen_scan.mp hm with hm | hm
      · exact h.reached m hm
      · exact (h.reached module hmodule).tail hm
    case closed =>
      intro m hm hnot target htarget
      rw [mem_pending_scan, not_or] at hnot
      obtain ⟨hpending, hnew⟩ := hnot
      rw [mem_seen_scan]
      -- the module of this round has just been dealt with, any other one earlier
      by_cases hthis : m = module
      · subst hthis
        exact .inr htarget
      · have hold : m ∈ seen := by
          rcases mem_seen_scan.mp hm with hold | hdirect
          · exact hold
          · exact Classical.not_not.mp fun hunseen => hnew ⟨hdirect, hunseen⟩
        refine .inl (h.closed m hold ?_ target htarget)
        rw [List.mem_cons, not_or]
        exact ⟨hthis, hpending⟩

theorem Sound.iterate (h : Sound imports base search) (rounds : Nat) :
    Sound imports base ((Search.step imports)^[rounds] search) := by
  induction rounds generalizing search with
  | zero => exact h
  | succ rounds ih =>
    rw [Function.iterate_succ_apply]
    exact ih h.step

/-- When nothing is pending, just the modules that can be reached have been seen. -/
theorem Sound.mem_seen_iff {seen : List String} (h : Sound imports base ⟨seen, []⟩)
    {module : String} : module ∈ seen ↔ Relation.ReflTransGen imports.Edge base module := by
  refine ⟨h.reached module, fun hreach => ?_⟩
  induction hreach with
  | refl => exact h.base_mem
  | tail _ hedge ih => exact h.closed _ ih List.not_mem_nil _ hedge

end Search

variable {imports : Imports} {base module : String} {memory : Memory}

theorem mem_closure_iff :
    module ∈ imports.closure base ↔ Relation.ReflTransGen imports.Edge base module := by
  have hsound : Search.Sound imports base ⟨imports.closure base, []⟩ := by
    rw [closure, ← Search.iterate_step (Nat.le_refl _)]
    exact (Search.sound_start imports base).iterate _
  exact hsound.mem_seen_iff

/-- A search takes one round for each mention of a module and one more, at most. -/
theorem exists_rounds (imports : Imports) (base : String) :
    ∃ rounds ≤ imports.mentioned.length + 1,
      (Search.step imports)^[rounds] ⟨[base], [base]⟩ = ⟨imports.closure base, []⟩ := by
  refine ⟨Search.weight imports ⟨[base], [base]⟩, ?_, Search.iterate_step (Nat.le_refl _)⟩
  exact Nat.succ_le_succ (List.length_filter_le _ _)

/-! ## What is remembered -/

/-- Every closure remembered is the one that a new search would find. -/
def Memory.IsRight (imports : Imports) (memory : Memory) : Prop :=
  ∀ entry ∈ memory.closures, entry.2 = imports.closure entry.1

theorem Memory.isRight_nothing (imports : Imports) : Memory.IsRight imports {} := by
  simp [IsRight]

theorem knownClosure_eq (h : memory.IsRight imports) :
    (imports.knownClosure base memory).1 = imports.closure base ∧
      (imports.knownClosure base memory).2.IsRight imports := by
  unfold knownClosure
  split
  next entry known hfound =>
    have hbase : entry = base := by simpa using List.find?_some hfound
    have hknown : known = imports.closure entry := h _ (List.mem_of_find?_eq_some hfound)
    exact ⟨hbase ▸ hknown, h⟩
  next =>
    refine ⟨rfl, ?_⟩
    intro entry hentry
    rcases List.mem_cons.mp hentry with rfl | hentry
    · rfl
    · exact h entry hentry

/-- The answer to a query is the same whatever is remembered, if it is right, and what is
remembered stays right. -/
theorem provides_eq (h : memory.IsRight imports) :
    (imports.provides base module memory).1 = (imports.closure base).contains module ∧
      (imports.provides base module memory).2.IsRight imports := by
  have hknown : (imports.knownClosure base memory).1 = imports.closure base ∧
      (imports.knownClosure base memory).2.IsRight imports := knownClosure_eq h
  rw [provides]
  exact ⟨congrArg (List.contains · module) hknown.1, hknown.2⟩

end Imports

/-- The answers of a host to some queries about imports, one after another, and what it
remembers afterwards. -/
def Host.providesAll {Memory : Type} (host : Host Memory) :
    List (String × String) → Memory → List (Except Failure Bool) × Memory
  | [], memory => ([], memory)
  | query :: rest, memory =>
    let (answer, memory) := host.provides query.1 query.2 memory
    let (answers, memory) := host.providesAll rest memory
    (answer :: answers, memory)

namespace Dump

variable {dump : Dump} {memory : Imports.Memory}

theorem fst_provides (h : memory.IsRight dump.imports) (base module : String) :
    (dump.host.provides base module memory).1 = .ok ((dump.imports.closure base).contains module) :=
  congrArg Except.ok (Imports.provides_eq h).1

theorem isRight_snd_provides (h : memory.IsRight dump.imports) (base module : String) :
    (dump.host.provides base module memory).2.IsRight dump.imports := by
  show (dump.imports.provides base module memory).2.IsRight dump.imports
  exact (Imports.provides_eq h).2

/-- A run of queries is answered like single queries to a host that remembers nothing. -/
theorem providesAll_eq (h : memory.IsRight dump.imports) (queries : List (String × String)) :
    (dump.host.providesAll queries memory).1 =
        queries.map (fun query => (dump.host.provides query.1 query.2 {}).1) ∧
      (dump.host.providesAll queries memory).2.IsRight dump.imports := by
  induction queries generalizing memory with
  | nil => exact ⟨rfl, h⟩
  | cons query rest ih =>
    obtain ⟨hanswers, hright⟩ := ih (isRight_snd_provides h query.1 query.2)
    refine ⟨?_, hright⟩
    rw [List.map_cons, ← hanswers, fst_provides (Imports.Memory.isRight_nothing dump.imports),
      ← fst_provides h]
    rfl

/-- **Import queries compute reachability, whatever was asked before.**  After any queries to
the host of a dump, importing `base` is said to make `module` available if and only if the two
are one or a path of one or more import edges leads from `base` to `module`.  The earlier
queries themselves have been answered as if each had been the first.  The search behind an
answer ends on any import graph, cycles included: nothing is pending after at most as many
rounds as modules are mentioned as imports, and one more. -/
theorem provides_iff_reachable (dump : Dump) (earlier : List (String × String)) :
    (∀ base module, ∃ answer,
      (dump.host.provides base module (dump.host.providesAll earlier {}).2).1 = .ok answer ∧
        (answer = true ↔ module = base ∨ Relation.TransGen dump.imports.Edge base module)) ∧
      (dump.host.providesAll earlier {}).1 =
        earlier.map (fun query => (dump.host.provides query.1 query.2 {}).1) ∧
      ∀ base, ∃ rounds ≤ dump.imports.mentioned.length + 1,
        (Imports.Search.step dump.imports)^[rounds] ⟨[base], [base]⟩ =
          ⟨dump.imports.closure base, []⟩ := by
  obtain ⟨hanswers, hright⟩ :=
    providesAll_eq (Imports.Memory.isRight_nothing dump.imports) earlier
  refine ⟨fun base module => ⟨_, fst_provides hright base module, ?_⟩, hanswers,
    Imports.exists_rounds dump.imports⟩
  rw [List.contains_iff_mem, Imports.mem_closure_iff, Relation.reflTransGen_iff_eq_or_transGen]

end Dump
end DeclDocs
