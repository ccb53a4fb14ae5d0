import DeclDocs.Host.Basic
import DeclDocs.Notice

/-! # Where tactics become available

A documentation entry is labeled with the first of some base modules that makes
the entry's first declaration available.
-/
namespace DeclDocs

/-- The base modules, in the order in which they are tried, with their labels. -/
def importPriority : List (String × String) :=
  [("init", "always imported"), ("tactic.core", "tactic.core"), ("tactic.default", "tactic")]

namespace Host

variable {Memory : Type} (host : Host Memory)

/-- The label of the first base module that makes `module` available, or the
empty text if none does. -/
def firstProvider (module : String) :
    List (String × String) → Memory → Except Failure String × Memory
  | [], memory => (.ok "", memory)
  | (base, label) :: rest, memory =>
    match host.provides base module memory with
    | (.error failure, memory) => (.error failure, memory)
    | (.ok true, memory) => (.ok label, memory)
    | (.ok false, memory) => firstProvider module rest memory

/-- The notice that no module is known for the declaration of an entry. -/
def noModuleNotice (declaration : String) (doc : TacticDoc) : Notice :=
  ⟨.debug, "No module known for " ++ declaration ++ " (" ++ doc.name ++ ")"⟩

/-- What the host has to say about one entry: an answer or a failure, the notices
on the way, and what is remembered. -/
structure Labeling (Memory α : Type) where
  answer : Except Failure α
  notices : List Notice
  memory : Memory

/-- The label of an entry. -/
def label (doc : TacticDoc) (memory : Memory) : Labeling Memory String :=
  match doc.declNames with
  | [] => ⟨.ok "", [], memory⟩
  | declaration :: _ =>
    match host.moduleOf declaration with
    | .error failure => ⟨.error failure, [], memory⟩
    | .ok none => ⟨.ok "", [noModuleNotice declaration doc], memory⟩
    | .ok (some module) =>
      let (answer, memory) := host.firstProvider module importPriority memory
      ⟨answer, [], memory⟩

/-- Some entries with their labels, in order. -/
def labelAll : List TacticDoc → Memory → Labeling Memory (List LabeledTacticDoc)
  | [], memory => ⟨.ok [], [], memory⟩
  | doc :: rest, memory =>
    match host.label doc memory with
    | ⟨.error failure, notices, memory⟩ => ⟨.error failure, notices, memory⟩
    | ⟨.ok imported, notices, memory⟩ =>
      let others := labelAll rest memory
      ⟨others.answer.map ({ doc with imported } :: ·), notices ++ others.notices, others.memory⟩

/-- All documentation entries of the host with their labels. -/
def labeledTacticDocs (memory : Memory) : Labeling Memory (List LabeledTacticDoc) :=
  match host.tacticDocs with
  | .error failure => ⟨.error failure, [], memory⟩
  | .ok docs => host.labelAll docs memory

end Host
end DeclDocs
