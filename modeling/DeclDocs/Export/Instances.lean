import DeclDocs.Document.Basic
import DeclDocs.Host.Basic
import DeclDocs.Notice

/-! # Instances

The records that carry the attribute `instance` are listed under the class they
implement.  A record whose class cannot be found out is left off the list.
-/
namespace DeclDocs
namespace Host

variable {Memory : Type} (host : Host Memory)

/-- The notice that the class of an instance cannot be found out. -/
def noClassNotice (name reason : String) : Notice :=
  ⟨.warning, "Could not find class of instance " ++ name ++ ": " ++ reason⟩

/-- The class that a record is listed under, and the notices on the way. -/
def classOf (record : Declaration Empty) : Option String × List Notice :=
  if record.attributes.contains "instance" then
    match host.instanceClass record.name with
    | .error failure => (none, [noClassNotice record.name failure.message])
    | .ok none => (none, [])
    | .ok (some name) => (if name = "" then none else some name, [])
  else (none, [])

/-- Lists records under their classes, after those listed already. -/
def listInstances (listed : Grouped String) :
    List (Declaration Empty) → Grouped String × List Notice
  | [] => (listed, [])
  | record :: rest =>
    let (name?, notices) := host.classOf record
    let listed := match name? with
      | some name => listed.add name record.name
      | none => listed
    let (instances, more) := listInstances listed rest
    (instances, notices ++ more)

/-- The instances of each class among some records, and the notices on the way. -/
def instances (records : List (Declaration Empty)) : Grouped String × List Notice :=
  host.listInstances [] records

end Host
end DeclDocs
