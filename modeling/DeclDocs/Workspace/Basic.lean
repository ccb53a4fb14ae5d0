import DeclDocs.Text.Literal
import DeclDocs.Workspace.Path

/-! # Workspaces

A workspace is a tree of directories and files, and the place in it where a command
runs: its home.  Every path leads somewhere in the tree, from the home or from the
root, and whatever can be opened for reading can be opened for writing.
-/
namespace DeclDocs

/-- Why a file could not be opened.  A path that holds the null character is no
path at all. -/
inductive AccessError where
  | notFound
  | notDirectory
  | isDirectory
  | nameTooLong
  | nullCharacter
  | other (reason : String)
  deriving DecidableEq, Repr

/-- The wording of why the file at a path could not be opened. -/
def AccessError.message (path : Path) : AccessError → String
  | .notFound => "[Errno 2] No such file or directory: " ++ Text.quote path.text
  | .notDirectory => "[Errno 20] Not a directory: " ++ Text.quote path.text
  | .isDirectory => "[Errno 21] Is a directory: " ++ Text.quote path.text
  | .nameTooLong => "[Errno 36] File name too long: " ++ Text.quote path.text
  | .nullCharacter => "embedded null byte"
  | .other reason => reason

/-- The directories and files of a tree by their parts from its root, and the
directory in which a command runs. -/
structure Workspace where
  directories : List (List String) := []
  files : List (List String × List UInt8) := []
  home : List String := []
  deriving DecidableEq, Repr

namespace Workspace

/-- What a path leads to. -/
inductive Target where
  | directory
  | file (parts : List String) (content : List UInt8)
  | free (parts : List String)
  deriving DecidableEq, Repr

/-- The content of a file. -/
def file? (workspace : Workspace) (parts : List String) : Option (List UInt8) :=
  (workspace.files.find? (·.1 == parts)).map (·.2)

/-- Whether there is a directory: one on the way to the home, one that is listed,
or one on the way to something that is. -/
def isDirectory (workspace : Workspace) (parts : List String) : Bool :=
  parts.isPrefixOf workspace.home || workspace.directories.any (parts.isPrefixOf ·) ||
    workspace.files.any fun (file, _) => parts != file && parts.isPrefixOf file

/-- What a path leads to from a place that is no directory, with the parts that are
still to come. -/
def arrive (workspace : Workspace) (here : List String) : List String → Except AccessError Target
  | [] =>
    match workspace.file? here with
    | some content => .ok (.file here content)
    | none => .ok (.free here)
  | _ :: _ => .error (if (workspace.file? here).isSome then .notDirectory else .notFound)

/-- Follows the parts of a path from a directory.  The root is its own parent.  The
length of a part matters only where the walk comes to it. -/
def follow (workspace : Workspace) : List String → List String → Except AccessError Target
  | _, [] => .ok .directory
  | directory, ".." :: rest => workspace.follow directory.dropLast rest
  | directory, part :: rest =>
    let here := directory ++ [part]
    if Path.partLimit < part.utf8ByteSize then .error .nameTooLong
    else if workspace.isDirectory here then workspace.follow here rest
    else workspace.arrive here rest

/-- Where the walk along a path begins: at the root if the path begins with a slash,
and otherwise at the home. -/
def start (workspace : Workspace) (path : Path) : List String :=
  if path.slashes = 0 then workspace.home else []

/-- What a path leads to. -/
def locate (workspace : Workspace) (path : Path) : Except AccessError Target :=
  if path.hasNull then .error .nullCharacter
  else if Path.limit < path.text.utf8ByteSize then .error .nameTooLong
  else workspace.follow (workspace.start path) path.parts

/-- The content of the file at a path. -/
def read (workspace : Workspace) (path : Path) : Except AccessError (List UInt8) := do
  match ← workspace.locate path with
  | .directory => throw .isDirectory
  | .file _ content => return content
  | .free _ => throw .notFound

/-- Puts a file in the place of an old one, or among the others. -/
def put (parts : List String) (content : List UInt8) :
    List (List String × List UInt8) → List (List String × List UInt8)
  | [] => [(parts, content)]
  | (file, old) :: rest =>
    if file = parts then (parts, content) :: rest else (file, old) :: put parts content rest

/-- The workspace with a file in a place. -/
def placing (workspace : Workspace) (parts : List String) (content : List UInt8) : Workspace :=
  { workspace with files := put parts content workspace.files }

/-- The workspace after writing a file at a path. -/
def write (workspace : Workspace) (path : Path) (content : List UInt8) :
    Except AccessError Workspace := do
  match ← workspace.locate path with
  | .directory => throw .isDirectory
  | .file parts _ | .free parts => return workspace.placing parts content

end Workspace
end DeclDocs
