import DeclDocs.Command.Options
import DeclDocs.Command.Settings
import DeclDocs.Dump.Load
import DeclDocs.Export.Document
import DeclDocs.Host.OfDump
import DeclDocs.Styled.Shown

/-! # The command

The command loads a dump, builds its document and either prints the document or
writes it to a file.  Nothing is printed or written unless the whole document is
there.  Errors are reported as styled text, so that an error whose wording happens to
be a faulty one is not shown.

What a command does is said once, for any world that has files and places to print to
(`Command.World`, `Command.carryOut`).  One such world is a workspace together with what
has been printed into it (`Command.inWorkspace`); the program does the same on real files.
-/
namespace DeclDocs
namespace Command

/-- How a command ends. -/
inductive Ending where
  | done
  | misused (error : UsageError)
  /-- The dump could not be loaded. -/
  | notLoaded (path : Path) (failure : LoadFailure)
  /-- There is no document. -/
  | notExported (failure : ExportFailure)
  /-- The document could not be written. -/
  | notWritten (path : Path) (error : AccessError)
  /-- There was an error to report, and its report is not shown. -/
  | notShown (fault : Styled.Fault)

/-- The exit code of an ending. -/
def Ending.exitCode : Ending → Nat
  | .done => 0
  | .misused _ => 2
  | _ => 1

/-- What a command complains about: the dump, or that its declarations could not be
enumerated. -/
def Ending.complaint? : Ending → Option String
  | .notLoaded path failure => if failure.isComplaint then some (failure.message path) else none
  | .notExported (.noNames failure) => some (ExportFailure.noNames failure).message
  | _ => none

/-- What a command reports as an error. -/
def Ending.report? (ending : Ending) : Option String :=
  ending.complaint?.map ("error: " ++ ·)

/-- An ending once its report, if there is one, has been shown. -/
def Ending.reported (ending : Ending) : Ending :=
  match ending.report?.map Styled.shown with
  | some (.error fault) => .notShown fault
  | _ => ending

/-- The words with which a command says that it has not ended well. -/
def Ending.words? (ending : Ending) : Option String :=
  match ending.report?.map Styled.shown, ending with
  | some (.ok report), _ => some report
  | some (.error fault), _ | none, .notShown fault => some fault.message
  | none, .misused error => some ("Usage error: " ++ error.message)
  | none, .notLoaded path failure => some (failure.message path)
  | none, .notExported failure => some failure.message
  | none, .notWritten path error => some (error.message path)
  | none, .done => none

/-- The path of the dump that a command is to read. -/
def dumpPath (options : Options) (settings : Settings) : Path :=
  (options.environment.map Path.ofString).getD settings.dump

/-- The encoding that a command is to write. -/
def encoding (options : Options) : Layout.Encoding :=
  if options.plainText then .plain else .arrays

/-- How deeply arrays and objects may be nested in what a runtime reads, and in what it
writes at one go. -/
structure Runtime where
  reading : Nat
  writing : NestingLimit

/-- A runtime that nobody has set otherwise. -/
def Runtime.usual : Runtime := ⟨NestingLimit.usual.levels, .usual⟩

/-- The text of the document for a dump that is already open, or how the command
ends without one, with the notices on the way. -/
def prepare (runtime : Runtime) (options : Options) (path : Path)
    (content : Except AccessError (List UInt8)) : Except Ending String × List Notice :=
  match Dump.load runtime.reading content with
  | .error failure => (.error (Ending.notLoaded path failure).reported, [])
  | .ok dump =>
    let loaded := dump.loadedNotice path
    match dump.host.document {} with
    | .error failure => (.error (Ending.notExported failure).reported, [loaded])
    | .ok (document, notices) =>
      let (text, dropped) := document.render runtime.writing (encoding options)
      (.ok text, loaded :: notices ++ dropped)

/-- The notice that a document has been written. -/
def wroteNotice (path : Path) : Notice :=
  ⟨.info, "Wrote export to " ++ path.text⟩

/-- Whether a notice is shown.  Only verbose commands show the least important ones. -/
def shows (options : Options) (notice : Notice) : Bool :=
  options.verbose || notice.level != .debug

/-! ## In any world -/

/-- What a command needs of the world around it: files, a place for documents, one for
notices, and one for complaints. -/
structure World (m : Type → Type) where
  read : Path → m (Except AccessError (List UInt8))
  write : Path → List UInt8 → m (Except AccessError Unit)
  print : String → m Unit
  notify : Notice → m Unit
  complain : String → m Unit

section AnyWorld
variable {m : Type → Type} [Monad m] (world : World m)

/-- Notifies the world of what a command with some options shows of some notices. -/
def notifyAll (options : Options) (notices : List Notice) : m Unit :=
  (notices.filter (shows options)).forM world.notify

/-- Prints a text, or writes it to the output file. -/
def deliver (options : Options) (settings : Settings) (text : String) : m Ending := do
  if options.toFile then
    match ← world.write settings.output text.toUTF8.toList with
    | .error error => return .notWritten settings.output error
    | .ok () =>
      notifyAll world options [wroteNotice settings.output]
      return .done
  else
    world.print (text ++ "\n")
    return .done

/-- Carries out a command with options. -/
def attemptWith (runtime : Runtime) (options : Options) (settings : Settings) : m Ending := do
  let path := dumpPath options settings
  let (prepared, notices) := prepare runtime options path (← world.read path)
  notifyAll world options notices
  match prepared with
  | .error ending => return ending
  | .ok text => deliver world options settings text

/-- Carries out a command with arguments. -/
def attempt (runtime : Runtime) (arguments : List String) (settings : Settings) : m Ending :=
  match Options.parse arguments with
  | .error error => return .misused error
  | .ok options => attemptWith world runtime options settings

/-- Carries out a command with arguments, and complains if it does not end well. -/
def carryOut (runtime : Runtime) (arguments : List String) (settings : Settings) : m Ending := do
  let ending ← attempt world runtime arguments settings
  ending.words?.forM world.complain
  return ending

end AnyWorld

/-! ## In a workspace -/

/-- A workspace with what has been printed, shown and complained of around it. -/
structure Scene where
  workspace : Workspace
  printed : String := ""
  notices : List Notice := []
  complaints : List String := []

/-- A workspace as a world. -/
def inWorkspace : World (StateM Scene) where
  read path scene := (scene.workspace.read path, scene)
  write path content scene :=
    match scene.workspace.write path content with
    | .error error => (.error error, scene)
    | .ok after => (.ok (), { scene with workspace := after })
  print text := modify fun scene => { scene with printed := scene.printed ++ text }
  notify notice := modify fun scene => { scene with notices := scene.notices ++ [notice] }
  complain words := modify fun scene => { scene with complaints := scene.complaints ++ [words] }

/-- How a command ends, with the scene that it leaves behind. -/
structure Outcome extends Scene where
  ending : Ending

/-- Runs a command with arguments and settings in a workspace. -/
def run (runtime : Runtime) (arguments : List String) (settings : Settings)
    (workspace : Workspace) : Outcome :=
  let (ending, scene) := (carryOut inWorkspace runtime arguments settings).run { workspace }
  { scene with ending }

end Command
end DeclDocs
