import DeclDocs.Command.Run

/-! # The program

Carries out the command (`Command.carryOut`) on real files: notices and errors go to
standard error, the document to standard output or to a file.
-/
namespace DeclDocs
namespace Program

/-- Why opening a real file failed.  Of the system's codes, which come with either
sign, 20 says that something on the way to the file is no directory, and 36 that a
name is too long. -/
def accessError : IO.Error → AccessError
  | .noFileOrDirectory .. => .notFound
  | .inappropriateType _ code _ =>
    if code = 20 || code = 0 - 20 then .notDirectory else .isDirectory
  | .invalidArgument path code details =>
    if code = 36 || code = 0 - 36 then .nameTooLong
    else .other (toString (IO.Error.invalidArgument path code details))
  | error => .other (toString error)

/-- Does something with a real file, or says why the file could not be opened. -/
def onFile {α : Type} (action : IO α) : IO (Except AccessError α) := do
  try
    return .ok (← action)
  catch error => return .error (accessError error)

/-- The real world. -/
def realWorld : Command.World IO where
  read path := onFile do
    return (← IO.FS.readBinFile path.text).toList
  write path content := onFile (IO.FS.writeBinFile path.text ⟨content.toArray⟩)
  print := IO.print
  notify notice := IO.eprintln (notice.level.word ++ " " ++ notice.message)
  complain := IO.eprintln

end Program
end DeclDocs

/-- The program: options from the command line, settings from the environment. -/
def main (arguments : List String) : IO UInt32 := do
  let dump ← IO.getEnv DeclDocs.Settings.dumpVariable
  let output ← IO.getEnv DeclDocs.Settings.outputVariable
  let ending ← DeclDocs.Command.carryOut DeclDocs.Program.realWorld .usual arguments
    (.ofVariables dump output)
  return ending.exitCode.toUInt32
