import DeclDocs.Checked.Report
import DeclDocs.Document.Text
import DeclDocs.Dump.Basic
import DeclDocs.Json.Reader
import DeclDocs.Text.Lines
import DeclDocs.Text.Utf8
import DeclDocs.Workspace.Basic

/-! # Loading a dump

A dump is a file of UTF-8 text that holds one JSON value, read with a limit on
how deeply it nests and on the length of its integers.  Most failures are
complaints about the file or about what it holds.  The others, a path that is no
path and a text past the limits, break the loading off.
-/
namespace DeclDocs

/-- Why a dump was not loaded. -/
inductive LoadFailure where
  | access (error : AccessError)
  | notUtf8 (fault : Utf8.Fault)
  | notJson (complaint : Json.Complaint) (place : Json.Place)
  /-- The value is not a dump: it has some issues. -/
  | invalid (value : Json) (issues : List Issue)
  | tooDeep
  | tooManyDigits (digits : Nat)

namespace LoadFailure

/-- Whether a failure is a complaint about the file or what it holds. -/
def isComplaint : LoadFailure → Bool
  | .access .nullCharacter | .tooDeep | .tooManyDigits _ => false
  | _ => true

end LoadFailure

/-- A complaint about a text, with its place. -/
def Json.Complaint.textAt (complaint : Json.Complaint) (place : Json.Place) : String :=
  complaint.message ++ ": line " ++ toString place.line ++ " column " ++ toString place.column ++
    " (char " ++ toString place.offset ++ ")"

/-- The words for an integer beyond the limit. -/
def tooManyDigitsMessage (digits : Nat) : String :=
  "Exceeds the limit (" ++ toString Decimal.digitLimit ++
    " digits) for integer string conversion: value has " ++ toString digits ++
    " digits; use sys.set_int_max_str_digits() to increase the limit"

/-- The reason why a dump at a path was not loaded. -/
def LoadFailure.reason (path : Path) : LoadFailure → String
  | .access error => error.message path
  | .notUtf8 fault => fault.message
  | .notJson complaint place => complaint.textAt place
  | .invalid value issues => Checked.report Dump.recordName value issues
  | .tooDeep => tooDeepMessage
  | .tooManyDigits digits => tooManyDigitsMessage digits

/-- The wording of why a dump at a path was not loaded. -/
def LoadFailure.message (path : Path) (failure : LoadFailure) : String :=
  if failure.isComplaint then
    "Could not load environment dump " ++ path.text ++ ": " ++ failure.reason path
  else failure.reason path

namespace Dump

/-- The limits within which a dump is read by a runtime that reads so many levels. -/
def readingLimits (nesting : Nat) : Json.Limits := ⟨nesting, Decimal.digitLimit⟩

/-- Reads a dump from the bytes of a file. -/
def ofBytes (nesting : Nat) (bytes : List UInt8) : Except LoadFailure Dump := do
  let characters ← (Utf8.decode bytes).mapError .notUtf8
  match Json.parse (readingLimits nesting) (String.ofList (Text.uniformLines characters)) with
  | .error .tooDeep => throw .tooDeep
  | .error (.tooManyDigits digits) => throw (.tooManyDigits digits)
  | .error (.malformed complaint place) => throw (.notJson complaint place)
  | .ok json =>
    match check json with
    | .valid dump => return dump
    | .invalid issues => throw (.invalid json issues)

/-- Reads a dump from what opening its file gave. -/
def load (nesting : Nat) (content : Except AccessError (List UInt8)) :
    Except LoadFailure Dump := do
  ofBytes nesting (← content.mapError .access)

/-- The notice that a dump has been loaded. -/
def loadedNotice (path : Path) (dump : Dump) : Notice :=
  ⟨.info, "Loaded " ++ toString dump.declarations.length ++
    " declarations from environment dump " ++ path.text⟩

end Dump
end DeclDocs
