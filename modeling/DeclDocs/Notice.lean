/-! # Notices

What happens on the way is reported in notices, which go to a log and never into
a document.
-/
namespace DeclDocs

/-- How important a notice is. -/
inductive Level where
  | debug
  | info
  | warning
  deriving DecidableEq, Repr

/-- The word for a level. -/
def Level.word : Level → String
  | .debug => "DEBUG"
  | .info => "INFO"
  | .warning => "WARNING"

/-- A message of some importance. -/
structure Notice where
  level : Level
  message : String
  deriving DecidableEq, Repr

end DeclDocs
