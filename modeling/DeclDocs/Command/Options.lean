/-! # Options

The command takes options only.  The dump may be given as `--environment PATH`,
`--environment=PATH`, `-e PATH` or `-ePATH`, and the last one counts; the argument
after `--environment` or `-e` is its value whatever it looks like.  The value that
counts must be a path, which never holds the null character.  The other options are
flags.  `--` ends the options.
-/
namespace DeclDocs

/-- What the options of a command ask for. -/
structure Options where
  environment : Option String := none
  toFile : Bool := false
  plainText : Bool := false
  verbose : Bool := false
  deriving DecidableEq, Repr

/-- How a command may be misused. -/
inductive UsageError where
  | missingValue (option : String)
  | unknownOption (option : String)
  | unexpectedArgument (argument : String)
  | noPath (option : String)
  deriving DecidableEq, Repr

/-- The wording of a usage error. -/
def UsageError.message : UsageError → String
  | .missingValue option => "Option '" ++ option ++ "' requires an argument."
  | .unknownOption option => "No such option: " ++ option
  | .unexpectedArgument argument => "Got unexpected extra argument (" ++ argument ++ ")"
  | .noPath option => "Invalid value for '" ++ option ++ "': embedded null byte"

namespace Options

/-- The rest of a text after another one that it begins with. -/
def after? (beginning text : String) : Option String :=
  if beginning.toList.isPrefixOf text.toList then
    some (String.ofList (text.toList.drop beginning.length))
  else none

/-- The value that an argument attaches to the option for the dump. -/
def attached? (argument : String) : Option String :=
  match after? "--environment=" argument with
  | some value => some value
  | none => after? "-e" argument

/-- Reads arguments on top of the options read so far. -/
def read (options : Options) : List String → Except UsageError Options
  | [] => .ok options
  | "--" :: [] => .ok options
  | "--" :: argument :: _ => .error (.unexpectedArgument argument)
  | "--to-file" :: rest => read { options with toFile := true } rest
  | "--plain-text" :: rest => read { options with plainText := true } rest
  | "--verbose" :: rest => read { options with verbose := true } rest
  | "--environment" :: value :: rest => read { options with environment := some value } rest
  | "-e" :: value :: rest => read { options with environment := some value } rest
  | "--environment" :: [] => .error (.missingValue "--environment")
  | "-e" :: [] => .error (.missingValue "-e")
  | argument :: rest =>
    match attached? argument with
    | some value => read { options with environment := some value } rest
    | none =>
      if argument.toList.head? = some '-' && argument.length ≠ 1 then
        .error (.unknownOption argument)
      else .error (.unexpectedArgument argument)

/-- Whether the path of the dump, if there is one, holds the null character. -/
def hasNull (options : Options) : Bool :=
  options.environment.any fun path => path.toList.contains '\x00'

/-- The options that some arguments give. -/
def parse (arguments : List String) : Except UsageError Options := do
  let options ← read {} arguments
  if options.hasNull then throw (.noPath "--environment") else return options

end Options
end DeclDocs
