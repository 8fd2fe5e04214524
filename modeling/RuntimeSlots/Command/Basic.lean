import RuntimeSlots.Command.Help
import RuntimeSlots.Slot

/-!
# Commands of the tool

What the tool can be asked to do, the options it knows, and why arguments may be refused.

* `CommandLine` is a request that was understood.
* `Refusal` is a reason to end without doing anything: a request for help or for the version, or
  a mistake in the arguments.
-/

namespace RuntimeSlots

/-- What the tool is asked to do. -/
inductive Command
  /-- Print the layout of the table, or the part that one header declares. -/
  | list (header : Option Header)
  /-- Audit files; when strict, an incomplete artifact is a failure. -/
  | inspect (inputs : List String) (strict : Bool)
  /-- Register every slot of the build's own table. -/
  | resolve
deriving DecidableEq, Repr

/-- A command together with what the tool is to log. -/
structure CommandLine where
  command : Command
  logLevel : String
deriving DecidableEq, Repr

/-- The arguments that take values. -/
inductive Argument
  | logLevel
  | header
  | inputs
deriving DecidableEq, Repr

/-- How messages name the argument. -/
def Argument.shown : Argument → String
  | logLevel => "--log-level <LOG_LEVEL>"
  | header => "--header <HEADER>"
  | inputs => "<INPUTS>..."

/-- The flag that makes incomplete artifacts a failure. -/
def strictFlag : String := "--strict"

/-- Why arguments are no command line. -/
inductive Refusal
  /-- Help was asked for. -/
  | help (page : Help.Page)
  /-- The version was asked for. -/
  | version
  /-- There were no arguments at all, so help is shown. -/
  | noArguments (page : Help.Page)
  /-- There were options but no command. -/
  | noCommand (program : String)
  | noInputs
  | missingValue (argument : Argument)
  | invalidValue (value : String) (argument : Argument)
  /-- A value was attached to an option that takes none. -/
  | unexpectedValue (value option : String)
  /-- An option that may be given once was given again. -/
  | repeated (option : String)
  | unknownArgument (word : String)
  | unknownCommand (word : String)
deriving DecidableEq, Repr

/-- What the tool says about its version. -/
def versionText : String := "syslookup 0.1.0\n"

/-- The text of a refusal: all of a help or version text, or the sentence that names a mistake.  Of
words from the command line only what the medium shows is there. -/
def Refusal.message (medium : Terminal.Medium) : Refusal → String
  | help page => page.text medium
  | version => versionText
  | noArguments page => page.text medium
  | noCommand program =>
    "error: '" ++ Terminal.shown medium program ++
      "' requires a subcommand but one was not provided"
  | noInputs => "error: the following required arguments were not provided:"
  | missingValue argument =>
    "error: a value is required for '" ++ argument.shown ++ "' but none was supplied"
  | invalidValue value argument =>
    "error: invalid value '" ++ Terminal.shown medium value ++ "' for '" ++ argument.shown ++ "'"
  | unexpectedValue value option =>
    "error: unexpected value '" ++ Terminal.shown medium value ++ "' for '" ++ option ++
      "' found; no more were expected"
  | repeated option =>
    "error: the argument '" ++ option ++ "' cannot be used multiple times"
  | unknownArgument word =>
    "error: unexpected argument '" ++ Terminal.shown medium word ++ "' found"
  | unknownCommand word =>
    "error: unrecognized subcommand '" ++ Terminal.shown medium word ++ "'"

/-- Whether the refusal is an answer to a request and not the report of a mistake. -/
def Refusal.isAnswer : Refusal → Bool
  | help _ => true
  | version => true
  | _ => false

end RuntimeSlots
