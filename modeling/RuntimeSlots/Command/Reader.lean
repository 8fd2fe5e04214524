import RuntimeSlots.Command.Progress

/-!
# Reading a command line

A command line begins with the tool's own options; then a word selects the command, and all words
behind it are the command's.

* `Selection` is a command that a word selects.
* `Invocation.readWords` reads the words behind the program's name.
* `CommandLine.read` reads a whole line.
-/

namespace RuntimeSlots

/-- The commands that words can select. -/
inductive Selection
  | list
  | inspect
  | resolve
  | help
deriving DecidableEq, Repr

namespace Selection

/-- The command that a word selects; `resolve` only where the build has a table. -/
def ofWord? (hasTable : Bool) (word : String) : Option Selection :=
  match word with
  | "list" => some list
  | "inspect" => some inspect
  | "resolve" => if hasTable then some resolve else none
  | "help" => some help
  | _ => none

/-- The word of a command. -/
def word : Selection → String
  | list => "list"
  | inspect => "inspect"
  | resolve => "resolve"
  | help => "help"

/-- The topic under which help describes the command. -/
def topic : Selection → Help.Topic
  | list => .list
  | inspect => .inspect
  | resolve => .resolve
  | help => .help

/-- What the command understands. -/
def grammar (selection : Selection) (help : Help.Page) : Grammar where
  options := if selection = list then [("log-level", .logLevel), ("header", .header)]
    else [("log-level", .logLevel)]
  hasStrict := selection == inspect
  hasVersion := false
  hasInputs := selection == inspect
  help := help

end Selection

/-- The circumstances under which a command line is read. -/
structure Invocation where
  /-- The name of the program's file, if the first word has one. -/
  program : Option String
  /-- Whether the build has a table of its own. -/
  hasTable : Bool
deriving DecidableEq, Repr

namespace Invocation

/-- The name under which the program is known if its file's name is not. -/
def defaultProgram : String := "syslookup"

/-- The name of the program in messages. -/
def programName (invocation : Invocation) : String := invocation.program.getD defaultProgram

/-- The words that select a command: its own behind the program's name, if that is known. -/
def commandWords (invocation : Invocation) (selection : Selection) : String :=
  match invocation.program with
  | some program => program ++ " " ++ selection.word
  | none => selection.word

/-- The help on the tool. -/
def toolHelp (invocation : Invocation) : Help.Page where
  topic := .tool
  hasTable := invocation.hasTable
  words := invocation.programName

/-- The help on a command. -/
def commandHelp (invocation : Invocation) (selection : Selection) : Help.Page where
  topic := selection.topic
  hasTable := invocation.hasTable
  words := invocation.commandWords selection

/-- What the tool itself understands. -/
def grammar (invocation : Invocation) : Grammar where
  options := [("log-level", .logLevel)]
  hasStrict := false
  hasVersion := true
  hasInputs := false
  help := invocation.toolHelp

/-- The answer to the command `help` with the words behind it: help on the tool, or on one
command. -/
def readHelp (invocation : Invocation) (words : List String) : Refusal :=
  match words with
  | [] => .help invocation.toolHelp
  | word :: rest =>
    match Selection.ofWord? invocation.hasTable word, rest with
    | none, _ => .unknownCommand word
    | some selection, [] => .help (invocation.commandHelp selection)
    | some _, extra :: _ => .unknownCommand extra

/-- Reads the words behind a command. -/
def readCommand (invocation : Invocation) (selection : Selection) (words : List String) :
    Except Refusal (Command × Option String) := do
  let read := (selection.grammar (invocation.commandHelp selection)).readWords false {}
  match selection with
  | .help => throw (invocation.readHelp words)
  | .list =>
    let taken ← read words
    return (.list taken.header, taken.logLevel)
  | .inspect =>
    let taken ← read words
    if taken.inputs.isEmpty then throw .noInputs
    else return (.inspect taken.inputs taken.strict, taken.logLevel)
  | .resolve =>
    let taken ← read words
    return (.resolve, taken.logLevel)

/-- The refusal of a plain word in the place of a command.  Behind a divider a command is taken for
an argument. -/
def refusePlain (invocation : Invocation) (plainOnly : Bool) (word : String) : Refusal :=
  if plainOnly ∧ (Selection.ofWord? invocation.hasTable word).isSome then .unknownArgument word
  else .unknownCommand word

/-- The refusal of a line without a command. -/
def refuseLackOfCommand (invocation : Invocation) (taken : Taken) : Refusal :=
  if taken.logLevel.isSome then .noCommand invocation.programName
  else .noArguments invocation.toolHelp

/-- The log level of a line on which none is given. -/
def defaultLogLevel : String := "info"

/-- Reads the words of a line from the tool's level on.  The command's words are read before what
waits in front of the command is taken; a log level behind the command outweighs one before it. -/
def readWords (invocation : Invocation) : Progress → List String → Except Refusal CommandLine
  | progress, [] => do throw (invocation.refuseLackOfCommand (← progress.settle))
  | progress, word :: rest =>
    match progress.waiting, Words.classify word with
    -- A word behind an option that wants a value is the value, even if it names a command.
    | .option argument, .plain =>
      invocation.readWords { progress with waiting := .values argument [word] } rest
    | _, .plain =>
      match Selection.ofWord? invocation.hasTable word with
      | some selection => do
        -- A mistake behind the command is reported before one in what waits in front of it.
        let (command, inner) ← invocation.readCommand selection rest
        let taken ← progress.settle
        return {
          command := command
          logLevel := (inner.or taken.logLevel).getD defaultLogLevel }
      | none => throw (invocation.refusePlain false word)
    | _, .divider =>
      match rest with
      | [] => do throw (invocation.refuseLackOfCommand (← progress.settle))
      | first :: _ => throw (invocation.refusePlain true first)
    | _, .long name value => do
      invocation.readWords (← invocation.grammar.readLong progress name value) rest
    | _, .short first => do
      invocation.readWords (← invocation.grammar.readShort progress first) rest

end Invocation

/-- The last name of a path, unless the path ends at a directory's parent or names nothing. -/
def lastName? (path : String) : Option String :=
  match ((path.splitOn "/").filter fun name => name != "" && name != ".").getLast? with
  | some ".." => none
  | last => last

/-- Reads a command line, the first word of which is the path of the program. -/
def CommandLine.read (hasTable : Bool) (words : List String) : Except Refusal CommandLine :=
  let invocation : Invocation := {
    program := words.head?.bind lastName?
    hasTable := hasTable }
  invocation.readWords {} (words.drop 1)

end RuntimeSlots
