import RuntimeSlots.Command.Basic
import RuntimeSlots.Command.Words

/-!
# One level of a command line

The words of a command line stand on two levels: those in front of the command belong to the tool,
those behind it to the command.  A value that stands in a word of its own is only looked at when
the next argument, or the end of the line, is reached; until then it waits, and a word that is not
understood is reported before it.

* `Taken` holds the arguments that were looked at, `Progress` also what is waiting.
* `Progress.settle` takes what is waiting.
* `Grammar.readWords` reads the words of a level that holds no command.
-/

namespace RuntimeSlots

/-- The arguments taken so far on one level. -/
structure Taken where
  logLevel : Option String := none
  header : Option Header := none
  strict : Bool := false
  inputs : List String := []
deriving DecidableEq, Repr

namespace Taken

/-- Takes a value for an argument.  Only inputs may be given more than once, and only the log level
may be empty. -/
def takeValue (taken : Taken) (argument : Argument) (value : String) : Except Refusal Taken :=
  match argument with
  | .logLevel =>
    if taken.logLevel.isSome then throw (.repeated Argument.logLevel.shown)
    else return { taken with logLevel := some value }
  | .header =>
    if taken.header.isSome then throw (.repeated Argument.header.shown)
    else if value = "" then throw (.missingValue .header)
    else
      match Header.ofWord? value false with
      | some header => return { taken with header := some header }
      | none => throw (.invalidValue value .header)
  | .inputs =>
    if value = "" then throw (.missingValue .inputs)
    else return { taken with inputs := taken.inputs ++ [value] }

/-- Takes the flag that asks for strictness. -/
def takeStrict (taken : Taken) : Except Refusal Taken :=
  if taken.strict then throw (.repeated strictFlag) else return { taken with strict := true }

end Taken

/-- What was read but not taken yet. -/
inductive Waiting
  | nothing
  /-- An option whose value should be the next word. -/
  | option (argument : Argument)
  /-- Values of an argument. -/
  | values (argument : Argument) (values : List String)
deriving DecidableEq, Repr

/-- How far the words of one level were read. -/
structure Progress where
  taken : Taken := {}
  waiting : Waiting := .nothing
deriving DecidableEq, Repr

namespace Progress

/-- Takes what is waiting. -/
def settle (progress : Progress) : Except Refusal Taken :=
  match progress.waiting with
  | .nothing => return progress.taken
  | .option argument => throw (.missingValue argument)
  | .values argument values =>
    values.foldlM (fun taken value => taken.takeValue argument value) progress.taken

/-- Reads an option with an attached value, or without one, in which case the next word may be
it. -/
def readOption (progress : Progress) (argument : Argument) (value : Option String) :
    Except Refusal Progress := do
  let taken ← progress.settle
  match value with
  | none => return { taken := taken, waiting := .option argument }
  | some value => return { taken := ← taken.takeValue argument value, waiting := .nothing }

/-- Reads an input; several in a row wait together. -/
def readInput (progress : Progress) (word : String) : Except Refusal Progress :=
  match progress.waiting with
  | .values .inputs values =>
    return { progress with waiting := .values .inputs (values ++ [word]) }
  | _ => do
    let taken ← progress.settle
    return { taken := taken, waiting := .values .inputs [word] }

/-- Reads a flag that answers at once with `answer` and takes no value. -/
def readAnswer {α : Type} (progress : Progress) (option : String) (value : Option String)
    (answer : Refusal) : Except Refusal α :=
  match value with
  | some value => throw (.unexpectedValue value option)
  | none => do
    let _ ← progress.settle
    throw answer

end Progress

/-- What one level understands. -/
structure Grammar where
  /-- The long options that take a value. -/
  options : List (String × Argument)
  /-- Whether the flag that asks for strictness is known. -/
  hasStrict : Bool
  /-- Whether the version can be asked for. -/
  hasVersion : Bool
  /-- Whether plain words are inputs; otherwise there may be none. -/
  hasInputs : Bool
  /-- The help on the level. -/
  help : Help.Page
deriving DecidableEq, Repr

namespace Grammar

/-- Reads a long option. -/
def readLong (grammar : Grammar) (progress : Progress) (name : String) (value : Option String) :
    Except Refusal Progress :=
  match grammar.options.lookup name with
  | some argument => progress.readOption argument value
  | none =>
    if name = "strict" ∧ grammar.hasStrict then
      match value with
      | some value => throw (.unexpectedValue value strictFlag)
      | none => do
        let taken ← progress.settle
        return { taken := ← taken.takeStrict, waiting := .nothing }
    else if name = "help" then progress.readAnswer "--help" value (.help grammar.help)
    else if name = "version" ∧ grammar.hasVersion then
      progress.readAnswer "--version" value .version
    else throw (.unknownArgument ("--" ++ name))

/-- Reads a cluster of short options by its first one, all of which answer at once. -/
def readShort (grammar : Grammar) (progress : Progress) (first : Char) : Except Refusal Progress :=
  if first = 'h' then progress.readAnswer "--help" none (.help grammar.help)
  else if first = 'V' ∧ grammar.hasVersion then progress.readAnswer "--version" none .version
  else throw (.unknownArgument ("-" ++ first.toString))

/-- Reads a plain word that is no value of an option. -/
def readPlain (grammar : Grammar) (progress : Progress) (word : String) : Except Refusal Progress :=
  if grammar.hasInputs then progress.readInput word else throw (.unknownArgument word)

/-- Reads the words of a level, all of which are plain once a divider was met. -/
def readWords (grammar : Grammar) : (plainOnly : Bool) → Progress → List String →
    Except Refusal Taken
  | _, progress, [] => progress.settle
  | true, progress, word :: rest => do
    grammar.readWords true (← grammar.readPlain progress word) rest
  | false, progress, word :: rest =>
    match Words.classify word with
    | .divider => grammar.readWords true progress rest
    | .long name value => do grammar.readWords false (← grammar.readLong progress name value) rest
    | .short first => do grammar.readWords false (← grammar.readShort progress first) rest
    | .plain =>
      match progress.waiting with
      -- The word is the value that the option in front of it waits for.
      | .option argument =>
        grammar.readWords false { progress with waiting := .values argument [word] } rest
      | _ => do grammar.readWords false (← grammar.readPlain progress word) rest

end Grammar

end RuntimeSlots
