import RuntimeSlots.Command.Reader
import RuntimeSlots.Tool.Outcome

/-!
# The tool

What the tool does with the words of its command line, as a function of its surroundings.

* `Tool.carryOut` does what a command asks.
* `Tool.chooseFilter` decides which log filter counts.
* `Tool.run` reads the command line, chooses the filter, and carries the command out.
-/

namespace RuntimeSlots.Tool

/-- What the tool finds around it. -/
structure Surroundings where
  /-- What opening a path leads to. -/
  opening : String → Opening
  /-- The log filter that the user's environment asks for. -/
  logFilter : Option String
  /-- The linked table of the build, if the build has one. -/
  linkage : Option Linkage

/-- The first record of every run. -/
def openingRecord (hasTable : Bool) : Log.Record where
  level := .debug
  target := logTarget
  message := "platform table compiled in: " ++ toString hasTable

/-- The filter of a run: the one of the user's environment if it is proper, otherwise the one of
the command line.  A directive of the environment that is cut within a character stops the run. -/
def chooseFilter (environment : Option String) (logLevel : String) :
    Except Log.FilterFault Log.Filter :=
  match environment.map Log.Filter.ofText with
  | some (.ok filter) => .ok filter
  | some (.error .cutCharacter) => .error .cutCharacter
  -- Any other fault of the environment is ignored.
  | _ => Log.Filter.ofText logLevel

/-- The outcome of a run without a filter. -/
def rejectFilter (fault : Log.FilterFault) : Outcome :=
  match fault with
  | .cutCharacter => { code := 101, output := "", errors := Text.ofLines [fault.message] }
  | _ => { code := 1, output := "", errors := failureText fault.chain }

/-- Carries a command out.  Only a build with a table has something to resolve. -/
def carryOut (surroundings : Surroundings) : Command → Run
  | .list header => list header
  | .inspect inputs strict => inspect surroundings.opening inputs strict
  | .resolve =>
    match surroundings.linkage with
    | some linkage => resolve linkage
    | none => { lines := [], records := [], failure := none }

/-- The outcome of a refused command line: answers go to the output, mistakes to the errors. -/
def refuse (refusal : Refusal) : Outcome :=
  let text := refusal.message .stream
  if refusal.isAnswer then { code := 0, output := text, errors := "" }
  else { code := 2, output := "", errors := Text.ofLines [text] }

/-- Runs the tool with the words of its command line, the program's own name first. -/
def run (surroundings : Surroundings) (words : List String) : Outcome :=
  let hasTable := surroundings.linkage.isSome
  match CommandLine.read hasTable words with
  | .error refusal => refuse refusal
  | .ok line =>
    match chooseFilter surroundings.logFilter line.logLevel with
    | .error fault => rejectFilter fault
    | .ok filter =>
      let run := carryOut surroundings line.command
      Run.outcome { run with records := openingRecord hasTable :: run.records } filter

end RuntimeSlots.Tool
