import RuntimeSlots.Log.Filter
import RuntimeSlots.Tool.Run

/-!
# How the tool ends

The exit code and the texts that a run leaves behind.  A failure is reported with its causes below
it.
-/

namespace RuntimeSlots.Tool

/-- How the tool ended: its exit code and what it wrote. -/
structure Outcome where
  code : Nat
  output : String
  errors : String
deriving DecidableEq, Repr

/-- A cause among several, or the only one: the lines behind the first are indented as far. -/
def causeText (number : Option Nat) (cause : String) : String :=
  let (start, indent) := match number with
    | some number => (Text.atRight 5 (toString number) ++ ": ", "       ")
    | none => ("    ", "    ")
  start ++ String.intercalate ("\n" ++ indent) (cause.splitOn "\n")

/-- The lines that report a failure: what failed, and below it the causes, numbered if there are
several. -/
def failureText : List String → String
  | [] => ""
  | failure :: causes =>
    let listed := match causes with
      | [cause] => [causeText none cause]
      | _ => causes.zipIdx.map fun cause => causeText (some cause.2) cause.1
    let below := if causes.isEmpty then [] else ["", "Caused by:"] ++ listed
    Text.ofLines (("Error: " ++ failure) :: below)

/-- The outcome of a run whose records pass through `filter`. -/
def Run.outcome (run : Run) (filter : Log.Filter) : Outcome where
  code := if run.failure.isSome then 1 else 0
  output := Text.ofLines run.lines
  errors := Text.ofLines ((run.records.filter filter.allows).map Log.Record.line) ++
    failureText (run.failure.getD [])

end RuntimeSlots.Tool
