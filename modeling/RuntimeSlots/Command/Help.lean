import RuntimeSlots.Text.Lines
import RuntimeSlots.Text.Terminal

/-!
# Help texts

The text that describes the tool, and one for each of its commands.  They differ from build to
build only in the command `resolve`, which needs a table in the build.
-/

namespace RuntimeSlots.Help

/-- What a help text describes. -/
inductive Topic
  /-- The tool as a whole. -/
  | tool
  | list
  | inspect
  | resolve
  /-- The command that shows help. -/
  | help
deriving DecidableEq, Repr

/-- What each topic is about, in one line. -/
def Topic.purpose : Topic → String
  | tool => "Inspect the C runtime function table exported by this library"
  | list => "Print the table layout: index, name, link name and header"
  | inspect => "Check that built artifacts carry the accessor and every table slot"
  | resolve => "Register every table slot of this build and print its address"
  | help => "Print this message or the help of the given subcommand(s)"

/-- What may follow the words that select the topic. -/
def Topic.parameters : Topic → String
  | tool => "[OPTIONS] <COMMAND>"
  | list => "[OPTIONS]"
  | inspect => "[OPTIONS] <INPUTS>..."
  | resolve => "[OPTIONS]"
  | help => "[COMMAND]..."

/-- The options that every command has, in the columns of the texts. -/
def commonOptions : List String :=
  ["      --log-level <LOG_LEVEL>  Set the logging level [default: info]",
   "  -h, --help                   Print help"]

/-- The part of a text that lists commands, arguments and options. -/
def Topic.details (hasTable : Bool) : Topic → List String
  | tool =>
    ["Commands:",
     "  list     " ++ purpose .list,
     "  inspect  " ++ purpose .inspect] ++
    (if hasTable then ["  resolve  " ++ purpose .resolve] else []) ++
    ["  help     " ++ purpose .help,
     "",
     "Options:"] ++ commonOptions ++
    ["  -V, --version                Print version"]
  | list =>
    ["Options:",
     "      --header <HEADER>        Only list functions declared in this header " ++
       "[possible values: stdio, time]"] ++ commonOptions
  | inspect =>
    ["Arguments:",
     "  <INPUTS>...  Object files, archives (.lib/.a) or images (.dll/.exe)",
     "",
     "Options:",
     "      --strict                 Fail if any artifact is incomplete"] ++ commonOptions
  | resolve => ["Options:"] ++ commonOptions
  | help =>
    ["Arguments:",
     "  [COMMAND]...  Print help for the subcommand(s)"]

/-- A help text as it is asked for. -/
structure Page where
  topic : Topic
  /-- Whether the build has a table of its own. -/
  hasTable : Bool
  /-- The words that select the topic on a command line, from the program's name on. -/
  words : String
deriving DecidableEq, Repr

/-- The text of the page.  The program's name may hold anything, so of the words only what a
medium shows is there. -/
def Page.text (page : Page) (medium : Terminal.Medium) : String :=
  Text.ofLines ([page.topic.purpose, "",
      "Usage: " ++ Terminal.shown medium page.words ++ " " ++ page.topic.parameters, ""] ++
    page.topic.details page.hasTable)

end RuntimeSlots.Help
