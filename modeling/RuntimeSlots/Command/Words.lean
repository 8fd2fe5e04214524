/-!
# Words of a command line

Words that begin with a dash are options, the others are values or commands.  Two dashes alone
make all words behind them plain.
-/

namespace RuntimeSlots

namespace Words

/-- What a word looks like. -/
inductive Shape
  /-- Two dashes: all words behind are plain. -/
  | divider
  /-- A long option, perhaps with a value attached. -/
  | long (name : String) (value : Option String)
  /-- A cluster of short options, of which the first one decides. -/
  | short (first : Char)
  /-- A value or a command; a lone dash is one too. -/
  | plain
deriving DecidableEq, Repr

/-- The name in front of the first equals sign and the value behind it, if there is one. -/
def splitValue (text : List Char) : String × Option String :=
  let name := text.takeWhile (· != '=')
  match text.dropWhile (· != '=') with
  | [] => (String.ofList name, none)
  | _ :: value => (String.ofList name, some (String.ofList value))

/-- The shape of a word. -/
def classify (word : String) : Shape :=
  match word.toList with
  | ['-', '-'] => .divider
  | '-' :: '-' :: rest => .long (splitValue rest).1 (splitValue rest).2
  | '-' :: first :: _ => .short first
  | _ => .plain

end Words

end RuntimeSlots
