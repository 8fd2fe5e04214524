/-!
# Text without terminal commands

A terminal takes control characters, and the sequences that an escape character begins, for
commands.  Text that is not written to a terminal is shown without them; only white space stays.

* `Terminal.Sequence.next` says how far a character brings a sequence.
* `Terminal.State.step` reads one character of a text.
* `Terminal.shown` is what of a text is shown.
-/

namespace RuntimeSlots.Terminal

/-- A sequence that is not at its end yet, by its kind and by what it may go on with. -/
inductive Sequence
  /-- Only the escape character. -/
  | escape
  /-- The escape character and punctuation, up to a final character. -/
  | escapeMiddle
  /-- A control sequence: parameters up to a final letter. -/
  | control
  /-- The start of a device control string. -/
  | device
  /-- The parameters of a device control string. -/
  | deviceParameters
  /-- The punctuation behind the parameters of a device control string. -/
  | deviceMiddle
  /-- The text of a string, which a terminator ends. -/
  | string
  /-- A command to the system around the terminal, which a bell ends. -/
  | systemCommand
deriving DecidableEq, Repr

namespace Sequence

/-- The byte that ends strings.  It counts inside the encoding of a character too. -/
def stringTerminator : UInt8 := 0x9C

/-- Punctuation that stands in front of a final character. -/
def isMiddle (c : Char) : Bool := ' ' ≤ c && c ≤ '/'

/-- A character that is neither a control character nor outside of ASCII. -/
def isGraphic (c : Char) : Bool := ' ' ≤ c && c ≤ '~'

/-- The sequence with one more character, or none if the character is its last one. -/
def next (sequence : Sequence) (c : Char) : Option Sequence :=
  match sequence with
  | escape =>
    if !isGraphic c then some escape
    else if isMiddle c then some escapeMiddle
    else
      match c with
      | '[' => some control
      | 'P' => some device
      | ']' => some systemCommand
      | 'X' | '^' | '_' => some string
      | _ => none
  | escapeMiddle => if isGraphic c && !isMiddle c then none else some escapeMiddle
  | control => if '@' ≤ c ∧ c ≤ '~' then none else some control
  | device =>
    if !isGraphic c then some device
    else if isMiddle c then some deviceMiddle
    else if c ≤ '?' then some deviceParameters
    else some string
  | deviceParameters =>
    if !isGraphic c then some deviceParameters
    else if isMiddle c then some deviceMiddle
    else if c ≤ ';' then some deviceParameters
    else some string
  | deviceMiddle => if isGraphic c && !isMiddle c then some string else some deviceMiddle
  | string =>
    if (String.utf8EncodeChar c).contains stringTerminator then none else some string
  | systemCommand => if c = '\x07' then none else some systemCommand

/-- White space acts at once inside of the sequence and does not belong to it. -/
def letsBlanksThrough : Sequence → Bool
  | escape | escapeMiddle | control => true
  | _ => false

end Sequence

/-- White space that is a control character. -/
def isBlank (c : Char) : Bool := c == '\t' || c == '\n' || c == '\x0C' || c == '\r'

/-- The character stands for itself in text. -/
def isText (c : Char) : Bool := (' ' ≤ c && c != '\x7F') || isBlank c

/-- Where text appears.  The difference is what white space does to a sequence that lets it
through. -/
inductive Medium
  /-- A message by itself, in which white space ends the sequence. -/
  | message
  /-- A stream of output.  White space interrupts the sequence, which goes on at the next control
  character. -/
  | stream
deriving DecidableEq, Repr

/-- How a text was read so far. -/
inductive State
  /-- In text, perhaps with a sequence that was interrupted. -/
  | text (interrupted : Option Sequence)
  /-- In a sequence. -/
  | inside (sequence : Sequence)
deriving DecidableEq, Repr

namespace State

/-- The start of every text. -/
def start : State := text none

/-- A sequence that goes on, or text behind one that has ended. -/
def ofSequence : Option Sequence → State
  | some sequence => inside sequence
  | none => text none

/-- Reads one character: the state behind it, and whether it is shown.  An escape character begins
a sequence wherever it stands, and two control characters cancel one. -/
def step (medium : Medium) (state : State) (c : Char) : State × Bool :=
  if c = '\x1B' then (inside .escape, false)
  else if c = '\x18' ∨ c = '\x1A' then (text none, false)
  else
    match state with
    | text interrupted =>
      if !isText c then (ofSequence interrupted, false)
      else if c ≤ '\x7F' then (text interrupted, true)
      else (text none, true)
    | inside sequence =>
      if isBlank c && sequence.letsBlanksThrough then
        match medium with
        | .message => (text none, true)
        | .stream => (text (some sequence), true)
      else (ofSequence (sequence.next c), false)

/-- The characters that are shown from a state on. -/
def shown (medium : Medium) : State → List Char → List Char
  | _, [] => []
  | state, c :: rest =>
    match state.step medium c with
    | (next, true) => c :: next.shown medium rest
    | (next, false) => next.shown medium rest

end State

/-- What of a text is shown. -/
def shown (medium : Medium) (text : String) : String :=
  String.ofList (State.start.shown medium text.toList)

end RuntimeSlots.Terminal
