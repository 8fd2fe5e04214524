import RuntimeSlots.Address

/-!
# Log records

A log record has a level, the target it speaks for, a message, and named values.  It is written
in two ways: `Record.summary` leaves the target out and texts bare, `Record.line` has the target,
quotes around texts, and nothing in its message that commands a terminal.
-/

namespace RuntimeSlots.Log

/-- How grave a record is, the most detailed level first. -/
inductive Level
  | trace
  | debug
  | info
  | warn
  | error
deriving DecidableEq, Repr

namespace Level

/-- The level as a record shows it. -/
def label : Level → String
  | trace => "TRACE"
  | debug => "DEBUG"
  | info => "INFO"
  | warn => "WARN"
  | error => "ERROR"

/-- How much detail the level brings: 1 for the gravest records, 5 for the finest. -/
def detail : Level → Nat
  | error => 1
  | warn => 2
  | info => 3
  | debug => 4
  | trace => 5

end Level

/-- A value that a record carries under a name. -/
inductive Value
  | text (value : String)
  | number (value : Int)
  | address (value : Address)
deriving DecidableEq, Repr

namespace Value

/-- The value with texts as they are. -/
def bare : Value → String
  | text value => value
  | number value => toString value
  | address value => value.text

/-- The value with texts in double quotes.  The texts that records carry are names of functions,
which hold nothing that would need an escape. -/
def quoted : Value → String
  | text value => "\"" ++ value ++ "\""
  | value => value.bare

end Value

/-- The control characters of ASCII that can be part of a terminal's commands. -/
def commandCharacters : List Char := ['\x07', '\x08', '\x0C', '\x1B', '\x7F']

/-- A character of a message.  One that can be part of a terminal's commands is written by its
number instead. -/
def harmless (c : Char) : String :=
  let digits := String.ofList (Nat.toDigits 16 c.toNat)
  if commandCharacters.contains c then "\\x" ++ (if c < '\x10' then "0" else "") ++ digits
  else if 0x80 ≤ c.toNat ∧ c.toNat ≤ 0x9F then "\\u\x7b" ++ digits ++ "\x7d"
  else c.toString

/-- One line of the log. -/
structure Record where
  level : Level
  /-- The part of the program that speaks. -/
  target : String
  message : String
  /-- Named values, in the order in which they are shown. -/
  fields : List (String × Value) := []
deriving DecidableEq, Repr

namespace Record

/-- The name under which every record carries its message. -/
def messageName : String := "message"

/-- The record carries a value of the name. -/
def carries (record : Record) (name : String) : Bool :=
  name == messageName || record.fields.any fun field => field.1 == name

/-- The message followed by the named values, each written by `value`. -/
def body (message : String) (fields : List (String × Value)) (value : Value → String) : String :=
  message ++ String.join (fields.map fun field => " " ++ field.1 ++ "=" ++ value field.2)

/-- Level, message and values; the target is left out. -/
def summary (record : Record) : String :=
  record.level.label ++ " " ++ body record.message record.fields Value.bare

/-- The message with harmless characters only. -/
def harmlessMessage (record : Record) : String :=
  String.join (record.message.toList.map harmless)

/-- Level, target, message and values, as the tool writes a record. -/
def line (record : Record) : String :=
  record.level.label ++ " " ++ record.target ++ ": " ++
    body record.harmlessMessage record.fields Value.quoted

end Record

end RuntimeSlots.Log
