import RuntimeSlots.Log.FieldValue
import RuntimeSlots.Log.Record
import RuntimeSlots.Text.Alphanumeric
import RuntimeSlots.Text.ByteOffset

/-!
# Log filters

A filter decides which records are written.  It is given as text: directives between commas, each
of which allows a level of detail, for one family of targets or for all others.

* `Filter.ofText` reads a filter.
* `Filter.allows` applies it to a record: the directive with the longest matching target decides,
  and of two that are equally specific the later one.
-/

namespace RuntimeSlots.Log

/-- One directive of a filter. -/
structure Directive where
  /-- The start of the targets that the directive is about, or none for all targets. -/
  target : Option String
  /-- The greatest detail that is allowed; zero allows nothing. -/
  detail : Nat
  /-- A value that records must carry. -/
  carried : Option String := none
  /-- The directive is only about records inside of certain spans, of which there are none. -/
  inSpan : Bool := false
deriving DecidableEq, Repr

/-- What can be wrong with the text of a filter. -/
inductive FilterFault
  | directive
  | level
  /-- The value of a field is neither a number nor a pattern that can be used. -/
  | value (failure : Pattern.Failure)
  /-- A part of a directive would begin or end within a character. -/
  | cutCharacter
deriving DecidableEq, Repr

/-- The text of the fault. -/
def FilterFault.message : FilterFault → String
  | directive => "invalid filter directive"
  | level =>
    "error parsing level filter: expected one of \"off\", \"error\", \"warn\", \"info\", " ++
      "\"debug\", \"trace\", or a number 0-5"
  | value failure => "invalid field filter: " ++ failure.message
  | cutCharacter => "a part of a filter directive begins or ends within a character"

/-- What failed, from the outermost description to the innermost cause.  A wrong level is its own
cause. -/
def FilterFault.chain : FilterFault → List String
  | directive => [message directive]
  | level => [message level, message level]
  | value failure => message (value failure) :: failure.chain
  | cutCharacter => [message cutCharacter]

namespace Directive

/-- The detail of a directive that names a target without a level. -/
def fullDetail : Nat := 5

/-- The detail that a word stands for, in letters of any case. -/
def detailOfWord? (text : String) : Option Nat :=
  [("off", 0), ("error", 1), ("warn", 2), ("info", 3), ("debug", 4), ("trace", 5)].lookup
    (text.map Char.toLower)

/-- The detail that digits stand for, perhaps behind a plus sign. -/
def detailOfDigits? (text : List Char) : Option Nat :=
  let digits := if text.head? = some '+' then text.tail else text
  if digits.isEmpty ∨ !digits.all Char.isDigit then none
  else
    some (digits.foldl (fun value digit => value * 10 + (digit.toNat - '0'.toNat)) 0)
      |>.filter (· ≤ fullDetail)

/-- The detail that a level stands for. -/
def detail? (level : List Char) : Option Nat :=
  (detailOfDigits? level).or (detailOfWord? (String.ofList level))

/-- Whether a directive may begin with the character. -/
def isStart (c : Char) : Bool :=
  c == '-' || c == ':' || c == '_' || c == '[' || Alphanumeric.holds c

/-- The level behind an equals sign; nothing stands for full detail. -/
def readLevel (level : List Char) : Except FilterFault Nat :=
  if level.isEmpty then return fullDetail
  else
    match detail? level with
    | some detail => return detail
    | none => throw .level

/-- A text without the blanks around it, and what stands at given offsets.  Offsets are found in the
trimmed text but count from the start of the whole one, so blanks in front shift every part.  As
offsets count bytes, a shifted part may begin or end within a character. -/
structure Scan where
  whole : List Char
deriving DecidableEq, Repr

namespace Scan

/-- The text in which offsets are found. -/
def trimmed (scan : Scan) : List Char := Blank.trim scan.whole

/-- The part from one offset up to another. -/
def part (scan : Scan) (start stop : Nat) : Except FilterFault (List Char) :=
  match Text.slice? start stop scan.whole with
  | some part => return part
  | none => throw .cutCharacter

/-- The level that stands from an offset on. -/
def readLevel (scan : Scan) (start : Nat) : Except FilterFault Nat := do
  Directive.readLevel (← scan.part start (Text.byteWidth scan.whole))

end Scan

/-- Completes a directive by what stands behind its closing bracket, at `offset`: a level or
nothing. -/
def readEnd (scan : Scan) (directive : Directive) (offset : Nat) (rest : List Char) :
    Except FilterFault Directive :=
  match rest with
  | [] => return directive
  | '=' :: _ => do return { directive with detail := ← scan.readLevel (offset + 1) }
  | _ => throw .directive

/-- Checks what stands between braces, as far as it has a value: what stands behind the first equals
sign, up to the second one. -/
def checkField (text : List Char) : Except FilterFault Unit :=
  match text.dropWhile (· != '=') with
  | [] => return ()
  | _ :: behind =>
    (FieldValue.check (String.ofList (behind.takeWhile (· != '=')))).mapError .value

/-- Reads what stands between braces, from `offset` on, and up to the end of the directive.  It is
the name of a value that records must carry; a name with a value of its own is a matter of spans.
A closing bracket must follow, which counts only after the value was checked. -/
def readCarried (scan : Scan) (directive : Directive) (offset : Nat) (rest : List Char) :
    Except FilterFault Directive := do
  let field := rest.takeWhile (· != '\x7d')
  match rest.drop field.length with
  | [] => throw .directive
  | _ :: behind =>
    let stop := offset + Text.byteWidth field
    let text ← scan.part offset stop
    if text.isEmpty then throw .directive
    checkField text
    match behind with
    | ']' :: behind =>
      let name := text.takeWhile (· != '=')
      readEnd scan
        { directive with
          carried := some (String.ofList name)
          inSpan := directive.inSpan || text.contains '=' }
        (stop + 2) behind
    | _ => throw .directive

/-- Reads what stands behind the opening bracket, from `offset` on: the name of a span, a value
between braces, or both. -/
def readSpan (scan : Scan) (target : Option String) (offset : Nat) (rest : List Char) :
    Except FilterFault Directive := do
  let name := rest.takeWhile fun c => c != ']' && c != '\x7b'
  match rest.drop name.length with
  | [] => throw .directive
  | closing :: behind =>
    let stop := offset + Text.byteWidth name
    let span ← scan.part offset stop
    let directive : Directive := {
      target := target
      detail := fullDetail
      inSpan := closing == ']' || !span.isEmpty }
    if closing = ']' then readEnd scan directive (stop + 1) behind
    else readCarried scan directive (stop + 1) behind

/-- Reads the target up to `stop`, if it is not left out. -/
def readTarget (scan : Scan) (stop : Nat) : Except FilterFault (Option String) := do
  if stop = 0 then return none
  else return some (String.ofList (← scan.part 0 stop))

/-- Reads a directive. -/
def read (text : List Char) : Except FilterFault Directive := do
  let scan : Scan := { whole := text }
  if !scan.trimmed.head?.any isStart then throw .directive
  let target := scan.trimmed.takeWhile fun c => c != '=' && c != '['
  let stop := Text.byteWidth target
  match scan.trimmed.drop target.length with
  | [] =>
    -- A single word is a level if there is such a level, and a target otherwise.
    match detail? text with
    | some detail => return { target := none, detail := detail }
    | none => return { target := some (String.ofList text), detail := fullDetail }
  | '=' :: _ =>
    return { target := ← readTarget scan stop, detail := ← scan.readLevel (stop + 1) }
  | _ :: rest => readSpan scan (← readTarget scan stop) (stop + 1) rest

/-- The directive is about the record. -/
def isAbout (directive : Directive) (record : Record) : Bool :=
  !directive.inSpan &&
    (directive.target.all fun start => start.toList.isPrefixOf record.target.toList) &&
    directive.carried.all record.carries

/-- How specific the directive is about targets: zero if it is about all, and more for longer
ones. -/
def specificity (directive : Directive) : Nat :=
  match directive.target with
  | some start => start.utf8ByteSize + 1
  | none => 0

/-- The directive decides rather than another one that was given before it: its target is longer
or, of equally long ones, the value that it asks for does not come first in the alphabet. -/
def outweighs (directive other : Directive) : Bool :=
  other.specificity < directive.specificity ||
    (other.specificity == directive.specificity &&
      !(directive.carried.getD "" < other.carried.getD "" : Bool))

end Directive

/-- A filter for records. -/
structure Filter where
  directives : List Directive
deriving DecidableEq, Repr

namespace Filter

/-- The parts of a text between commas. -/
def parts (text : List Char) : List (List Char) := text.splitOn ','

/-- Reads a filter.  Empty parts count for nothing; where no other is left, only errors are
allowed. -/
def ofText (text : String) : Except FilterFault Filter := do
  let directives ← ((parts text.toList).filter fun part => !part.isEmpty).mapM Directive.read
  if directives.isEmpty then
    return { directives := [{ target := none, detail := Level.error.detail }] }
  else return { directives := directives }

/-- The directive that decides about a record. -/
def decisive? (filter : Filter) (record : Record) : Option Directive :=
  (filter.directives.filter fun directive => directive.isAbout record).foldl
    (fun best directive =>
      match best with
      | some other => if directive.outweighs other then some directive else best
      | none => some directive) none

/-- Whether the filter lets the record through. -/
def allows (filter : Filter) (record : Record) : Bool :=
  (filter.decisive? record).any fun directive => record.level.detail ≤ directive.detail

end Filter

end RuntimeSlots.Log
