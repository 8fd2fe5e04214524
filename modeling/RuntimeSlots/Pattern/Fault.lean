import RuntimeSlots.Pattern.Place
import RuntimeSlots.Text.Lines

/-!
# What can be wrong with a pattern

A fault is a mistake at a span.  Its report shows the pattern, marks the span below it, and names
the mistake.  A pattern of several lines is shown with line numbers between two rules, and a span
over several lines is described instead of marked.

* `Mistake.message` is the text that names a mistake.
* `Fault.report` is the whole report.
-/

namespace RuntimeSlots.Pattern

/-- The deepest nesting that patterns may have. -/
def nestingLimit : Nat := 250

/-- A mistake in a pattern. -/
inductive Mistake
  | classEscape
  | classRange
  | classRangeBoundary
  | classUnclosed
  | countInvalid
  | countEmpty
  | countUnclosed
  | hexValue
  | hexDigit
  | escapeEnd
  | escapeUnknown
  | backreference
  | propertyInvalid
  | wordBoundaryUnclosed
  | wordBoundaryEnd
  | flagUnknown
  | flagEnd
  | flagDuplicate
  | negationRepeated
  | negationDangling
  | nameEnd
  | nameCharacter
  | nameEmpty
  | nameDuplicate
  | groupUnclosed
  | groupUnopened
  | lookAround
  | repetitionMissing
  | nesting
  /-- Something that only patterns for Unicode can hold. -/
  | unicodeNotAllowed
  | invalidUtf8
  | propertyUnknown
  /-- A class that is short for one of Unicode's, of which there are no tables. -/
  | shorthandUnavailable
  /-- Case of Unicode's letters, of which there are no tables. -/
  | caseUnavailable
deriving DecidableEq, Repr

/-- The text that names the mistake. -/
def Mistake.message : Mistake → String
  | classEscape => "invalid escape sequence found in character class"
  | classRange => "invalid character class range, the start must be <= the end"
  | classRangeBoundary => "invalid range boundary, must be a literal"
  | classUnclosed => "unclosed character class"
  | countInvalid => "decimal literal invalid"
  | countEmpty => "repetition quantifier expects a valid decimal"
  | countUnclosed => "unclosed counted repetition"
  | hexValue => "hexadecimal literal is not a Unicode scalar value"
  | hexDigit => "invalid hexadecimal digit"
  | escapeEnd => "incomplete escape sequence, reached end of pattern prematurely"
  | escapeUnknown => "unrecognized escape sequence"
  | backreference => "backreferences are not supported"
  | propertyInvalid => "invalid Unicode character class"
  | wordBoundaryUnclosed =>
    "special word boundary assertion is either unclosed or contains an invalid character"
  | wordBoundaryEnd =>
    "found either the beginning of a special word boundary or a bounded repetition on a \\b " ++
      "with an opening brace, but no closing brace"
  | flagUnknown => "unrecognized flag"
  | flagEnd => "expected flag but got end of regex"
  | flagDuplicate => "duplicate flag"
  | negationRepeated => "flag negation operator repeated"
  | negationDangling => "dangling flag negation operator"
  | nameEnd => "unclosed capture group name"
  | nameCharacter => "invalid capture group character"
  | nameEmpty => "empty capture group name"
  | nameDuplicate => "duplicate capture group name"
  | groupUnclosed => "unclosed group"
  | groupUnopened => "unopened group"
  | lookAround => "look-around, including look-ahead and look-behind, is not supported"
  | repetitionMissing => "repetition operator missing expression"
  | nesting =>
    "exceed the maximum number of nested parentheses/brackets (" ++ toString nestingLimit ++ ")"
  | unicodeNotAllowed => "Unicode not allowed here"
  | invalidUtf8 => "pattern can match invalid UTF-8"
  | propertyUnknown => "Unicode property not found"
  | shorthandUnavailable =>
    "Unicode-aware Perl class not found (make sure the unicode-perl feature is enabled)"
  | caseUnavailable =>
    "Unicode-aware case insensitivity matching is not available " ++
      "(make sure the unicode-case feature is enabled)"

/-- A mistake and where it is. -/
structure Fault where
  mistake : Mistake
  span : Span
  /-- What the mistake conflicts with. -/
  other : Option Span := none
deriving DecidableEq, Repr

namespace Fault

/-- The spans of the fault in their order in the pattern. -/
def spans (fault : Fault) : List Span :=
  match fault.other with
  | none => [fault.span]
  | some other => if fault.span.isBehind other then [other, fault.span] else [fault.span, other]

/-- The marks below a line from a column on, which counts from zero here. -/
def marks (column : Nat) : List Span → String
  | [] => ""
  | span :: rest =>
    let gap := span.start.column - 1 - column
    Text.filling gap "" ++ String.ofList (List.replicate span.width '^') ++
      marks (column + gap + span.width) rest

/-- How wide line numbers are; a single line has none. -/
def numberWidth (pattern : String) : Nat :=
  let count := (pattern.splitOn "\n").length
  if count ≤ 1 then 0 else (toString count).length

/-- The lines of the pattern with marks below them. -/
def annotated (pattern : String) (spans : List Span) : List String :=
  let width := numberWidth pattern
  let indent := if width = 0 then 4 else width + 2
  (Text.lines pattern).zipIdx.flatMap fun (line, index) =>
    let start :=
      if width = 0 then Text.filling indent ""
      else Text.atRight width (toString (index + 1)) ++ ": "
    let noted := spans.filter fun span => span.isOneLine && span.start.line == index + 1
    (start ++ line) :: (if noted.isEmpty then [] else [Text.filling indent "" ++ marks 0 noted])

/-- The description of a span over several lines. -/
def lineNote (span : Span) : String :=
  "on line " ++ toString span.start.line ++ " (column " ++ toString span.start.column ++
    ") through line " ++ toString span.stop.line ++ " (column " ++
    toString (span.stop.column - 1) ++ ")"

/-- The rule above and below a pattern of several lines. -/
def rule : String := String.ofList (List.replicate 79 '~')

/-- The report of the fault in a pattern. -/
def report (fault : Fault) (pattern : String) : String :=
  let noted := annotated pattern fault.spans
  let shown :=
    if pattern.contains '\n' then
      [rule] ++ noted ++ [rule] ++ (fault.spans.filter fun span => !span.isOneLine).map lineNote
    else noted
  Text.ofLines ("regex parse error:" :: shown) ++ "error: " ++ fault.mistake.message

end Fault

end RuntimeSlots.Pattern
