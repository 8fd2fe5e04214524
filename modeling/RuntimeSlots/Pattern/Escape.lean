import RuntimeSlots.Pattern.Scanner
import RuntimeSlots.Pattern.Syntax

/-!
# Escape sequences

A backslash begins a sequence that stands for a character, a class or a place in the text.
-/

namespace RuntimeSlots.Pattern

/-- The punctuation that means something in patterns. -/
def isMeta (c : Char) : Bool :=
  ['\\', '.', '+', '*', '?', '(', ')', '|', '[', ']', '\x7b', '\x7d', '^', '$', '#', '&', '-',
    '~'].contains c

/-- A backslash makes the character stand for itself.  Letters and digits are kept for sequences
with a meaning of their own, and so are angle brackets. -/
def isEscapable (c : Char) : Bool :=
  isMeta c || (c ≤ '\x7F' && !c.isAlphanum && c != '<' && c != '>')

/-- The value of a hexadecimal digit. -/
def hexDigit? (c : Char) : Option Nat :=
  if c.isDigit then some (c.toNat - '0'.toNat)
  else if 'a' ≤ c ∧ c ≤ 'f' then some (c.toNat - 'a'.toNat + 10)
  else if 'A' ≤ c ∧ c ≤ 'F' then some (c.toNat - 'A'.toNat + 10)
  else none

/-- The character with a number, if there is one. -/
def charOfNumber? (number : Nat) : Option Char :=
  if number.isValidChar then some (Char.ofNat number) else none

/-- How many hexadecimal digits follow a letter. -/
def hexLength : Char → Nat
  | 'x' => 2
  | 'u' => 4
  | _ => 8

/-- The character that a letter stands for behind a backslash. -/
def controlOfLetter? : Char → Option Char
  | 'a' => some '\x07'
  | 'f' => some '\x0C'
  | 't' => some '\t'
  | 'n' => some '\n'
  | 'r' => some '\r'
  | 'v' => some '\x0B'
  | _ => none

namespace Scan

/-- Reads hexadecimal digits behind a number that was read so far. -/
def readHexDigits : (count number : Nat) → Scan Nat
  | 0, number => return number
  | count + 1, number => do
    match ← current with
    | none => failHere .escapeEnd
    | some c =>
      match hexDigit? c with
      | none => failChar .hexDigit
      | some digit =>
        advanceOver
        readHexDigits count (number * 16 + digit)

/-- Reads digits behind an opening brace, which is never closed. -/
def readOpenHex {α : Type} : Scan α := do
  let brace ← here
  advanceOver
  advanceWhile (fun c => (hexDigit? c).isSome) (← rest).length
  if (← rest).isEmpty then failFrom .escapeEnd brace else failChar .hexDigit

/-- Reads a character that is written by its number.  The scan stands at the letter of the
sequence that began at `start`. -/
def readHex (start : Position) (letter : Char) : Scan Primitive := do
  advanceOver
  if (← current) = some '\x7b' then readOpenHex
  else
    let digits ← here
    let number ← readHexDigits (hexLength letter) 0
    match charOfNumber? number with
    | some char =>
      return .literal { span := ⟨start, ← here⟩, char := char, isByte := letter == 'x' }
    | none => failFrom .hexValue digits

/-- Reads the name of a property, which is one letter; one in braces never ends. -/
def readProperty (start : Position) : Scan Primitive := do
  advanceOver
  match ← current with
  | none => failHere .escapeEnd
  | some '\x7b' =>
    advanceBy (← rest).length
    failHere .escapeEnd
  | some '\\' => failChar .propertyInvalid
  | some _ =>
    advanceOver
    return .property ⟨start, ← here⟩

/-- A character in the name of a special word boundary. -/
def isBoundaryName (c : Char) : Bool := c.isAlpha || c == '-'

/-- Reads what may follow the sequence for a word boundary: a name in braces, which is never
closed, while other braces are left for a repetition. -/
def readBoundaryName (start : Position) : Scan Unit := do
  if (← current) = some '\x7b' then
    let scanner ← get
    let brace ← here
    advanceOver
    match ← current with
    | none => failFrom .wordBoundaryEnd start
    | some c =>
      if isBoundaryName c then
        advanceWhile isBoundaryName (← rest).length
        failFrom .wordBoundaryUnclosed brace
      else set scanner

/-- Reads an escape sequence. -/
def readEscape : Scan Primitive := do
  let start ← here
  advance
  match ← current with
  | none => failFrom .escapeEnd start
  | some c =>
    if c.isDigit then
      advance
      failFrom .backreference start
    else if ['x', 'u', 'U'].contains c then readHex start c
    else if ['p', 'P'].contains c then readProperty start
    else
      advance
      let span : Span := ⟨start, ← here⟩
      if ['d', 's', 'w', 'D', 'S', 'W'].contains c then return .shorthand span c.isUpper
      else if isEscapable c then return .literal { span := span, char := c }
      else if ['A', 'z'].contains c then return .assertion span false
      else if ['B', '<', '>'].contains c then return .assertion span true
      else if c = 'b' then
        readBoundaryName start
        return .assertion span true
      else
        match controlOfLetter? c with
        | some char => return .literal { span := span, char := char }
        | none => fail .escapeUnknown span

end Scan

end RuntimeSlots.Pattern
