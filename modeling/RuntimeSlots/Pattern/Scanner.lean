import RuntimeSlots.Pattern.Fault
import RuntimeSlots.Text.Alphanumeric

/-!
# Scanning a pattern

A scan walks through the characters of a pattern and stops at the first fault.  Where a flag says
so, it passes over blanks and over comments, which run from a number sign to the end of the line.

A pattern here is the value that a filter gives for a field.  It never holds a comma or an equals
sign, and no closing brace behind an opening one, so nothing in braces is ever complete.

* `Scan` is a computation that scans.
* `Scan.advance` passes one character, `Scan.advanceOver` also the blanks behind it.
-/

namespace RuntimeSlots.Pattern

/-- How far a pattern was scanned. -/
structure Scanner where
  rest : List Char
  position : Position := .first
  /-- Blanks and comments are passed over. -/
  ignoresBlanks : Bool := false
  /-- The names of groups so far. -/
  names : List (String × Span) := []
deriving DecidableEq, Repr

namespace Scanner

/-- Passes one character. -/
def advance (scanner : Scanner) : Scanner :=
  match scanner.rest with
  | [] => scanner
  | c :: rest => { scanner with rest := rest, position := scanner.position.next c }

/-- What stands behind blanks and comments, and where. -/
def behindBlanks (inComment : Bool) (position : Position) : List Char → Position × List Char
  | [] => (position, [])
  | c :: rest =>
    if inComment then behindBlanks (c != '\n') (position.next c) rest
    else if Blank.holds c then behindBlanks false (position.next c) rest
    else if c = '#' then behindBlanks true (position.next c) rest
    else (position, c :: rest)

/-- Passes over blanks and comments, if a flag says so. -/
def skipBlanks (scanner : Scanner) : Scanner :=
  if scanner.ignoresBlanks then
    let (position, rest) := behindBlanks false scanner.position scanner.rest
    { scanner with rest := rest, position := position }
  else scanner

/-- Passes over blanks alone, whatever the flag says. -/
def skipSpaces (scanner : Scanner) : Scanner :=
  let blanks := scanner.rest.takeWhile Blank.holds
  { scanner with
    rest := scanner.rest.drop blanks.length
    position := blanks.foldl Position.next scanner.position }

/-- The first character that is neither blank nor the first number sign. -/
def firstBehindBlanks (inComment : Bool) : List Char → Option Char
  | [] => none
  | c :: rest =>
    if Blank.holds c then firstBehindBlanks inComment rest
    else if !inComment && c == '#' then firstBehindBlanks true rest
    else some c

/-- The character behind the current one.  Where blanks count for nothing, it is the first one that
is no blank, if there is such a one. -/
def following (scanner : Scanner) : Option Char :=
  let behind := scanner.rest.tail
  if scanner.ignoresBlanks then (firstBehindBlanks false behind).or behind.head?
  else behind.head?

end Scanner

/-- A computation that scans a pattern. -/
abbrev Scan (α : Type) : Type := StateT Scanner (Except Fault) α

namespace Scan

/-- The character at which the scan stands. -/
def current : Scan (Option Char) := return (← get).rest.head?

/-- What is left of the pattern. -/
def rest : Scan (List Char) := return (← get).rest

/-- The position of the scan. -/
def here : Scan Position := return (← get).position

/-- The span of the current character. -/
def charSpan : Scan Span := return ⟨(← get).position, (← get).advance.position⟩

/-- Passes one character. -/
def advance : Scan Unit := modify Scanner.advance

/-- Passes some characters. -/
def advanceBy : Nat → Scan Unit
  | 0 => return
  | count + 1 => do
    advance
    advanceBy count

/-- Passes over blanks and comments, if a flag says so. -/
def skipBlanks : Scan Unit := modify Scanner.skipBlanks

/-- Passes one character and the blanks behind it. -/
def advanceOver : Scan Unit := do
  advance
  skipBlanks

/-- Ends the scan. -/
def fail {α : Type} (mistake : Mistake) (span : Span) : Scan α :=
  throw { mistake := mistake, span := span }

/-- Ends the scan over something that conflicts with another part. -/
def failAgainst {α : Type} (mistake : Mistake) (span other : Span) : Scan α :=
  throw { mistake := mistake, span := span, other := some other }

/-- Ends the scan at its position. -/
def failHere {α : Type} (mistake : Mistake) : Scan α := do fail mistake (.empty (← here))

/-- Ends the scan over what was passed from a position on. -/
def failFrom {α : Type} (mistake : Mistake) (start : Position) : Scan α := do
  fail mistake ⟨start, ← here⟩

/-- Ends the scan over the current character. -/
def failChar {α : Type} (mistake : Mistake) : Scan α := do fail mistake (← charSpan)

/-- Ends the scan over what was passed from a position on, if nothing is left. -/
def expectMore (mistake : Mistake) (start : Position) : Scan Unit := do
  if (← rest).isEmpty then failFrom mistake start

/-- Passes characters, with the blanks behind each, as long as they satisfy a condition. -/
def advanceWhile (condition : Char → Bool) : (fuel : Nat) → Scan Unit
  | 0 => return
  | fuel + 1 => do
    if (← current).any condition then
      advanceOver
      advanceWhile condition fuel

end Scan

end RuntimeSlots.Pattern
