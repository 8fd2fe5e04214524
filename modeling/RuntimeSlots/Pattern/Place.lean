/-!
# Places in a pattern

A position lies between two characters of a pattern, and a span goes from one position to another.
Messages point at spans by line and column.
-/

namespace RuntimeSlots.Pattern

/-- A position in a pattern.  Lines and columns count from one. -/
structure Position where
  /-- How many characters stand in front. -/
  offset : Nat
  line : Nat
  column : Nat
deriving DecidableEq, Repr

namespace Position

/-- The position in front of the first character. -/
def first : Position := ⟨0, 1, 1⟩

/-- The position behind a character. -/
def next (position : Position) (c : Char) : Position :=
  if c = '\n' then ⟨position.offset + 1, position.line + 1, 1⟩
  else ⟨position.offset + 1, position.line, position.column + 1⟩

end Position

/-- A part of a pattern. -/
structure Span where
  start : Position
  stop : Position
deriving DecidableEq, Repr

namespace Span

/-- The empty span at a position. -/
def empty (position : Position) : Span := ⟨position, position⟩

/-- The span ends on the line on which it starts. -/
def isOneLine (span : Span) : Bool := span.start.line == span.stop.line

/-- How many columns a span on one line takes; even an empty one is shown by one. -/
def width (span : Span) : Nat := max 1 (span.stop.column - span.start.column)

/-- The span starts behind the other one, or with it and ends behind it. -/
def isBehind (span other : Span) : Bool :=
  other.start.offset < span.start.offset ||
    (other.start.offset == span.start.offset && other.stop.offset < span.stop.offset)

end Span

end RuntimeSlots.Pattern
