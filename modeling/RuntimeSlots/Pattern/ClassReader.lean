import RuntimeSlots.Pattern.Escape

/-!
# Classes in brackets

A class lists characters, ranges and other classes between brackets.  Doubled operators combine
what stands on their two sides, the first ones first.
-/

namespace RuntimeSlots.Pattern

/-- The items of a class that were read, the last one first. -/
structure ItemList where
  span : Span
  items : List ClassItem := []

namespace ItemList

/-- No items yet, at a position. -/
def start (position : Position) : ItemList where
  span := .empty position

/-- One more item, which extends the span up to its end. -/
def push (list : ItemList) (item : ClassItem) : ItemList where
  span := ⟨if list.items.isEmpty then item.span.start else list.span.start, item.span.stop⟩
  items := item :: list.items

/-- The items as one. -/
def toItem (list : ItemList) : ClassItem :=
  match list.items with
  | [] => .empty list.span
  | [item] => item
  | items => .union list.span items.reverse

end ItemList

/-- The left side of an operator that waits for its right side. -/
structure PendingOperation where
  operator : SetOperator
  left : ClassSet

/-- The set of what waits and the items behind it. -/
def combine (pending : Option PendingOperation) (list : ItemList) : ClassSet :=
  let right := ClassSet.item list.toItem
  match pending with
  | none => right
  | some operation =>
    .operation ⟨operation.left.span.start, right.span.stop⟩ operation.operator operation.left right

/-- The start of a class: its span up to where the items begin, and the items that only mean
themselves there. -/
structure Opening where
  span : Span
  negated : Bool
  list : ItemList

/-- A class in brackets that was read. -/
structure BracketedClass where
  span : Span
  negated : Bool
  set : ClassSet

/-- The names of classes that have one. -/
def classNames : List String :=
  ["alnum", "alpha", "ascii", "blank", "cntrl", "digit", "graph", "lower", "print", "punct",
   "space", "upper", "word", "xdigit"]

/-- Whether a named class is negated and how many characters it takes, if the text begins with
one. -/
def namedClass? : List Char → Option (Bool × Nat)
  | '[' :: ':' :: body =>
    let negated := body.head? = some '^'
    let inner := if negated then body.tail else body
    let name := inner.takeWhile (· != ':')
    match inner.drop name.length with
    | ':' :: ']' :: _ =>
      if classNames.contains (String.ofList name) then
        some (negated, name.length + (if negated then 5 else 4))
      else none
    | _ => none
  | _ => none

namespace Primitive

/-- The primitive as a part of a class. -/
def toClassItem : Primitive → Except Fault ClassItem
  | literal value => return .literal value
  | shorthand span negated => return .shorthand span negated
  | property span => return .property span
  | other => throw { mistake := .classEscape, span := other.span }

/-- The primitive as a boundary of a range. -/
def toBoundary : Primitive → Except Fault Literal
  | literal value => return value
  | other => throw { mistake := .classRangeBoundary, span := other.span }

end Primitive

namespace Scan

/-- Reads dashes at the start of a class, which mean themselves there. -/
def readDashes (start : Position) : (fuel : Nat) → ItemList → Scan ItemList
  | 0, list => return list
  | fuel + 1, list => do
    if (← current) = some '-' then
      let item := ClassItem.literal { span := ← charSpan, char := '-' }
      advanceOver
      if (← rest).isEmpty then fail .classUnclosed (.empty start)
      readDashes start fuel (list.push item)
    else return list

/-- Reads the start of a class.  A closing bracket at once behind it means itself. -/
def readOpening : Scan Opening := do
  let start ← here
  advanceOver
  expectMore .classUnclosed start
  let negated := (← current) = some '^'
  if negated then
    advanceOver
    expectMore .classUnclosed start
  let list ← readDashes start (← rest).length (.start (← here))
  if list.items.isEmpty ∧ (← current) = some ']' then
    let item := ClassItem.literal { span := ← charSpan, char := ']' }
    advanceOver
    expectMore .classUnclosed start
    return { span := ⟨start, ← here⟩, negated := negated, list := list.push item }
  else return { span := ⟨start, ← here⟩, negated := negated, list := list }

/-- Reads a character or an escape sequence in a class. -/
def readClassPrimitive : Scan Primitive := do
  match ← current with
  | some '\\' => readEscape
  | some c =>
    let span ← charSpan
    advance
    return .literal { span := span, char := c }
  | none => failHere .classUnclosed

/-- Reads an item of a class: a range if a dash follows that does not end the class. -/
def readRange (opening : Opening) : Scan ClassItem := do
  let first ← readClassPrimitive
  skipBlanks
  if (← rest).isEmpty then fail .classUnclosed opening.span
  let following := (← get).following
  if (← current) ≠ some '-' ∨ following = some ']' ∨ following = some '-' then
    first.toClassItem
  else
    advanceOver
    if (← rest).isEmpty then fail .classUnclosed opening.span
    let second ← readClassPrimitive
    let span : Span := ⟨first.span.start, second.span.stop⟩
    let start ← first.toBoundary
    let stop ← second.toBoundary
    if stop.char < start.char then fail .classRange span
    else return .range span start stop

/-- The operator whose two characters come next. -/
def operator? : List Char → Option SetOperator
  | '&' :: '&' :: _ => some .intersection
  | '-' :: '-' :: _ => some .difference
  | '~' :: '~' :: _ => some .symmetricDifference
  | _ => none

/-- Reads the items of a class up to its closing bracket. -/
def readItems : (fuel : Nat) → Opening → Option PendingOperation → ItemList →
    Scan BracketedClass
  | 0, opening, _, _ => fail .classUnclosed opening.span
  | fuel + 1, opening, pending, list => do
    skipBlanks
    let text ← rest
    match text with
    | [] => fail .classUnclosed opening.span
    | '[' :: _ =>
      match namedClass? text with
      | some (negated, length) =>
        let start ← here
        advanceBy length
        let item := ClassItem.named ⟨start, ← here⟩ negated
        readItems fuel opening pending (list.push item)
      | none =>
        let inner ← readOpening
        let nested ← readItems fuel inner none inner.list
        let item := ClassItem.bracketed nested.span nested.negated nested.set
        readItems fuel opening pending (list.push item)
    | ']' :: _ =>
      advance
      return {
        span := ⟨opening.span.start, ← here⟩
        negated := opening.negated
        set := combine pending list }
    | _ =>
      match operator? text with
      | some operator =>
        advanceBy 2
        readItems fuel opening (some ⟨operator, combine pending list⟩) (.start (← here))
      | none =>
        let item ← readRange opening
        readItems fuel opening pending (list.push item)

/-- Reads a class at whose opening bracket the scan stands. -/
def readClass : Scan BracketedClass := do
  let fuel := (← rest).length + 1
  let opening ← readOpening
  readItems fuel opening none opening.list

end Scan

end RuntimeSlots.Pattern
