import RuntimeSlots.Pattern.Fault
import RuntimeSlots.Pattern.Syntax

/-!
# The nesting of patterns

Patterns may only be nested up to a limit.  Every part that has parts of its own is a level, and
the first part that is too deep is the fault.
-/

namespace RuntimeSlots.Pattern

mutual

/-- The first span in an item of a class for which `room` levels are not enough. -/
def ClassItem.tooDeep? (room : Nat) : ClassItem → Option Span
  | .bracketed span _ set =>
    match room with
    | 0 => some span
    | room + 1 => set.tooDeep? room
  | .union span items =>
    match room with
    | 0 => some span
    | room + 1 => ClassItem.anyTooDeep? room items
  | _ => none

/-- The first span in the items of a class for which `room` levels are not enough. -/
def ClassItem.anyTooDeep? (room : Nat) : List ClassItem → Option Span
  | [] => none
  | item :: items => (item.tooDeep? room).or (ClassItem.anyTooDeep? room items)

/-- The first span in a set for which `room` levels are not enough. -/
def ClassSet.tooDeep? (room : Nat) : ClassSet → Option Span
  | .item value => value.tooDeep? room
  | .operation span _ left right =>
    match room with
    | 0 => some span
    | room + 1 => (left.tooDeep? room).or (right.tooDeep? room)

end

mutual

/-- The first span in a pattern for which `room` levels are not enough. -/
def Expression.tooDeep? (room : Nat) : Expression → Option Span
  | .bracketed span _ set =>
    match room with
    | 0 => some span
    | room + 1 => set.tooDeep? room
  | .repetition span part | .group span _ part =>
    match room with
    | 0 => some span
    | room + 1 => part.tooDeep? room
  | .alternation span parts | .concatenation span parts =>
    match room with
    | 0 => some span
    | room + 1 => Expression.anyTooDeep? room parts
  | _ => none

/-- The first span in some patterns for which `room` levels are not enough. -/
def Expression.anyTooDeep? (room : Nat) : List Expression → Option Span
  | [] => none
  | part :: parts => (part.tooDeep? room).or (Expression.anyTooDeep? room parts)

end

/-- Checks that the pattern is not nested too deep. -/
def Expression.checkNesting (pattern : Expression) : Except Fault Unit :=
  match pattern.tooDeep? nestingLimit with
  | some span => throw { mistake := .nesting, span := span }
  | none => return ()

end RuntimeSlots.Pattern
