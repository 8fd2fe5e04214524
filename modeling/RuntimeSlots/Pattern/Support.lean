import RuntimeSlots.Pattern.Fault
import RuntimeSlots.Pattern.Syntax

/-!
# What patterns can ask for

A pattern matches text in UTF-8, for which a flag decides whether it is read as characters or as
bytes.  There are no tables of Unicode: its classes, its properties and the case of its letters
cannot be asked for.  Of bytes a pattern may only match those that are characters by themselves.

* `Flags` are the flags that matter for this.
* `ClassItem.extent`, `ClassSet.extent` and `Expression.support` find the first fault.
-/

namespace RuntimeSlots.Pattern

/-- The flags on which it depends what a pattern can ask for. -/
structure Flags where
  ignoreCase : Bool := false
  unicode : Bool := true
deriving DecidableEq, Repr

/-- The flags behind a change. -/
def Flags.change (flags : Flags) (change : FlagChange) : Flags where
  ignoreCase := change.apply .ignoreCase flags.ignoreCase
  unicode := change.apply .unicode flags.unicode

/-- How much a class holds, as far as it matters: where case is ignored, nothing and everything need
no table. -/
inductive Extent
  | nothing
  | something
  | everything
deriving DecidableEq, Repr

namespace Extent

/-- What is in either class. -/
def union : Extent → Extent → Extent
  | nothing, other => other
  | other, nothing => other
  | everything, everything => everything
  | _, _ => something

/-- What is not in the class. -/
def negate : Extent → Extent
  | nothing => everything
  | something => something
  | everything => nothing

/-- What an operator makes of two classes. -/
def combine : SetOperator → Extent → Extent → Extent
  | _, nothing, nothing => nothing
  | .intersection, everything, everything => everything
  | .intersection, nothing, _ | .intersection, _, nothing => nothing
  | .difference, nothing, _ | .difference, everything, everything => nothing
  | .difference, other, nothing => other
  | .symmetricDifference, everything, everything => nothing
  | .symmetricDifference, nothing, other | .symmetricDifference, other, nothing => other
  | _, _, _ => something

end Extent

/-- A fault at a span. -/
def refuse {α : Type} (mistake : Mistake) (span : Span) : Except Fault α :=
  throw { mistake := mistake, span := span }

namespace Flags

/-- Extends a class to both cases of its letters. -/
def foldCase (flags : Flags) (span : Span) (extent : Extent) : Except Fault Extent :=
  if flags.ignoreCase ∧ flags.unicode ∧ extent = .something then refuse .caseUnavailable span
  else return extent

/-- Extends a class to both cases of its letters and then negates it, if it is negated.  No
negated class of bytes holds only characters. -/
def complete (flags : Flags) (span : Span) (negated : Bool) (extent : Extent) :
    Except Fault Extent := do
  let extent ← flags.foldCase span extent
  if negated then
    if flags.unicode then return extent.negate else refuse .invalidUtf8 span
  else return extent

/-- Checks that a literal is no byte which is no character. -/
def checkByte (flags : Flags) (literal : Literal) : Except Fault Unit := do
  if !flags.unicode && literal.isByte && '\x7F' < literal.char then
    refuse .invalidUtf8 literal.span

/-- Checks a literal in a class; one for bytes holds nothing beyond ASCII. -/
def checkClassLiteral (flags : Flags) (literal : Literal) : Except Fault Unit := do
  flags.checkByte literal
  if !flags.unicode && '\x7F' < literal.char then refuse .unicodeNotAllowed literal.span

/-- Checks a class that has a letter for its name. -/
def checkShorthand (flags : Flags) (span : Span) (negated : Bool) : Except Fault Unit := do
  if flags.unicode then refuse .shorthandUnavailable span
  else if negated then refuse .invalidUtf8 span

/-- Refuses a property of Unicode. -/
def refuseProperty {α : Type} (flags : Flags) (span : Span) : Except Fault α :=
  refuse (if flags.unicode then .propertyUnknown else .unicodeNotAllowed) span

end Flags

mutual

/-- How much an item of a class holds, if it can be asked for. -/
def ClassItem.extent (flags : Flags) : ClassItem → Except Fault Extent
  | .empty _ => return .nothing
  | .literal value => do
    flags.checkClassLiteral value
    return .something
  | .range _ start stop => do
    flags.checkClassLiteral start
    flags.checkClassLiteral stop
    return .something
  | .named span negated => flags.complete span negated .something
  | .shorthand span negated => do
    flags.checkShorthand span negated
    return .something
  | .property span => flags.refuseProperty span
  | .bracketed span negated set => do flags.complete span negated (← set.extent flags)
  | .union _ items => ClassItem.unionExtent flags items .nothing

/-- How much the items of a class hold together with what is in it so far. -/
def ClassItem.unionExtent (flags : Flags) : List ClassItem → Extent → Except Fault Extent
  | [], soFar => return soFar
  | item :: items, soFar => do
    let extent ← item.extent flags
    ClassItem.unionExtent flags items (soFar.union extent)

/-- How much a set holds, if it can be asked for. -/
def ClassSet.extent (flags : Flags) : ClassSet → Except Fault Extent
  | .item value => value.extent flags
  | .operation _ operator left right => do
    let leftExtent ← left.extent flags
    let rightExtent ← right.extent flags
    let rightFolded ← flags.foldCase right.span rightExtent
    let leftFolded ← flags.foldCase left.span leftExtent
    return .combine operator leftFolded rightFolded

end

/-- Checks a primitive, and says whether it asks what a word of Unicode is. -/
def Primitive.support (flags : Flags) : Primitive → Except Fault Bool
  | literal value => do
    flags.checkByte value
    if flags.ignoreCase ∧ flags.unicode then refuse .caseUnavailable value.span
    else return false
  | dot span => if flags.unicode then return false else refuse .invalidUtf8 span
  | assertion _ isAboutWords => return isAboutWords && flags.unicode
  | shorthand span negated => do
    flags.checkShorthand span negated
    return false
  | property span => flags.refuseProperty span

mutual

/-- Checks a pattern: the flags behind it, and whether it asks what a word of Unicode is. -/
def Expression.support (flags : Flags) : Expression → Except Fault (Flags × Bool)
  | .empty _ => return (flags, false)
  | .primitive value => return (flags, ← value.support flags)
  | .flags _ change => return (flags.change change, false)
  | .bracketed span negated set => do
    let _ ← flags.complete span negated (← set.extent flags)
    return (flags, false)
  | .repetition _ part => part.support flags
  | .group _ change part => do
    let (_, asksWords) ← part.support (flags.change change)
    return (flags, asksWords)
  | .alternation _ parts | .concatenation _ parts => Expression.allSupport flags parts

/-- Checks some patterns one after another. -/
def Expression.allSupport (flags : Flags) : List Expression → Except Fault (Flags × Bool)
  | [] => return (flags, false)
  | part :: parts => do
    let (next, asksWords) ← part.support flags
    let (last, alsoAsksWords) ← Expression.allSupport next parts
    return (last, asksWords || alsoAsksWords)

end

end RuntimeSlots.Pattern
