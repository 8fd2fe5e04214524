import RuntimeSlots.Pattern.Place

/-!
# The syntax of patterns

A pattern is a tree of expressions over primitives and bracketed classes.  Every part knows its
span.  Of what a part matches the tree keeps only what decides whether the pattern can be used.

* `Primitive` is a pattern without parts.
* `ClassItem` and `ClassSet` are what stands in brackets.
* `Expression` is a whole pattern.
-/

namespace RuntimeSlots.Pattern

/-- A character that stands for itself, perhaps in an escape sequence. -/
structure Literal where
  span : Span
  char : Char
  /-- The character was written by two hexadecimal digits, which may stand for a byte. -/
  isByte : Bool := false
deriving DecidableEq, Repr

/-- The smallest patterns. -/
inductive Primitive
  | literal (value : Literal)
  /-- Any character. -/
  | dot (span : Span)
  /-- A place in the text; some depend on what a word is. -/
  | assertion (span : Span) (isAboutWords : Bool)
  /-- A class that has a letter for its name. -/
  | shorthand (span : Span) (negated : Bool)
  /-- The characters with a property that Unicode defines. -/
  | property (span : Span)
deriving DecidableEq, Repr

/-- The span of a primitive. -/
def Primitive.span : Primitive → Span
  | literal value => value.span
  | dot span => span
  | assertion span _ => span
  | shorthand span _ => span
  | property span => span

/-- The operations between sets of characters. -/
inductive SetOperator
  | intersection
  | difference
  | symmetricDifference
deriving DecidableEq, Repr

mutual

/-- A part of a class in brackets. -/
inductive ClassItem
  | empty (span : Span)
  | literal (value : Literal)
  | range (span : Span) (start stop : Literal)
  /-- A class with a name in brackets and colons. -/
  | named (span : Span) (negated : Bool)
  | shorthand (span : Span) (negated : Bool)
  | property (span : Span)
  | bracketed (span : Span) (negated : Bool) (set : ClassSet)
  | union (span : Span) (items : List ClassItem)

/-- What a class in brackets consists of. -/
inductive ClassSet
  | item (value : ClassItem)
  | operation (span : Span) (operator : SetOperator) (left right : ClassSet)

end

/-- The span of a part of a class. -/
def ClassItem.span : ClassItem → Span
  | empty span => span
  | literal value => value.span
  | range span _ _ => span
  | named span _ => span
  | shorthand span _ => span
  | property span => span
  | bracketed span _ _ => span
  | union span _ => span

/-- The span of a set. -/
def ClassSet.span : ClassSet → Span
  | item value => value.span
  | operation span _ _ _ => span

/-- The flags that patterns can set. -/
inductive Flag
  | ignoreCase
  | multiLine
  | dotMatchesAll
  | swapGreed
  | unicode
  | carriageReturns
  | ignoreBlanks
deriving DecidableEq, Repr

/-- The flag that a letter sets. -/
def Flag.ofLetter? : Char → Option Flag
  | 'i' => some ignoreCase
  | 'm' => some multiLine
  | 's' => some dotMatchesAll
  | 'U' => some swapGreed
  | 'u' => some unicode
  | 'R' => some carriageReturns
  | 'x' => some ignoreBlanks
  | _ => none

/-- The flags that a group or a directive sets, and those that it takes back. -/
structure FlagChange where
  set : List Flag := []
  unset : List Flag := []
deriving DecidableEq, Repr

/-- The value of a flag behind the change. -/
def FlagChange.apply (change : FlagChange) (flag : Flag) (value : Bool) : Bool :=
  change.set.contains flag || (value && !change.unset.contains flag)

/-- A pattern. -/
inductive Expression
  | empty (span : Span)
  | primitive (value : Primitive)
  /-- A change of flags for the rest of the group. -/
  | flags (span : Span) (change : FlagChange)
  | bracketed (span : Span) (negated : Bool) (set : ClassSet)
  | repetition (span : Span) (part : Expression)
  | group (span : Span) (change : FlagChange) (part : Expression)
  | alternation (span : Span) (branches : List Expression)
  | concatenation (span : Span) (parts : List Expression)

/-- The span of a pattern. -/
def Expression.span : Expression → Span
  | empty span => span
  | primitive value => value.span
  | flags span _ => span
  | bracketed span _ _ => span
  | repetition span _ => span
  | group span _ _ => span
  | alternation span _ => span
  | concatenation span _ => span

end RuntimeSlots.Pattern
