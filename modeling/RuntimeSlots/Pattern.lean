import RuntimeSlots.Pattern.Nesting
import RuntimeSlots.Pattern.Reader
import RuntimeSlots.Pattern.Support

/-!
# Patterns

A pattern describes texts, such as the values that a log filter asks for.  Here it is only checked
whether a text is a pattern that can be used.

* `Pattern.check` checks a text.
* `Pattern.Failure.chain` describes why it cannot be used.
-/

namespace RuntimeSlots.Pattern

/-- Why a text cannot be used as a pattern. -/
inductive Failure
  /-- The text is no pattern, or one that asks for too much. -/
  | invalid (pattern : String) (fault : Fault)
  /-- The pattern depends on what a word of Unicode is. -/
  | unicodeWords
deriving DecidableEq, Repr

/-- The text of the failure. -/
def Failure.message : Failure → String
  | invalid _ _ => "error building NFA"
  | unicodeWords =>
    "unsupported regex feature for DFAs: cannot build DFAs for regexes with Unicode word " ++
      "boundaries; switch to ASCII word boundaries, or heuristically enable Unicode word " ++
      "boundaries or use a different regex engine"

/-- What failed, from the outermost description to the innermost cause. -/
def Failure.chain : Failure → List String
  | invalid pattern fault =>
    [message (invalid pattern fault), "error parsing regex", fault.report pattern]
  | unicodeWords => [message unicodeWords]

/-- Reads a pattern and checks it: the nesting first, and then what it asks for. -/
def examine (text : String) : Except Fault Bool := do
  let pattern ← Expression.ofText text
  pattern.checkNesting
  let (_, asksWords) ← pattern.support {}
  return asksWords

/-- Checks whether a text is a pattern that can be used. -/
def check (text : String) : Except Failure Unit :=
  match examine text with
  | .error fault => throw (.invalid text fault)
  | .ok true => throw .unicodeWords
  | .ok false => return ()

end RuntimeSlots.Pattern
