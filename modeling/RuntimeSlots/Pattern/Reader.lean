import RuntimeSlots.Pattern.ClassReader

/-!
# Reading patterns

A pattern is read in one walk.  Branches are collected until a group or the pattern ends; a
repetition takes the last part of its branch.

* `Scan.readGroup` reads the start of a group or a change of flags.
* `Scan.readBody` reads the inside of a group.
* `Expression.ofText` reads a whole pattern.
-/

namespace RuntimeSlots.Pattern

/-- The branches of a group that were read, and the parts of the last one, each list with its last
element first. -/
structure Branches where
  start : Position
  done : List Expression := []
  branchStart : Position
  parts : List Expression := []

namespace Branches

/-- The first branch of a group, at a position. -/
def atStart (position : Position) : Branches where
  start := position
  branchStart := position

/-- One more part of the last branch. -/
def push (branches : Branches) (part : Expression) : Branches :=
  { branches with parts := part :: branches.parts }

/-- The last branch as a pattern that ends at a position. -/
def lastBranch (branches : Branches) (stop : Position) : Expression :=
  match branches.parts with
  | [] => .empty ⟨branches.branchStart, stop⟩
  | [part] => part
  | parts => .concatenation ⟨branches.branchStart, stop⟩ parts.reverse

/-- Ends the last branch and begins another one behind the bar. -/
def split (branches : Branches) (stop next : Position) : Branches where
  start := branches.start
  done := branches.lastBranch stop :: branches.done
  branchStart := next

/-- All branches as a pattern that ends at a position. -/
def close (branches : Branches) (stop : Position) : Expression :=
  match branches.done with
  | [] => branches.lastBranch stop
  | done => .alternation ⟨branches.start, stop⟩ (branches.lastBranch stop :: done).reverse

end Branches

/-- What an opening parenthesis begins. -/
inductive GroupStart
  /-- A change of flags, which is complete. -/
  | flags (span : Span) (change : FlagChange)
  /-- A group; the span is that of the parenthesis. -/
  | group (span : Span) (change : FlagChange)

/-- A flag in a list of flags, or the sign that takes back those behind it. -/
structure FlagItem where
  span : Span
  /-- The flag, or none for the sign. -/
  flag : Option Flag
deriving DecidableEq, Repr

/-- The change that a list of flags makes. -/
def FlagChange.ofItems (items : List FlagItem) : FlagChange where
  set := (items.takeWhile fun item => item.flag.isSome).filterMap FlagItem.flag
  unset := (items.dropWhile fun item => item.flag.isSome).filterMap FlagItem.flag

/-- Whether the character can stand in the name of a group, at its start or behind it. -/
def isNameChar (isFirst : Bool) (c : Char) : Bool :=
  if isFirst then c == '_' || Alphanumeric.isLetter c
  else c == '_' || c == '.' || c == '[' || c == ']' || Alphanumeric.holds c

namespace Scan

/-- Passes the first of some texts in front of which the scan stands, if there is such a one. -/
def accept : (texts : List String) → Scan Bool
  | [] => return false
  | text :: others => do
    if text.toList.isPrefixOf (← rest) then
      advanceBy text.length
      return true
    else accept others

/-- Reads flags up to the colon or parenthesis behind them, and then that character. -/
def readFlags : (fuel : Nat) → List FlagItem → Scan (List FlagItem × Bool)
  | 0, _ => failHere .flagEnd
  | fuel + 1, items => do
    match ← current with
    | none => failHere .flagEnd
    | some c =>
      if c = ':' ∨ c = ')' then
        match items.getLast? with
        | some ⟨span, none⟩ => fail .negationDangling span
        | _ =>
          advance
          return (items, c == ':')
      else
        let span ← charSpan
        let flag ←
          if c = '-' then pure none
          else
            match Flag.ofLetter? c with
            | some flag => pure (some flag)
            | none => fail .flagUnknown span
        match items.find? fun item => item.flag == flag with
        | some item =>
          failAgainst (if flag.isSome then .flagDuplicate else .negationRepeated) span item.span
        | none =>
          advance
          readFlags fuel (items ++ [⟨span, flag⟩])

/-- Reads the name of a group up to the bracket behind it, and then that bracket. -/
def readName (start : Position) : (fuel : Nat) → List Char → Scan Unit
  | 0, _ => failHere .nameEnd
  | fuel + 1, name => do
    match ← current with
    | none => failHere .nameEnd
    | some '>' =>
      let span : Span := ⟨start, ← here⟩
      advance
      if name.isEmpty then fail .nameEmpty span
      let text := String.ofList name
      match (← get).names.lookup text with
      | some other => failAgainst .nameDuplicate span other
      | none => modify fun scanner => { scanner with names := (text, span) :: scanner.names }
    | some c =>
      if isNameChar name.isEmpty c then
        advance
        readName start fuel (name ++ [c])
      else failChar .nameCharacter

/-- Reads what an opening parenthesis begins. -/
def readGroup : Scan GroupStart := do
  let parenthesis ← charSpan
  advance
  skipBlanks
  let mark ← here
  if ← accept ["?!", "?<!"] then failFrom .lookAround parenthesis.start
  else if ← accept ["?P<", "?<"] then
    readName (← here) ((← rest).length + 1) []
    return .group parenthesis {}
  else if ← accept ["?"] then
    if (← rest).isEmpty then fail .groupUnclosed parenthesis
    let (items, isGroup) ← readFlags ((← rest).length + 1) []
    let change := FlagChange.ofItems items
    if isGroup then return .group parenthesis change
    else if items.isEmpty then fail .repetitionMissing (.empty mark)
    else return .flags ⟨parenthesis.start, ← here⟩ change
  else return .group parenthesis {}

/-- Takes the part that a repetition repeats, which is the last one of a branch. -/
def takeRepeated (branches : Branches) : Scan (Expression × Branches) := do
  match branches.parts with
  | [] | .flags _ _ :: _ | .empty _ :: _ => failHere .repetitionMissing
  | part :: parts => return (part, { branches with parts := parts })

/-- Reads a repetition that has no count. -/
def readRepetition (branches : Branches) : Scan Branches := do
  let (part, branches) ← takeRepeated branches
  advance
  -- A question mark behind it only changes what the repetition prefers.
  if (← current) = some '?' then advance
  return branches.push (.repetition ⟨part.span.start, ← here⟩ part)

/-- The greatest number that a count can be. -/
def countLimit : Nat := 0xFFFFFFFF

/-- Reads the digits of a number behind those that were read so far. -/
def readDigits : (fuel : Nat) → List Char → Scan (List Char)
  | 0, digits => return digits
  | fuel + 1, digits => do
    match ← current with
    | some c =>
      if c.isDigit then
        advanceOver
        readDigits fuel (digits ++ [c])
      else return digits
    | none => return digits

/-- The number that digits write. -/
def numberOf (digits : List Char) : Nat :=
  digits.foldl (fun number digit => number * 10 + (digit.toNat - '0'.toNat)) 0

/-- Reads a repetition with a count.  Its closing brace is never there. -/
def readCount {α : Type} (branches : Branches) : Scan α := do
  let _ ← takeRepeated branches
  let start ← here
  advanceOver
  expectMore .countUnclosed start
  modify Scanner.skipSpaces
  let first ← here
  let digits ← readDigits (← rest).length []
  let span : Span := ⟨first, ← here⟩
  advanceWhile Blank.holds (← rest).length
  expectMore .countUnclosed start
  if digits.isEmpty then fail .countEmpty span
  else if countLimit < numberOf digits then fail .countInvalid span
  else failFrom .countUnclosed start

/-- Reads a primitive. -/
def readPrimitive (c : Char) : Scan Primitive := do
  if c = '\\' then readEscape
  else
    let span ← charSpan
    advance
    match c with
    | '.' => return .dot span
    | '^' | '$' => return .assertion span false
    | _ => return .literal { span := span, char := c }

/-- Sets whether blanks are passed over. -/
def setIgnoresBlanks (value : Bool) : Scan Unit :=
  modify fun scanner => { scanner with ignoresBlanks := value }

/-- Reads branches up to the end of a group, whose opening parenthesis is given, or of the
pattern.  A change of flags in a group ends with the group. -/
def readBody : (fuel : Nat) → (group : Option Span) → Branches → Scan Expression
  | 0, _, branches => return branches.close (← here)
  | fuel + 1, group, branches => do
    skipBlanks
    match ← current with
    | none =>
      match group with
      | some parenthesis => fail .groupUnclosed parenthesis
      | none => return branches.close (← here)
    | some '(' =>
      let outer := (← get).ignoresBlanks
      match ← readGroup with
      | .flags span change =>
        setIgnoresBlanks (change.apply .ignoreBlanks outer)
        readBody fuel group (branches.push (.flags span change))
      | .group parenthesis change =>
        setIgnoresBlanks (change.apply .ignoreBlanks outer)
        let inner ← readBody fuel (some parenthesis) (.atStart (← here))
        -- Behind the group the flags are those in front of it.
        setIgnoresBlanks outer
        readBody fuel group
          (branches.push (.group ⟨parenthesis.start, ← here⟩ change inner))
    | some ')' =>
      if group.isSome then
        let inner := branches.close (← here)
        advance
        return inner
      else failChar .groupUnopened
    | some '|' =>
      let stop ← here
      advance
      readBody fuel group (branches.split stop (← here))
    | some '[' =>
      let read ← readClass
      readBody fuel group (branches.push (.bracketed read.span read.negated read.set))
    | some '\x7b' => readCount branches
    | some c =>
      if ['?', '*', '+'].contains c then readBody fuel group (← readRepetition branches)
      else readBody fuel group (branches.push (.primitive (← readPrimitive c)))

end Scan

/-- Reads a whole pattern. -/
def Expression.ofText (text : String) : Except Fault Expression :=
  let scanner : Scanner := { rest := text.toList }
  (Scan.readBody (text.length + 1) none (.atStart .first)).run' scanner

end RuntimeSlots.Pattern
