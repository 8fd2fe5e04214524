import RuntimeSlots.Elf.SymbolTable

/-!
# Versions of ELF symbols

A dynamic symbol may carry a version.  Three sections work together: one gives each dynamic symbol
a version index, one lists the versions that the file defines, one those that it requires.  An
index that neither of them explains makes the imports unreadable.

* `Elf.definitionsFrom` and `Elf.requirementsFrom` walk the two chains of records.
* `Elf.Versions.find` collects the indices that have a version.
* `Elf.Versions.check` tests the index of one symbol.
-/

namespace RuntimeSlots.Elf

/-- The number without its top bit, which marks a hidden version. -/
def visibleIndex (index : Nat) : Nat := index % 0x8000

/-- The greatest index that stands for no version: 0 marks local symbols and 1 global ones. -/
def lastReservedIndex : Nat := 1

/-- A version that the file defines. -/
structure Definition where
  /-- The record is about the file itself. -/
  isBase : Bool
  index : Nat
  /-- How many names follow. -/
  auxCount : Nat
  /-- Where the first name record stands. -/
  auxPosition : Nat
deriving DecidableEq, Repr

/-- Reads the definition record at `position`, and how far away the next one is. -/
def readDefinition (encoding : Encoding) (window : Window) (position : Nat) :
    Except Fault (Definition × Nat) := do
  let bytes ← orFault (window.alignedSlice? 4 position 20) .definitionShort
  let aux := encoding.number bytes 12 4
  if window.bytes.size < position + aux then throw .definitionAux
  else return ({
    isBase := encoding.number bytes 2 2 % 2 == 1
    index := visibleIndex (encoding.number bytes 4 2)
    auxCount := encoding.number bytes 6 2
    auxPosition := position + aux }, encoding.number bytes 16 4)

/-- The definition records from `position` on. -/
def definitionsFrom (encoding : Encoding) (window : Window) (position : Nat) :
    Except Fault (List Definition) :=
  if position < window.bytes.size then do
    let (first, step) ← readDefinition encoding window position
    -- A step of zero marks the last record; any other one leads forwards.
    if step = 0 then return [first]
    else if window.bytes.size < position + step then throw .definitionNext
    else
      let rest ← definitionsFrom encoding window (position + step)
      return first :: rest
  else return []
termination_by window.bytes.size - position

/-- A version that the file requires of another file. -/
structure RequiredVersion where
  index : Nat
  /-- Where the version's name stands in the strings. -/
  name : Nat
deriving DecidableEq, Repr

/-- The records of `count` required versions, the first one at `position`. -/
def requiredVersionsFrom (encoding : Encoding) (window : Window) :
    (count position : Nat) → Except Fault (List RequiredVersion)
  | 0, _ => return []
  | count + 1, position => do
    let bytes ← orFault (window.alignedSlice? 4 position 16) .requirementAuxShort
    let next := position + encoding.number bytes 12 4
    if window.bytes.size < next then throw .requirementAuxNext
    else
      let rest ← requiredVersionsFrom encoding window count next
      return {
        index := visibleIndex (encoding.number bytes 6 2)
        name := encoding.number bytes 8 4 } :: rest

/-- What the file requires of one other file. -/
structure Requirement where
  /-- Where the other file's name stands in the strings. -/
  file : Nat
  versions : List RequiredVersion
deriving DecidableEq, Repr

/-- Reads the requirement record at `position`, less its versions: the place of the file's name,
the number of versions, the place of the first of them, and how far away the next record is. -/
def readRequirement (encoding : Encoding) (window : Window) (position : Nat) :
    Except Fault (Nat × Nat × Nat × Nat) := do
  let bytes ← orFault (window.alignedSlice? 4 position 16) .requirementShort
  let aux := encoding.number bytes 8 4
  if window.bytes.size < position + aux then throw .requirementAux
  else return (encoding.number bytes 4 4, encoding.number bytes 2 2, position + aux,
    encoding.number bytes 12 4)

/-- The requirement records from `position` on.  A record's step to the next one is checked before
its versions are read. -/
def requirementsFrom (encoding : Encoding) (window : Window) (position : Nat) :
    Except Fault (List Requirement) :=
  if position < window.bytes.size then do
    let (file, count, auxPosition, step) ← readRequirement encoding window position
    if step ≠ 0 ∧ window.bytes.size < position + step then throw .requirementNext
    else
      let versions ← requiredVersionsFrom encoding window count auxPosition
      let first : Requirement := { file := file, versions := versions }
      if step = 0 then return [first]
      else
        let rest ← requirementsFrom encoding window (position + step)
        return first :: rest
  else return []
termination_by window.bytes.size - position

/-- The index that a definition explains, if it explains one.  Its first name has to be readable;
a definition without names explains nothing. -/
def definedIndex (encoding : Encoding) (window : Window) (strings : Strings)
    (definition : Definition) : Except Fault (Option Nat) :=
  if definition.isBase ∨ definition.index ≤ lastReservedIndex ∨ definition.auxCount = 0 then
    return none
  else do
    let bytes ← orFault (window.alignedSlice? 4 definition.auxPosition 8) .definitionAuxShort
    if window.bytes.size < definition.auxPosition + encoding.number bytes 4 4 then
      throw .definitionAuxNext
    else
      let _ ← orFault (strings.get? (encoding.number bytes 0 4)) .definitionName
      return some definition.index

/-- The index that a required version explains, if it explains one.  The names of the version and
of the other file have to be readable. -/
def requiredIndex (strings : Strings) (file : Nat) (version : RequiredVersion) :
    Except Fault (Option Nat) :=
  if version.index ≤ lastReservedIndex then return none
  else do
    let _ ← orFault (strings.get? version.name) .requirementName
    let _ ← orFault (strings.get? file) .requirementFile
    return some version.index

/-- The bytes of the first section of the given kind, if there is such a section. -/
def sectionWindow (file : Bytes) (sections : Array Section) (kind : Nat) (fault : Fault) :
    Except Fault (Option Window) :=
  match sections.find? fun entry => entry.kind == kind with
  | none => return none
  | some entry => do
    let bytes ← orFault (entry.data? file 1) fault
    return some { origin := entry.offset, bytes := bytes }

/-- The versions of a file's dynamic symbols. -/
structure Versions where
  order : ByteOrder
  /-- The version indices, two bytes for each dynamic symbol. -/
  table : Bytes
  /-- The indices that have a version. -/
  explained : List Nat

namespace Versions

/-- The indices that the definitions and requirements explain, all of whose records are read
before any of their names. -/
def explainedIndices (encoding : Encoding) (strings : Strings)
    (definitions requirements : Option Window) : Except Fault (List Nat) := do
  let defined ← match definitions with
    | some window => definitionsFrom encoding window 0
    | none => pure []
  let required ← match requirements with
    | some window => requirementsFrom encoding window 0
    | none => pure []
  let definedIndices ← match definitions with
    | some window => defined.mapM (definedIndex encoding window strings)
    | none => pure []
  let requiredIndices ← required.mapM fun requirement =>
    requirement.versions.mapM (requiredIndex strings requirement.file)
  return definedIndices.filterMap id ++ requiredIndices.flatten.filterMap id

/-- The versions of a file, if one of its sections gives version indices to symbols. -/
def find (encoding : Encoding) (file : Bytes) (sections : Array Section) :
    Except Fault (Option Versions) :=
  match sections.find? fun entry => entry.kind == Section.kindVersionIndices with
  | none => return none
  | some entry => do
    let table ← orFault (entry.array? file 2 2) .versionTable
    let owner ← sectionAt sections entry.link
    if owner.kind ≠ Section.kindDynamicSymbols ∧ owner.kind ≠ Section.kindSymbols then
      throw .versionSymbolsType
    else
      let symbols ← SymbolTable.ofSection encoding file sections entry.link owner
      let definitions ← sectionWindow file sections Section.kindVersionDefinitions .definitionData
      let requirements ←
        sectionWindow file sections Section.kindVersionRequirements .requirementData
      let explained ← explainedIndices encoding symbols.strings definitions requirements
      return some { order := encoding.order, table := table, explained := explained }

/-- The version index of the dynamic symbol at `position`; a symbol behind the end of the table
counts as global. -/
def indexOf (versions : Versions) (position : Nat) : Nat :=
  match versions.table.slice? (2 * position) 2 with
  | some bytes => visibleIndex (bytes.number versions.order 0 2)
  | none => lastReservedIndex

/-- Checks that the version of the dynamic symbol at `position` is explained. -/
def check (versions : Versions) (position : Nat) : Except Fault Unit :=
  let index := versions.indexOf position
  if index ≤ lastReservedIndex ∨ index ∈ versions.explained then return ()
  else throw .versionIndex

end Versions

end RuntimeSlots.Elf
