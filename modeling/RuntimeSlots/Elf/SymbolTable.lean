import RuntimeSlots.Elf.Header

/-!
# ELF symbol tables

A symbol table is a section with an array of symbols and a reference to a section with their
names.

* `Elf.Strings` is a string section, or none.
* `Elf.SymbolTable.ofSection` reads the table of one section, `Elf.SymbolTable.find` that of the
  first section of a kind.
* `Elf.checkRelocations` checks what the relocation sections refer to.
-/

namespace RuntimeSlots.Elf

/-- The section at `index`; index 0 names no section. -/
def sectionAt (sections : Array Section) (index : Nat) : Except Fault Section :=
  if index = 0 then throw .sectionIndex else orFault sections[index]? .sectionIndex

/-- The strings of a table: a range of the file, or nothing if the table names no string
section. -/
structure Strings where
  file : Bytes
  range : Option (Nat × Nat)

namespace Strings

/-- The string `offset` bytes behind the start of the range.  The range need not lie in the file,
but then no string can be read. -/
def get? (strings : Strings) (offset : Nat) : Option Bytes :=
  match strings.range with
  | some (start, stop) => strings.file.cString? (start + offset) stop
  | none => none

/-- The strings of the section at `index`; index 0 stands for no strings. -/
def read (file : Bytes) (sections : Array Section) (index : Nat) : Except Fault Strings :=
  if index = 0 then return { file := file, range := none }
  else do
    let entry ← sectionAt sections index
    if entry.kind ≠ Section.kindStrings then throw .stringSectionType
    else if UInt64.size ≤ entry.offset + entry.size then throw .stringSectionRange
    else return { file := file, range := some (entry.offset, entry.offset + entry.size) }

end Strings

/-- An entry of a symbol table. -/
structure SymbolRecord where
  /-- Where the name stands in the strings. -/
  name : Nat
  /-- Binding and type. -/
  info : Nat
  /-- The index of the section that defines the symbol, 0 if none does. -/
  sectionIndex : Nat
  size : Nat
deriving DecidableEq, Repr

namespace SymbolRecord

/-- The fields of a symbol. -/
def ofBytes (encoding : Encoding) (bytes : Bytes) : SymbolRecord where
  name := encoding.number bytes 0 4
  info := encoding.numberAt bytes 4 12 1
  sectionIndex := encoding.numberAt bytes 6 14 2
  size := encoding.address bytes 16 8

/-- Another file has to define the symbol. -/
def isUndefined (symbol : SymbolRecord) : Bool := symbol.sectionIndex == 0

/-- The symbol is bound inside its file. -/
def isLocal (symbol : SymbolRecord) : Bool := symbol.info / 16 == 0

/-- The symbol is the definition of a function or of data: it has a section, and a type that says
so or no type but a size. -/
def isDefinition (symbol : SymbolRecord) : Bool :=
  -- The section numbers from 0xFF00 on stand for no section, but for the one that means a large
  -- number.
  let inSection := !symbol.isUndefined &&
    (symbol.sectionIndex < 0xFF00 || symbol.sectionIndex == 0xFFFF)
  let type := symbol.info % 16
  inSection && (type == 1 || type == 2 || (type == 0 && symbol.size != 0))

end SymbolRecord

/-- The symbols of one section and the strings they are named in. -/
structure SymbolTable where
  /-- The index of the section, 0 if there is none. -/
  index : Nat
  symbols : Array SymbolRecord
  strings : Strings

namespace SymbolTable

/-- The table of a file that has none. -/
def empty (file : Bytes) : SymbolTable where
  index := 0
  symbols := #[]
  strings := { file := file, range := none }

/-- Checks the sections with section indices for the symbols of table `index`. -/
def checkExtendedIndices (file : Bytes) (sections : Array Section) (index : Nat) :
    Except Fault Unit :=
  if sections.all fun entry =>
      entry.kind != Section.kindExtendedIndices || entry.link != index ||
        (entry.array? file 4 4).isSome then return ()
  else throw .extendedIndexData

/-- The table in `entry`, which is the section at `index`. -/
def ofSection (encoding : Encoding) (file : Bytes) (sections : Array Section) (index : Nat)
    (entry : Section) : Except Fault SymbolTable := do
  let bytes ← orFault (entry.array? file encoding.wordSize encoding.symbolSize) .symbolTableData
  let strings ← Strings.read file sections entry.link
  checkExtendedIndices file sections index
  return {
    index := index
    symbols := ((bytes.records encoding.symbolSize).map
      (SymbolRecord.ofBytes encoding)).toArray
    strings := strings }

/-- The table in the first section of the given kind. -/
def find (encoding : Encoding) (file : Bytes) (sections : Array Section) (kind : Nat) :
    Except Fault SymbolTable :=
  match sections.findIdx? fun entry => entry.kind == kind with
  | none => return empty file
  | some index => do
    let entry ← orFault sections[index]? .sectionIndex
    ofSection encoding file sections index entry

/-- The bytes of a symbol's name. -/
def nameBytes (table : SymbolTable) (symbol : SymbolRecord) : Except Fault Bytes :=
  orFault (table.strings.get? symbol.name) .symbolNameOffset

/-- The symbol with its name as text. -/
def symbol (table : SymbolTable) (entry : SymbolRecord) : Except Fault Symbol := do
  let name ← table.nameBytes entry
  let name ← orFault name.toText? .symbolNameText
  return { name := name, isUndefined := entry.isUndefined, isLocal := entry.isLocal }

/-- The symbols in order, less the empty entry that comes first. -/
def allSymbols (table : SymbolTable) : Except Fault (List Symbol) :=
  (table.symbols.toList.drop 1).mapM table.symbol

/-- The names of the definitions. -/
def definitionNames (table : SymbolTable) : Except Fault (List Bytes) :=
  (table.symbols.toList.filter SymbolRecord.isDefinition).mapM table.nameBytes

end SymbolTable

/-- Checks a section that may hold relocations for the symbols of table `index`: if it applies to
a section, that one exists and holds no relocations itself. -/
def checkRelocation (sections : Array Section) (index : Nat) (entry : Section) :
    Except Fault Unit :=
  if entry.isRelocations ∧ entry.link = index ∧ entry.info ≠ 0 then
    match sections[entry.info]? with
    | none => throw .relocationTarget
    | some target => if target.isRelocations then throw .relocationOfRelocation else return ()
  else return ()

/-- Checks the relocation sections, the last one first. -/
def checkRelocations (sections : Array Section) (index : Nat) : Except Fault Unit :=
  sections.toList.reverse.forM (checkRelocation sections index)

end RuntimeSlots.Elf
