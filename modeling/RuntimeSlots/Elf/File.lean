import RuntimeSlots.Elf.Versions

/-!
# ELF object files

An ELF file has up to two symbol tables: one for linking, whose symbols an audit reads, and one
for loading, whose definitions are the file's exports and whose undefined symbols are its imports.
-/

namespace RuntimeSlots.Elf

/-- The names of the undefined symbols of a dynamic table.  A symbol without a name is passed
over; every other one needs a version that is explained. -/
def importNames (table : SymbolTable) (versions : Option Versions) :
    Except Fault (List Bytes) := do
  let undefinedSymbols := table.symbols.toList.zipIdx.filter fun entry => entry.1.isUndefined
  let names ← undefinedSymbols.mapM fun entry => do
    let name ← table.nameBytes entry.1
    if name.isEmpty then return name
    else
      versions.forM fun versions => versions.check entry.2
      return name
  return names.filter fun name => !name.isEmpty

/-- Reads an ELF file whose addresses have the given width. -/
def read (wide : Bool) (file : Bytes) : Except Fault (ObjectFile Fault) := do
  let header ← Header.read wide file
  header.checkPrograms file
  let sections ← header.readSections file
  header.checkSectionNames file sections
  let symbols ← SymbolTable.find header.encoding file sections Section.kindSymbols
  let dynamic ← SymbolTable.find header.encoding file sections Section.kindDynamicSymbols
  checkRelocations sections symbols.index
  return {
    isImage := header.kind == Header.kindProgram || header.kind == Header.kindDynamic
    symbols := symbols.allSymbols
    exportNames := dynamic.definitionNames
    importNames := do
      let versions ← Versions.find header.encoding file sections
      importNames dynamic versions }

end RuntimeSlots.Elf
