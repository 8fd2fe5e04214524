import RuntimeSlots.Coff.SymbolTable

/-!
# COFF object files

A COFF file begins with a header that tells where its section headers and its symbols are.  The
big form allows more sections and has a header of its own.  Neither form has exports or imports.
-/

namespace RuntimeSlots.Coff

/-- The fields of a file header that matter for symbols. -/
structure Header where
  sectionsOffset : Nat
  sectionCount : Nat
  symbolsOffset : Nat
  symbolCount : Nat
deriving DecidableEq, Repr

/-- The size of a file header. -/
def headerSize : Nat := 20

/-- The fields of a header that stands at `offset` of its file; the section headers follow behind
an optional header. -/
def Header.ofBytes (offset : Nat) (bytes : Bytes) : Header where
  sectionsOffset := offset + headerSize + number bytes 16 2
  sectionCount := number bytes 2 2
  symbolsOffset := number bytes 8 4
  symbolCount := number bytes 12 4

/-- The size of the file header of the big form. -/
def bigHeaderSize : Nat := 56

/-- The fields of a header of the big form, which begins its file. -/
def Header.ofBigBytes (bytes : Bytes) : Header where
  sectionsOffset := bigHeaderSize
  sectionCount := number bytes 44 4
  symbolsOffset := number bytes 48 4
  symbolCount := number bytes 52 4

/-- The size of a section header. -/
def sectionHeaderSize : Nat := 40

/-- The section headers of a file, one after another. -/
def sectionHeaders (file : Bytes) (offset count : Nat) : Except Fault Bytes :=
  orFault (file.alignedSlice? 4 offset (count * sectionHeaderSize)) .sectionHeaders

/-- The object file with the given header. -/
def readBody (form : RecordForm) (file : Bytes) (header : Header) :
    Except Fault (ObjectFile Fault) := do
  let _ ← sectionHeaders file header.sectionsOffset header.sectionCount
  let table ← SymbolTable.read form file header.symbolsOffset header.symbolCount
  return {
    isImage := false
    symbols := table.symbols
    exportNames := .ok []
    importNames := .ok [] }

/-- Reads a COFF object file. -/
def read (file : Bytes) : Except Fault (ObjectFile Fault) := do
  let header ← orFault (file.slice? 0 headerSize) .fileHeader
  readBody .standard file (.ofBytes 0 header)

/-- Reads a COFF object file of the big form. -/
def readBig (file : Bytes) : Except Fault (ObjectFile Fault) := do
  let header ← orFault (file.slice? 0 bigHeaderSize) .bigFileHeader
  readBody .big file (.ofBigBytes header)

end RuntimeSlots.Coff
