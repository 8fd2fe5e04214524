import RuntimeSlots.ObjectFile.Basic

/-!
# COFF symbol tables

A COFF symbol table is an array of records of one size.  A symbol takes one record and as many
auxiliary records after it as it says.  Names of up to eight bytes stand in the record, longer
ones in the string table behind the symbols.

* `Coff.SymbolTable.read` finds both tables in a file.
* `Coff.SymbolTable.symbols` is the list of symbols.
-/

namespace RuntimeSlots.Coff

/-- What can be wrong with a COFF file. -/
inductive Fault
  | fileHeader
  | bigFileHeader
  | sectionHeaders
  | symbolTable
  | stringTable
  | auxiliaryRecords
  | nameOffset
  | nameText
deriving DecidableEq, Repr

/-- The text that reports the fault. -/
def Fault.message : Fault → String
  | fileHeader => "Invalid COFF file header size or alignment"
  | bigFileHeader => "Invalid COFF bigobj file header size or alignment"
  | sectionHeaders => "Invalid COFF/PE section headers"
  | symbolTable => "Invalid COFF symbol table offset or size"
  | stringTable => "Missing COFF string table"
  | auxiliaryRecords => "Invalid COFF symbol index"
  | nameOffset => "Invalid COFF symbol name offset"
  | nameText => "Non UTF-8 COFF symbol name"

/-- The number in the `width` bytes at `offset`; all numbers of the format are little-endian. -/
def number (bytes : Bytes) (offset width : Nat) : Nat := bytes.number .little offset width

/-- The two forms of a symbol record, which differ in the width of the section number. -/
inductive RecordForm
  | standard
  | big
deriving DecidableEq, Repr

namespace RecordForm

/-- The width of a section number. -/
def sectionWidth : RecordForm → Nat
  | standard => 2
  | big => 4

/-- The size of a symbol record: a name of 8 bytes, a value of 4, the section number, a type of 2,
a storage class of 1 and a count of 1. -/
def size (form : RecordForm) : Nat := 16 + form.sectionWidth

end RecordForm

/-- The storage class of symbols visible to other files. -/
def classExternal : Nat := 2

/-- The storage class of symbols that hold the name of a source file. -/
def classFile : Nat := 103

/-- The storage class of weak references to symbols of other files. -/
def classWeakExternal : Nat := 105

/-- A symbol record. -/
structure SymbolRecord where
  /-- The eight bytes that hold a short name or the place of a long one. -/
  nameField : Bytes
  value : Nat
  /-- Zero for a symbol that no section of the file defines. -/
  sectionNumber : Nat
  storageClass : Nat
  /-- How many auxiliary records follow. -/
  auxCount : Nat

/-- The fields of a record. -/
def SymbolRecord.ofBytes (form : RecordForm) (bytes : Bytes) : SymbolRecord where
  nameField := bytes.extract 0 8
  value := number bytes 8 4
  sectionNumber := number bytes 12 form.sectionWidth
  storageClass := number bytes (14 + form.sectionWidth) 1
  auxCount := number bytes (15 + form.sectionWidth) 1

namespace SymbolRecord

/-- The symbol has to be defined by another file.  A symbol without section but with a value is a
common block, which counts as a definition. -/
def isUndefined (symbol : SymbolRecord) : Bool :=
  symbol.storageClass == classExternal && symbol.sectionNumber == 0 && symbol.value == 0

/-- The symbol is not visible to other files. -/
def isLocal (symbol : SymbolRecord) : Bool :=
  symbol.storageClass != classExternal && symbol.storageClass != classWeakExternal

end SymbolRecord

/-- A symbol table with its string table. -/
structure SymbolTable where
  form : RecordForm
  /-- The file in which the string table stands. -/
  file : Bytes
  /-- The records one after another. -/
  records : Bytes
  /-- How many records there are. -/
  count : Nat
  /-- Where the string table begins and ends in the file; it begins with its own length. -/
  stringsStart : Nat
  stringsStop : Nat

namespace SymbolTable

/-- The table without symbols and without strings. -/
def empty (form : RecordForm) : SymbolTable where
  form := form
  file := ByteArray.empty
  records := ByteArray.empty
  count := 0
  stringsStart := 0
  stringsStop := 0

/-- Finds the table of `count` records at `offset` and the string table behind it.  Offset zero
means that the file has neither. -/
def read (form : RecordForm) (file : Bytes) (offset count : Nat) : Except Fault SymbolTable :=
  if offset = 0 then .ok (empty form)
  else do
    let records ← orFault (file.slice? offset (count * form.size)) .symbolTable
    let stringsStart := offset + count * form.size
    -- The length of the string table counts its own four bytes.
    let length ← orFault (file.slice? stringsStart 4) .stringTable
    return {
      form := form
      file := file
      records := records
      count := count
      stringsStart := stringsStart
      stringsStop := stringsStart + number length 0 4 }

/-- The record at `index`. -/
def record (table : SymbolTable) (index : Nat) : SymbolRecord :=
  .ofBytes table.form
    (table.records.extract (index * table.form.size) ((index + 1) * table.form.size))

/-- The bytes of the name of the symbol at `index`.  A symbol for a source file has its name in
its auxiliary records. -/
def nameBytes (table : SymbolTable) (index : Nat) (symbol : SymbolRecord) : Except Fault Bytes :=
  if symbol.storageClass = classFile ∧ 0 < symbol.auxCount then do
    let size := table.form.size
    let bytes ← orFault (table.records.slice? ((index + 1) * size) (symbol.auxCount * size))
      .auxiliaryRecords
    return bytes.before 0
  else if number symbol.nameField 0 1 = 0 then
    -- A field that begins with a zero byte holds the place of a long name in its second half.
    orFault (table.file.cString? (table.stringsStart + number symbol.nameField 4 4)
      table.stringsStop) .nameOffset
  else return symbol.nameField.before 0

/-- The symbol at `index`. -/
def symbol (table : SymbolTable) (index : Nat) (entry : SymbolRecord) : Except Fault Symbol := do
  let name ← table.nameBytes index entry
  let name ← orFault name.toText? .nameText
  return { name := name, isUndefined := entry.isUndefined, isLocal := entry.isLocal }

/-- The symbols from the record at `index` on; auxiliary records are stepped over, also when the
last symbol claims more of them than there are. -/
def symbolsFrom (table : SymbolTable) (index : Nat) : Except Fault (List Symbol) :=
  if index < table.count then do
    let entry := table.record index
    let first ← table.symbol index entry
    let rest ← table.symbolsFrom (index + 1 + entry.auxCount)
    return first :: rest
  else return []
termination_by table.count - index

/-- The symbols of the table in order, or the fault of the first one without a proper name. -/
def symbols (table : SymbolTable) : Except Fault (List Symbol) := table.symbolsFrom 0

end SymbolTable

end RuntimeSlots.Coff
