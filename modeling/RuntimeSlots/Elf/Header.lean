import RuntimeSlots.Elf.Fault
import RuntimeSlots.Elf.Section

/-!
# ELF headers

The file header tells where the program headers and the section table are.

* `Elf.Header.read` checks and reads the file header.
* `Elf.Header.checkPrograms` checks the program headers.
* `Elf.Header.readSections` reads the section table.
-/

namespace RuntimeSlots.Elf

/-- The fields of the file header. -/
structure Header where
  encoding : Encoding
  kind : Nat
  programsOffset : Nat
  sectionsOffset : Nat
  programEntrySize : Nat
  programCount : Nat
  sectionEntrySize : Nat
  sectionCount : Nat
  /-- The index of the section with the names of sections. -/
  namesIndex : Nat
deriving DecidableEq, Repr

namespace Header

/-- The kind of a linked program. -/
def kindProgram : Nat := 2

/-- The kind of a dynamic library. -/
def kindDynamic : Nat := 3

/-- The fields of the header's bytes. -/
def ofBytes (encoding : Encoding) (bytes : Bytes) : Header where
  encoding := encoding
  kind := encoding.number bytes 16 2
  programsOffset := encoding.address bytes 32 28
  sectionsOffset := encoding.address bytes 40 32
  programEntrySize := encoding.numberAt bytes 54 42 2
  programCount := encoding.numberAt bytes 56 44 2
  sectionEntrySize := encoding.numberAt bytes 58 46 2
  sectionCount := encoding.numberAt bytes 60 48 2
  namesIndex := encoding.numberAt bytes 62 50 2

/-- The byte order that byte 5 of the file announces. -/
def byteOrder? (bytes : Bytes) : Option ByteOrder :=
  match bytes.number .little 5 1 with
  | 1 => some .little
  | 2 => some .big
  | _ => none

/-- Reads the header of a file whose addresses have the given width.  Only version 1 is known. -/
def read (wide : Bool) (file : Bytes) : Except Fault Header := do
  let bytes ← orFault (file.slice? 0 (if wide then 64 else 52)) .header
  let order ← orFault (byteOrder? bytes) .unsupportedHeader
  -- The version has one byte, so the order does not matter to it.
  if bytes.number .little 6 1 = 1 then return ofBytes { wide := wide, order := order } bytes
  else throw .unsupportedHeader

/-- Entry 0 of the section table, which holds the numbers that are too large for the header. -/
def firstSection (header : Header) (file : Bytes) : Except Fault (Option Section) :=
  if header.sectionsOffset = 0 then return none
  else if header.sectionEntrySize ≠ header.encoding.sectionSize then throw .sectionEntrySize
  else do
    let bytes ← orFault
      (file.alignedSlice? header.encoding.wordSize header.sectionsOffset
        header.encoding.sectionSize) .firstSection
    return some (.ofBytes header.encoding bytes)

/-- The number of program headers; a number too large for the header stands in section 0. -/
def countPrograms (header : Header) (file : Bytes) : Except Fault Nat :=
  if header.programCount < 0xFFFF then return header.programCount
  else do
    match ← header.firstSection file with
    | some entry => return entry.info
    | none => throw .missingSectionsForPrograms

/-- Checks that the program headers lie in the file.  Nothing in them is needed. -/
def checkPrograms (header : Header) (file : Bytes) : Except Fault Unit :=
  if header.programsOffset = 0 then return ()
  else do
    let count ← header.countPrograms file
    if count = 0 then return ()
    else if header.programEntrySize ≠ header.encoding.programSize then throw .programEntrySize
    else do
      let _ ← orFault
        (file.alignedSlice? header.encoding.wordSize header.programsOffset
          (count * header.encoding.programSize)) .programHeaders
      return ()

/-- The number of sections; a number too large for the header stands in section 0. -/
def countSections (header : Header) (file : Bytes) : Except Fault Nat :=
  if 0 < header.sectionCount then return header.sectionCount
  else do
    match ← header.firstSection file with
    | some entry => return entry.size
    | none => return 0

/-- The sections of the file. -/
def readSections (header : Header) (file : Bytes) : Except Fault (Array Section) :=
  if header.sectionsOffset = 0 then return #[]
  else do
    let count ← header.countSections file
    if count = 0 then return #[]
    else if header.sectionEntrySize ≠ header.encoding.sectionSize then throw .sectionEntrySize
    else do
      let bytes ← orFault
        (file.alignedSlice? header.encoding.wordSize header.sectionsOffset
          (count * header.encoding.sectionSize)) .sectionHeaders
      return ((bytes.records header.encoding.sectionSize).map
        (Section.ofBytes header.encoding)).toArray

/-- The index of the section with the names of sections; an index too large for the header stands
in section 0. -/
def sectionNamesIndex (header : Header) (file : Bytes) : Except Fault Nat :=
  if header.namesIndex ≠ 0xFFFF then return header.namesIndex
  else do
    match ← header.firstSection file with
    | some entry => return entry.link
    | none => throw .missingSectionNames

/-- Checks that a file with sections has names for them.  The names are not needed. -/
def checkSectionNames (header : Header) (file : Bytes) (sections : Array Section) :
    Except Fault Unit :=
  if sections.isEmpty then return ()
  else do
    let index ← header.sectionNamesIndex file
    if index = 0 then throw .missingSectionNames
    else do
      let entry ← orFault sections[index]? .sectionNamesIndex
      if entry.kind ≠ Section.kindNoBits ∧ UInt64.size ≤ entry.offset + entry.size then
        throw .sectionNamesSize
      else return ()

end Header

end RuntimeSlots.Elf
