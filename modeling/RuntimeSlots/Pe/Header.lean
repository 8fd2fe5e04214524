import RuntimeSlots.Coff.File

/-!
# Headers of PE images

A PE image begins with a stub for another system, which points at the image's own headers: a COFF
file header, an optional header whose size depends on the width of addresses, a list of data
directories, and the section headers.

* `Pe.addressWidth?` recognises an image.
* `Pe.Image.read` reads the headers.
* `Pe.Image.directory?` and the section lookups are what the export and import tables need.
-/

namespace RuntimeSlots.Pe

/-- What can be wrong with a PE image. -/
inductive Fault
  | coff (fault : Coff.Fault)
  | headers
  | optionalHeaderSmall
  | optionalHeaderSize
  | directoryCount
  | exportAddress
  | exportSize
  | exportDirectory
  | exportAddresses
  | missingExportOrdinals
  | exportNamePointers
  | exportOrdinals
  | exportName
  | exportIndex
  | importAddress
  | missingNullDescriptor
  | descriptorName
  | thunkTable
  | missingNullThunk
  | thunkAddress
  | thunkHint
  | thunkName
deriving DecidableEq, Repr

/-- The text that reports the fault. -/
def Fault.message : Fault → String
  | coff fault => fault.message
  | headers => "Invalid PE headers offset or size"
  | optionalHeaderSmall => "PE optional header size is too small"
  | optionalHeaderSize => "Invalid PE optional header size"
  | directoryCount => "Invalid PE number of RVA and sizes"
  | exportAddress => "Invalid data dir virtual address"
  | exportSize => "Invalid data dir size"
  | exportDirectory => "Invalid PE export dir size"
  | exportAddresses => "Invalid PE export address table"
  | missingExportOrdinals => "Missing PE export ordinal table"
  | exportNamePointers => "Invalid PE export name pointer table"
  | exportOrdinals => "Invalid PE export ordinal table"
  | exportName => "Invalid PE export name pointer"
  | exportIndex => "Invalid PE export address index"
  | importAddress => "Invalid import data dir virtual address"
  | missingNullDescriptor => "Missing PE null import descriptor"
  | descriptorName => "Invalid PE import descriptor name"
  | thunkTable => "Invalid PE import thunk table address"
  | missingNullThunk => "Missing PE null import thunk"
  | thunkAddress => "Invalid PE import thunk address"
  | thunkHint => "Missing PE import thunk hint"
  | thunkName => "Missing PE import thunk name"

/-- The number in the `width` bytes at `offset`; all numbers of the format are little-endian. -/
def number (bytes : Bytes) (offset width : Nat) : Nat := bytes.number .little offset width

/-- How far `address` is behind `origin`, in the 32-bit arithmetic of image addresses. -/
def distance (address origin : Nat) : Nat := (address + UInt32.size - origin) % UInt32.size

/-- The width of an image's addresses. -/
inductive Width
  | narrow
  | wide
deriving DecidableEq, Repr

namespace Width

/-- The size of the optional header without the data directories. -/
def optionalHeaderSize : Width → Nat
  | narrow => 96
  | wide => 112

/-- The alignment of the image's headers. -/
def alignment : Width → Nat
  | narrow => 4
  | wide => 8

/-- The size of an import thunk. -/
def thunkSize : Width → Nat
  | narrow => 4
  | wide => 8

/-- The values of a thunk that imports by number are those from this one on. -/
def firstOrdinal : Width → Nat
  | narrow => 0x80000000
  | wide => 0x8000000000000000

end Width

/-- Where the image's own headers begin, as the stub at the start of the file tells. -/
def headersOffset? (file : Bytes) : Option Nat :=
  (file.slice? 0 64).map fun stub => number stub 60 4

/-- The signature in front of the image's own headers. -/
def signature : Bytes := ⟨#[0x50, 0x45, 0, 0]⟩

/-- The width of the addresses of an image, if the file is one: the stub points at the signature,
and the optional header begins with one of two known numbers. -/
def addressWidth? (file : Bytes) : Option Width := do
  let offset ← headersOffset? file
  let headers ← file.alignedSlice? 4 offset 120
  if headers.startsWith signature then
    match number headers 24 2 with
    | 0x10B => some .narrow
    | 0x20B => some .wide
    | _ => none
  else none

/-- A section of an image. -/
structure Section where
  /-- The address at which the section is loaded. -/
  address : Nat
  /-- How much of the section is both in memory and in the file. -/
  size : Nat
  /-- Where the section stands in the file. -/
  offset : Nat
deriving DecidableEq, Repr

namespace Section

/-- The fields of a section header. -/
def ofBytes (bytes : Bytes) : Section where
  address := number bytes 12 4
  size := min (number bytes 8 4) (number bytes 16 4)
  offset := number bytes 20 4

/-- The bytes of the section, if it holds `address` and lies in the file. -/
def window? (entry : Section) (file : Bytes) (address : Nat) : Option Window :=
  if entry.address ≤ address ∧ address - entry.address < entry.size then
    (file.slice? entry.offset entry.size).map fun bytes =>
      { origin := entry.offset, bytes := bytes }
  else none

/-- The bytes of the section from `address` on, if it holds `address` and lies in the file.  File
offsets have 32 bits, so a section whose sum of `offset` and distance is out of their range does not
count. -/
def windowFrom? (entry : Section) (file : Bytes) (address : Nat) : Option Window :=
  let start := address - entry.address
  if entry.address ≤ address ∧ start < entry.size ∧ entry.offset + start < UInt32.size then
    (file.slice? (entry.offset + start) (entry.size - start)).map fun bytes =>
      { origin := entry.offset + start, bytes := bytes }
  else none

end Section

/-- The headers of an image. -/
structure Image where
  file : Bytes
  width : Width
  /-- The flags of the file header. -/
  flags : Nat
  symbols : Coff.SymbolTable
  /-- Address and size of each data directory. -/
  directories : List (Nat × Nat)
  sections : List Section

namespace Image

/-- The number of data directories stands at the end of the optional header. -/
def directoryCount (width : Width) (headers : Bytes) : Nat :=
  number headers (24 + width.optionalHeaderSize - 4) 4

/-- Reads the headers of an image whose addresses have the given width. -/
def read (width : Width) (file : Bytes) : Except Fault Image := do
  let offset ← orFault (headersOffset? file) .headers
  -- The signature and the file header take 24 bytes.
  let fixedSize := 24 + width.optionalHeaderSize
  let headers ← orFault (file.alignedSlice? width.alignment offset fixedSize) .headers
  let fileHeader := Coff.Header.ofBytes (offset + 4) (headers.extract 4 (4 + Coff.headerSize))
  let optionalSize := number headers 20 2
  if optionalSize < width.optionalHeaderSize then throw .optionalHeaderSmall
  else do
    let rest ← orFault
      (file.slice? (offset + fixedSize) (optionalSize - width.optionalHeaderSize))
      .optionalHeaderSize
    let count := directoryCount width headers
    let directories ← orFault (rest.slice? 0 (count * 8)) .directoryCount
    let sections ← (Coff.sectionHeaders file fileHeader.sectionsOffset
      fileHeader.sectionCount).mapError Fault.coff
    return {
      file := file
      width := width
      flags := number headers 22 2
      -- A linked image needs no symbol table, so a broken one counts as none.
      symbols :=
        match Coff.SymbolTable.read .standard file fileHeader.symbolsOffset
            fileHeader.symbolCount with
        | .ok table => table
        | .error _ => .empty .standard
      directories := (directories.records 8).map fun bytes => (number bytes 0 4, number bytes 4 4)
      sections := (sections.records Coff.sectionHeaderSize).map Section.ofBytes }

/-- Address and size of a data directory.  A directory at address zero is absent. -/
def directory? (image : Image) (index : Nat) : Option (Nat × Nat) :=
  image.directories[index]?.filter fun entry => entry.1 != 0

/-- The first section that holds `address` and lies in the file, with its bytes. -/
def sectionAt? (image : Image) (address : Nat) : Option (Section × Window) :=
  image.sections.findSome? fun entry =>
    (entry.window? image.file address).map fun window => (entry, window)

/-- The bytes from `address` on, of the first section that `Section.windowFrom?` accepts. -/
def windowFrom? (image : Image) (address : Nat) : Option Window :=
  image.sections.findSome? fun entry => entry.windowFrom? image.file address

/-- The flag of dynamic libraries. -/
def flagLibrary : Nat := 0x2000

/-- The flag of system files, which count as neither program nor library. -/
def flagSystem : Nat := 0x1000

/-- Whether the image is a linked program or dynamic library. -/
def isImage (image : Image) : Bool :=
  image.flags &&& flagLibrary != 0 || image.flags &&& flagSystem == 0

end Image

end RuntimeSlots.Pe
