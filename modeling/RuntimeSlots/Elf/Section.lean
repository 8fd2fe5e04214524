import RuntimeSlots.ObjectFile.Basic

/-!
# Encodings and sections of ELF files

An ELF file says in its first bytes how wide its addresses are and which byte of a number comes
first; every later structure is laid out accordingly.  Most of the file is divided into sections,
which a table describes.

* `Elf.Encoding` is the choice of width and byte order, with the sizes that follow from it.
* `Elf.Section` is an entry of the section table.
-/

namespace RuntimeSlots.Elf

/-- How wide addresses are and which byte of a number comes first. -/
structure Encoding where
  /-- Addresses take eight bytes, not four. -/
  wide : Bool
  order : ByteOrder
deriving DecidableEq, Repr

namespace Encoding

/-- The size of an address, to which tables are aligned. -/
def wordSize (encoding : Encoding) : Nat := if encoding.wide then 8 else 4

/-- The size of the file header. -/
def headerSize (encoding : Encoding) : Nat := if encoding.wide then 64 else 52

/-- The size of a section header. -/
def sectionSize (encoding : Encoding) : Nat := if encoding.wide then 64 else 40

/-- The size of a program header. -/
def programSize (encoding : Encoding) : Nat := if encoding.wide then 56 else 32

/-- The size of a symbol. -/
def symbolSize (encoding : Encoding) : Nat := if encoding.wide then 24 else 16

/-- The number in the `width` bytes at `offset`. -/
def number (encoding : Encoding) (bytes : Bytes) (offset width : Nat) : Nat :=
  bytes.number encoding.order offset width

/-- The address at the offset that the two layouts give it. -/
def address (encoding : Encoding) (bytes : Bytes) (wideOffset narrowOffset : Nat) : Nat :=
  if encoding.wide then encoding.number bytes wideOffset 8
  else encoding.number bytes narrowOffset 4

/-- The number of the given width at the offset that the two layouts give it. -/
def numberAt (encoding : Encoding) (bytes : Bytes) (wideOffset narrowOffset width : Nat) : Nat :=
  encoding.number bytes (if encoding.wide then wideOffset else narrowOffset) width

end Encoding

/-- An entry of the section table. -/
structure Section where
  kind : Nat
  offset : Nat
  size : Nat
  /-- The index of a section that this one refers to. -/
  link : Nat
  /-- A second reference, whose meaning depends on the kind. -/
  info : Nat
deriving DecidableEq, Repr

namespace Section

/-- The kind of sections with symbols. -/
def kindSymbols : Nat := 2

/-- The kind of sections with strings. -/
def kindStrings : Nat := 3

/-- The kind of relocations with addends. -/
def kindRelocationsWithAddends : Nat := 4

/-- The kind of sections that take no room in the file. -/
def kindNoBits : Nat := 8

/-- The kind of relocations without addends. -/
def kindRelocations : Nat := 9

/-- The kind of sections with symbols for dynamic linking. -/
def kindDynamicSymbols : Nat := 11

/-- The kind of sections with section indices too large for a symbol. -/
def kindExtendedIndices : Nat := 18

/-- The kind of sections with the versions that a file defines. -/
def kindVersionDefinitions : Nat := 0x6FFFFFFD

/-- The kind of sections with the versions that a file requires. -/
def kindVersionRequirements : Nat := 0x6FFFFFFE

/-- The kind of sections with one version index for each dynamic symbol. -/
def kindVersionIndices : Nat := 0x6FFFFFFF

/-- The fields of a section header. -/
def ofBytes (encoding : Encoding) (bytes : Bytes) : Section where
  kind := encoding.number bytes 4 4
  offset := encoding.address bytes 24 16
  size := encoding.address bytes 32 20
  link := encoding.numberAt bytes 40 24 4
  info := encoding.numberAt bytes 44 28 4

/-- The section holds relocations of either form. -/
def isRelocations (entry : Section) : Bool :=
  entry.kind == kindRelocationsWithAddends || entry.kind == kindRelocations

/-- The bytes of the section, if they exist and their offset is a multiple of `alignment`; a
section of this kind takes room in the file. -/
def data? (entry : Section) (file : Bytes) (alignment : Nat) : Option Bytes :=
  file.alignedSlice? alignment entry.offset entry.size

/-- The bytes of the section as an array of items of the given size. -/
def array? (entry : Section) (file : Bytes) (alignment itemSize : Nat) : Option Bytes :=
  (entry.data? file alignment).filter fun bytes => bytes.size % itemSize == 0

end Section

end RuntimeSlots.Elf
