import RuntimeSlots.Elf.File
import RuntimeSlots.Proofs.Bytes.Numbers
import RuntimeSlots.Proofs.Bytes.Strings
import Mathlib.Data.Set.List

/-!
# Written ELF objects

An ELF object for linking as a compiler writes it, reduced to its symbols: a file header, a section
table with three entries, the strings, and the symbols.  Where the tables stand in the file, and
where the names stand in the strings, is the writer's choice.

* `Elf.SourceSymbol` is a symbol before it is written, `Elf.WrittenSymbol` one with a place for its
  name.
* `Elf.WrittenObject` is a file in which all parts of an object stand.
* `Elf.exists_writtenObject` says that every list of symbols that is not too long can be written.
-/

namespace RuntimeSlots.Elf

/-! ## Symbols -/

/-- A symbol before it is written. -/
structure SourceSymbol where
  name : String
  /-- How far the symbol is visible; 0 stands for symbols that only their own file sees. -/
  binding : Fin 16
  type : Fin 16
  visibility : UInt8
  /-- The section that defines the symbol, 0 if none does. -/
  sectionIndex : UInt16
  value : UInt64
  size : UInt64
  zero_notMem : 0 ∉ name.toUTF8.data.toList

namespace SourceSymbol

/-- The name, if the symbol is a definition that other files see. -/
def definedName? (symbol : SourceSymbol) : Option String :=
  if symbol.sectionIndex ≠ 0 ∧ symbol.binding ≠ 0 then some symbol.name else none

/-- The name, if another file has to define the symbol, whatever its binding. -/
def undefinedName? (symbol : SourceSymbol) : Option String :=
  if symbol.sectionIndex = 0 then some symbol.name else none

end SourceSymbol

/-- The encoding of the objects: wide addresses, and numbers with the lowest byte first. -/
def objectEncoding : Encoding := { wide := true, order := .little }

/-- A symbol whose name stands at a position of the strings. -/
structure WrittenSymbol (strings : Bytes) where
  source : SourceSymbol
  position : Nat
  holdsAt_name : strings.HoldsAt position (Bytes.terminated source.name.toUTF8)

namespace WrittenSymbol

variable {strings : Bytes}

/-- The entry of the symbol table. -/
def bytes (symbol : WrittenSymbol strings) : Bytes :=
  Bytes.little 4 symbol.position ++
    Bytes.little 1 (16 * symbol.source.binding + symbol.source.type) ++
    Bytes.little 1 symbol.source.visibility.toNat ++
    Bytes.little 2 symbol.source.sectionIndex.toNat ++
    Bytes.little 8 symbol.source.value.toNat ++
    Bytes.little 8 symbol.source.size.toNat

theorem size_bytes (symbol : WrittenSymbol strings) :
    symbol.bytes.size = objectEncoding.symbolSize := by
  simp only [bytes, ByteArray.size_append, Bytes.size_little]
  rfl

end WrittenSymbol

/-- The entries of the symbol table: an empty one, and the symbols. -/
def symbolEntries {strings : Bytes} (symbols : List (WrittenSymbol strings)) : List Bytes :=
  Bytes.little 24 0 :: symbols.map WrittenSymbol.bytes

theorem size_of_mem_symbolEntries {strings : Bytes} {symbols : List (WrittenSymbol strings)}
    {entry : Bytes} (h : entry ∈ symbolEntries symbols) :
    entry.size = objectEncoding.symbolSize := by
  rcases List.mem_cons.mp h with rfl | hsymbol
  · rw [Bytes.size_little]
    rfl
  · obtain ⟨symbol, -, rfl⟩ := List.mem_map.mp hsymbol
    exact symbol.size_bytes

/-! ## Sections -/

/-- What a section header tells that a reader of symbols does not look at. -/
structure SectionRest where
  name : UInt32
  flags : UInt64
  address : UInt64
  info : UInt32
  alignment : UInt64
  entrySize : UInt64

/-- The header of a section of the given kind that stands at `offset`. -/
def sectionHeader (kind offset size link : Nat) (rest : SectionRest) : Bytes :=
  Bytes.little 4 rest.name.toNat ++ Bytes.little 4 kind ++ Bytes.little 8 rest.flags.toNat ++
    Bytes.little 8 rest.address.toNat ++ Bytes.little 8 offset ++ Bytes.little 8 size ++
    Bytes.little 4 link ++ Bytes.little 4 rest.info.toNat ++ Bytes.little 8 rest.alignment.toNat ++
    Bytes.little 8 rest.entrySize.toNat

theorem size_sectionHeader (kind offset size link : Nat) (rest : SectionRest) :
    (sectionHeader kind offset size link rest).size = objectEncoding.sectionSize := by
  simp only [sectionHeader, ByteArray.size_append, Bytes.size_little]
  rfl

/-! ## File headers -/

/-- The kind of objects for linking. -/
def kindRelocatable : Nat := 1

/-- What a file header tells that a reader of symbols does not look at.  Where program headers
would stand is among it, as there are none. -/
structure HeaderRest where
  abi : UInt8
  abiVersion : UInt8
  machine : UInt16
  version : UInt32
  entry : UInt64
  programsOffset : UInt64
  flags : UInt32
  headerSize : UInt16
  programEntrySize : UInt16

/-- How an object file with wide addresses begins, the lowest byte of a number first. -/
def signature : Bytes := ⟨#[0x7F, 0x45, 0x4C, 0x46, 2, 1, 1]⟩

/-- The file header of an object with three sections, of which section 1 holds the names of
sections. -/
def fileHeader (sectionsOffset : Nat) (rest : HeaderRest) : Bytes :=
  signature ++ Bytes.little 1 rest.abi.toNat ++ Bytes.little 1 rest.abiVersion.toNat ++
    Bytes.little 7 0 ++ Bytes.little 2 kindRelocatable ++ Bytes.little 2 rest.machine.toNat ++
    Bytes.little 4 rest.version.toNat ++ Bytes.little 8 rest.entry.toNat ++
    Bytes.little 8 rest.programsOffset.toNat ++ Bytes.little 8 sectionsOffset ++
    Bytes.little 4 rest.flags.toNat ++ Bytes.little 2 rest.headerSize.toNat ++
    Bytes.little 2 rest.programEntrySize.toNat ++ Bytes.little 2 0 ++
    Bytes.little 2 objectEncoding.sectionSize ++ Bytes.little 2 3 ++ Bytes.little 2 1

theorem size_fileHeader (sectionsOffset : Nat) (rest : HeaderRest) :
    (fileHeader sectionsOffset rest).size = objectEncoding.headerSize := by
  simp only [fileHeader, ByteArray.size_append, Bytes.size_little]
  rfl

/-- Whatever the fields of a header are, `signature` stands in front of them. -/
theorem holdsAt_signature (sectionsOffset : Nat) (rest : HeaderRest) :
    (fileHeader sectionsOffset rest).HoldsAt 0 signature := by
  -- Bracketed to the right, the header is the signature and one part behind it.
  simp only [fileHeader, ByteArray.append_assoc]
  exact Bytes.holdsAt_zero_append ..

/-- The section table: an empty entry, the strings, and the symbols, which are named in the
strings. -/
def sectionHeaders (stringsOffset stringsSize symbolsOffset symbolsSize : Nat)
    (stringsRest symbolsRest : SectionRest) : List Bytes :=
  [Bytes.little 64 0, sectionHeader Section.kindStrings stringsOffset stringsSize 0 stringsRest,
    sectionHeader Section.kindSymbols symbolsOffset symbolsSize 1 symbolsRest]

theorem size_of_mem_sectionHeaders {stringsOffset stringsSize symbolsOffset symbolsSize : Nat}
    {stringsRest symbolsRest : SectionRest} {header : Bytes}
    (h : header ∈ sectionHeaders stringsOffset stringsSize symbolsOffset symbolsSize stringsRest
      symbolsRest) : header.size = objectEncoding.sectionSize := by
  simp only [sectionHeaders, List.mem_cons, List.not_mem_nil, or_false] at h
  rcases h with rfl | rfl | rfl
  · rw [Bytes.size_little]
    rfl
  · exact size_sectionHeader ..
  · exact size_sectionHeader ..

/-! ## Objects -/

/-- A file in which an object stands.  The parts are where the offsets say; the bytes between them
are arbitrary, and parts may overlap where their bytes agree. -/
structure WrittenObject where
  file : Bytes
  strings : Bytes
  symbols : List (WrittenSymbol strings)
  sectionsOffset : Nat
  stringsOffset : Nat
  symbolsOffset : Nat
  headerRest : HeaderRest
  stringsRest : SectionRest
  symbolsRest : SectionRest
  /-- Every position in the file is a number of eight bytes. -/
  size_file_lt : file.size < 2 ^ 64
  /-- Every position in the strings is a number of four bytes. -/
  size_strings_lt : strings.size < 2 ^ 32
  sectionsOffset_pos : 0 < sectionsOffset
  sectionsOffset_mod : sectionsOffset % 8 = 0
  symbolsOffset_mod : symbolsOffset % 8 = 0
  holdsAt_header : file.HoldsAt 0 (fileHeader sectionsOffset headerRest)
  holdsAt_sections : file.HoldsAt sectionsOffset (Bytes.concat (sectionHeaders stringsOffset
    strings.size symbolsOffset (Bytes.concat (symbolEntries symbols)).size stringsRest symbolsRest))
  holdsAt_strings : file.HoldsAt stringsOffset strings
  holdsAt_symbols : file.HoldsAt symbolsOffset (Bytes.concat (symbolEntries symbols))

namespace WrittenObject

/-- The symbols that were written. -/
def sources (object : WrittenObject) : List SourceSymbol :=
  object.symbols.map WrittenSymbol.source

/-- The names of the symbols that the object defines for other files. -/
def definedNames (object : WrittenObject) : List String :=
  object.sources.filterMap SourceSymbol.definedName?

/-- The names of the symbols that other files have to define. -/
def undefinedNames (object : WrittenObject) : List String :=
  object.sources.filterMap SourceSymbol.undefinedName?

end WrittenObject

/-! ## Every list of symbols can be written -/

/-- Strings for the names of the symbols: the empty string first, then the names one behind
another. -/
def nameStrings (symbols : List SourceSymbol) : Bytes :=
  Bytes.terminated ByteArray.empty ++
    Bytes.concat (symbols.map fun symbol => Bytes.terminated symbol.name.toUTF8)

/-- There are no more symbols than positions in their strings, so a bound on the strings bounds
both. -/
theorem length_lt_size_nameStrings (symbols : List SourceSymbol) :
    symbols.length < (nameStrings symbols).size := by
  have hnames : symbols.length ≤
      (Bytes.concat (symbols.map fun symbol => Bytes.terminated symbol.name.toUTF8)).size := by
    -- Every name takes at least the byte that ends it.
    induction symbols with
    | nil => exact Nat.zero_le _
    | cons symbol rest ih =>
      simp only [List.map_cons, Bytes.concat, ByteArray.size_append, Bytes.size_terminated,
        List.length_cons]
      omega
  rw [nameStrings, ByteArray.size_append, Bytes.size_terminated]
  omega

/-- Every symbol of the list can be written if the strings are `nameStrings`. -/
theorem exists_writtenSymbol {symbols : List SourceSymbol} {symbol : SourceSymbol}
    (h : symbol ∈ symbols) :
    ∃ written : WrittenSymbol (nameStrings symbols), written.source = symbol := by
  have hmem : Bytes.terminated symbol.name.toUTF8 ∈
      symbols.map fun symbol => Bytes.terminated symbol.name.toUTF8 := List.mem_map_of_mem h
  obtain ⟨offset, hoffset⟩ := Bytes.exists_holdsAt_concat hmem
  have hnames := (Bytes.holdsAt_append_iff.mp
    (Bytes.holdsAt_zero_self (nameStrings symbols))).2
  exact ⟨⟨symbol, _, hnames.trans hoffset⟩, rfl⟩

/-- The size that strings take when they are filled up to a multiple of eight. -/
def filledSize (strings : Bytes) : Nat := (strings.size + 7) / 8 * 8

/-- An object in which the strings, the symbols and the section table stand in this order behind the
file header. -/
def arranged {strings : Bytes} (symbols : List (WrittenSymbol strings)) (headerRest : HeaderRest)
    (stringsRest symbolsRest : SectionRest) : Bytes :=
  let entries := Bytes.concat (symbolEntries symbols)
  fileHeader (64 + filledSize strings + entries.size) headerRest ++
    strings.padded (filledSize strings) ++ entries ++
    Bytes.concat (sectionHeaders 64 strings.size (64 + filledSize strings) entries.size stringsRest
      symbolsRest)

theorem size_arranged {strings : Bytes} (symbols : List (WrittenSymbol strings))
    (headerRest : HeaderRest) (stringsRest symbolsRest : SectionRest) :
    (arranged symbols headerRest stringsRest symbolsRest).size =
      64 + filledSize strings + 24 * (symbols.length + 1) + 192 := by
  have hpadded : (strings.padded (filledSize strings)).size = filledSize strings :=
    Bytes.size_padded (by rw [filledSize]; omega)
  have hheader : objectEncoding.headerSize = 64 := rfl
  -- The entries are the symbols and the empty one.
  have hentries : (Bytes.concat (symbolEntries symbols)).size = (symbols.length + 1) * 24 := by
    rw [Bytes.size_concat fun _ => size_of_mem_symbolEntries, symbolEntries, List.length_cons,
      List.length_map]
    rfl
  rw [arranged, ByteArray.size_append, ByteArray.size_append, ByteArray.size_append,
    size_fileHeader, hpadded, hentries, Bytes.size_concat fun _ => size_of_mem_sectionHeaders,
    hheader, Nat.mul_comm]
  rfl

/-- In the file of `arranged` each part stands behind the sizes of those before it. -/
theorem holdsAt_arranged {strings : Bytes} (symbols : List (WrittenSymbol strings))
    (headerRest : HeaderRest) (stringsRest symbolsRest : SectionRest) :
    let file := arranged symbols headerRest stringsRest symbolsRest
    let entries := Bytes.concat (symbolEntries symbols)
    let symbolsOffset := 64 + filledSize strings
    file.HoldsAt 0 (fileHeader (symbolsOffset + entries.size) headerRest) ∧
      file.HoldsAt 64 strings ∧ file.HoldsAt symbolsOffset entries ∧
      file.HoldsAt (symbolsOffset + entries.size) (Bytes.concat (sectionHeaders 64 strings.size
        symbolsOffset entries.size stringsRest symbolsRest)) := by
  intro file entries symbolsOffset
  have hpadded : (strings.padded (filledSize strings)).size = filledSize strings :=
    Bytes.size_padded (by rw [filledSize]; omega)
  have hheaderSize : (fileHeader (symbolsOffset + entries.size) headerRest).size = 64 :=
    size_fileHeader ..
  -- The parts are taken off the end, one after another.
  have hparts : file.HoldsAt 0 file := Bytes.holdsAt_zero_self file
  obtain ⟨hfront, hsections⟩ := Bytes.holdsAt_append_iff.mp hparts
  obtain ⟨hfront, hsymbols⟩ := Bytes.holdsAt_append_iff.mp hfront
  obtain ⟨hheader, hfilled⟩ := Bytes.holdsAt_append_iff.mp hfront
  obtain ⟨hstrings, -⟩ := Bytes.holdsAt_append_iff.mp hfilled
  rw [ByteArray.size_append, ByteArray.size_append, hpadded, hheaderSize, Nat.zero_add]
    at hsections
  rw [ByteArray.size_append, hpadded, hheaderSize, Nat.zero_add] at hsymbols
  rw [hheaderSize, Nat.zero_add] at hstrings
  exact ⟨hheader, hstrings, hsymbols, hsections⟩

/-- The fields of the file header that `WrittenObject.ofSymbols` fills in by itself. -/
def plainHeader : HeaderRest where
  abi := 0
  abiVersion := 0
  machine := 0x3E
  version := 1
  entry := 0
  programsOffset := 0
  flags := 0
  headerSize := 64
  programEntrySize := 0

/-- The fields of the section headers that `WrittenObject.ofSymbols` fills in by itself. -/
def plainSection : SectionRest where
  name := 0
  flags := 0
  address := 0
  info := 0
  alignment := 0
  entrySize := 0

/-- Symbols with a place for their names, written in the order of `arranged`. -/
def WrittenObject.ofSymbols {strings : Bytes} (symbols : List (WrittenSymbol strings))
    (hstrings : strings.size < 2 ^ 32) (hcount : symbols.length < 2 ^ 32) : WrittenObject where
  file := arranged symbols plainHeader plainSection plainSection
  strings := strings
  symbols := symbols
  sectionsOffset := 64 + filledSize strings + (Bytes.concat (symbolEntries symbols)).size
  stringsOffset := 64
  symbolsOffset := 64 + filledSize strings
  headerRest := plainHeader
  stringsRest := plainSection
  symbolsRest := plainSection
  size_file_lt := by
    rw [size_arranged, filledSize]
    omega
  size_strings_lt := hstrings
  sectionsOffset_pos := by omega
  sectionsOffset_mod := by
    -- The entries have 24 bytes each, a multiple of eight like `filledSize`.
    rw [Bytes.size_concat fun _ => size_of_mem_symbolEntries, filledSize,
      show objectEncoding.symbolSize = 24 from rfl]
    omega
  symbolsOffset_mod := by
    rw [filledSize]
    omega
  holdsAt_header := (holdsAt_arranged ..).1
  holdsAt_sections := (holdsAt_arranged ..).2.2.2
  holdsAt_strings := (holdsAt_arranged ..).2.1
  holdsAt_symbols := (holdsAt_arranged ..).2.2.1

/-- Every list of symbols can be written, unless its names are too long for positions of four
bytes.  The strings begin with a zero byte and stand at a multiple of eight, as they usually do. -/
theorem exists_writtenObject {symbols : List SourceSymbol}
    (h : (nameStrings symbols).size < 2 ^ 32) :
    ∃ object : WrittenObject, object.sources = symbols ∧ object.strings[0]? = some 0 ∧
      object.stringsOffset % 8 = 0 := by
  have hwritten : ∀ symbol ∈ symbols,
      ∃ written : WrittenSymbol (nameStrings symbols), written.source = symbol :=
    fun _ => exists_writtenSymbol
  obtain ⟨written, hsources⟩ := (Set.range_list_map WrittenSymbol.source).ge hwritten
  -- The number of symbols has to be bounded for the offsets, and the strings bound it.
  have hcount : written.length < 2 ^ 32 := by
    have hlength := congrArg List.length hsources
    rw [List.length_map] at hlength
    have hlt := length_lt_size_nameStrings symbols
    omega
  have hoffset : (WrittenObject.ofSymbols written h hcount).stringsOffset = 64 := rfl
  refine ⟨.ofSymbols written h hcount, hsources, ?_, by rw [hoffset]⟩
  have hfirst : (nameStrings symbols)[0]? = some 0 := by
    rw [Bytes.getElem?_eq_getElem?_toList, nameStrings, ByteArray.toList_data_append]
    rfl
  exact hfirst

end RuntimeSlots.Elf
