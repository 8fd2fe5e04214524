import RuntimeSlots.Proofs.Elf.Written
import RuntimeSlots.Proofs.ObjectFile.Formats

/-!
# ELF objects are read back

`Elf.read` finds in an `Elf.WrittenObject` just the symbols that were written, wherever its tables
stand.

* `Elf.WrittenObject.read_header` and `Elf.WrittenObject.readSections_header` read the headers.
* `Elf.WrittenObject.symbol_eq` reads one symbol, `Elf.WrittenObject.find_symbols` the table.
* `Elf.read_file` reads a whole object.
-/

namespace RuntimeSlots.Elf

/-! ## Headers -/

/-- The fields that `Header.ofBytes` sees in the header of a written object. -/
def headerFields (sectionsOffset : Nat) (rest : HeaderRest) : Header where
  encoding := objectEncoding
  kind := kindRelocatable
  programsOffset := rest.programsOffset.toNat
  sectionsOffset := sectionsOffset
  programEntrySize := rest.programEntrySize.toNat
  programCount := 0
  sectionEntrySize := objectEncoding.sectionSize
  sectionCount := 3
  namesIndex := 1

/-- A file header is read as it was written, in a file with anything behind it. -/
theorem ofBytes_of_fileHeader {bytes : Bytes} {sectionsOffset : Nat} {rest : HeaderRest}
    (hbytes : bytes.HoldsAt 0 (fileHeader sectionsOffset rest)) (h : sectionsOffset < 256 ^ 8) :
    Header.ofBytes objectEncoding bytes = headerFields sectionsOffset rest := by
  -- Taking the header apart gives each field its place.
  have hsignature : signature.size = 7 := rfl
  simp only [fileHeader, Bytes.holdsAt_append_iff, ByteArray.size_append, Bytes.size_little,
    hsignature, Nat.zero_add] at hbytes
  obtain ⟨⟨⟨⟨⟨⟨⟨⟨⟨⟨⟨⟨⟨-, hkind⟩, -⟩, -⟩, -⟩, hprograms⟩, hsections⟩, -⟩, -⟩, hprogramSize⟩,
    hprogramCount⟩, hsectionSize⟩, hsectionCount⟩, hnames⟩ := hbytes
  simp only [Header.ofBytes, headerFields, Header.mk.injEq, Encoding.address, Encoding.numberAt,
    Encoding.number, objectEncoding, if_true, true_and]
  refine ⟨?_, ?_, ?_, ?_, ?_, ?_, ?_, ?_⟩
  · exact Bytes.number_of_holdsAt hkind (by decide)
  · exact Bytes.number_of_holdsAt hprograms (UInt64.toNat_lt _)
  · exact Bytes.number_of_holdsAt hsections h
  · exact Bytes.number_of_holdsAt hprogramSize (UInt16.toNat_lt _)
  · exact Bytes.number_of_holdsAt hprogramCount (by decide)
  · exact Bytes.number_of_holdsAt hsectionSize (by decide)
  · exact Bytes.number_of_holdsAt hsectionCount (by decide)
  · exact Bytes.number_of_holdsAt hnames (by decide)

/-- The fields that `Section.ofBytes` sees in a section header. -/
def sectionFields (kind offset size link : Nat) (rest : SectionRest) : Section where
  kind := kind
  offset := offset
  size := size
  link := link
  info := rest.info.toNat

/-- A section header is read as it was written, if its numbers fit their fields. -/
theorem ofBytes_of_sectionHeader {bytes : Bytes} {kind offset size link : Nat}
    {rest : SectionRest} (hbytes : bytes.HoldsAt 0 (sectionHeader kind offset size link rest))
    (hkind : kind < 256 ^ 4) (hoffset : offset < 256 ^ 8) (hsize : size < 256 ^ 8)
    (hlink : link < 256 ^ 4) :
    Section.ofBytes objectEncoding bytes = sectionFields kind offset size link rest := by
  -- Of its ten fields, a reader looks at five.
  simp only [sectionHeader, Bytes.holdsAt_append_iff, ByteArray.size_append, Bytes.size_little,
    Nat.zero_add] at hbytes
  obtain ⟨⟨⟨⟨⟨⟨⟨⟨⟨-, hkindAt⟩, -⟩, -⟩, hoffsetAt⟩, hsizeAt⟩, hlinkAt⟩, hinfoAt⟩, -⟩, -⟩ := hbytes
  simp only [Section.ofBytes, sectionFields, Section.mk.injEq, Encoding.address, Encoding.numberAt,
    Encoding.number, objectEncoding, if_true]
  refine ⟨?_, ?_, ?_, ?_, ?_⟩
  · exact Bytes.number_of_holdsAt hkindAt hkind
  · exact Bytes.number_of_holdsAt hoffsetAt hoffset
  · exact Bytes.number_of_holdsAt hsizeAt hsize
  · exact Bytes.number_of_holdsAt hlinkAt hlink
  · exact Bytes.number_of_holdsAt hinfoAt (UInt32.toNat_lt _)

/-- The fields that `SymbolRecord.ofBytes` sees in the entry of a symbol. -/
def WrittenSymbol.fields {strings : Bytes} (symbol : WrittenSymbol strings) : SymbolRecord where
  name := symbol.position
  info := 16 * symbol.source.binding + symbol.source.type
  sectionIndex := symbol.source.sectionIndex.toNat
  size := symbol.source.size.toNat

/-- The entry of a symbol is read as it was written; binding and type share a byte. -/
theorem ofBytes_of_symbol {bytes strings : Bytes} {symbol : WrittenSymbol strings}
    (hbytes : bytes.HoldsAt 0 symbol.bytes) (hstrings : strings.size < 2 ^ 32) :
    SymbolRecord.ofBytes objectEncoding bytes = symbol.fields := by
  -- The name stands inside of the strings, so its position has four bytes.
  have hposition := symbol.holdsAt_name.le_size
  have hbinding := symbol.source.binding.isLt
  have htype := symbol.source.type.isLt
  simp only [WrittenSymbol.bytes, Bytes.holdsAt_append_iff, ByteArray.size_append,
    Bytes.size_little, Nat.zero_add] at hbytes
  obtain ⟨⟨⟨⟨⟨hname, hinfo⟩, -⟩, hsection⟩, -⟩, hsize⟩ := hbytes
  simp only [SymbolRecord.ofBytes, WrittenSymbol.fields, SymbolRecord.mk.injEq, Encoding.address,
    Encoding.numberAt, Encoding.number, objectEncoding, if_true]
  refine ⟨?_, ?_, ?_, ?_⟩
  · exact Bytes.number_of_holdsAt hname (by omega)
  · exact Bytes.number_of_holdsAt hinfo (by omega)
  · exact Bytes.number_of_holdsAt hsection (UInt16.toNat_lt _)
  · exact Bytes.number_of_holdsAt hsize (UInt64.toNat_lt _)

/-- The empty entry of a symbol table. -/
def emptySymbol : SymbolRecord where
  name := 0
  info := 0
  sectionIndex := 0
  size := 0

theorem ofBytes_emptySymbol :
    SymbolRecord.ofBytes objectEncoding (Bytes.little 24 0) = emptySymbol := by
  decide

/-- The empty entry of a section table. -/
def emptySection : Section where
  kind := 0
  offset := 0
  size := 0
  link := 0
  info := 0

theorem ofBytes_emptySection :
    Section.ofBytes objectEncoding (Bytes.little 64 0) = emptySection := by
  decide

namespace WrittenObject

variable (object : WrittenObject)

/-- The section of the symbols. -/
def symbolsSection : Section :=
  sectionFields Section.kindSymbols object.symbolsOffset
    (Bytes.concat (symbolEntries object.symbols)).size 1 object.symbolsRest

/-- The sections that a reader finds in the object. -/
def sections : Array Section :=
  #[emptySection,
    sectionFields Section.kindStrings object.stringsOffset object.strings.size 0
      object.stringsRest,
    object.symbolsSection]

/-- The entries of the section table. -/
def sectionHeaders : List Bytes :=
  Elf.sectionHeaders object.stringsOffset object.strings.size object.symbolsOffset
    (Bytes.concat (symbolEntries object.symbols)).size object.stringsRest object.symbolsRest

/-- `Section.ofBytes` makes `sections` of the entries of the section table. -/
theorem map_sectionHeaders :
    (object.sectionHeaders.map (Section.ofBytes objectEncoding)).toArray = object.sections := by
  have hfile := object.size_file_lt
  have hstrings := object.holdsAt_strings.le_size
  have hsymbols := object.holdsAt_symbols.le_size
  -- Both sections lie in the file, so their offsets and sizes have eight bytes.
  have hstringsHeader : Section.ofBytes objectEncoding (sectionHeader Section.kindStrings
      object.stringsOffset object.strings.size 0 object.stringsRest) = _ :=
    ofBytes_of_sectionHeader (Bytes.holdsAt_zero_self _) (by decide) (by omega) (by omega)
      (by decide)
  have hsymbolsHeader : Section.ofBytes objectEncoding (sectionHeader Section.kindSymbols
      object.symbolsOffset (Bytes.concat (symbolEntries object.symbols)).size 1
      object.symbolsRest) = _ :=
    ofBytes_of_sectionHeader (Bytes.holdsAt_zero_self _) (by decide) (by omega) (by omega)
      (by decide)
  rw [sectionHeaders, Elf.sectionHeaders, List.map_cons, List.map_cons, List.map_cons,
    List.map_nil, ofBytes_emptySection, hstringsHeader, hsymbolsHeader, sections, symbolsSection]

/-- The header that a reader finds in the object. -/
def header : Header := headerFields object.sectionsOffset object.headerRest

theorem sectionsOffset_lt : object.sectionsOffset < 256 ^ 8 := by
  have hfits := object.holdsAt_sections.le_size
  have hfile := object.size_file_lt
  omega

theorem read_header : Header.read true object.file = .ok object.header := by
  have hslice : object.file.slice? 0 64 =
      some (fileHeader object.sectionsOffset object.headerRest) :=
    object.holdsAt_header.slice?_of_size (size_fileHeader ..)
  have hbytes := Bytes.holdsAt_zero_self (fileHeader object.sectionsOffset object.headerRest)
  -- The signature tells the byte order and the version.
  have hsignature := holdsAt_signature object.sectionsOffset object.headerRest
  have horder : (fileHeader object.sectionsOffset object.headerRest).number .little 5 1 = 1 := by
    have hbyte := hsignature.trans (show signature.HoldsAt 5 (Bytes.little 1 1) from rfl)
    exact Bytes.number_of_holdsAt hbyte (by decide)
  have hversion : (fileHeader object.sectionsOffset object.headerRest).number .little 6 1 = 1 := by
    have hbyte := hsignature.trans (show signature.HoldsAt 6 (Bytes.little 1 1) from rfl)
    exact Bytes.number_of_holdsAt hbyte (by decide)
  have hfields := ofBytes_of_fileHeader hbytes object.sectionsOffset_lt
  rw [Header.read, if_pos rfl, hslice]
  simp only [Header.byteOrder?, horder, orFault, bind, Except.bind, if_pos hversion]
  exact congrArg Except.ok hfields

/-- There are no program headers, so they pass the check wherever they would stand. -/
theorem checkPrograms_header : object.header.checkPrograms object.file = .ok () := by
  rw [Header.checkPrograms]
  split
  case isTrue => rfl
  case isFalse => rfl

theorem readSections_header : object.header.readSections object.file = .ok object.sections := by
  have hoffset : object.header.sectionsOffset ≠ 0 := Nat.ne_of_gt object.sectionsOffset_pos
  have hcount : object.header.countSections object.file = .ok 3 := rfl
  -- The section table is an array of three records.
  have hslice : object.file.alignedSlice? 8 object.sectionsOffset (3 * 64) =
      some (Bytes.concat object.sectionHeaders) := by
    rw [Bytes.alignedSlice?, if_pos object.sectionsOffset_mod]
    exact object.holdsAt_sections.slice?_of_size
      (Bytes.size_concat fun _ => size_of_mem_sectionHeaders)
  have hrecords : (Bytes.concat object.sectionHeaders).records 64 = object.sectionHeaders :=
    Bytes.records_concat (fun _ => size_of_mem_sectionHeaders) (by decide)
  rw [Header.readSections, if_neg hoffset, hcount]
  -- For wide addresses, the sizes of the encoding are numbers.
  change (orFault (object.file.alignedSlice? 8 object.sectionsOffset (3 * 64)) Fault.sectionHeaders
    >>= fun bytes => Except.ok
      ((bytes.records 64).map (Section.ofBytes objectEncoding)).toArray) = _
  rw [hslice, ← object.map_sectionHeaders]
  simp only [orFault, bind, Except.bind, hrecords]

/-- The names of the sections are in section 1, whose end does not wrap around. -/
theorem checkSectionNames_header :
    object.header.checkSectionNames object.file object.sections = .ok () := by
  have hstrings := object.holdsAt_strings.le_size
  have hfile := object.size_file_lt
  -- The strings end in the file, so their end is far from where a sum of 64 bits wraps.
  have hrange : ¬ (Section.kindStrings ≠ Section.kindNoBits ∧
      UInt64.size ≤ object.stringsOffset + object.strings.size) := by
    rintro ⟨-, hlarge⟩
    simp only [UInt64.size] at hlarge
    omega
  rw [Header.checkSectionNames, if_neg (by simp [sections])]
  exact if_neg hrange

/-! ## Symbol tables -/

/-- The symbol table that a reader finds in the object. -/
def table : SymbolTable where
  index := 2
  symbols := (emptySymbol :: object.symbols.map WrittenSymbol.fields).toArray
  strings := {
    file := object.file
    range := some (object.stringsOffset, object.stringsOffset + object.strings.size) }

theorem map_symbolEntries :
    (symbolEntries object.symbols).map (SymbolRecord.ofBytes objectEncoding) =
      emptySymbol :: object.symbols.map WrittenSymbol.fields := by
  have hsymbols : object.symbols.map (SymbolRecord.ofBytes objectEncoding ∘ WrittenSymbol.bytes) =
      object.symbols.map WrittenSymbol.fields :=
    List.map_congr_left fun symbol _ =>
      ofBytes_of_symbol (Bytes.holdsAt_zero_self symbol.bytes) object.size_strings_lt
  rw [symbolEntries, List.map_cons, ofBytes_emptySymbol, List.map_map, hsymbols]

theorem read_strings :
    Strings.read object.file object.sections 1 = .ok object.table.strings := by
  have hstrings := object.holdsAt_strings.le_size
  have hfile := object.size_file_lt
  have hrange : ¬ UInt64.size ≤ object.stringsOffset + object.strings.size := by
    simp only [UInt64.size]
    omega
  exact if_neg hrange

/-- `Section.array?` accepts the section of the symbols: it is aligned, and its size is a multiple
of that of an entry. -/
theorem array?_symbolsSection :
    object.symbolsSection.array? object.file 8 24 =
      some (Bytes.concat (symbolEntries object.symbols)) := by
  have hslice : object.symbolsSection.data? object.file 8 =
      some (Bytes.concat (symbolEntries object.symbols)) := by
    rw [Section.data?, Bytes.alignedSlice?]
    exact (if_pos object.symbolsOffset_mod).trans object.holdsAt_symbols
  -- The entries leave no bytes over.
  have hwhole : (Bytes.concat (symbolEntries object.symbols)).size % 24 = 0 := by
    rw [Bytes.size_concat fun _ => size_of_mem_symbolEntries]
    exact Nat.mul_mod_left ..
  rw [Section.array?, hslice, Option.filter_some, if_pos (by rw [hwhole]; rfl)]

/-- `SymbolTable.ofSection` finds the `table` that was written. -/
theorem ofSection_symbolsSection :
    SymbolTable.ofSection objectEncoding object.file object.sections 2 object.symbolsSection =
      .ok object.table := by
  have hrecords : (Bytes.concat (symbolEntries object.symbols)).records
      objectEncoding.symbolSize = symbolEntries object.symbols :=
    Bytes.records_concat (fun _ => size_of_mem_symbolEntries) (by decide)
  -- No section holds section numbers that are too large for an entry.
  have hextended : SymbolTable.checkExtendedIndices object.file object.sections 2 = .ok () := by
    rw [SymbolTable.checkExtendedIndices, sections, List.all_toArray]
    rfl
  have harray : object.symbolsSection.array? object.file objectEncoding.wordSize
      objectEncoding.symbolSize = some (Bytes.concat (symbolEntries object.symbols)) :=
    object.array?_symbolsSection
  have hstrings : Strings.read object.file object.sections object.symbolsSection.link =
      .ok object.table.strings := object.read_strings
  rw [SymbolTable.ofSection, harray, hstrings]
  simp only [orFault, bind, Except.bind, hextended, hrecords, map_symbolEntries]
  rfl

/-- `SymbolTable.find` takes the first section of symbols, which is section 2. -/
theorem find_symbols :
    SymbolTable.find objectEncoding object.file object.sections Section.kindSymbols =
      .ok object.table := by
  have hfind : object.sections.findIdx? (fun entry => entry.kind == Section.kindSymbols) =
      some 2 := by
    rw [sections, List.findIdx?_toArray]
    rfl
  rw [SymbolTable.find, hfind]
  exact object.ofSection_symbolsSection

/-- There are no symbols for loading, in which exports and imports would be looked for. -/
theorem find_dynamicSymbols :
    SymbolTable.find objectEncoding object.file object.sections Section.kindDynamicSymbols =
      .ok (SymbolTable.empty object.file) := by
  have hfind : object.sections.findIdx? (fun entry => entry.kind == Section.kindDynamicSymbols) =
      none := by
    rw [sections, List.findIdx?_toArray]
    rfl
  rw [SymbolTable.find, hfind]
  rfl

theorem checkRelocations_sections :
    checkRelocations object.sections object.table.index = .ok () := by
  rfl

theorem find_versions : Versions.find objectEncoding object.file object.sections = .ok none := by
  rfl

end WrittenObject

/-! ## Symbols -/

/-- The `Symbol` that a reader makes of the symbol. -/
def SourceSymbol.symbol (source : SourceSymbol) : Symbol where
  name := source.name
  isUndefined := decide (source.sectionIndex = 0)
  isLocal := decide (source.binding.val = 0)

theorem WrittenSymbol.isUndefined_fields {strings : Bytes} (symbol : WrittenSymbol strings) :
    symbol.fields.isUndefined = symbol.source.symbol.isUndefined := by
  rw [Bool.eq_iff_iff]
  simp [fields, SymbolRecord.isUndefined, SourceSymbol.symbol, ← UInt16.toNat_inj]

theorem WrittenSymbol.isLocal_fields {strings : Bytes} (symbol : WrittenSymbol strings) :
    symbol.fields.isLocal = symbol.source.symbol.isLocal := by
  have htype := symbol.source.type.isLt
  rw [Bool.eq_iff_iff]
  -- The upper four bits of the byte are the binding.
  simp only [fields, SymbolRecord.isLocal, SourceSymbol.symbol, beq_iff_eq, decide_eq_true_eq]
  omega

namespace WrittenObject

variable (object : WrittenObject)

/-- One symbol is read back: `SymbolTable.symbol` makes `SourceSymbol.symbol` of its fields. -/
theorem symbol_eq (symbol : WrittenSymbol object.strings) :
    object.table.symbol symbol.fields = .ok symbol.source.symbol := by
  -- The name stands in the strings, and these stand in the file.
  have hstring := object.holdsAt_strings.trans symbol.holdsAt_name
  have hinside := symbol.holdsAt_name.le_size
  rw [Bytes.size_terminated] at hinside
  -- The string ends in its section, so the search for its end does not leave it.
  have hcString : object.file.cString? (object.stringsOffset + symbol.position)
      (object.stringsOffset + object.strings.size) = some symbol.source.name.toUTF8 :=
    Bytes.cString?_of_holdsAt hstring symbol.source.zero_notMem (by omega)
      object.holdsAt_strings.le_size
  have hread : object.table.strings.get? symbol.fields.name = some symbol.source.name.toUTF8 :=
    hcString
  rw [SymbolTable.symbol, SymbolTable.nameBytes, hread, symbol.isUndefined_fields,
    symbol.isLocal_fields]
  simp only [orFault, bind, Except.bind, Bytes.toText?_toUTF8]
  rfl

/-- `SymbolTable.allSymbols` passes over the empty entry and reads all symbols back. -/
theorem allSymbols_table :
    object.table.allSymbols = .ok (object.sources.map SourceSymbol.symbol) := by
  -- The reader maps over the entries, and each of them is one symbol.
  have hread : ∀ symbol ∈ object.symbols,
      (object.table.symbol ∘ WrittenSymbol.fields) symbol =
        .ok ((SourceSymbol.symbol ∘ WrittenSymbol.source) symbol) :=
    fun symbol _ => object.symbol_eq symbol
  have hdrop : object.table.symbols.toList.drop 1 = object.symbols.map WrittenSymbol.fields := rfl
  rw [SymbolTable.allSymbols, hdrop, List.mapM_map, sources, List.map_map]
  exact mapM_eq_ok hread

end WrittenObject

/-- `Elf.read` finds the symbols that were written, all lists can be read, and there are no exports
and imports. -/
theorem read_file (object : WrittenObject) :
    read true object.file = .ok {
      isImage := false
      symbols := .ok (object.sources.map SourceSymbol.symbol)
      exportNames := .ok []
      importNames := .ok [] } := by
  have hencoding : object.header.encoding = objectEncoding := rfl
  rw [read, object.read_header]
  simp only [bind, Except.bind, object.checkPrograms_header, object.readSections_header,
    object.checkSectionNames_header, hencoding, object.find_symbols, object.find_dynamicSymbols,
    object.allSymbols_table, object.find_versions, object.checkRelocations_sections]
  -- Without symbols for loading there is nothing to export and nothing to import.
  rfl

end RuntimeSlots.Elf
