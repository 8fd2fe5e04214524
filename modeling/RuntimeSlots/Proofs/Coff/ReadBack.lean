import RuntimeSlots.Proofs.Coff.Written
import RuntimeSlots.Proofs.ObjectFile.Formats

/-!
# COFF objects are read back

`Coff.read` finds in a `Coff.WrittenObject` just the symbols that were written, whatever the
auxiliary records hold and wherever the long names stand.

* `Coff.WrittenSymbol.ofBytes_record` reads one record, `Coff.WrittenObject.nameBytes_eq` the name
  that belongs to it.
* `Coff.WrittenObject.symbol_eq` reads one symbol, `Coff.WrittenObject.symbolsFrom_eq` all symbols
  from one on.
* `Coff.read_bytes` reads a whole object.
-/

namespace RuntimeSlots.Coff

/-! ## Records -/

/-- The field of a short name does not begin with a zero byte, by which a reader tells it from the
field of a long one. -/
theorem number_padded_ne_zero {width : Nat} {text : Bytes} (hne : text.data.toList ≠ [])
    (hzero : 0 ∉ text.data.toList) : number (text.padded width) 0 1 ≠ 0 := by
  obtain ⟨first, rest, hlist⟩ := List.exists_cons_of_ne_nil hne
  have hpadded : (text.padded width).data.toList =
      first :: (rest ++ List.replicate (width - text.size) 0) := by
    simp [Bytes.padded, hlist]
  rw [number, Bytes.number_one_of_toList hpadded]
  -- If it were zero, so would be the first byte of the text.
  intro h
  have hfirst : first = 0 := UInt8.toNat_inj.mp h
  rw [hlist, hfirst] at hzero
  exact hzero (List.mem_cons_self ..)

namespace WrittenSymbol

variable {strings : Bytes}

/-- The fields that `SymbolRecord.ofBytes` sees in the record of the symbol. -/
def fields (symbol : WrittenSymbol strings) : SymbolRecord where
  nameField := symbol.place.field symbol.source.name.toUTF8
  value := symbol.source.linking.value.toNat
  sectionNumber := symbol.source.linking.sectionNumber.toNat
  storageClass := symbol.source.linking.storageClass
  auxCount := symbol.source.auxiliary.length

/-- A record is read as it was written; its type is not looked at. -/
theorem ofBytes_record (symbol : WrittenSymbol strings) :
    SymbolRecord.ofBytes .standard symbol.record = symbol.fields := by
  -- The record stands in itself; taking it apart gives each field its place.
  have hwhole : symbol.record.HoldsAt 0 symbol.record := Bytes.holdsAt_zero_self _
  simp only [record, Bytes.holdsAt_append_iff, ByteArray.size_append, symbol.size_field,
    Bytes.size_little, Nat.zero_add] at hwhole
  obtain ⟨⟨⟨⟨⟨hname, hvalue⟩, hsection⟩, -⟩, hclass⟩, haux⟩ := hwhole
  have hnameField := (Bytes.holdsAt_iff.mp hname).2
  rw [symbol.size_field] at hnameField
  -- The number of auxiliary records has one byte.
  have hauxCount := symbol.source.length_auxiliary_le
  simp only [SymbolRecord.ofBytes, fields, SymbolRecord.mk.injEq, number]
  refine ⟨hnameField, ?_, ?_, ?_, ?_⟩
  · exact Bytes.number_of_holdsAt hvalue (UInt32.toNat_lt _)
  · exact Bytes.number_of_holdsAt hsection (UInt16.toNat_lt _)
  · exact Bytes.number_of_holdsAt hclass (Linking.storageClass_lt _)
  · exact Bytes.number_of_holdsAt haux (by omega)

end WrittenSymbol

/-! ## Symbols -/

/-- The `Symbol` that a reader makes of the symbol. -/
def SourceSymbol.symbol (source : SourceSymbol) : Symbol where
  name := source.name
  isUndefined := match source.linking with
    | .undefined => true
    | _ => false
  isLocal := match source.linking with
    | .static _ => true
    | _ => false

theorem WrittenSymbol.isUndefined_fields {strings : Bytes} (symbol : WrittenSymbol strings) :
    symbol.fields.isUndefined = symbol.source.symbol.isUndefined := by
  obtain ⟨⟨name, linking, _⟩, _⟩ := symbol
  cases linking with
  | external place =>
    -- An external symbol in section 0 would be taken for an undefined one.
    have hsection : place.sectionNumber.toNat ≠ 0 := fun h =>
      place.sectionNumber_ne (UInt16.toNat_inj.mp h)
    simp [fields, SymbolRecord.isUndefined, SourceSymbol.symbol, Linking.sectionNumber, hsection]
  | undefined => rfl
  | static place => rfl

theorem WrittenSymbol.isLocal_fields {strings : Bytes} (symbol : WrittenSymbol strings) :
    symbol.fields.isLocal = symbol.source.symbol.isLocal := by
  obtain ⟨⟨name, linking, _⟩, _⟩ := symbol
  cases linking with
  | external place => rfl
  | undefined => rfl
  | static place => rfl

namespace WrittenObject

variable (object : WrittenObject)

/-- The symbol table that a reader finds in the object. -/
def table : SymbolTable where
  form := .standard
  file := object.bytes
  records := Bytes.concat object.records
  count := object.records.length
  stringsStart := headerSize + object.records.length * RecordForm.standard.size
  stringsStop := object.bytes.size

/-- Where the header, the records and the string table stand in `bytes`. -/
theorem holdsAt_parts :
    object.bytes.HoldsAt 0 object.header ∧
      object.bytes.HoldsAt headerSize (Bytes.concat object.records) ∧
      object.bytes.HoldsAt (headerSize + object.records.length * RecordForm.standard.size)
        (stringTable object.strings) := by
  have hwhole : object.bytes.HoldsAt 0 object.bytes := Bytes.holdsAt_zero_self _
  simp only [bytes, Bytes.holdsAt_append_iff, ByteArray.size_append, size_header, size_records,
    Nat.zero_add] at hwhole
  obtain ⟨⟨hheader, hrecords⟩, hstrings⟩ := hwhole
  exact ⟨hheader, hrecords, hstrings⟩

theorem size_stringTable_lt : (stringTable object.strings).size < 2 ^ 32 := by
  have := object.size_lt
  omega

/-- `SymbolTable.nameBytes` finds the name of a symbol in its `NamePlace`. -/
theorem nameBytes_eq (symbol : WrittenSymbol object.strings) (index : Nat) :
    object.table.nameBytes index symbol.fields = .ok symbol.source.name.toUTF8 := by
  have hclass : ¬ (symbol.fields.storageClass = classFile ∧ 0 < symbol.fields.auxCount) := by
    rintro ⟨hclass, -⟩
    exact symbol.source.linking.storageClass_ne_file hclass
  rw [SymbolTable.nameBytes, if_neg hclass]
  obtain ⟨source, place, hallowed⟩ := symbol
  cases place with
  | inRecord =>
    -- A short name begins with a byte that is not zero, and zero bytes follow it.
    have hfirst : number (Bytes.padded 8 source.name.toUTF8) 0 1 ≠ 0 :=
      number_padded_ne_zero source.bytes_ne_nil source.zero_notMem
    have hname : Bytes.before (Bytes.padded 8 source.name.toUTF8) 0 = source.name.toUTF8 :=
      Bytes.before_padded source.zero_notMem
    simp only [WrittenSymbol.fields, NamePlace.field, if_neg hfirst, hname]
    rfl
  | inStrings position =>
    have hplace : (stringTable object.strings).HoldsAt position
        (Bytes.terminated source.name.toUTF8) := hallowed
    -- The position lies inside of the string table, so it can be written.
    have hposition : position < 256 ^ 4 := by
      have hfits := hplace.le_size
      have hsize := object.size_stringTable_lt
      omega
    have hstring : object.bytes.HoldsAt (object.table.stringsStart + position)
        (Bytes.terminated source.name.toUTF8) := object.holdsAt_parts.2.2.trans hplace
    have hends := hstring.le_size
    rw [Bytes.size_terminated] at hends
    -- The field begins with a zero byte and ends with the position.
    have hlist : (Bytes.little 4 0 ++ Bytes.little 4 position).data.toList =
        0 :: ([0, 0, 0] ++ (Bytes.little 4 position).data.toList) := by
      rw [ByteArray.toList_data_append]
      rfl
    have hzero : number (Bytes.little 4 0 ++ Bytes.little 4 position) 0 1 = 0 :=
      Bytes.number_one_of_toList hlist
    have hnumber : number (Bytes.little 4 0 ++ Bytes.little 4 position) 4 4 = position :=
      Bytes.number_of_holdsAt (Bytes.holdsAt_append_iff.mp (Bytes.holdsAt_zero_self _)).2 hposition
    have hread : object.table.file.cString? (object.table.stringsStart + position)
        object.table.stringsStop = some source.name.toUTF8 :=
      Bytes.cString?_of_holdsAt hstring source.zero_notMem hends (Nat.le_refl _)
    simp only [WrittenSymbol.fields, NamePlace.field, if_pos hzero, hnumber, hread]
    rfl

/-- One symbol is read back: `SymbolTable.symbol` makes `SourceSymbol.symbol` of its fields. -/
theorem symbol_eq (symbol : WrittenSymbol object.strings) (index : Nat) :
    object.table.symbol index symbol.fields = .ok symbol.source.symbol := by
  rw [SymbolTable.symbol, nameBytes_eq, symbol.isUndefined_fields, symbol.isLocal_fields]
  simp only [bind, Except.bind, Bytes.toText?_toUTF8]
  rfl

/-- `SymbolTable.record` cuts the record with the given index out of the table. -/
theorem record_eq {index : Nat} {symbol : WrittenSymbol object.strings}
    (h : object.records[index]? = some symbol.record) :
    object.table.record index = symbol.fields := by
  have hrecord := (Bytes.holdsAt_iff.mp
    (Bytes.holdsAt_concat (fun _ => size_of_mem_records) h)).2
  rw [symbol.size_record, ← Nat.succ_mul] at hrecord
  rw [SymbolTable.record, ← symbol.ofBytes_record]
  exact congrArg (SymbolRecord.ofBytes .standard) hrecord

/-- Behind the records of the symbols in `before`, the reader finds those in `after`. -/
theorem symbolsFrom_eq {before after : List (WrittenSymbol object.strings)}
    (h : object.symbols = before ++ after) :
    object.table.symbolsFrom (before.flatMap WrittenSymbol.records).length =
      .ok (after.map fun symbol => symbol.source.symbol) := by
  -- The records fall into two parts, and the reader is at the start of the second one.
  have hrecords : object.records =
      before.flatMap WrittenSymbol.records ++ after.flatMap WrittenSymbol.records := by
    rw [records, h, List.flatMap_append]
  -- Induction on the symbols that are left; the reader is at the first record of the next one.
  induction after generalizing before with
  | nil =>
    have hend : ¬ (before.flatMap WrittenSymbol.records).length < object.table.count := by
      simp [table, hrecords]
    rw [SymbolTable.symbolsFrom, if_neg hend]
    rfl
  | cons symbol rest ih =>
    rw [List.flatMap_cons] at hrecords
    have hlength := congrArg List.length hrecords
    simp only [List.length_append, WrittenSymbol.records, List.length_cons] at hlength
    have hlt : (before.flatMap WrittenSymbol.records).length < object.table.count := by
      simp only [table]
      omega
    have hrecord : object.records[(before.flatMap WrittenSymbol.records).length]? =
        some symbol.record := by
      rw [hrecords, List.getElem?_append_right (Nat.le_refl _), Nat.sub_self]
      rfl
    -- The auxiliary records of the symbol are stepped over.
    have hnext : (before.flatMap WrittenSymbol.records).length + 1 + symbol.fields.auxCount =
        ((before ++ [symbol]).flatMap WrittenSymbol.records).length := by
      simp [WrittenSymbol.records, WrittenSymbol.fields, Nat.add_assoc, Nat.add_comm 1]
    have hrest := @ih (before ++ [symbol]) (by simp [h]) (by simp [hrecords])
    rw [SymbolTable.symbolsFrom, if_pos hlt, object.record_eq hrecord]
    simp only [bind, Except.bind, object.symbol_eq, hnext, hrest]
    rfl

/-! ## Objects -/

/-- The header tells that there are no sections, and where the symbols are. -/
theorem ofBytes_header :
    Header.ofBytes 0 object.header = {
      sectionsOffset := headerSize
      sectionCount := 0
      symbolsOffset := headerSize
      symbolCount := object.records.length } := by
  have hwhole : object.header.HoldsAt 0 object.header := Bytes.holdsAt_zero_self _
  simp only [header, Bytes.holdsAt_append_iff, ByteArray.size_append, Bytes.size_little,
    Nat.zero_add] at hwhole
  obtain ⟨⟨⟨⟨⟨⟨-, hsections⟩, -⟩, hsymbols⟩, hcount⟩, hoptional⟩, -⟩ := hwhole
  -- The size of the object bounds the number of its records.
  have hlength : object.records.length < 256 ^ 4 := by
    have hsize := object.size_lt
    simp only [RecordForm.size, RecordForm.sectionWidth] at hsize
    simp only [records]
    omega
  -- There is no optional header, so the sections would stand right behind this one.
  have hoptionalSize : number object.header 16 2 = 0 :=
    Bytes.number_of_holdsAt hoptional (by decide)
  simp only [Header.ofBytes, hoptionalSize, Header.mk.injEq]
  refine ⟨by rfl, ?_, ?_, ?_⟩
  · exact Bytes.number_of_holdsAt hsections (by decide)
  · exact Bytes.number_of_holdsAt hsymbols (by decide)
  · exact Bytes.number_of_holdsAt hcount hlength

/-- `SymbolTable.read` finds `table` where the header says. -/
theorem read_table :
    SymbolTable.read .standard object.bytes headerSize object.records.length =
      .ok object.table := by
  obtain ⟨-, hrecords, hstrings⟩ := object.holdsAt_parts
  have hrecordsSlice : object.bytes.slice? headerSize
      (object.records.length * RecordForm.standard.size) = some (Bytes.concat object.records) :=
    hrecords.slice?_of_size object.size_records
  -- The string table begins with its own length, so it ends where the file does.
  have hlengthSlice : object.bytes.slice?
      (headerSize + object.records.length * RecordForm.standard.size) 4 =
        some (Bytes.little 4 (4 + object.strings.size)) := (Bytes.holdsAt_append_iff.mp hstrings).1
  have hsize : (stringTable object.strings).size = 4 + object.strings.size := by
    rw [stringTable, ByteArray.size_append, Bytes.size_little]
  have hlength : number (Bytes.little 4 (4 + object.strings.size)) 0 4 =
      4 + object.strings.size := by
    have hlt := object.size_stringTable_lt
    exact Bytes.number_of_holdsAt (Bytes.holdsAt_zero_self _) (by omega)
  rw [SymbolTable.read, if_neg (by decide)]
  simp only [hrecordsSlice, hlengthSlice, orFault, bind, Except.bind, hlength]
  rw [table, object.size_bytes, hsize]
  rfl

end WrittenObject

/-- `Coff.read` finds the symbols that were written, all lists can be read, and there are no exports
and imports. -/
theorem read_bytes (object : WrittenObject) :
    read object.bytes = .ok {
      isImage := false
      symbols := .ok (object.sources.map SourceSymbol.symbol)
      exportNames := .ok []
      importNames := .ok [] } := by
  have hheader : object.bytes.slice? 0 headerSize = some object.header :=
    object.holdsAt_parts.1.slice?_of_size object.size_header
  -- The walk over the table begins behind the records of no symbols.
  have hsymbols : object.table.symbols = .ok (object.sources.map SourceSymbol.symbol) := by
    have hall := object.symbolsFrom_eq (List.nil_append object.symbols).symm
    rw [SymbolTable.symbols, WrittenObject.sources, List.map_map]
    exact hall
  -- There are no section headers, and the place where they would stand is a multiple of four.
  have hsections : sectionHeaders object.bytes headerSize 0 = .ok ByteArray.empty := by
    have hempty : object.bytes.slice? headerSize 0 = some ByteArray.empty := by
      apply Bytes.slice?_zero
      rw [object.size_bytes]
      omega
    rw [sectionHeaders, Bytes.alignedSlice?, if_pos (by decide), Nat.zero_mul, hempty]
    rfl
  rw [read, hheader]
  simp only [orFault, bind, Except.bind, readBody, object.ofBytes_header, hsections,
    object.read_table, hsymbols]
  rfl

end RuntimeSlots.Coff
