import RuntimeSlots.Coff.File
import RuntimeSlots.Proofs.Bytes.Numbers
import RuntimeSlots.Proofs.Bytes.Strings
import Mathlib.Data.Set.List

/-!
# Written COFF objects

A COFF object as a compiler writes it, reduced to its symbols: a file header, the symbol records
with their auxiliary records, and the string table with the names that are too long for a record.
Where the long names stand in the string table is the writer's choice.

* `Coff.SourceSymbol` is a symbol before it is written, `Coff.WrittenSymbol` one with a place for
  its name, `Coff.WrittenObject` a whole object.
* `Coff.WrittenObject.bytes` are the bytes of an object.
* `Coff.exists_writtenObject` says that every list of symbols that is not too long can be written.
-/

namespace RuntimeSlots.Coff

/-! ## Symbols -/

/-- Where a file defines a symbol.  Every section number but 0 is admitted, also those that stand
for negative numbers. -/
structure Place where
  sectionNumber : UInt16
  value : UInt32
  sectionNumber_ne : sectionNumber ≠ 0

/-- How a symbol takes part in linking. -/
inductive Linking
  /-- The file defines the symbol for all files. -/
  | external (place : Place)
  /-- Another file defines the symbol. -/
  | undefined
  /-- The file defines the symbol for itself. -/
  | static (place : Place)

namespace Linking

/-- The storage class of symbols that only their own file sees. -/
def classStatic : Nat := 3

/-- The storage class that a writer gives the symbol. -/
def storageClass : Linking → Nat
  | external _ => classExternal
  | undefined => classExternal
  | static _ => classStatic

theorem storageClass_lt (linking : Linking) : linking.storageClass < 256 := by
  cases linking <;> simp [storageClass, classExternal, classStatic]

/-- No symbol has the class of those whose auxiliary records hold a file name. -/
theorem storageClass_ne_file (linking : Linking) : linking.storageClass ≠ classFile := by
  cases linking <;> simp [storageClass, classExternal, classStatic, classFile]

/-- The section that defines the symbol, 0 if none does. -/
def sectionNumber : Linking → UInt16
  | external place => place.sectionNumber
  | undefined => 0
  | static place => place.sectionNumber

/-- The value of the symbol; an undefined one has none. -/
def value : Linking → UInt32
  | external place => place.value
  | undefined => 0
  | static place => place.value

end Linking

/-- A symbol before it is written. -/
structure SourceSymbol where
  name : String
  linking : Linking
  type : UInt16
  /-- The auxiliary records, whose bytes are arbitrary. -/
  auxiliary : List Bytes
  name_ne_empty : name ≠ ""
  zero_notMem : 0 ∉ name.toUTF8.data.toList
  length_auxiliary_le : auxiliary.length ≤ 255
  size_auxiliary : ∀ record ∈ auxiliary, record.size = RecordForm.standard.size

namespace SourceSymbol

/-- A name has a first byte, which `NamePlace.inRecord` needs to be told from `NamePlace.inStrings`.
-/
theorem bytes_ne_nil (symbol : SourceSymbol) : symbol.name.toUTF8.data.toList ≠ [] := by
  intro h
  have hempty : symbol.name.toByteArray = ByteArray.empty := Bytes.ext_toList h
  exact symbol.name_ne_empty (String.toByteArray_eq_empty_iff.mp hempty)

/-- The name, if the symbol is defined for all files. -/
def definedName? (symbol : SourceSymbol) : Option String :=
  match symbol.linking with
  | .external _ => some symbol.name
  | _ => none

/-- The name, if another file has to define the symbol. -/
def undefinedName? (symbol : SourceSymbol) : Option String :=
  match symbol.linking with
  | .undefined => some symbol.name
  | _ => none

end SourceSymbol

/-! ## Names -/

/-- The string table: its own length, and the strings. -/
def stringTable (strings : Bytes) : Bytes := Bytes.little 4 (4 + strings.size) ++ strings

/-- Where the name of a symbol is written. -/
inductive NamePlace
  /-- In the record. -/
  | inRecord
  /-- At a position of the string table. -/
  | inStrings (position : Nat)

namespace NamePlace

/-- The eight bytes of the record for the name. -/
def field (name : Bytes) : NamePlace → Bytes
  | inRecord => name.padded 8
  | inStrings position => Bytes.little 4 0 ++ Bytes.little 4 position

/-- A record has room for names of up to eight bytes; in the string table a name has its end behind
it. -/
def Allows (strings name : Bytes) : NamePlace → Prop
  | inRecord => name.size ≤ 8
  | inStrings position => (stringTable strings).HoldsAt position name.terminated

instance (strings name : Bytes) : (place : NamePlace) → Decidable (place.Allows strings name)
  | .inRecord => inferInstanceAs (Decidable (name.size ≤ 8))
  | .inStrings position =>
    inferInstanceAs (Decidable ((stringTable strings).HoldsAt position name.terminated))

end NamePlace

/-- A symbol as it is written in an object with these strings. -/
structure WrittenSymbol (strings : Bytes) where
  source : SourceSymbol
  place : NamePlace
  allowed : place.Allows strings source.name.toUTF8

namespace WrittenSymbol

variable {strings : Bytes}

/-- The record of the symbol. -/
def record (symbol : WrittenSymbol strings) : Bytes :=
  symbol.place.field symbol.source.name.toUTF8 ++
    Bytes.little 4 symbol.source.linking.value.toNat ++
    Bytes.little 2 symbol.source.linking.sectionNumber.toNat ++
    Bytes.little 2 symbol.source.type.toNat ++
    Bytes.little 1 symbol.source.linking.storageClass ++
    Bytes.little 1 symbol.source.auxiliary.length

/-- The record of the symbol and its auxiliary records. -/
def records (symbol : WrittenSymbol strings) : List Bytes :=
  symbol.record :: symbol.source.auxiliary

theorem size_field (symbol : WrittenSymbol strings) :
    (symbol.place.field symbol.source.name.toUTF8).size = 8 := by
  obtain ⟨source, place, hallowed⟩ := symbol
  cases place with
  | inRecord => exact Bytes.size_padded hallowed
  | inStrings position => simp [NamePlace.field]

theorem size_record (symbol : WrittenSymbol strings) :
    symbol.record.size = RecordForm.standard.size := by
  simp only [record, ByteArray.size_append, symbol.size_field, Bytes.size_little]
  rfl

theorem size_of_mem_records {symbol : WrittenSymbol strings} {record : Bytes}
    (h : record ∈ symbol.records) : record.size = RecordForm.standard.size := by
  rcases List.mem_cons.mp h with rfl | haux
  · exact symbol.size_record
  · exact symbol.source.size_auxiliary record haux

end WrittenSymbol

/-! ## Objects -/

/-- The number that marks the machine the object is for. -/
def machine : Nat := 0x8664

/-- A COFF object with nothing but symbols. -/
structure WrittenObject where
  timestamp : UInt32
  flags : UInt16
  strings : Bytes
  symbols : List (WrittenSymbol strings)
  /-- The object is small enough for offsets of four bytes. -/
  size_lt : headerSize + (symbols.flatMap WrittenSymbol.records).length * RecordForm.standard.size +
    (stringTable strings).size < 2 ^ 32

namespace WrittenObject

/-- The records of all symbols. -/
def records (object : WrittenObject) : List Bytes := object.symbols.flatMap WrittenSymbol.records

/-- The file header: no sections, and the symbols right behind it. -/
def header (object : WrittenObject) : Bytes :=
  Bytes.little 2 machine ++ Bytes.little 2 0 ++ Bytes.little 4 object.timestamp.toNat ++
    Bytes.little 4 headerSize ++ Bytes.little 4 object.records.length ++ Bytes.little 2 0 ++
    Bytes.little 2 object.flags.toNat

/-- The bytes of the object. -/
def bytes (object : WrittenObject) : Bytes :=
  object.header ++ Bytes.concat object.records ++ stringTable object.strings

/-- The symbols that were written. -/
def sources (object : WrittenObject) : List SourceSymbol :=
  object.symbols.map WrittenSymbol.source

/-- The names of the symbols that the object defines for all files. -/
def definedNames (object : WrittenObject) : List String :=
  object.sources.filterMap SourceSymbol.definedName?

/-- The names of the symbols that other files have to define. -/
def undefinedNames (object : WrittenObject) : List String :=
  object.sources.filterMap SourceSymbol.undefinedName?

theorem size_header (object : WrittenObject) : object.header.size = headerSize := by
  simp only [header, ByteArray.size_append, Bytes.size_little]
  rfl

/-- Whatever the fields of the header are, the number of the machine stands in front of them. -/
theorem holdsAt_machine (object : WrittenObject) :
    object.header.HoldsAt 0 (Bytes.little 2 machine) := by
  -- Bracketed to the right, the header is that number and one part behind it.
  simp only [header, ByteArray.append_assoc]
  exact Bytes.holdsAt_zero_append ..

theorem size_of_mem_records {object : WrittenObject} {record : Bytes}
    (h : record ∈ object.records) : record.size = RecordForm.standard.size := by
  obtain ⟨symbol, -, hrecord⟩ := List.mem_flatMap.mp h
  exact WrittenSymbol.size_of_mem_records hrecord

theorem size_records (object : WrittenObject) :
    (Bytes.concat object.records).size = object.records.length * RecordForm.standard.size :=
  Bytes.size_concat fun _ => size_of_mem_records

theorem size_bytes (object : WrittenObject) :
    object.bytes.size = headerSize + object.records.length * RecordForm.standard.size +
      (stringTable object.strings).size := by
  rw [bytes, ByteArray.size_append, ByteArray.size_append, size_header, size_records]

end WrittenObject

/-! ## Every list of symbols can be written -/

/-- The names that a string table has to hold, one behind another. -/
def longNames (symbols : List SourceSymbol) : Bytes :=
  Bytes.concat ((symbols.filter fun symbol => 8 < symbol.name.toUTF8.size).map fun symbol =>
    Bytes.terminated symbol.name.toUTF8)

/-- How many records the symbols take. -/
def recordCount : List SourceSymbol → Nat
  | [] => 0
  | symbol :: rest => symbol.auxiliary.length + 1 + recordCount rest

theorem length_flatMap_records {strings : Bytes} (symbols : List (WrittenSymbol strings)) :
    (symbols.flatMap WrittenSymbol.records).length =
      recordCount (symbols.map WrittenSymbol.source) := by
  -- Induction on the symbols; each adds its own record and its auxiliary ones.
  induction symbols with
  | nil => rfl
  | cons symbol rest ih =>
    rw [List.flatMap_cons, List.length_append, ih, WrittenSymbol.records, List.length_cons,
      List.map_cons, recordCount]

/-- Every symbol of the list has a `NamePlace` if the string table holds `longNames`. -/
theorem exists_place {symbols : List SourceSymbol} {symbol : SourceSymbol} (h : symbol ∈ symbols) :
    ∃ place : NamePlace, place.Allows (longNames symbols) symbol.name.toUTF8 := by
  by_cases hlong : 8 < symbol.name.toUTF8.size
  · have hmem : Bytes.terminated symbol.name.toUTF8 ∈
        (symbols.filter fun symbol => 8 < symbol.name.toUTF8.size).map fun symbol =>
          Bytes.terminated symbol.name.toUTF8 :=
      List.mem_map_of_mem (List.mem_filter.mpr ⟨h, by simpa using hlong⟩)
    obtain ⟨offset, hoffset⟩ := Bytes.exists_holdsAt_concat hmem
    -- The strings stand behind the four bytes of the table's length.
    have htable := (Bytes.holdsAt_append_iff.mp
      (Bytes.holdsAt_zero_self (stringTable (longNames symbols)))).2
    exact ⟨.inStrings _, htable.trans hoffset⟩
  · exact ⟨.inRecord, Nat.le_of_not_lt hlong⟩

/-- Every list of symbols can be written, unless it is too long for offsets of four bytes.  So what
is proved of any `WrittenObject` is proved of objects with any symbols. -/
theorem exists_writtenObject {symbols : List SourceSymbol}
    (h : headerSize + recordCount symbols * RecordForm.standard.size +
      (stringTable (longNames symbols)).size < 2 ^ 32) :
    ∃ object : WrittenObject, object.sources = symbols := by
  have hwritten : ∀ symbol ∈ symbols,
      ∃ written : WrittenSymbol (longNames symbols), written.source = symbol := by
    intro symbol hsymbol
    obtain ⟨place, hplace⟩ := exists_place hsymbol
    exact ⟨⟨symbol, place, hplace⟩, rfl⟩
  -- As each symbol can be written, so can the list.
  obtain ⟨written, hmap⟩ := (Set.range_list_map WrittenSymbol.source).ge hwritten
  exact ⟨⟨0, 0, longNames symbols, written, by rwa [length_flatMap_records, hmap]⟩, hmap⟩

end RuntimeSlots.Coff
