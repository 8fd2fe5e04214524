import RuntimeSlots.Pe.File
import RuntimeSlots.Proofs.Bytes.Numbers
import RuntimeSlots.Proofs.Bytes.Strings
import Mathlib.Data.Set.List

/-!
# Written PE images

A dynamic library with wide addresses as a linker writes it, reduced to its exports: the stub, the
headers, and one section whose data hold the export directory, its three tables and the names.
Where the parts stand in the export data, the data in the section, and the section in the file, is
the linker's choice.

* `Pe.WrittenExports` are export data that are loaded at an address.
* `Pe.WrittenImage` is a file in which a library with export data stands.
* `Pe.exists_writtenImage` says that every list of names that is not too long can be exported.
-/

namespace RuntimeSlots.Pe

/-! ## Export data -/

/-- A table of numbers that have `width` bytes each. -/
def numberTable (width : Nat) (numbers : List Nat) : Bytes :=
  Bytes.concat (numbers.map (Bytes.little width))

theorem size_numberTable (width : Nat) (numbers : List Nat) :
    (numberTable width numbers).size = numbers.length * width := by
  rw [numberTable, Bytes.size_concat fun _ => Bytes.size_of_mem_map_little, List.length_map]

/-- A name of the export table, at its place in the export data.  Names may be any bytes but zero,
also such that are no text. -/
structure WrittenExport (data : Bytes) where
  name : Bytes
  position : Nat
  /-- The index of the function that has the name. -/
  ordinal : UInt16
  zero_notMem : 0 ∉ name.data.toList
  holdsAt_name : data.HoldsAt position name.terminated

/-- An export directory, which counts its functions and names and points at its tables.  The bytes
in front of the numbers, which tell about the library, are arbitrary. -/
def exportDirectory (front : Bytes) (functionCount nameCount functions names ordinals : Nat) :
    Bytes :=
  front ++ Bytes.little 4 functionCount ++ Bytes.little 4 nameCount ++ Bytes.little 4 functions ++
    Bytes.little 4 names ++ Bytes.little 4 ordinals

theorem size_exportDirectory {front : Bytes} (h : front.size = 20)
    (functionCount nameCount functions names ordinals : Nat) :
    (exportDirectory front functionCount nameCount functions names ordinals).size = 40 := by
  simp only [exportDirectory, ByteArray.size_append, Bytes.size_little, h]

/-- Export data that are loaded at `address`. -/
structure WrittenExports where
  data : Bytes
  address : Nat
  /-- The addresses of the exported functions. -/
  functions : List UInt32
  entries : List (WrittenExport data)
  functionsPosition : Fin data.size
  namesPosition : Fin data.size
  ordinalsPosition : Fin data.size
  front : Bytes
  size_front : front.size = 20
  /-- Address zero would mean that the library has no exports. -/
  address_pos : 0 < address
  /-- All addresses of the data have four bytes. -/
  address_add_size_le : address + data.size ≤ 2 ^ 32
  holdsAt_directory : data.HoldsAt 0 (exportDirectory front functions.length entries.length
    (address + functionsPosition) (address + namesPosition) (address + ordinalsPosition))
  holdsAt_functions : data.HoldsAt functionsPosition
    (numberTable 4 (functions.map UInt32.toNat))
  holdsAt_names : data.HoldsAt namesPosition
    (numberTable 4 (entries.map fun entry => address + entry.position))
  holdsAt_ordinals : data.HoldsAt ordinalsPosition
    (numberTable 2 (entries.map fun entry => entry.ordinal.toNat))
  /-- Every name has a function, and the function stands outside of the export data. -/
  exists_function : ∀ entry ∈ entries, ∃ function, functions[entry.ordinal.toNat]? = some function ∧
    (function.toNat < address ∨ address + data.size ≤ function.toNat)

namespace WrittenExports

/-- The names of the export table, in its order. -/
def names (exports : WrittenExports) : List Bytes := exports.entries.map WrittenExport.name

end WrittenExports

/-! ## Headers -/

/-- Where the headers of the image stand. -/
def headersOffset : Nat := 64

/-- The stub in front of the headers, which points at them. -/
def stub (middle : Bytes) : Bytes := ⟨#[0x4D, 0x5A]⟩ ++ middle ++ Bytes.little 4 headersOffset

/-- What the headers of an image tell that a reader of exports does not look at. -/
structure HeaderRest where
  machine : UInt16
  timestamp : UInt32
  symbolCount : UInt32
  /-- The fields of the optional header behind its first number. -/
  optional : Bytes
  size_optional : optional.size = 106

/-- The number of data directories. -/
def directoryCount : Nat := 16

/-- The data directories, of which only that of the exports is there. -/
def directories (address size : Nat) : List Bytes :=
  (Bytes.little 4 address ++ Bytes.little 4 size) :: List.replicate (directoryCount - 1)
    (Bytes.little 8 0)

/-- The file header: one section and no symbols. -/
def fileHeader (flags : UInt16) (rest : HeaderRest) : Bytes :=
  Bytes.little 2 rest.machine.toNat ++ Bytes.little 2 1 ++ Bytes.little 4 rest.timestamp.toNat ++
    Bytes.little 4 0 ++ Bytes.little 4 rest.symbolCount.toNat ++
    Bytes.little 2 (Width.optionalHeaderSize .wide + directoryCount * 8) ++
    Bytes.little 2 flags.toNat

/-- The optional header without the data directories. -/
def optionalHeader (rest : HeaderRest) : Bytes :=
  Bytes.little 2 0x20B ++ rest.optional ++ Bytes.little 4 directoryCount

/-- The headers up to the data directories. -/
def headers (flags : UInt16) (rest : HeaderRest) : Bytes :=
  signature ++ fileHeader flags rest ++ optionalHeader rest

/-- The header of a section that is loaded at `address` with all its bytes. -/
def sectionHeader (name : Bytes) (size address offset : Nat) (back : Bytes) : Bytes :=
  name ++ Bytes.little 4 size ++ Bytes.little 4 address ++ Bytes.little 4 size ++
    Bytes.little 4 offset ++ back

theorem size_stub {middle : Bytes} (h : middle.size = 58) : (stub middle).size = 64 := by
  simp only [stub, ByteArray.size_append, Bytes.size_little, h]
  rfl

theorem size_fileHeader (flags : UInt16) (rest : HeaderRest) :
    (fileHeader flags rest).size = 20 := by
  simp only [fileHeader, ByteArray.size_append, Bytes.size_little]

theorem size_headers (flags : UInt16) (rest : HeaderRest) : (headers flags rest).size = 136 := by
  simp only [headers, optionalHeader, ByteArray.size_append, Bytes.size_little, size_fileHeader,
    rest.size_optional]
  rfl

theorem size_of_mem_directories {address size : Nat} {part : Bytes}
    (h : part ∈ directories address size) : part.size = 8 := by
  rcases List.mem_cons.mp h with rfl | hempty
  · rw [ByteArray.size_append, Bytes.size_little, Bytes.size_little]
  · rw [List.eq_of_mem_replicate hempty, Bytes.size_little]

theorem size_directories (address size : Nat) :
    (Bytes.concat (directories address size)).size = 128 := by
  rw [Bytes.size_concat fun _ => size_of_mem_directories, directories, List.length_cons,
    List.length_replicate]
  rfl

theorem size_sectionHeader {name back : Bytes} (hname : name.size = 8) (hback : back.size = 16)
    (size address offset : Nat) : (sectionHeader name size address offset back).size = 40 := by
  simp only [sectionHeader, ByteArray.size_append, Bytes.size_little, hname, hback]

/-! ## Images -/

/-- A file in which a dynamic library stands. -/
structure WrittenImage where
  file : Bytes
  exports : WrittenExports
  /-- The bytes of the section. -/
  contents : Bytes
  sectionAddress : UInt32
  sectionOffset : UInt32
  /-- Where the export data stand in the section. -/
  start : Nat
  flags : UInt16
  middle : Bytes
  rest : HeaderRest
  sectionName : Bytes
  sectionBack : Bytes
  size_middle : middle.size = 58
  size_sectionName : sectionName.size = 8
  size_sectionBack : sectionBack.size = 16
  size_contents_lt : contents.size < 2 ^ 32
  /-- The image is a dynamic library. -/
  flags_library : flags.toNat &&& Image.flagLibrary ≠ 0
  address_exports : exports.address = sectionAddress.toNat + start
  /-- File offsets have four bytes, that of the export data too. -/
  offset_lt : sectionOffset.toNat + start < 2 ^ 32
  /-- The export directory stands at a multiple of four. -/
  aligned : (sectionOffset.toNat + start) % 4 = 0
  holdsAt_stub : file.HoldsAt 0 (stub middle)
  holdsAt_headers : file.HoldsAt headersOffset (headers flags rest ++
    Bytes.concat (directories exports.address exports.data.size) ++
    sectionHeader sectionName contents.size sectionAddress.toNat sectionOffset.toNat sectionBack)
  holdsAt_contents : file.HoldsAt sectionOffset.toNat contents
  holdsAt_exports : contents.HoldsAt start exports.data

/-! ## Every list of names can be exported -/

/-- The names with the places where they stand, if they stand one behind another from `position`
on. -/
def places (position : Nat) : List Bytes → List (Bytes × Nat)
  | [] => []
  | name :: rest => (name, position) :: places (position + name.size + 1) rest

theorem map_fst_places (position : Nat) (names : List Bytes) :
    (places position names).map Prod.fst = names := by
  -- Induction on the names; the rest of them begins at another position.
  induction names generalizing position with
  | nil => rfl
  | cons name rest ih => rw [places, List.map_cons, ih]

/-- The names one behind another. -/
def nameStrings (names : List Bytes) : Bytes := Bytes.concat (names.map Bytes.terminated)

/-- In `nameStrings` every name stands in the place that `places` gives it. -/
theorem holdsAt_of_mem_places {bytes : Bytes} {position : Nat} {names : List Bytes}
    {place : Bytes × Nat} (h : bytes.HoldsAt position (nameStrings names))
    (hplace : place ∈ places position names) : bytes.HoldsAt place.2 place.1.terminated := by
  induction names generalizing position with
  | nil => cases hplace
  | cons name rest ih =>
    obtain ⟨hname, hrest⟩ := Bytes.holdsAt_append_iff.mp h
    -- A name takes its own bytes and the one that ends it.
    rw [Bytes.size_terminated, ← Nat.add_assoc] at hrest
    rcases List.mem_cons.mp hplace with rfl | hmem
    · exact hname
    · exact ih hrest hmem

theorem length_places (position : Nat) (names : List Bytes) :
    (places position names).length = names.length := by
  rw [← List.length_map Prod.fst, map_fst_places]

theorem zero_notMem_of_mem_places {position : Nat} {names : List Bytes} {place : Bytes × Nat}
    (hzero : ∀ name ∈ names, 0 ∉ name.data.toList) (hplace : place ∈ places position names) :
    0 ∉ place.1.data.toList := by
  apply hzero
  rw [← map_fst_places position names]
  exact List.mem_map_of_mem hplace

/-- The entries for names that stand one behind another, all of them for the first function. -/
def placedExports {data : Bytes} {position : Nat} {names : List Bytes}
    (hstrings : data.HoldsAt position (nameStrings names))
    (hzero : ∀ name ∈ names, 0 ∉ name.data.toList) : List (WrittenExport data) :=
  (places position names).attach.map fun place => {
    name := place.val.1
    position := place.val.2
    ordinal := 0
    zero_notMem := zero_notMem_of_mem_places hzero place.property
    holdsAt_name := holdsAt_of_mem_places hstrings place.property }

/-- What is computed from the entries can be computed from `places`. -/
theorem map_placedExports {β : Type} {data : Bytes} {position : Nat} {names : List Bytes}
    (hstrings : data.HoldsAt position (nameStrings names))
    (hzero : ∀ name ∈ names, 0 ∉ name.data.toList) (f : Bytes → Nat → UInt16 → β) :
    (placedExports hstrings hzero).map (fun entry => f entry.name entry.position entry.ordinal) =
      (places position names).map fun place => f place.1 place.2 0 := by
  rw [placedExports, List.map_map]
  exact @List.attach_map_val _ _ (places position names) fun place => f place.1 place.2 0

theorem ordinal_of_mem_placedExports {data : Bytes} {position : Nat} {names : List Bytes}
    {hstrings : data.HoldsAt position (nameStrings names)}
    {hzero : ∀ name ∈ names, 0 ∉ name.data.toList} {entry : WrittenExport data}
    (h : entry ∈ placedExports hstrings hzero) : entry.ordinal = 0 := by
  obtain ⟨place, -, rfl⟩ := List.mem_map.mp h
  rfl

theorem length_placedExports {data : Bytes} {position : Nat} {names : List Bytes}
    (hstrings : data.HoldsAt position (nameStrings names))
    (hzero : ∀ name ∈ names, 0 ∉ name.data.toList) :
    (placedExports hstrings hzero).length = names.length := by
  rw [placedExports, List.length_map, List.length_attach, length_places]

/-- Export data with one function, which has all the names and stands at address zero.  The library
itself has the empty name. -/
def exportBytes (address : Nat) (names : List Bytes) : Bytes :=
  exportDirectory (Bytes.little 20 0) 1 names.length (address + 40) (address + 44)
      (address + (44 + names.length * 4)) ++
    numberTable 4 [0] ++
    numberTable 4 ((places (44 + names.length * 6) names).map fun place => address + place.2) ++
    numberTable 2 ((places (44 + names.length * 6) names).map fun _ => 0) ++
    nameStrings names ++ Bytes.terminated ByteArray.empty

theorem size_exportBytes (address : Nat) (names : List Bytes) :
    (exportBytes address names).size = 45 + names.length * 6 + (nameStrings names).size := by
  simp only [exportBytes, ByteArray.size_append, size_exportDirectory (Bytes.size_little ..),
    size_numberTable, List.length_map, length_places, List.length_singleton, Bytes.size_terminated,
    ByteArray.size_empty]
  omega

/-- In `exportBytes` each part stands behind the sizes of those before it. -/
theorem holdsAt_exportBytes (address : Nat) (names : List Bytes) :
    let data := exportBytes address names
    let placed := places (44 + names.length * 6) names
    data.HoldsAt 0 (exportDirectory (Bytes.little 20 0) 1 names.length (address + 40)
        (address + 44) (address + (44 + names.length * 4))) ∧
      data.HoldsAt 40 (numberTable 4 [0]) ∧
      data.HoldsAt 44 (numberTable 4 (placed.map fun place => address + place.2)) ∧
      data.HoldsAt (44 + names.length * 4) (numberTable 2 (placed.map fun _ => 0)) ∧
      data.HoldsAt (44 + names.length * 6) (nameStrings names) := by
  intro data placed
  -- The parts are taken off the end, one after another.
  obtain ⟨hfront, -⟩ := Bytes.holdsAt_append_iff.mp (Bytes.holdsAt_zero_self data)
  obtain ⟨hfront, hstrings⟩ := Bytes.holdsAt_append_iff.mp hfront
  obtain ⟨hfront, hordinals⟩ := Bytes.holdsAt_append_iff.mp hfront
  obtain ⟨hfront, hnames⟩ := Bytes.holdsAt_append_iff.mp hfront
  obtain ⟨hdirectory, hfunctions⟩ := Bytes.holdsAt_append_iff.mp hfront
  simp only [ByteArray.size_append, size_exportDirectory (Bytes.size_little ..),
    size_numberTable, List.length_map, length_places, List.length_singleton, Nat.zero_add,
    Nat.one_mul, Nat.reduceAdd] at hstrings hordinals hnames hfunctions
  -- Each name takes four bytes in one table and two in the other.
  have htables : 44 + names.length * 4 + names.length * 2 = 44 + names.length * 6 := by omega
  rw [htables] at hstrings
  exact ⟨hdirectory, hfunctions, hnames, hordinals, hstrings⟩

theorem holdsAt_nameStrings (address : Nat) (names : List Bytes) :
    (exportBytes address names).HoldsAt (44 + names.length * 6) (nameStrings names) := by
  obtain ⟨-, -, -, -, hstrings⟩ := holdsAt_exportBytes address names
  exact hstrings

/-- Export data for names without zero bytes, loaded at any address at which they fit. -/
def WrittenExports.ofNames (address : Nat) (names : List Bytes) (hpos : 0 < address)
    (hzero : ∀ name ∈ names, 0 ∉ name.data.toList)
    (hsize : address + (exportBytes address names).size ≤ 2 ^ 32) : WrittenExports where
  data := exportBytes address names
  address := address
  functions := [0]
  entries := placedExports (holdsAt_nameStrings address names) hzero
  functionsPosition := ⟨40, by rw [size_exportBytes]; omega⟩
  namesPosition := ⟨44, by rw [size_exportBytes]; omega⟩
  ordinalsPosition := ⟨44 + names.length * 4, by rw [size_exportBytes]; omega⟩
  front := Bytes.little 20 0
  size_front := Bytes.size_little ..
  address_pos := hpos
  address_add_size_le := hsize
  holdsAt_directory := by
    obtain ⟨hdirectory, -⟩ := holdsAt_exportBytes address names
    rwa [length_placedExports]
  holdsAt_functions := by
    obtain ⟨-, hfunctions, -⟩ := holdsAt_exportBytes address names
    exact hfunctions
  holdsAt_names := by
    obtain ⟨-, -, hnames, -⟩ := holdsAt_exportBytes address names
    rwa [map_placedExports _ hzero fun _ position _ => address + position]
  holdsAt_ordinals := by
    obtain ⟨-, -, -, hordinals, -⟩ := holdsAt_exportBytes address names
    rwa [map_placedExports _ hzero fun _ _ ordinal => ordinal.toNat]
  exists_function := by
    -- The one function is at address zero, in front of the data.
    intro entry hentry
    refine ⟨0, ?_, .inl hpos⟩
    rw [ordinal_of_mem_placedExports hentry]
    rfl

theorem WrittenExports.names_ofNames {address : Nat} {names : List Bytes} (hpos : 0 < address)
    (hzero : ∀ name ∈ names, 0 ∉ name.data.toList)
    (hsize : address + (exportBytes address names).size ≤ 2 ^ 32) :
    (WrittenExports.ofNames address names hpos hzero hsize).names = names :=
  (map_placedExports (holdsAt_nameStrings address names) hzero fun name _ _ => name).trans
    (map_fst_places ..)

/-- An image with nothing but the export data, which are loaded at address `0x1000`. -/
def imageBytes (data : Bytes) (rest : HeaderRest) : Bytes :=
  stub (Bytes.little 58 0) ++
    (headers 0x2000 rest ++ Bytes.concat (directories 0x1000 data.size) ++
      sectionHeader (Bytes.little 8 0) data.size 0x1000 368 (Bytes.little 16 0)) ++
    data

/-- In `imageBytes` the headers stand behind the stub, and the data behind the headers. -/
theorem holdsAt_imageBytes (data : Bytes) (rest : HeaderRest) :
    (imageBytes data rest).HoldsAt 0 (stub (Bytes.little 58 0)) ∧
      (imageBytes data rest).HoldsAt headersOffset (headers 0x2000 rest ++
        Bytes.concat (directories 0x1000 data.size) ++
        sectionHeader (Bytes.little 8 0) data.size 0x1000 368 (Bytes.little 16 0)) ∧
      (imageBytes data rest).HoldsAt 368 data := by
  obtain ⟨hfront, hdata⟩ := Bytes.holdsAt_append_iff.mp
    (Bytes.holdsAt_zero_self (imageBytes data rest))
  obtain ⟨hstub, hheaders⟩ := Bytes.holdsAt_append_iff.mp hfront
  simp only [ByteArray.size_append, size_stub (Bytes.size_little ..), size_headers,
    size_directories, size_sectionHeader (Bytes.size_little ..) (Bytes.size_little ..),
    Nat.zero_add, Nat.reduceAdd] at hdata hheaders
  exact ⟨hstub, hheaders, hdata⟩

/-- The other fields of the headers of `WrittenImage.ofNames`. -/
def plainRest : HeaderRest where
  machine := 0x8664
  timestamp := 0
  symbolCount := 0
  optional := Bytes.little 106 0
  size_optional := Bytes.size_little ..

/-- A library that exports names without zero bytes, if addresses of four bytes suffice for them. -/
def WrittenImage.ofNames (names : List Bytes) (hzero : ∀ name ∈ names, 0 ∉ name.data.toList)
    (hsize : 0x1000 + (exportBytes 0x1000 names).size ≤ 2 ^ 32) : WrittenImage where
  file := imageBytes (exportBytes 0x1000 names) plainRest
  exports := .ofNames 0x1000 names (by decide) hzero hsize
  contents := exportBytes 0x1000 names
  sectionAddress := 0x1000
  sectionOffset := 368
  start := 0
  flags := 0x2000
  middle := Bytes.little 58 0
  rest := plainRest
  sectionName := Bytes.little 8 0
  sectionBack := Bytes.little 16 0
  size_middle := Bytes.size_little ..
  size_sectionName := Bytes.size_little ..
  size_sectionBack := Bytes.size_little ..
  size_contents_lt := by omega
  flags_library := by decide
  address_exports := rfl
  offset_lt := by decide
  aligned := rfl
  holdsAt_stub := (holdsAt_imageBytes _ _).1
  holdsAt_headers := (holdsAt_imageBytes _ _).2.1
  holdsAt_contents := (holdsAt_imageBytes _ _).2.2
  holdsAt_exports := Bytes.holdsAt_zero_self _

/-- Every list of names without zero bytes can be exported, unless it is too long for addresses of
four bytes. -/
theorem exists_writtenImage {names : List Bytes} (hzero : ∀ name ∈ names, 0 ∉ name.data.toList)
    (hsize : 0x1000 + (exportBytes 0x1000 names).size ≤ 2 ^ 32) :
    ∃ image : WrittenImage, image.exports.names = names :=
  ⟨.ofNames names hzero hsize, WrittenExports.names_ofNames ..⟩

end RuntimeSlots.Pe
