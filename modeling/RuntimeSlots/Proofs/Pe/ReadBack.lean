import RuntimeSlots.Proofs.ObjectFile.Formats
import RuntimeSlots.Proofs.Pe.Written

/-!
# PE images are read back

`Pe.read` finds in a `Pe.WrittenImage` just the names that its export table lists, wherever the
tables and the names stand.

* `Pe.WrittenExports.read_exportData` reads the export data, `Pe.WrittenExports.exportedName_eq` one
  of the names.
* `Pe.WrittenImage.read_image` reads the headers, `Pe.WrittenImage.read_exports` cuts the export
  data out of the section.
* `Pe.read_file` reads a whole image.
-/

namespace RuntimeSlots.Pe

/-! ## Export data -/

/-- `ExportTable.read` in terms of what it finds: a directory, the addresses of functions, and the
names. -/
theorem ExportTable.read_of_alignedSlice? {data : ExportData} {directory : Bytes}
    {addresses : List Nat} {names : List (Nat × Nat)}
    (hdirectory : data.window.alignedSlice? 4 0 40 = some directory)
    (hfunctions : number directory 28 4 ≠ 0)
    (haddresses : data.array? (number directory 28 4) (number directory 20 4) 4 = some addresses)
    (hnames : readNames data (number directory 24 4) (number directory 32 4)
      (number directory 36 4) = .ok names) :
    read data = .ok { data := data, addresses := addresses.toArray, names := names } := by
  rw [read, hdirectory, orFault_some_bind, if_neg hfunctions, haddresses, orFault_some_bind,
    hnames]
  rfl

namespace WrittenExports

variable (exports : WrittenExports) (origin : Nat)

/-- The export data as a reader sees them, if they stand at `origin` in the file. -/
def exportData : ExportData where
  address := exports.address
  window := { origin := origin, bytes := exports.data }

/-- The export data are loaded in the 32-bit range of addresses, so they are no longer than it. -/
theorem size_data_lt : exports.data.size < 2 ^ 32 := by
  have hpos := exports.address_pos
  have hend := exports.address_add_size_le
  omega

/-- `ExportData.position` of an address in the data is the position that the address was made of. -/
theorem position_address {position : Nat} (h : position ≤ exports.data.size) :
    (exports.exportData origin).position (exports.address + position) = position := by
  have hsize := exports.size_data_lt
  -- The arithmetic of addresses wraps around, but not between two addresses of the data.
  simp only [ExportData.position, exportData, distance, UInt32.size]
  omega

/-- `ExportData.array?` reads a `numberTable` of the data as the numbers that were written. -/
theorem array?_eq {numbers : List Nat} {position width : Nat}
    (h : exports.data.HoldsAt position (numberTable width numbers))
    (hnumbers : ∀ n ∈ numbers, n < 256 ^ width) (hwidth : 0 < width) :
    (exports.exportData origin).array? (exports.address + position) numbers.length width =
      some numbers := by
  have hfits := h.le_size
  have hslice : exports.data.slice? position (numbers.length * width) =
      some (numberTable width numbers) := h.slice?_of_size (size_numberTable ..)
  have hread := Bytes.numbers_concat hnumbers hwidth
  rw [ExportData.array?, exports.position_address origin (by omega)]
  simp only [exportData, hslice, Option.map_some]
  exact congrArg some hread

/-- The `ExportTable` that a reader finds. -/
def table : ExportTable where
  data := exports.exportData origin
  addresses := (exports.functions.map UInt32.toNat).toArray
  names := exports.entries.map fun entry =>
    (exports.address + entry.position, entry.ordinal.toNat)

/-- The two tables of names are read back, entry by entry. -/
theorem readNames_eq :
    ExportTable.readNames (exports.exportData origin) exports.entries.length
      (exports.address + exports.namesPosition) (exports.address + exports.ordinalsPosition) =
        .ok (exports.table origin).names := by
  have hpos := exports.address_pos
  have hend := exports.address_add_size_le
  -- The addresses of the names and the indices fit the widths of their tables.
  have hpositions : ∀ n ∈ exports.entries.map fun entry => exports.address + entry.position,
      n < 256 ^ 4 := by
    intro n hn
    obtain ⟨entry, -, rfl⟩ := List.mem_map.mp hn
    have hfits := entry.holdsAt_name.le_size
    rw [Bytes.size_terminated] at hfits
    omega
  have hindices : ∀ n ∈ exports.entries.map fun entry => entry.ordinal.toNat, n < 256 ^ 2 := by
    intro n hn
    obtain ⟨entry, -, rfl⟩ := List.mem_map.mp hn
    exact UInt16.toNat_lt _
  -- So both tables are read back, and zipped they are the entries again.
  have hpointers := exports.array?_eq origin exports.holdsAt_names hpositions (by decide)
  have hordinals := exports.array?_eq origin exports.holdsAt_ordinals hindices (by decide)
  rw [List.length_map] at hpointers hordinals
  rw [ExportTable.readNames, if_neg (by omega), if_neg (by omega), hpointers, hordinals]
  simp only [orFault, bind, Except.bind, List.zip_map', table]
  rfl

/-- The directory of the data. -/
def directory : Bytes :=
  exportDirectory exports.front exports.functions.length exports.entries.length
    (exports.address + exports.functionsPosition) (exports.address + exports.namesPosition)
    (exports.address + exports.ordinalsPosition)

theorem length_functions_lt : exports.functions.length < 256 ^ 4 := by
  have hfits := exports.holdsAt_functions.le_size
  rw [size_numberTable, List.length_map] at hfits
  have hsize := exports.size_data_lt
  omega

theorem length_entries_lt : exports.entries.length < 256 ^ 4 := by
  have hfits := exports.holdsAt_names.le_size
  rw [size_numberTable, List.length_map] at hfits
  have hsize := exports.size_data_lt
  omega

theorem number_directory :
    number exports.directory 20 4 = exports.functions.length ∧
      number exports.directory 24 4 = exports.entries.length ∧
      number exports.directory 28 4 = exports.address + exports.functionsPosition ∧
      number exports.directory 32 4 = exports.address + exports.namesPosition ∧
      number exports.directory 36 4 = exports.address + exports.ordinalsPosition := by
  have hend := exports.address_add_size_le
  -- Taking the directory apart gives each number its place.
  have hwhole : exports.directory.HoldsAt 0 exports.directory := Bytes.holdsAt_zero_self _
  simp only [directory, exportDirectory, Bytes.holdsAt_append_iff, ByteArray.size_append,
    Bytes.size_little, exports.size_front, Nat.zero_add] at hwhole
  obtain ⟨⟨⟨⟨⟨-, hfunctionCount⟩, hnameCount⟩, hfunctions⟩, hnames⟩, hordinals⟩ := hwhole
  refine ⟨?_, ?_, ?_, ?_, ?_⟩
  · exact Bytes.number_of_holdsAt hfunctionCount exports.length_functions_lt
  · exact Bytes.number_of_holdsAt hnameCount exports.length_entries_lt
  · exact Bytes.number_of_holdsAt hfunctions (by omega)
  · exact Bytes.number_of_holdsAt hnames (by omega)
  · exact Bytes.number_of_holdsAt hordinals (by omega)

/-- `ExportTable.read` finds `table` in export data that stand at a multiple of four. -/
theorem read_exportData (h : origin % 4 = 0) :
    ExportTable.read (exports.exportData origin) = .ok (exports.table origin) := by
  have hpos := exports.address_pos
  have hslice : (exports.exportData origin).window.alignedSlice? 4 0 40 =
      some exports.directory := by
    rw [Window.alignedSlice?, Nat.add_zero]
    exact (if_pos h).trans
      (exports.holdsAt_directory.slice?_of_size (size_exportDirectory exports.size_front ..))
  -- The addresses of the functions are any numbers of four bytes.
  have haddresses : (exports.exportData origin).array?
      (exports.address + exports.functionsPosition) exports.functions.length 4 =
        some (exports.functions.map UInt32.toNat) := by
    have hnumbers : ∀ n ∈ exports.functions.map UInt32.toNat, n < 256 ^ 4 := by
      intro n hn
      obtain ⟨function, -, rfl⟩ := List.mem_map.mp hn
      exact UInt32.toNat_lt _
    have hread := exports.array?_eq origin exports.holdsAt_functions hnumbers (by decide)
    rwa [List.length_map] at hread
  obtain ⟨hfunctionCount, hnameCount, hfunctions, hnames, hordinals⟩ := exports.number_directory
  refine ExportTable.read_of_alignedSlice? hslice ?_ ?_ ?_
  · rw [hfunctions]
    omega
  · rw [hfunctions, hfunctionCount, haddresses]
  · rw [hnameCount, hnames, hordinals]
    exact exports.readNames_eq origin

/-- `ExportTable.exportedName` finds a name in its place, and takes its function for no forward. -/
theorem exportedName_eq {entry : WrittenExport exports.data} (h : entry ∈ exports.entries) :
    (exports.table origin).exportedName
      (exports.address + entry.position, entry.ordinal.toNat) = .ok (some entry.name) := by
  have hfits := entry.holdsAt_name.le_size
  rw [Bytes.size_terminated] at hfits
  have hname : (exports.table origin).data.name? (exports.address + entry.position) =
      some entry.name := by
    rw [ExportData.name?, table, exports.position_address origin (by omega)]
    exact Bytes.cString?_of_holdsAt entry.holdsAt_name entry.zero_notMem hfits (Nat.le_refl _)
  -- The index that belongs to the name is that of a function.
  obtain ⟨function, hfunction, houtside⟩ := exports.exists_function entry h
  have haddress : (exports.table origin).addresses[entry.ordinal.toNat]? =
      some function.toNat := by
    rw [table, List.getElem?_toArray, List.getElem?_map, hfunction, Option.map_some]
  -- Behind the data or in front of them, the function is further away than the data are long.
  have hforward : (exports.table origin).data.isForward function.toNat = false := by
    have hpos := exports.address_pos
    have hend := exports.address_add_size_le
    have hlt := UInt32.toNat_lt function
    have hfar : exports.data.size ≤ distance function.toNat exports.address := by
      simp only [distance, UInt32.size]
      omega
    exact decide_eq_false (Nat.not_lt_of_le hfar)
  rw [ExportTable.exportedName, hname, orFault_some_bind, haddress, orFault_some_bind, hforward]
  rfl

/-- All entries of the table are exported, so `Image.exportNames` leaves out none. -/
theorem mapM_exportedName :
    (exports.table origin).names.mapM (exports.table origin).exportedName =
      .ok (exports.names.map some) := by
  have htable : (exports.table origin).names = exports.entries.map fun entry =>
      (exports.address + entry.position, entry.ordinal.toNat) := rfl
  have hall := mapM_eq_ok fun entry hentry => exports.exportedName_eq origin hentry
  rw [htable, List.mapM_map, names, List.map_map]
  exact hall

end WrittenExports

/-! ## Headers -/

/-- `Image.read` in terms of what it finds in the headers, for an image without a symbol table. -/
theorem Image.read_of_headersOffset? {width : Width} {file headers fileHeader rest directories
    sections : Bytes} {offset optionalSize : Nat}
    (hoffset : headersOffset? file = some offset)
    (hheaders : file.alignedSlice? width.alignment offset (24 + width.optionalHeaderSize) =
      some headers)
    (hfileHeader : headers.extract 4 (4 + Coff.headerSize) = fileHeader)
    (hoptional : number headers 20 2 = optionalSize)
    (hsize : width.optionalHeaderSize ≤ optionalSize)
    (hrest : file.slice? (offset + (24 + width.optionalHeaderSize))
      (optionalSize - width.optionalHeaderSize) = some rest)
    (hdirectories : rest.slice? 0 (Image.directoryCount width headers * 8) = some directories)
    (hsections : Coff.sectionHeaders file
      (Coff.Header.ofBytes (offset + 4) fileHeader).sectionsOffset
      (Coff.Header.ofBytes (offset + 4) fileHeader).sectionCount = .ok sections)
    (hsymbols : (Coff.Header.ofBytes (offset + 4) fileHeader).symbolsOffset = 0) :
    Image.read width file = .ok {
      file := file
      width := width
      flags := number headers 22 2
      symbols := .empty .standard
      directories := (directories.records 8).map fun bytes => (number bytes 0 4, number bytes 4 4)
      sections := (sections.records Coff.sectionHeaderSize).map Section.ofBytes } := by
  rw [read, hoffset, orFault_some_bind]
  -- The size of the fixed part is a local definition of the reader.
  dsimp only
  rw [hheaders, orFault_some_bind, hfileHeader, hoptional,
    if_neg (Nat.not_lt_of_le hsize), hrest, orFault_some_bind, hdirectories, orFault_some_bind,
    hsections, hsymbols]
  rfl

/-- The fields that `Coff.Header.ofBytes` sees in the file header: the section header is said to
stand behind the optional header of 240 bytes. -/
theorem ofBytes_fileHeader (offset : Nat) (flags : UInt16) (rest : HeaderRest) :
    Coff.Header.ofBytes offset (fileHeader flags rest) = {
      sectionsOffset := offset + 260
      sectionCount := 1
      symbolsOffset := 0
      symbolCount := rest.symbolCount.toNat } := by
  have hwhole : (fileHeader flags rest).HoldsAt 0 (fileHeader flags rest) :=
    Bytes.holdsAt_zero_self _
  simp only [fileHeader, Bytes.holdsAt_append_iff, ByteArray.size_append, Bytes.size_little,
    Nat.zero_add] at hwhole
  obtain ⟨⟨⟨⟨⟨⟨-, hsections⟩, -⟩, hsymbols⟩, hcount⟩, hoptional⟩, -⟩ := hwhole
  -- The optional header with its sixteen directories has 240 bytes, and the header itself has 20.
  have hoptionalSize : Coff.number (fileHeader flags rest) 16 2 = 240 :=
    Bytes.number_of_holdsAt hoptional (by decide)
  simp only [Coff.Header.ofBytes, hoptionalSize, Coff.Header.mk.injEq]
  refine ⟨by rw [Coff.headerSize], ?_, ?_, ?_⟩
  · exact Bytes.number_of_holdsAt hsections (by decide)
  · exact Bytes.number_of_holdsAt hsymbols (by decide)
  · exact Bytes.number_of_holdsAt hcount (UInt32.toNat_lt _)

theorem extract_headers (flags : UInt16) (rest : HeaderRest) :
    (headers flags rest).extract 4 (4 + Coff.headerSize) = fileHeader flags rest := by
  have hwhole := Bytes.holdsAt_zero_self (headers flags rest)
  have hpart := (Bytes.holdsAt_append_iff.mp (Bytes.holdsAt_append_iff.mp hwhole).1).2
  have hextract := (Bytes.holdsAt_iff.mp hpart).2
  rwa [size_fileHeader] at hextract

/-- The size of the optional header, the flags, the number that tells the width of addresses, and
the number of data directories. -/
theorem number_headers (flags : UInt16) (rest : HeaderRest) :
    number (headers flags rest) 20 2 = 240 ∧ number (headers flags rest) 22 2 = flags.toNat ∧
      number (headers flags rest) 24 2 = 0x20B ∧ number (headers flags rest) 132 4 = 16 := by
  have hsignature : signature.size = 4 := rfl
  have hwhole : (headers flags rest).HoldsAt 0 (headers flags rest) := Bytes.holdsAt_zero_self _
  simp only [headers, fileHeader, optionalHeader, Bytes.holdsAt_append_iff, ByteArray.size_append,
    Bytes.size_little, hsignature, rest.size_optional, Nat.zero_add] at hwhole
  -- Four of the numbers matter to a reader of exports.
  obtain ⟨⟨-, ⟨-, hoptional⟩, hflags⟩, ⟨hmagic, -⟩, hcount⟩ := hwhole
  refine ⟨?_, ?_, ?_, ?_⟩
  · exact Bytes.number_of_holdsAt hoptional (by decide)
  · exact Bytes.number_of_holdsAt hflags (UInt16.toNat_lt _)
  · exact Bytes.number_of_holdsAt hmagic (by decide)
  · exact Bytes.number_of_holdsAt hcount (by decide)

/-- The pairs that `Image.read` makes of the data directories. -/
theorem map_directories {address size : Nat} (haddress : address < 256 ^ 4)
    (hsize : size < 256 ^ 4) :
    (directories address size).map (fun bytes => (number bytes 0 4, number bytes 4 4)) =
      (address, size) :: List.replicate 15 (0, 0) := by
  have hwhole : (Bytes.little 4 address ++ Bytes.little 4 size).HoldsAt 0
      (Bytes.little 4 address ++ Bytes.little 4 size) := Bytes.holdsAt_zero_self _
  simp only [Bytes.holdsAt_append_iff, Bytes.size_little, Nat.zero_add] at hwhole
  have hfirst : number (Bytes.little 4 address ++ Bytes.little 4 size) 0 4 = address :=
    Bytes.number_of_holdsAt hwhole.1 haddress
  have hsecond : number (Bytes.little 4 address ++ Bytes.little 4 size) 4 4 = size :=
    Bytes.number_of_holdsAt hwhole.2 hsize
  -- The first directory is that of the exports, and the others are empty.
  have hempty : (number (Bytes.little 8 0) 0 4, number (Bytes.little 8 0) 4 4) = (0, 0) := by
    decide
  rw [directories, List.map_cons, List.map_replicate, hfirst, hsecond, hempty]
  rfl

/-- The fields that `Section.ofBytes` sees in a section header.  As many bytes are in memory as in
the file, so the smaller number is both of them. -/
theorem ofBytes_sectionHeader {name back : Bytes} {size address offset : Nat}
    (hname : name.size = 8) (hsize : size < 256 ^ 4) (haddress : address < 256 ^ 4)
    (hoffset : offset < 256 ^ 4) :
    Section.ofBytes (sectionHeader name size address offset back) = {
      address := address
      size := size
      offset := offset } := by
  have hwhole : (sectionHeader name size address offset back).HoldsAt 0
      (sectionHeader name size address offset back) := Bytes.holdsAt_zero_self _
  simp only [sectionHeader, Bytes.holdsAt_append_iff, ByteArray.size_append, Bytes.size_little,
    hname, Nat.zero_add] at hwhole
  obtain ⟨⟨⟨⟨⟨-, hmemory⟩, haddressAt⟩, hfile⟩, hoffsetAt⟩, -⟩ := hwhole
  -- The size in memory and the size in the file are the same number.
  have hmemorySize : number (sectionHeader name size address offset back) 8 4 = size :=
    Bytes.number_of_holdsAt hmemory hsize
  have hfileSize : number (sectionHeader name size address offset back) 16 4 = size :=
    Bytes.number_of_holdsAt hfile hsize
  simp only [Section.ofBytes, hmemorySize, hfileSize, Section.mk.injEq, Nat.min_self, true_and]
  exact ⟨Bytes.number_of_holdsAt haddressAt haddress, Bytes.number_of_holdsAt hoffsetAt hoffset⟩

namespace WrittenImage

variable (image : WrittenImage)

/-- The `Section` that a reader finds. -/
def loadedSection : Section where
  address := image.sectionAddress.toNat
  size := image.contents.size
  offset := image.sectionOffset.toNat

/-- The `Image` that a reader finds. -/
def loaded : Image where
  file := image.file
  width := .wide
  flags := image.flags.toNat
  symbols := .empty .standard
  directories := (image.exports.address, image.exports.data.size) :: List.replicate 15 (0, 0)
  sections := [image.loadedSection]

theorem headersOffset?_file : headersOffset? image.file = some 64 := by
  have hslice : image.file.slice? 0 64 = some (stub image.middle) :=
    image.holdsAt_stub.slice?_of_size (size_stub image.size_middle)
  have hoffset : (stub image.middle).HoldsAt 60 (Bytes.little 4 headersOffset) := by
    have hend := (Bytes.holdsAt_append_iff.mp (Bytes.holdsAt_zero_self (stub image.middle))).2
    rw [ByteArray.size_append, image.size_middle] at hend
    exact hend
  -- The last four bytes of the stub are the place of the headers.
  have hnumber : number (stub image.middle) 60 4 = 64 :=
    Bytes.number_of_holdsAt hoffset (by decide)
  rw [headersOffset?, hslice, Option.map_some, hnumber]

/-- The data directories. -/
def directoryBytes : Bytes :=
  Bytes.concat (directories image.exports.address image.exports.data.size)

/-- The header of the section. -/
def sectionBytes : Bytes :=
  sectionHeader image.sectionName image.contents.size image.sectionAddress.toNat
    image.sectionOffset.toNat image.sectionBack

theorem size_directoryBytes : image.directoryBytes.size = 128 := size_directories ..

theorem size_sectionBytes : image.sectionBytes.size = 40 :=
  size_sectionHeader image.size_sectionName image.size_sectionBack ..

/-- Where the headers, the data directories and the section header stand in the file. -/
theorem holdsAt_parts :
    image.file.HoldsAt 64 (headers image.flags image.rest) ∧
      image.file.HoldsAt 200 image.directoryBytes ∧ image.file.HoldsAt 328 image.sectionBytes := by
  obtain ⟨hfront, hsection⟩ := Bytes.holdsAt_append_iff.mp image.holdsAt_headers
  obtain ⟨hheaders, hdirectories⟩ := Bytes.holdsAt_append_iff.mp hfront
  rw [ByteArray.size_append, size_headers, size_directories] at hsection
  rw [size_headers] at hdirectories
  exact ⟨hheaders, hdirectories, hsection⟩

/-- `Section.ofBytes` makes `loadedSection` of the only section header. -/
theorem map_sectionBytes :
    (image.sectionBytes.records Coff.sectionHeaderSize).map Section.ofBytes =
      [image.loadedSection] := by
  -- One header is an array of one record.
  have hone : Bytes.concat [image.sectionBytes] = image.sectionBytes := ByteArray.append_empty
  have hsize : ∀ part ∈ [image.sectionBytes], part.size = Coff.sectionHeaderSize := by
    intro part hpart
    rw [List.mem_singleton.mp hpart, image.size_sectionBytes, Coff.sectionHeaderSize]
  have hrecords : image.sectionBytes.records Coff.sectionHeaderSize = [image.sectionBytes] := by
    have hread := Bytes.records_concat hsize (by decide)
    rwa [hone] at hread
  rw [hrecords, List.map_singleton, sectionBytes,
    ofBytes_sectionHeader image.size_sectionName image.size_contents_lt (UInt32.toNat_lt _)
      (UInt32.toNat_lt _), loadedSection]

theorem alignedSlice?_headers :
    image.file.alignedSlice? (Width.alignment .wide) 64 (24 + Width.optionalHeaderSize .wide) =
      some (headers image.flags image.rest) := by
  rw [Bytes.alignedSlice?, if_pos (by decide)]
  exact image.holdsAt_parts.1.slice?_of_size (size_headers ..)

theorem sectionHeaders_file : Coff.sectionHeaders image.file 328 1 = .ok image.sectionBytes := by
  have hslice : image.file.slice? 328 (1 * Coff.sectionHeaderSize) = some image.sectionBytes :=
    image.holdsAt_parts.2.2.slice?_of_size image.size_sectionBytes
  rw [Coff.sectionHeaders, Bytes.alignedSlice?, if_pos (by decide), hslice]
  rfl

theorem read_image : Image.read .wide image.file = .ok image.loaded := by
  obtain ⟨hoptional, hflags, -, hcount⟩ := number_headers image.flags image.rest
  -- The headers tell that all sixteen data directories are there.
  have hdirectories : image.file.slice? 200 128 = some image.directoryBytes :=
    image.holdsAt_parts.2.1.slice?_of_size image.size_directoryBytes
  have hwhole : image.directoryBytes.slice? 0
      (Image.directoryCount .wide (headers image.flags image.rest) * 8) =
        some image.directoryBytes := by
    have hcountEq : Image.directoryCount .wide (headers image.flags image.rest) = 16 := hcount
    rw [hcountEq]
    exact (Bytes.holdsAt_zero_self image.directoryBytes).slice?_of_size image.size_directoryBytes
  have hrecords : image.directoryBytes.records 8 =
      directories image.exports.address image.exports.data.size :=
    Bytes.records_concat (fun _ => size_of_mem_directories) (by decide)
  have haddress : image.exports.address < 256 ^ 4 := by
    have hend := image.exports.address_add_size_le
    have hposition := image.exports.functionsPosition.isLt
    omega
  have hread := Image.read_of_headersOffset? image.headersOffset?_file image.alignedSlice?_headers
    (extract_headers ..) hoptional (by decide) hdirectories hwhole
    (by rw [ofBytes_fileHeader]; exact image.sectionHeaders_file) (by rw [ofBytes_fileHeader])
  rw [hread, hflags, hrecords, map_directories haddress image.exports.size_data_lt,
    image.map_sectionBytes, loaded]

/-- `addressWidth?` sees that addresses are wide by the first number of the optional header. -/
theorem addressWidth?_file : addressWidth? image.file = some .wide := by
  have hwhole := Bytes.holdsAt_zero_self (headers image.flags image.rest)
  obtain ⟨hfront, hoptional⟩ := Bytes.holdsAt_append_iff.mp hwhole
  have hsignature := (Bytes.holdsAt_append_iff.mp hfront).1
  rw [ByteArray.size_append, size_fileHeader] at hoptional
  have hmagic : (headers image.flags image.rest).HoldsAt 24 (Bytes.little 2 0x20B) :=
    (Bytes.holdsAt_append_iff.mp (Bytes.holdsAt_append_iff.mp hoptional).1).1
  -- The reader looks at the first 120 bytes of the headers only.
  have hslice : image.file.alignedSlice? 4 64 120 =
      some ((headers image.flags image.rest).extract 0 120) := by
    rw [Bytes.alignedSlice?, if_pos (by decide)]
    exact image.holdsAt_parts.1.slice? 0 120 (by rw [size_headers]; decide)
  have hstart : Bytes.startsWith ((headers image.flags image.rest).extract 0 120) signature =
      true :=
    Bytes.startsWith_iff.mpr (@Bytes.HoldsAt.extract _ _ 0 0 120 hsignature (by decide))
  have hnumber : number ((headers image.flags image.rest).extract 0 120) 24 2 = 0x20B :=
    Bytes.number_of_holdsAt (@Bytes.HoldsAt.extract _ _ 0 24 120 hmagic (by decide)) (by decide)
  rw [addressWidth?, image.headersOffset?_file]
  simp only [Option.bind_eq_bind, Option.bind_some, hslice, hnumber, if_pos hstart]

/-! ## Exports and imports -/

/-- The section holds `exports.address`, so a reader gets its `contents` from `start` on. -/
theorem windowFrom?_loaded :
    image.loaded.windowFrom? image.exports.address = some {
      origin := image.sectionOffset.toNat + image.start
      bytes := image.contents.extract image.start image.contents.size } := by
  have hfits := image.holdsAt_exports.le_size
  have hposition := image.exports.functionsPosition.isLt
  have haddress := image.address_exports
  have hoffset := image.offset_lt
  -- The address lies in the section, `start` bytes behind the place where that is loaded.
  have hstart : image.exports.address - image.loadedSection.address = image.start := by
    simp only [loadedSection]
    omega
  have hinside : image.loadedSection.address ≤ image.exports.address ∧
      image.start < image.loadedSection.size ∧
      image.loadedSection.offset + image.start < UInt32.size := by
    simp only [loadedSection, UInt32.size]
    omega
  -- What is cut out of the file is the end of the part that stands there.
  have hslice : image.file.slice? (image.loadedSection.offset + image.start)
      (image.loadedSection.size - image.start) =
        some (image.contents.extract image.start image.contents.size) := by
    have hend : image.start + (image.contents.size - image.start) = image.contents.size := by
      omega
    have hread := image.holdsAt_contents.slice? image.start (image.contents.size - image.start)
      hend.le
    rwa [hend] at hread
  have hwindow : image.loadedSection.windowFrom? image.file image.exports.address = some {
      origin := image.sectionOffset.toNat + image.start
      bytes := image.contents.extract image.start image.contents.size } := by
    rw [Section.windowFrom?, hstart, if_pos hinside, hslice, Option.map_some, loadedSection]
  rw [Image.windowFrom?]
  simp only [loaded, List.findSome?_cons, hwindow]

/-- The export data begin where the section is cut off, and are cut off at their own size. -/
theorem read_exports :
    ExportData.read image.loaded image.exports.address image.exports.data.size =
      .ok (image.exports.exportData (image.sectionOffset.toNat + image.start)) := by
  -- The export data stand in the section from `start` on, and so at the front of what is cut off.
  have hslice : Bytes.slice? (image.contents.extract image.start image.contents.size) 0
      image.exports.data.size = some image.exports.data :=
    @Bytes.HoldsAt.extract _ _ image.start 0 image.contents.size image.holdsAt_exports
      image.holdsAt_exports.le_size
  rw [ExportData.read, image.windowFrom?_loaded, orFault_some_bind]
  dsimp only
  rw [hslice, orFault_some_bind]
  rfl

/-- The first data directory leads to the exports. -/
theorem exportNames_loaded : image.loaded.exportNames = .ok image.exports.names := by
  have hdirectory : image.loaded.directory? 0 =
      some (image.exports.address, image.exports.data.size) := by
    have hne : (image.exports.address != 0) = true :=
      bne_iff_ne.mpr (Nat.ne_of_gt image.exports.address_pos)
    rw [Image.directory?, loaded, List.getElem?_cons_zero, Option.filter_some, if_pos hne]
  -- No name is left out, as none is a forward.
  have hnames : (image.exports.names.map some).filterMap id = image.exports.names := by
    rw [List.filterMap_map, Function.id_comp, List.filterMap_some]
  rw [Image.exportNames, hdirectory]
  dsimp only
  rw [image.read_exports, ok_bind, image.exports.read_exportData _ image.aligned, ok_bind,
    image.exports.mapM_exportedName, ok_bind, hnames]
  rfl

theorem importNames_loaded : image.loaded.importNames = .ok [] := by
  have hdirectory : image.loaded.directory? 1 = none := rfl
  rw [Image.importNames, hdirectory]
  rfl

/-- A library counts as linked, whatever its other flags are. -/
theorem isImage_loaded : image.loaded.isImage = true := by
  have hlibrary : (image.loaded.flags &&& Image.flagLibrary != 0) = true :=
    bne_iff_ne.mpr image.flags_library
  rw [Image.isImage, hlibrary, Bool.true_or]

end WrittenImage

/-- `Pe.read` finds the names that the export table lists, all lists can be read, and there are no
symbols and imports. -/
theorem read_file (image : WrittenImage) :
    read .wide image.file = .ok {
      isImage := true
      symbols := .ok []
      exportNames := .ok image.exports.names
      importNames := .ok [] } := by
  -- A symbol table of no records has no symbols.
  have hsymbols : image.loaded.symbols.symbols = .ok [] := by
    rw [Coff.SymbolTable.symbols, Coff.SymbolTable.symbolsFrom]
    rfl
  rw [read, image.read_image, ok_bind, image.isImage_loaded, hsymbols, image.exportNames_loaded,
    image.importNames_loaded]
  rfl

end RuntimeSlots.Pe
