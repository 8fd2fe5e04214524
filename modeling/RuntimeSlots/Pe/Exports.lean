import RuntimeSlots.Pe.Header

/-!
# Exports of PE images

The export directory points at three arrays: the addresses of functions, the places of names, and
for each name the index of its address.  An address that lies inside the export data itself is the
text of a forward to another library, and its name counts as not exported.
-/

namespace RuntimeSlots.Pe

/-- The data of the export directory, from its address to the end of its size. -/
structure ExportData where
  /-- The address of the first byte. -/
  address : Nat
  window : Window

namespace ExportData

/-- Where an image address lies in the data. -/
def position (exports : ExportData) (address : Nat) : Nat := distance address exports.address

/-- Cuts the export data out of the image. -/
def read (image : Image) (address size : Nat) : Except Fault ExportData := do
  let rest ← orFault (image.windowFrom? address) .exportAddress
  let bytes ← orFault (rest.bytes.slice? 0 size) .exportSize
  return { address := address, window := { origin := rest.origin, bytes := bytes } }

/-- An array of `count` numbers of the given width at an image address. -/
def array? (exports : ExportData) (address count width : Nat) : Option (List Nat) :=
  (exports.window.bytes.slice? (exports.position address) (count * width)).map fun bytes =>
    (bytes.records width).map fun record => number record 0 width

/-- The name at an image address. -/
def name? (exports : ExportData) (address : Nat) : Option Bytes :=
  exports.window.bytes.cString? (exports.position address) exports.window.bytes.size

/-- The address is inside the data and so the text of a forward. -/
def isForward (exports : ExportData) (address : Nat) : Bool :=
  exports.position address < exports.window.bytes.size

end ExportData

/-- The arrays of an export directory. -/
structure ExportTable where
  data : ExportData
  /-- The addresses of functions. -/
  addresses : Array Nat
  /-- For each name its place and the index of its address. -/
  names : List (Nat × Nat)

namespace ExportTable

/-- Reads the names of the directory and the indices that belong to them. -/
def readNames (data : ExportData) (count names ordinals : Nat) :
    Except Fault (List (Nat × Nat)) :=
  if names = 0 then return []
  else if ordinals = 0 then throw .missingExportOrdinals
  else do
    let pointers ← orFault (data.array? names count 4) .exportNamePointers
    let indices ← orFault (data.array? ordinals count 2) .exportOrdinals
    return pointers.zip indices

/-- Reads the arrays that the directory points at. -/
def read (data : ExportData) : Except Fault ExportTable := do
  let directory ← orFault (data.window.alignedSlice? 4 0 40) .exportDirectory
  let functions := number directory 28 4
  -- An array at address zero is absent, whatever its count is.
  let addresses ←
    if functions = 0 then pure []
    else orFault (data.array? functions (number directory 20 4) 4) .exportAddresses
  let names ← readNames data (number directory 24 4) (number directory 32 4)
    (number directory 36 4)
  return { data := data, addresses := addresses.toArray, names := names }

/-- The name of an entry of the name array, unless it is a forward. -/
def exportedName (table : ExportTable) (entry : Nat × Nat) : Except Fault (Option Bytes) := do
  let name ← orFault (table.data.name? entry.1) .exportName
  let address ← orFault table.addresses[entry.2]? .exportIndex
  return if table.data.isForward address then none else some name

end ExportTable

/-- The names that an image exports, in the order of its name array. -/
def Image.exportNames (image : Image) : Except Fault (List Bytes) :=
  match image.directory? 0 with
  | none => return []
  | some (address, size) => do
    let data ← ExportData.read image address size
    let table ← ExportTable.read data
    let names ← table.names.mapM table.exportedName
    return names.filterMap id

end RuntimeSlots.Pe
