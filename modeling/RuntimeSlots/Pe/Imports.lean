import RuntimeSlots.Pe.Header

/-!
# Imports of PE images

The import directory is an array of descriptors, one for each library, that ends with an empty
one.  A descriptor names the library and points at an array of thunks, which ends with an empty
one too.  A thunk imports by number or points at a name.
-/

namespace RuntimeSlots.Pe

/-- The section that holds the import directory. -/
structure ImportData where
  /-- The address of the section. -/
  address : Nat
  window : Window

namespace ImportData

/-- Where an image address lies in the section. -/
def position (imports : ImportData) (address : Nat) : Nat := distance address imports.address

/-- The string at an image address. -/
def string? (imports : ImportData) (address : Nat) : Option Bytes :=
  imports.window.bytes.cString? (imports.position address) imports.window.bytes.size

/-- The name that a thunk points at, behind a hint of two bytes. -/
def thunkName (imports : ImportData) (address : Nat) : Except Fault Bytes :=
  let position := imports.position address
  let limit := imports.window.bytes.size
  if limit < position then throw .thunkAddress
  else if limit < position + 2 then throw .thunkHint
  else orFault (imports.window.bytes.cString? (position + 2) limit) .thunkName

/-- The names of the thunks from `position` on.  Only the low 31 bits of a thunk tell whether it is
the empty one that ends the array. -/
def thunkNamesFrom (imports : ImportData) (width : Width) (position : Nat) :
    Except Fault (List Bytes) :=
  if position + width.thunkSize ≤ imports.window.bytes.size then do
    let bytes ← orFault (imports.window.alignedSlice? width.thunkSize position width.thunkSize)
      .missingNullThunk
    let thunk := number bytes 0 width.thunkSize
    let address := thunk % 0x80000000
    if address = 0 then return []
    else if width.firstOrdinal ≤ thunk then
      -- An import by number has no name to tell.
      imports.thunkNamesFrom width (position + width.thunkSize)
    else do
      let name ← imports.thunkName address
      let rest ← imports.thunkNamesFrom width (position + width.thunkSize)
      return name :: rest
  else throw .missingNullThunk
termination_by imports.window.bytes.size - position
decreasing_by all_goals cases width <;> simp_all [Width.thunkSize] <;> omega

/-- The names that one descriptor imports.  The thunks stand where its first number points, or
where its last one does if that is zero. -/
def descriptorNames (imports : ImportData) (width : Width) (descriptor : Bytes) :
    Except Fault (List Bytes) := do
  -- The name of the library is not needed, but it has to be there.
  let _ ← orFault (imports.string? (number descriptor 12 4)) .descriptorName
  let first := number descriptor 0 4
  let thunks := imports.position (if first = 0 then number descriptor 16 4 else first)
  if imports.window.bytes.size < thunks then throw .thunkTable
  else imports.thunkNamesFrom width thunks

/-- The size of a descriptor. -/
def descriptorSize : Nat := 20

/-- The names that the descriptors from `position` on import. -/
def namesFrom (imports : ImportData) (width : Width) (position : Nat) :
    Except Fault (List Bytes) :=
  if position + descriptorSize ≤ imports.window.bytes.size then do
    let descriptor := imports.window.bytes.extract position (position + descriptorSize)
    if descriptor.data.all (· == 0) then return []
    else do
      let names ← imports.descriptorNames width descriptor
      let rest ← imports.namesFrom width (position + descriptorSize)
      return names ++ rest
  else throw .missingNullDescriptor
termination_by imports.window.bytes.size - position
decreasing_by simp_all [descriptorSize]; omega

end ImportData

/-- The names that an image imports, in order; imports by number have none. -/
def Image.importNames (image : Image) : Except Fault (List Bytes) :=
  match image.directory? 1 with
  | none => return []
  | some (address, _) => do
    let (entry, window) ← orFault (image.sectionAt? address) .importAddress
    let imports : ImportData := { address := entry.address, window := window }
    imports.namesFrom image.width (imports.position address)

end RuntimeSlots.Pe
