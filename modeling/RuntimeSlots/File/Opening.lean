import RuntimeSlots.Bytes

/-!
# Opening a file

What becomes of the attempt to open a path and to map what is there into memory.
-/

namespace RuntimeSlots

/-- Why a path could not be opened or mapped. -/
inductive OpenFault
  /-- Nothing is there, or a directory on the way does not exist. -/
  | missing
  /-- Something on the way is a file. -/
  | notDirectory
  /-- The path or one of the names in it is too long. -/
  | nameTooLong
  /-- The path holds a zero byte. -/
  | zeroByte
  /-- What is there has no contents that could be mapped. -/
  | notMappable
  /-- A failure that the system describes itself. -/
  | system (description : String)
deriving DecidableEq, Repr

/-- The text that reports the fault. -/
def OpenFault.message : OpenFault → String
  | missing => "No such file or directory (os error 2)"
  | notDirectory => "Not a directory (os error 20)"
  | nameTooLong => "File name too long (os error 36)"
  | zeroByte => "file name contained an unexpected NUL byte"
  | notMappable => "No such device (os error 19)"
  | system description => description

/-- What opening a path leads to. -/
inductive Opening
  /-- A file with these contents. -/
  | contents (bytes : Bytes)
  /-- The path cannot be opened. -/
  | unopened (fault : OpenFault)
  /-- The path can be opened, but what is there cannot be mapped. -/
  | unmapped (fault : OpenFault)

end RuntimeSlots
