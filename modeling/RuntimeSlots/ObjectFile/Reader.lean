import RuntimeSlots.Archive.Header
import RuntimeSlots.Elf.File
import RuntimeSlots.Pe.File

/-!
# Reading an object file of any format

The first bytes of a file tell its format.  Formats without a reader are told apart from bytes
that belong to no format.
-/

namespace RuntimeSlots

/-- Why bytes are not a readable object file, or why one of its lists cannot be read. -/
inductive ObjectFault
  /-- The bytes are too few to tell a format. -/
  | tooShort
  /-- The bytes begin no known format. -/
  | unknown
  /-- The bytes begin as an image, but the image's own headers are not there. -/
  | unknownImage
  /-- The bytes begin as one of several formats, but are none of the known ones. -/
  | unknownAnonymous
  /-- The format is known but holds no symbols. -/
  | unsupported
  | elf (fault : Elf.Fault)
  | coff (fault : Coff.Fault)
  | pe (fault : Pe.Fault)
deriving DecidableEq, Repr

/-- The text that reports the fault. -/
def ObjectFault.message : ObjectFault → String
  | tooShort => "Could not read file magic"
  | unknown => "Unknown file magic"
  | unknownImage => "Unknown MS-DOS file"
  | unknownAnonymous => "Unknown anon object file"
  | unsupported => "Unsupported file format"
  | elf fault => fault.message
  | coff fault => fault.message
  | pe fault => fault.message

/-- The format of an object file. -/
inductive ObjectFormat
  /-- With wide or narrow addresses. -/
  | elf (wide : Bool)
  | coff
  | pe
  /-- One of the forms that begin like the big COFF form, which later bytes identify. -/
  | anonymous
  | unsupported
deriving DecidableEq, Repr

namespace ObjectFormat

/-- How files of each format begin; the first match counts. -/
def signatures : List (List UInt8 × ObjectFormat) :=
  [(Archive.signature.data.toList, unsupported),
   ((Bytes.ofText "!<thin>\n").data.toList, unsupported),
   ([0x7F, 0x45, 0x4C, 0x46, 1], elf false),
   ([0x7F, 0x45, 0x4C, 0x46, 2], elf true),
   ([0x4D, 0x5A], pe),
   ([0xC4, 0x01], coff),
   ([0x64, 0xAA], coff),
   ([0x41, 0xA6], coff),
   ([0x4C, 0x01], coff),
   ([0x64, 0x86], coff),
   ([0, 0, 0xFF, 0xFF, 0, 0], unsupported),
   ([0, 0, 0xFF, 0xFF, 2, 0], anonymous)]

/-- The sixteen bytes that identify the big COFF form. -/
def bigClass : Bytes :=
  ⟨#[0xC7, 0xA1, 0xBA, 0xD1, 0xEE, 0xBA, 0xA9, 0x4B,
     0xAF, 0x20, 0xFA, 0xF6, 0x6A, 0xA4, 0xDC, 0xB8]⟩

/-- The format that the first bytes announce; at least 16 are needed to tell. -/
def detect (file : Bytes) : Except ObjectFault ObjectFormat :=
  if file.size < 16 then .error .tooShort
  else
    let start := (file.extract 0 16).data.toList
    match signatures.find? fun entry => entry.1.isPrefixOf start with
    | some (_, format) => .ok format
    | none => .error .unknown

end ObjectFormat

namespace ObjectFile

/-- The same outcome with its faults seen as cases of a wider type. -/
def widen {φ : Type} (f : φ → ObjectFault) (outcome : Except φ (ObjectFile φ)) :
    Except ObjectFault (ObjectFile ObjectFault) :=
  match outcome with
  | .ok file => .ok (file.mapFault f)
  | .error fault => .error (f fault)

/-- Reads an object file of any format. -/
def read (file : Bytes) : Except ObjectFault (ObjectFile ObjectFault) := do
  match ← ObjectFormat.detect file with
  | .unsupported => throw .unsupported
  | .elf wide => widen .elf (Elf.read wide file)
  | .coff => widen .coff (Coff.read file)
  | .anonymous =>
    -- Files of this form agree in their first bytes; a number of sixteen bytes tells them apart.
    match file.slice? 0 32 with
    | some start =>
      if start.extract 12 28 = ObjectFormat.bigClass then widen .coff (Coff.readBig file)
      else throw .unknownAnonymous
    | none => throw .unknownAnonymous
  | .pe =>
    match Pe.addressWidth? file with
    | some width => widen .pe (Pe.read width file)
    | none => throw .unknownImage

end ObjectFile

end RuntimeSlots
