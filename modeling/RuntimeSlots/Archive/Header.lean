import RuntimeSlots.Bytes

/-!
# Member headers of archives

An archive is a signature followed by members.  A member is a header of 60 bytes in which all
fields are text, and a body that is padded to an even length.  Several customs exist for names
that do not fit into the header.

* `Archive.Entry.read` reads one header and resolves the member's name.
* `Archive.Entry.data?` is the member's data.
* `Archive.Entry.next` is where the next header stands.
-/

namespace RuntimeSlots.Archive

/-- What can be wrong with an archive. -/
inductive Fault
  | header
  | terminator
  | memberSize
  | nameOffset
  | nameLength
  | dataSize
deriving DecidableEq, Repr

/-- The text that reports the fault. -/
def Fault.message : Fault → String
  | header => "Invalid archive member header"
  | terminator => "Invalid archive terminator"
  | memberSize => "Invalid archive member size"
  | nameOffset => "Invalid archive extended name offset"
  | nameLength => "Invalid archive extended name length"
  | dataSize => "Archive member size is too large"

/-- The bytes that begin an archive. -/
def signature : Bytes := Bytes.ofText "!<arch>\n"

/-- The size of a member header. -/
def headerSize : Nat := 60

/-- The bytes that end a member header. -/
def terminator : Bytes := ⟨#[0x60, 0x0A]⟩

/-- The byte of a space, which fills up a header field. -/
def space : UInt8 := 0x20

/-- The byte of a slash, which ends or begins names. -/
def slash : UInt8 := 0x2F

/-- The byte is a decimal digit. -/
def isDigit (byte : UInt8) : Bool := 0x30 ≤ byte && byte ≤ 0x39

/-- The number that digits write, if they are all digits. -/
def ofDigits? (digits : List UInt8) : Option Nat :=
  digits.foldlM (fun value byte =>
    if isDigit byte then some (value * 10 + (byte.toNat - 0x30)) else none) 0

/-- The number in a header field: the digits in front of the first space.  A field of spaces holds
no number, an empty one holds zero, and numbers end below `2 ^ 64`. -/
def number? (field : Bytes) : Option Nat :=
  let bytes := field.data.toList
  if bytes.head? = some space then none
  else (ofDigits? (bytes.takeWhile (· != space))).filter (· < UInt64.size)

/-- A member of an archive, as its header describes it. -/
structure Entry where
  name : Bytes
  /-- Where the body begins. -/
  bodyOffset : Nat
  /-- The size of the body. -/
  bodySize : Nat
  /-- How many bytes at the start of the body are not data but the name. -/
  nameSize : Nat

namespace Entry

/-- The data of the member, if it lies in the file. -/
def data? (entry : Entry) (file : Bytes) : Option Bytes :=
  file.slice? (entry.bodyOffset + entry.nameSize) (entry.bodySize - entry.nameSize)

/-- Where the next header stands: behind the body and, if its size is odd, one byte of padding. -/
def next (entry : Entry) : Nat := entry.bodyOffset + entry.bodySize + entry.bodySize % 2

/-- The name at an offset of the table of long names.  It runs to a line feed behind a slash, or
to a zero byte. -/
def longName? (names : Bytes) (field : Bytes) : Option Bytes := do
  let offset ← number? field
  let rest ← names.from? offset
  let stop ← rest.find? fun byte => byte == 0x0A || byte == 0
  if rest[stop]? = some 0x0A then
    -- The slash has to be there, but it is no part of the name.
    if 0 < stop ∧ rest[stop - 1]? = some slash then some (rest.extract 0 (stop - 1)) else none
  else some (rest.extract 0 stop)

/-- The length of a name that stands at the start of a body, and the name, which may be padded
with zero bytes. -/
def leadingName? (file : Bytes) (field : Bytes) (bodyOffset bodySize : Nat) :
    Option (Nat × Bytes) := do
  let length ← number? field
  if length ≤ bodySize then
    let bytes ← file.slice? bodyOffset length
    some (length, bytes.before 0)
  else none

/-- The name in a header field that holds it whole.  The name of a special member begins with a
slash and ends at a space; any other one ends at a slash or, without one, at a space. -/
def shortName (field : Bytes) : Bytes :=
  if field[0]? = some slash then field.before space
  else if (field.find? (· == slash)).isSome then field.before slash
  else field.before space

/-- The start of a name field that gives the length of a name in the body. -/
def leadingNameMark : Bytes := Bytes.ofText "#1/"

/-- Resolves the name field of the member whose body is given: the name, and how many bytes of the
body it takes. -/
def resolveName (file names field : Bytes) (bodyOffset bodySize : Nat) :
    Except Fault (Bytes × Nat) :=
  if field[0]? = some slash ∧ (field[1]?.any isDigit) then
    -- The digits are an offset of the table of long names.
    match longName? names (field.extract 1 field.size) with
    | some name => .ok (name, 0)
    | none => .error .nameOffset
  else if field.startsWith leadingNameMark ∧ (field[3]?.any isDigit) then
    -- The digits are the length of a name in the body.
    match leadingName? file (field.extract 3 field.size) bodyOffset bodySize with
    | some (length, name) => .ok (name, length)
    | none => .error .nameLength
  else .ok (shortName field, 0)

/-- Reads the header at `offset`; long names are looked up in `names`. -/
def read (file names : Bytes) (offset : Nat) : Except Fault Entry :=
  match file.slice? offset headerSize with
  | none => .error .header
  | some header =>
    if header.extract 58 60 ≠ terminator then .error .terminator
    else
      match number? (header.extract 48 58) with
      | none => .error .memberSize
      | some bodySize =>
        match resolveName file names (header.extract 0 16) (offset + headerSize) bodySize with
        | .error fault => .error fault
        | .ok (name, nameSize) => .ok {
            name := name
            bodyOffset := offset + headerSize
            bodySize := bodySize
            nameSize := nameSize }

/-- Of all ways through `read` only the last one has an entry, whose body begins behind the header.
-/
theorem bodyOffset_of_read {file names : Bytes} {offset : Nat} {entry : Entry}
    (h : read file names offset = .ok entry) : entry.bodyOffset = offset + headerSize := by
  unfold read at h
  split at h
  · cases h
  · split at h
    · cases h
    · split at h
      · cases h
      · split at h
        · cases h
        · cases h
          rfl

/-- The next header stands behind all of this one, whatever size of a body it gives. -/
theorem add_headerSize_le_next {file names : Bytes} {offset : Nat} {entry : Entry}
    (h : read file names offset = .ok entry) : offset + headerSize ≤ entry.next := by
  rw [next, bodyOffset_of_read h]
  omega

theorem lt_next_of_read {file names : Bytes} {offset : Nat} {entry : Entry}
    (h : read file names offset = .ok entry) : offset < entry.next := by
  have hnext := add_headerSize_le_next h
  simp only [headerSize] at hnext
  omega

end Entry

end RuntimeSlots.Archive
