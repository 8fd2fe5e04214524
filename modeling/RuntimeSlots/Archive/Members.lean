import RuntimeSlots.Archive.Header

/-!
# The members of an archive

The first members of an archive may be there for the linker: an index of symbols in several forms,
and the table of long names.  They are recognised by their names and their places and are no
members in the proper sense.

* `Archive.findStart` passes over the special members.
* `Archive.members` lists the others, up to the first one that cannot be read.
-/

namespace RuntimeSlots.Archive

/-- Where the proper members begin, and the table of long names. -/
structure Start where
  offset : Nat
  names : Bytes

/-- The name of the index of symbols. -/
def indexName : Bytes := Bytes.ofText "/"

/-- The name of the index with offsets of 64 bits. -/
def wideIndexName : Bytes := Bytes.ofText "/SYM64/"

/-- The name of the table of long names. -/
def namesName : Bytes := Bytes.ofText "//"

/-- The name of the index for a second set of instructions. -/
def secondaryIndexName : Bytes := Bytes.ofText "/<ECSYMBOLS>/"

/-- The names that an index has in the customs of another family of systems. -/
def sortedIndexNames : List Bytes :=
  ["__.SYMDEF", "__.SYMDEF SORTED", "__.SYMDEF_64", "__.SYMDEF_64 SORTED"].map Bytes.ofText

/-- The start at `offset` of an archive without long names. -/
def Start.plain (offset : Nat) : Start := { offset := offset, names := ByteArray.empty }

/-- The start behind a table of long names. -/
def Start.behindNames (file : Bytes) (entry : Entry) : Except Fault Start :=
  match entry.data? file with
  | some names => .ok { offset := entry.next, names := names }
  | none => .error .dataSize

/-- The member at `offset`, if the archive does not end there. -/
def entryAt? (file names : Bytes) (offset : Nat) : Except Fault (Option Entry) :=
  if offset < file.size then (Entry.read file names offset).map some else .ok none

/-- The start behind the member at `offset`, if that is a table of long names; otherwise at the
offset itself. -/
def passNames (file : Bytes) (offset : Nat) : Except Fault Start := do
  match ← entryAt? file ByteArray.empty offset with
  | none => return .plain offset
  | some entry =>
    if entry.name = namesName then Start.behindNames file entry else return .plain offset

/-- The start behind the two indices of a linker library: a table of long names may follow, and
if the member after the next one is the secondary index, all up to it is passed over. -/
def passSecondIndex (file : Bytes) (offset : Nat) : Except Fault Start := do
  match ← entryAt? file ByteArray.empty offset with
  | none => return .plain offset
  | some entry =>
    let start ←
      if entry.name = namesName then Start.behindNames file entry else pure (Start.plain offset)
    -- The member behind `entry` is looked at even if `entry` is no table.
    match ← entryAt? file start.names entry.next with
    | none => return start
    | some following =>
      if following.name = secondaryIndexName then return { start with offset := following.next }
      else return start

/-- The start behind an index of symbols: a second index or a table of long names may follow. -/
def passIndex (file : Bytes) (offset : Nat) : Except Fault Start := do
  match ← entryAt? file ByteArray.empty offset with
  | none => return .plain offset
  | some entry =>
    if entry.name = indexName then passSecondIndex file entry.next
    else if entry.name = namesName then Start.behindNames file entry
    else return .plain offset

/-- Passes over the special members at the start of an archive. -/
def findStart (file : Bytes) : Except Fault Start := do
  match ← entryAt? file ByteArray.empty signature.size with
  | none => return .plain signature.size
  | some entry =>
    if entry.name = indexName then passIndex file entry.next
    else if entry.name = wideIndexName then passNames file entry.next
    else if entry.name = namesName then Start.behindNames file entry
    else if sortedIndexNames.any (entry.name = ·) then return .plain entry.next
    else return .plain signature.size

/-- A member with its data. -/
structure Member where
  name : Bytes
  data : Bytes

/-- The members that could be read, and what ended the reading before the end of the archive. -/
structure Listing where
  members : List Member
  failure : Option Fault

/-- The members from `offset` on. -/
def membersFrom (file names : Bytes) (offset : Nat) : Listing :=
  if offset < file.size then
    match _h : Entry.read file names offset with
    | .error fault => { members := [], failure := some fault }
    | .ok entry =>
      match entry.data? file with
      | none => { members := [], failure := some .dataSize }
      | some data =>
        let rest := membersFrom file names entry.next
        { rest with members := { name := entry.name, data := data } :: rest.members }
  else { members := [], failure := none }
termination_by file.size - offset
decreasing_by
  have := Entry.lt_next_of_read _h
  omega

/-- The members of an archive. -/
def members (file : Bytes) : Listing :=
  match findStart file with
  | .error fault => { members := [], failure := some fault }
  | .ok start => membersFrom file start.names start.offset

end RuntimeSlots.Archive
