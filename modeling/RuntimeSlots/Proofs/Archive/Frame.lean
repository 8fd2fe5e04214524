import RuntimeSlots.Archive.Members
import RuntimeSlots.Proofs.Archive.Field

/-!
# Written members

A member as an archiver writes it: a name field, the attributes nobody looks at, the size of the
body, the body, and one byte of padding behind a body of odd size.  What member a frame stands for
depends on its name field only, and the reader finds that member wherever the frame stands.

* `Archive.Frame` is a written member, `Archive.Frame.bytes` its bytes.
* `Archive.Frame.Denotes` says which member it stands for.
* `Archive.Reads` says that the reader finds a member at an offset; `Archive.Frame.Denotes.reads`
  is the step of every walk through an archive.
-/

namespace RuntimeSlots.Archive

/-! ## Frames -/

/-- The bytes of a member before they are put together.  The fields of the structure say what every
archiver keeps to: the widths of the header's fields, and a size that fits into its field. -/
structure Frame where
  /-- The name field. -/
  field : Bytes
  /-- The date, the owner, the group and the mode. -/
  attributes : Bytes
  body : Bytes
  /-- The byte that follows a body of odd size. -/
  pad : UInt8
  size_field : field.size = 16
  size_attributes : attributes.size = 32
  size_body_lt : body.size < 10 ^ 10

namespace Frame

/-- The member header. -/
def header (frame : Frame) : Bytes :=
  frame.field ++ frame.attributes ++ fill 10 (decimal frame.body.size) ++ terminator

/-- The header and the body. -/
def content (frame : Frame) : Bytes := frame.header ++ frame.body

/-- The padding behind the body. -/
def padding (frame : Frame) : Bytes :=
  if frame.body.size % 2 = 1 then ⟨#[frame.pad]⟩ else ByteArray.empty

/-- All bytes of the written member. -/
def bytes (frame : Frame) : Bytes := frame.content ++ frame.padding

theorem size_sizeField (frame : Frame) : (fill 10 (decimal frame.body.size)).size = 10 :=
  size_fill (size_decimal_le frame.size_body_lt (by decide))

theorem size_header (frame : Frame) : frame.header.size = headerSize := by
  have hterminator : terminator.size = 2 := rfl
  simp only [header, ByteArray.size_append, frame.size_field, frame.size_attributes,
    frame.size_sizeField, hterminator, headerSize]

theorem size_content (frame : Frame) : frame.content.size = headerSize + frame.body.size := by
  rw [content, ByteArray.size_append, size_header]

theorem size_padding (frame : Frame) : frame.padding.size = frame.body.size % 2 := by
  unfold padding
  split
  case isTrue hodd => rw [hodd]; rfl
  case isFalse heven => rw [ByteArray.size_empty]; omega

theorem size_bytes (frame : Frame) :
    frame.bytes.size = headerSize + frame.body.size + frame.body.size % 2 := by
  rw [bytes, ByteArray.size_append, size_content, size_padding]

/-- `Entry.read` cuts the header where its fields are put together. -/
theorem extract_header (frame : Frame) :
    frame.header.extract 0 16 = frame.field ∧
      frame.header.extract 48 58 = fill 10 (decimal frame.body.size) ∧
      frame.header.extract 58 60 = terminator := by
  -- The header stands in itself; taking it apart gives each field its place.
  have hwhole : frame.header.HoldsAt 0
      (frame.field ++ frame.attributes ++ fill 10 (decimal frame.body.size) ++ terminator) :=
    Bytes.holdsAt_zero_self _
  simp only [Bytes.holdsAt_append_iff, ByteArray.size_append, frame.size_field,
    frame.size_attributes, frame.size_sizeField] at hwhole
  obtain ⟨⟨⟨hfield, -⟩, hsize⟩, hterminator⟩ := hwhole
  rw [Bytes.holdsAt_iff, frame.size_field] at hfield
  rw [Bytes.holdsAt_iff, frame.size_sizeField] at hsize
  exact ⟨hfield.2, hsize.2, (Bytes.holdsAt_iff.mp hterminator).2⟩

/-! ## Reading a frame -/

/-- Where a frame's header stands, `Entry.read` knows everything but what `Entry.resolveName` makes
of the name field. -/
theorem read_eq_of_holdsAt {file names : Bytes} {offset : Nat} {frame : Frame}
    (h : file.HoldsAt offset frame.header) :
    Entry.read file names offset =
      (Entry.resolveName file names frame.field (offset + headerSize) frame.body.size).map
        fun resolved => {
          name := resolved.1
          bodyOffset := offset + headerSize
          bodySize := frame.body.size
          nameSize := resolved.2 } := by
  obtain ⟨hfield, hsize, hterminator⟩ := extract_header frame
  have hheader : file.slice? offset headerSize = some frame.header := by
    rw [← size_header frame]
    exact h
  -- The size has ten digits at most, so it is within the range of numbers as well.
  have hnumber : number? (fill 10 (decimal frame.body.size)) = some frame.body.size :=
    number?_decimal (lt_trans frame.size_body_lt (by decide)) _
  simp only [Entry.read, hheader, hterminator, hsize, hnumber, hfield]
  cases Entry.resolveName file names frame.field (offset + headerSize) frame.body.size with
  | error fault => simp [Except.map]
  | ok resolved => simp [Except.map]

/-- With this table of long names, the frame stands for `member` in any file: its name field
resolves to the member's name, and what the name leaves of the body is the member's data. -/
def Denotes (names : Bytes) (frame : Frame) (member : Member) : Prop :=
  ∃ nameSize ≤ frame.body.size,
    frame.body.extract nameSize frame.body.size = member.data ∧
    ∀ (file : Bytes) (offset : Nat), file.HoldsAt offset frame.body →
      Entry.resolveName file names frame.field offset frame.body.size = .ok (member.name, nameSize)

/-- `Denotes` for a frame whose name is written outside of its body: the body is the data. -/
theorem denotes_of_resolveName {names : Bytes} {frame : Frame} {member : Member}
    (hbody : frame.body = member.data)
    (h : ∀ (file : Bytes) (offset : Nat),
      Entry.resolveName file names frame.field offset frame.body.size = .ok (member.name, 0)) :
    frame.Denotes names member :=
  ⟨0, Nat.zero_le _, hbody ▸ ByteArray.extract_zero_size, fun file offset _ => h file offset⟩

end Frame

/-- `Entry.read` finds `member` at `offset`, with its data in the file, and `Entry.next` is `next`.
-/
def Reads (file names : Bytes) (offset : Nat) (member : Member) (next : Nat) : Prop :=
  ∃ entry, Entry.read file names offset = .ok entry ∧ entry.name = member.name ∧
    entry.data? file = some member.data ∧ entry.next = next

/-- A frame that `Denotes` a member is read as that member wherever its `content` stands; whether
the padding follows does not matter. -/
theorem Frame.Denotes.reads {file names : Bytes} {offset : Nat} {frame : Frame} {member : Member}
    (hmember : frame.Denotes names member) (h : file.HoldsAt offset frame.content) :
    Reads file names offset member (offset + frame.bytes.size) := by
  obtain ⟨hheader, hbody⟩ := Bytes.holdsAt_append_iff.mp h
  rw [frame.size_header] at hbody
  obtain ⟨nameSize, hname, hdata, hresolve⟩ := hmember
  refine ⟨⟨member.name, offset + headerSize, frame.body.size, nameSize⟩, ?_, rfl, ?_, ?_⟩
  -- The header is read, the data is the rest of the body, and the padding is stepped over.
  · rw [Frame.read_eq_of_holdsAt hheader, hresolve file _ hbody]
    rfl
  · have hslice := hbody.slice? nameSize (frame.body.size - nameSize) (by omega)
    rw [Nat.add_sub_cancel' hname, hdata] at hslice
    exact hslice
  · simp only [Entry.next, Frame.size_bytes]
    omega

end RuntimeSlots.Archive
