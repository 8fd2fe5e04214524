import RuntimeSlots.Proofs.Archive.Start

/-!
# Plain archives

The simplest archives hold members with short names and nothing for the linker.  `Archive.members`
lists the members that `Archive.write` was given.

* `Archive.write` writes a plain archive of any members that `Archive.PlainMember` admits.
* `Archive.plainFrame` sees a written member as an `Archive.Frame`, so that
  `Archive.path_writeMembers` walks over all of them.
* `Archive.members_write` is the round trip; `Archive.members_extract_write` is the part of it that
  holds of any beginning of the archive.
-/

namespace RuntimeSlots.Archive

/-! ## Writing -/

/-- The attributes of all members: no date, no owner, no group, and an ordinary mode. -/
def plainAttributes : Bytes :=
  fill 12 (decimal 0) ++ fill 6 (decimal 0) ++ fill 6 (decimal 0) ++ fill 8 (decimal 644)

/-- The bytes of one member: a header that holds the name, the data, and a line feed as padding
behind data of odd size. -/
def writeMember (member : Member) : Bytes :=
  fill 16 (member.name ++ slashText) ++ plainAttributes ++ fill 10 (decimal member.data.size) ++
    terminator ++ member.data ++
    (if member.data.size % 2 = 1 then ⟨#[0x0A]⟩ else ByteArray.empty)

/-- The bytes of members that follow each other. -/
def writeMembers : List Member → Bytes
  | [] => ByteArray.empty
  | member :: rest => writeMember member ++ writeMembers rest

/-- The archive of the members. -/
def write (members : List Member) : Bytes := signature ++ writeMembers members

/-- A member that a plain archive can hold: an ordinary name of at most 15 bytes, and data whose
size fits into the header. -/
structure PlainMember (member : Member) : Prop where
  ordinary : OrdinaryName member.name
  size_name_le : member.name.size ≤ 15
  size_data_lt : member.data.size < 10 ^ 10

theorem size_plainAttributes : plainAttributes.size = 32 := by
  decide

theorem writeMembers_append (first second : List Member) :
    writeMembers (first ++ second) = writeMembers first ++ writeMembers second := by
  induction first with
  | nil => simp [writeMembers]
  | cons member rest ih => simp [writeMembers, ih, ByteArray.append_assoc]

theorem write_append (first second : List Member) :
    write (first ++ second) = write first ++ writeMembers second := by
  rw [write, writeMembers_append, ← ByteArray.append_assoc, write]

theorem startsWith_write (members : List Member) :
    (write members).startsWith signature = true :=
  Bytes.startsWith_append ..

/-! ## Members as frames -/

/-- The frame of a member as `writeMember` writes it. -/
def plainFrame (member : Member) (h : PlainMember member) : Frame where
  field := fill 16 (member.name ++ slashText)
  attributes := plainAttributes
  body := member.data
  pad := 0x0A
  size_field := size_fill (by
    have := h.size_name_le
    simp only [ByteArray.size_append, size_slashText]
    omega)
  size_attributes := size_plainAttributes
  size_body_lt := h.size_data_lt

theorem bytes_plainFrame {member : Member} (h : PlainMember member) :
    (plainFrame member h).bytes = writeMember member := rfl

/-- `Entry.read` needs no more than the header of a plain frame: the data behind it may be missing.
-/
theorem read_plainFrame {file names : Bytes} {offset : Nat} {member : Member}
    (h : PlainMember member) (hheader : file.HoldsAt offset (plainFrame member h).header) :
    Entry.read file names offset = .ok {
      name := member.name
      bodyOffset := offset + headerSize
      bodySize := member.data.size
      nameSize := 0 } := by
  rw [Frame.read_eq_of_holdsAt hheader, plainFrame, resolveName_short _ _ h.ordinary]
  rfl

/-- A plain frame `Denotes` its member with any table of long names. -/
theorem plainFrame_denotes (names : Bytes) {member : Member} (h : PlainMember member) :
    (plainFrame member h).Denotes names member :=
  Frame.denotes_of_resolveName rfl fun _ offset => resolveName_short offset _ h.ordinary

theorem exists_plainFrames (names : Bytes) {members : List Member}
    (h : ∀ member ∈ members, PlainMember member) :
    ∃ frames, List.Forall₂ (Frame.Denotes names) frames members ∧
      frameBytes frames = writeMembers members := by
  -- The frame of each member is its plain frame; the size bounds make it one.
  induction members with
  | nil => exact ⟨[], List.Forall₂.nil, rfl⟩
  | cons member rest ih =>
    have hmember := h member (List.mem_cons_self ..)
    obtain ⟨frames, hframes, hbytes⟩ := ih fun m hm => h m (List.mem_cons_of_mem _ hm)
    refine ⟨plainFrame member hmember :: frames,
      hframes.cons (plainFrame_denotes names hmember), ?_⟩
    rw [frameBytes_cons, hbytes, bytes_plainFrame, writeMembers]

/-! ## Reading back -/

/-- There is a `Path` over written members wherever they stand. -/
theorem path_writeMembers {file : Bytes} (names : Bytes) {offset : Nat} {members : List Member}
    (h : ∀ member ∈ members, PlainMember member)
    (hfile : file.HoldsAt offset (writeMembers members)) :
    Path file names offset members (offset + (writeMembers members).size) := by
  obtain ⟨frames, hframes, hbytes⟩ := exists_plainFrames names h
  rw [← hbytes] at hfile ⊢
  exact path_of_holdsAt hframes hfile

/-- The first members of an archive stand behind its signature, whatever follows them. -/
theorem holdsAt_write (first second : List Member) :
    (write (first ++ second)).HoldsAt signature.size (writeMembers first) := by
  rw [write, writeMembers_append, ← ByteArray.append_assoc]
  exact Bytes.holdsAt_size_append signature (writeMembers first) (writeMembers second)

/-- The `content` of a member's frame stands where the archive of the members before it ends. -/
theorem holdsAt_content (init rest : List Member) {member : Member} (h : PlainMember member) :
    (write (init ++ member :: rest)).HoldsAt (write init).size (plainFrame member h).content := by
  have hsplit : write (init ++ member :: rest) = write init ++ (plainFrame member h).content ++
      ((plainFrame member h).padding ++ writeMembers rest) := by
    rw [write_append, writeMembers, ← bytes_plainFrame h, Frame.bytes, ByteArray.append_assoc,
      ByteArray.append_assoc]
  rw [hsplit]
  exact Bytes.holdsAt_size_append ..

/-- However much of a plain archive is there, `Archive.members` passes over nothing in front of
`membersFrom`. -/
theorem members_extract_write {members : List Member} (h : ∀ member ∈ members, PlainMember member)
    (k : Nat) :
    Archive.members ((write members).extract 0 k) =
      membersFrom ((write members).extract 0 k) ByteArray.empty signature.size := by
  apply members_eq_membersFrom
  intro entry hread
  have hfits := le_size_of_read hread
  rw [ByteArray.size_extract] at hfits
  have hempty : (write []).size = signature.size := rfl
  cases members with
  | nil =>
    -- The bare signature is too short for a header.
    rw [hempty] at hfits
    simp only [headerSize] at hfits
    omega
  | cons member rest =>
    have hmember := h member (List.mem_cons_self ..)
    -- Only the header is known to be there, and the name stands in it.
    have hall := holdsAt_content [] rest hmember
    rw [List.nil_append, hempty, Frame.content, Bytes.holdsAt_append_iff] at hall
    have hheader := hall.1.extract_zero (k := k) (by rw [Frame.size_header]; omega)
    rw [read_plainFrame hmember hheader] at hread
    cases hread
    exact hmember.ordinary

/-- The round trip: `Archive.members` lists what `write` was given, without a fault. -/
theorem members_write {members : List Member} (h : ∀ member ∈ members, PlainMember member) :
    Archive.members (write members) = { members := members, failure := none } := by
  have hall := holdsAt_write members []
  rw [List.append_nil] at hall
  have hsize : (write members).size = signature.size + (writeMembers members).size := by
    rw [write, ByteArray.size_append]
  -- The whole archive is one of its own beginnings.
  have hfirst := members_extract_write h (write members).size
  rw [ByteArray.extract_zero_size] at hfirst
  rw [hfirst]
  exact membersFrom_of_path_to_end (path_writeMembers _ h hall) (le_of_eq hsize)

end RuntimeSlots.Archive
