import RuntimeSlots.Proofs.Archive.Start

/-!
# Forms of archives

The same members can be written in several forms, which differ in what stands in front of them and
in how their names are spelled.  `Archive.members` lists them alike in all forms.

* `Archive.Form` is what an archiver puts in front of the members, `Archive.Spelling` how it writes
  a name; `Archive.Form.Allows` says which spellings a form has.
* `Archive.Written` is an archive in some form, `Archive.Written.bytes` its bytes.
* `Archive.findStart_of_path` passes over the special members of a form.
* `Archive.members_bytes` lists the members that were written, whatever the form.
-/

namespace RuntimeSlots.Archive

/-! ## In front of the members -/

/-- A member that is there for the linker, without its name. -/
structure SpecialBody where
  body : Bytes
  attributes : Bytes
  pad : UInt8
  size_attributes : attributes.size = 32
  size_body_lt : body.size < 10 ^ 10

/-- What stands in front of the members. -/
inductive Form
  /-- An index of symbols and a table of long names, both optional. -/
  | gnu (index table : Option SpecialBody)
  /-- Two indices and an optional table of long names. -/
  | coff (first second : SpecialBody) (table : Option SpecialBody)
  /-- Nothing. -/
  | bsd

namespace Form

/-- The indices, in order. -/
def indices : Form → List SpecialBody
  | gnu index _ => index.toList
  | coff first second _ => [first, second]
  | bsd => []

/-- The table of long names. -/
def table : Form → Option SpecialBody
  | gnu _ table => table
  | coff _ _ table => table
  | bsd => none

/-- The bytes of the table of long names; without a table there are none. -/
def names (form : Form) : Bytes := (form.table.map SpecialBody.body).getD ByteArray.empty

/-- How names end in the table of the form; without a table it does not matter. -/
def nameEnd : Form → NameEnd
  | gnu _ _ => .lineFeed
  | coff _ _ _ => .zero
  | bsd => .zero

end Form

/-- The member with this name that a special body makes. -/
def SpecialBody.member (special : SpecialBody) (name : Bytes) : Member :=
  { name := name, data := special.body }

/-- The frame of a special member. -/
def SpecialBody.frame (special : SpecialBody) (name : Bytes) (h : name.size ≤ 16) : Frame where
  field := fill 16 name
  attributes := special.attributes
  body := special.body
  pad := special.pad
  size_field := size_fill h
  size_attributes := special.size_attributes
  size_body_lt := special.size_body_lt

/-- The frame of a special member `Denotes` it, as `resolveName_special` reads its name. -/
theorem SpecialBody.frame_denotes {names name : Bytes} (special : SpecialBody)
    (h : name.size ≤ 16) (hname : name = indexName ∨ name = namesName) :
    (special.frame name h).Denotes names (special.member name) :=
  Frame.denotes_of_resolveName rfl fun _ offset => resolveName_special offset _ hname

namespace Form

/-- The special members of the form. -/
def specialMembers (form : Form) : List Member :=
  form.indices.map (·.member indexName) ++ (form.table.map (·.member namesName)).toList

/-- The frames of the special members. -/
def specialFrames (form : Form) : List Frame :=
  form.indices.map (·.frame indexName (by decide)) ++
    (form.table.map (·.frame namesName (by decide))).toList

/-- Each of `specialFrames` `Denotes` its member, whatever table of long names is at hand. -/
theorem specialFrames_denote (names : Bytes) (form : Form) :
    List.Forall₂ (Frame.Denotes names) form.specialFrames form.specialMembers := by
  apply List.rel_append
  · rw [List.forall₂_map_left_iff, List.forall₂_map_right_iff, List.forall₂_same]
    exact fun special _ => special.frame_denotes _ (.inl rfl)
  · cases form.table with
    | none => exact .nil
    | some special => exact .cons (special.frame_denotes _ (.inr rfl)) .nil

end Form

/-! ## Members -/

/-- A name that every form can write: none of the bytes that end names stands in it. -/
structure PortableName (name : Bytes) : Prop extends OrdinaryName name where
  zero_notMem : 0 ∉ name.data.toList
  lineFeed_notMem : 0x0A ∉ name.data.toList

/-- How the name of a member is written. -/
inductive Spelling
  /-- In the name field. -/
  | short
  /-- At a position of the table of long names. -/
  | tabled (position : Nat)
  /-- At the start of the body, followed by so many zero bytes. -/
  | leading (padding : Nat)

namespace Spelling

/-- What stands in the name field. -/
def text (spelling : Spelling) (name : Bytes) : Bytes :=
  match spelling with
  | short => name ++ slashText
  | tabled position => slashText ++ decimal position
  | leading padding => Entry.leadingNameMark ++ decimal (name.size + padding)

/-- What stands in the body. -/
def body (spelling : Spelling) (member : Member) : Bytes :=
  match spelling with
  | leading padding => member.name ++ zeros padding ++ member.data
  | _ => member.data

end Spelling

/-- The form can write the name of the member in this way.  A name field holds up to 15 bytes of a
name; a name in the table has its end behind it. -/
def Form.Allows (form : Form) (member : Member) : Spelling → Prop
  | .short => form ≠ .bsd ∧ member.name.size ≤ 15
  | .tabled position => form ≠ .bsd ∧ position < 10 ^ 15 ∧
      form.names.HoldsAt position (member.name ++ form.nameEnd.bytes)
  | .leading _ => form = .bsd

/-- A member as it is written in the form.  The attributes and the padding byte are arbitrary. -/
structure WrittenMember (form : Form) where
  member : Member
  spelling : Spelling
  attributes : Bytes
  pad : UInt8
  portable : PortableName member.name
  allowed : form.Allows member spelling
  size_attributes : attributes.size = 32
  size_body_lt : (spelling.body member).size < 10 ^ 10

namespace WrittenMember

variable {form : Form}

/-- Every allowed spelling fits into the name field. -/
theorem size_text_le (written : WrittenMember form) :
    (written.spelling.text written.member.name).size ≤ 16 := by
  obtain ⟨member, spelling, -, -, -, hallowed, -, hbody⟩ := written
  cases spelling with
  | short =>
    -- A name of 15 bytes and its slash.
    have hname := hallowed.2
    simp only [Spelling.text, ByteArray.size_append, size_slashText]
    omega
  | tabled position =>
    -- A slash and 15 digits.
    have hdigits := size_decimal_le hallowed.2.1 (by decide)
    simp only [Spelling.text, ByteArray.size_append, size_slashText]
    omega
  | leading padding =>
    -- The mark and at most 13 digits, since the size of the body has at most 10.
    have hlength : member.name.size + padding < 10 ^ 13 := by
      simp only [Spelling.body, ByteArray.size_append, size_zeros] at hbody
      omega
    have hdigits := size_decimal_le hlength (by decide)
    have hmark : Entry.leadingNameMark.size = 3 := by decide
    simp only [Spelling.text, ByteArray.size_append, hmark]
    omega

/-- The frame of a written member. -/
def frame (written : WrittenMember form) : Frame where
  field := fill 16 (written.spelling.text written.member.name)
  attributes := written.attributes
  body := written.spelling.body written.member
  pad := written.pad
  size_field := size_fill written.size_text_le
  size_attributes := written.size_attributes
  size_body_lt := written.size_body_lt

/-- However its name is spelled, the frame `Denotes` the member. -/
theorem frame_denotes (written : WrittenMember form) :
    written.frame.Denotes form.names written.member := by
  obtain ⟨member, spelling, attributes, pad, hportable, hallowed, -, hbody⟩ := written
  cases spelling with
  | short =>
    exact Frame.denotes_of_resolveName rfl fun _ offset =>
      resolveName_short offset _ hportable.toOrdinaryName
  | tabled position =>
    -- The form has a table, and the name stands in it.
    obtain ⟨-, hposition, htable⟩ := hallowed
    exact Frame.denotes_of_resolveName rfl fun _ offset =>
      resolveName_tabled form.nameEnd offset _ hposition hportable.zero_notMem
        hportable.lineFeed_notMem htable
  | leading padding =>
    -- The name and its padding are what the frame takes off its body; the data is the rest.
    have hname : (member.name ++ zeros padding).size = member.name.size + padding := by
      rw [ByteArray.size_append, size_zeros]
    have hsize : (member.name ++ zeros padding ++ member.data).size =
        member.name.size + padding + member.data.size := by
      rw [ByteArray.size_append, hname]
    have hlength : member.name.size + padding < 10 ^ 13 := by
      simp only [Spelling.body, hsize] at hbody
      omega
    have hfits : member.name.size + padding ≤
        (member.name ++ zeros padding ++ member.data).size := by omega
    exact ⟨member.name.size + padding, hfits, ByteArray.extract_append_eq_right hname.symm
        (by rw [hname]; exact hsize), fun _ _ hfile =>
      resolveName_leading hlength hfits hportable.zero_notMem (Bytes.holdsAt_append_iff.mp hfile).1⟩

end WrittenMember

/-! ## Archives -/

/-- An archive in some form. -/
structure Written where
  form : Form
  members : List (WrittenMember form)

namespace Written

/-- The members without the way they are written. -/
def contents (archive : Written) : List Member := archive.members.map WrittenMember.member

/-- The bytes of the archive: the signature, the special members, and the members. -/
def bytes (archive : Written) : Bytes :=
  signature ++ frameBytes archive.form.specialFrames ++
    frameBytes (archive.members.map WrittenMember.frame)

/-- Where the members begin. -/
def start (archive : Written) : Nat :=
  signature.size + (frameBytes archive.form.specialFrames).size

theorem startsWith_bytes (archive : Written) : archive.bytes.startsWith signature = true := by
  rw [bytes, ByteArray.append_assoc]
  exact Bytes.startsWith_append ..

/-- Every member has an ordinary name, by `PortableName`. -/
theorem ordinaryName (archive : Written) {member : Member} (h : member ∈ archive.contents) :
    OrdinaryName member.name := by
  obtain ⟨written, -, rfl⟩ := List.mem_map.mp h
  exact written.portable.toOrdinaryName

/-- A `Path` leads over the special members, with whatever table of long names. -/
theorem path_special (archive : Written) (names : Bytes) :
    Path archive.bytes names signature.size archive.form.specialMembers archive.start :=
  path_of_holdsAt (archive.form.specialFrames_denote names)
    (Bytes.holdsAt_size_append signature (frameBytes archive.form.specialFrames) _)

/-- A `Path` leads over the members to the end, with the table of the form. -/
theorem path_contents (archive : Written) :
    Path archive.bytes archive.form.names archive.start archive.contents archive.bytes.size := by
  have hmembers : List.Forall₂ (Frame.Denotes archive.form.names)
      (archive.members.map WrittenMember.frame) archive.contents := by
    rw [contents, List.forall₂_map_left_iff, List.forall₂_map_right_iff, List.forall₂_same]
    exact fun written _ => written.frame_denotes
  have hsize : archive.bytes.size = archive.start +
      (frameBytes (archive.members.map WrittenMember.frame)).size := by
    rw [bytes, ByteArray.size_append, ByteArray.size_append, start]
  -- The members stand behind the special ones, and nothing stands behind them.
  have hholds := Bytes.holdsAt_size_append
    (signature ++ frameBytes archive.form.specialFrames)
    (frameBytes (archive.members.map WrittenMember.frame)) ByteArray.empty
  rw [ByteArray.append_empty, ByteArray.size_append] at hholds
  rw [hsize]
  exact path_of_holdsAt hmembers hholds

end Written

/-! ## Reading back -/

/-- `findStart` passes over all special members of a form and nothing else, and keeps its table. -/
theorem findStart_of_path {file : Bytes} {form : Form} {start last : Nat} {contents : List Member}
    (hspecial : Path file ByteArray.empty signature.size form.specialMembers start)
    (hcontents : Path file form.names start contents last) (hlast : file.size ≤ last)
    (hordinary : ∀ member ∈ contents, OrdinaryName member.name) :
    findStart file = .ok { offset := start, names := form.names } := by
  have hfirst := hcontents.ordinaryAt hlast hordinary
  -- One case for each sequence of special members; the walk is taken apart along it.
  cases form with
  | bsd =>
    cases hspecial
    exact findStart_of_ordinaryAt hfirst
  | gnu index table =>
    cases index with
    | none =>
      cases table with
      | none =>
        cases hspecial
        exact findStart_of_ordinaryAt hfirst
      | some table =>
        obtain _ | ⟨htable, ⟨⟩⟩ := hspecial
        exact findStart_of_reads_names htable rfl
    | some index =>
      cases table with
      | none =>
        obtain _ | ⟨hindex, ⟨⟩⟩ := hspecial
        rw [findStart_of_reads_index hindex rfl]
        exact passIndex_of_ordinaryAt hfirst
      | some table =>
        obtain _ | ⟨hindex, _ | ⟨htable, ⟨⟩⟩⟩ := hspecial
        rw [findStart_of_reads_index hindex rfl]
        exact passIndex_of_reads_names htable rfl
  | coff first second table =>
    cases table with
    | none =>
      obtain _ | ⟨hindex, _ | ⟨hsecond, ⟨⟩⟩⟩ := hspecial
      rw [findStart_of_reads_index hindex rfl, passIndex_of_reads_index hsecond rfl]
      -- Behind two indices the reader looks two members ahead, so the whole path is needed.
      exact passSecondIndex_of_path hcontents hlast hordinary
    | some table =>
      obtain _ | ⟨hindex, _ | ⟨hsecond, _ | ⟨htable, ⟨⟩⟩⟩⟩ := hspecial
      rw [findStart_of_reads_index hindex rfl, passIndex_of_reads_index hsecond rfl]
      exact passSecondIndex_of_reads_names htable rfl hfirst

/-- `Archive.members` lists the `contents` of a written archive, whatever its form. -/
theorem members_bytes (archive : Written) :
    Archive.members archive.bytes = { members := archive.contents, failure := none } := by
  rw [Archive.members, findStart_of_path (archive.path_special _) archive.path_contents le_rfl
    fun _ => archive.ordinaryName]
  exact membersFrom_of_path_to_end archive.path_contents le_rfl

end RuntimeSlots.Archive
