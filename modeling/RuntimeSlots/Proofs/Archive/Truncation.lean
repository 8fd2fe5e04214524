import RuntimeSlots.Proofs.Archive.Plain

/-!
# Truncated archives

From a plain archive that was cut off somewhere, `Archive.members` lists the members in front of the
cut.  If the cut falls between two members, the listing is that of an archive with fewer members;
anywhere else it ends with a fault.

* `Archive.CutsBehind` are the cuts between members.
* `Archive.exists_member_at` finds the member in whose bytes a cut falls.
* `Archive.members_of_cutsBehind` and `Archive.members_of_not_cutsBehind` list what is left.
-/

namespace RuntimeSlots.Archive

/-- The cut after `k` bytes falls behind the data of the first `count` members, either behind the
padding of the last of them or in front of it. -/
def CutsBehind (members : List Member) (count k : Nat) : Prop :=
  count ≤ members.length ∧
    (k = (write (members.take count)).size ∨
      ∃ last ∈ (members.take count).getLast?, last.data.size % 2 = 1 ∧
        k + 1 = (write (members.take count)).size)

theorem CutsBehind.signature_le {members : List Member} {count k : Nat}
    (h : CutsBehind members count k) : signature.size ≤ k := by
  obtain ⟨-, hbehind | ⟨last, hlast, -, hbefore⟩⟩ := h
  · rw [hbehind, write, ByteArray.size_append]
    omega
  · -- There is a last member, and its header alone is longer than the missing byte.
    have hsplit : (members.take count).dropLast ++ [last] = members.take count :=
      List.dropLast_append_getLast? last hlast
    have hterminator : terminator.size = 2 := rfl
    rw [← hsplit, write, writeMembers_append, writeMembers, writeMembers, writeMember] at hbefore
    simp only [ByteArray.size_append, hterminator] at hbefore
    omega

/-! ## Sizes -/

theorem size_write (members : List Member) :
    (write members).size = signature.size + (writeMembers members).size := by
  rw [write, ByteArray.size_append]

theorem size_write_append (first second : List Member) :
    (write (first ++ second)).size = (write first).size + (writeMembers second).size := by
  rw [write_append, ByteArray.size_append]

/-- How far the archive of `init` and the archive of one member more are apart. -/
theorem size_writeMembers_singleton {member : Member} (h : PlainMember member) :
    (writeMembers [member]).size = headerSize + member.data.size + member.data.size % 2 := by
  rw [writeMembers, writeMembers, ByteArray.append_empty, ← bytes_plainFrame h, Frame.size_bytes]
  rfl

theorem size_extract_write {members : List Member} {k : Nat} (hk : k ≤ (write members).size) :
    ((write members).extract 0 k).size = k := by
  rw [ByteArray.size_extract]
  omega

/-- A cut behind `first` and inside the archive falls into the bytes of one member, its padding
included. -/
theorem exists_member_at (members : List Member) (first : List Member) {k : Nat}
    (hfirst : (write first).size ≤ k) (hk : k < (write (first ++ members)).size) :
    ∃ init member rest, first ++ members = init ++ member :: rest ∧
      (write init).size ≤ k ∧ k < (write (init ++ [member])).size := by
  -- Induction on the members that are not known to be in front of the cut; the others are `first`.
  induction members generalizing first with
  | nil =>
    rw [List.append_nil] at hk
    omega
  | cons member rest ih =>
    by_cases hmember : k < (write (first ++ [member])).size
    · exact ⟨first, member, rest, rfl, hfirst, hmember⟩
    · have hsplit : first ++ member :: rest = (first ++ [member]) ++ rest := by simp
      rw [hsplit] at hk ⊢
      exact ih (first ++ [member]) (by omega) hk

/-! ## Cuts between members -/

theorem Path.concat {file names : Bytes} {offset middle last : Nat} {members : List Member}
    {member : Member} (h : Path file names offset members middle)
    (hread : Reads file names middle member last) :
    Path file names offset (members ++ [member]) last := by
  induction h with
  | nil offset => exact .cons hread (.nil last)
  | cons hfirst _ ih => exact .cons hfirst (ih hread)

/-- In front of the last member's padding, there still is a `Path` over all members: it ends where
the padding would, one byte behind the end of the file. -/
theorem path_of_cut_before_padding {init : List Member} (rest : List Member) {last : Member}
    {k : Nat} (h : ∀ member ∈ init ++ [last], PlainMember member)
    (hk : k + 1 = (write (init ++ [last])).size) (hodd : last.data.size % 2 = 1) :
    Path ((write (init ++ [last] ++ rest)).extract 0 k) ByteArray.empty signature.size
      (init ++ [last]) (k + 1) := by
  have hlast : PlainMember last := h last (by simp)
  have hsize := size_write_append init [last]
  rw [size_writeMembers_singleton hlast] at hsize
  have hinit := holdsAt_write init (last :: rest)
  have hcontent := holdsAt_content init rest hlast
  have hcontentSize : (plainFrame last hlast).content.size = headerSize + last.data.size :=
    Frame.size_content _
  rw [List.append_assoc, List.singleton_append]
  -- The members before are wholly there, and of the last one all that reading it needs.
  have hpath := path_writeMembers ByteArray.empty (fun m hm => h m (by simp [hm]))
    (hinit.extract_zero (k := k) (by rw [← size_write]; omega))
  have hread := (plainFrame_denotes ByteArray.empty hlast).reads
    (hcontent.extract_zero (k := k) (by omega))
  rw [← size_write] at hpath
  -- The reader steps over the padding without looking at it, beyond the end of the file.
  have hnext : (write init).size + (plainFrame last hlast).bytes.size = k + 1 := by
    rw [hk, size_write_append, writeMembers, writeMembers, ByteArray.append_empty,
      bytes_plainFrame]
  rw [hnext] at hread
  exact hpath.concat hread

/-- After a cut with `CutsBehind`, the members in front of it are listed, and no fault is told. -/
theorem members_of_cutsBehind {members : List Member} {count k : Nat}
    (h : ∀ member ∈ members, PlainMember member) (hcut : CutsBehind members count k)
    (hk : k ≤ (write members).size) :
    Archive.members ((write members).extract 0 k) =
      { members := members.take count, failure := none } := by
  obtain ⟨hcount, hplace⟩ := hcut
  have htake : ∀ member ∈ members.take count, PlainMember member := fun m hm =>
    h m (List.mem_of_mem_take hm)
  have hsize := size_extract_write hk
  rw [members_extract_write h]
  rcases hplace with hbehind | ⟨last, hlast, hodd, hbefore⟩
  -- Behind the padding, all members in front of the cut stand in the file.
  · have hall := holdsAt_write (members.take count) (members.drop count)
    rw [List.take_append_drop] at hall
    rw [size_write] at hbehind
    exact membersFrom_of_path_to_end
      (path_writeMembers _ htake (hall.extract_zero (k := k) (by omega))) (by omega)
  -- In front of the padding, all but the last one do.
  · have hinit : (members.take count).dropLast ++ [last] = members.take count :=
      List.dropLast_append_getLast? last hlast
    rw [← hinit] at hbefore htake
    have hpath := path_of_cut_before_padding (members.drop count) htake hbefore hodd
    rw [hinit, List.take_append_drop] at hpath
    exact membersFrom_of_path_to_end hpath (by omega)

/-! ## Cuts inside a member -/

/-- `membersFrom` ends with a fault at a member of which some bytes are there, but not all of its
data. -/
theorem membersFrom_of_cut_inside {file names : Bytes} {offset : Nat} {member : Member}
    (h : PlainMember member) (hoffset : offset < file.size)
    (hcut : file.size < offset + headerSize + member.data.size)
    (hheader : offset + headerSize ≤ file.size → file.HoldsAt offset (plainFrame member h).header) :
    ∃ fault, membersFrom file names offset = { members := [], failure := some fault } := by
  by_cases hfits : offset + headerSize ≤ file.size
  · -- The header is there, but the data goes past the end.
    have hdata : file.slice? (offset + headerSize) member.data.size = none :=
      if_neg (by omega)
    refine ⟨.dataSize, ?_⟩
    rw [membersFrom_of_read (read_plainFrame h (hheader hfits)), Entry.data?, Nat.add_zero,
      Nat.sub_zero, hdata]
  · -- Not even the header is there.
    have hread : Entry.read file names offset = .error .header := by
      rw [Entry.read, Bytes.slice?, if_neg hfits]
    exact ⟨.header, membersFrom_of_read_error hoffset hread⟩

/-- After any other cut behind the signature, the listing ends with a fault. -/
theorem members_of_not_cutsBehind {members : List Member} {k : Nat}
    (h : ∀ member ∈ members, PlainMember member) (hsignature : signature.size ≤ k)
    (hk : k < (write members).size) (hcut : ∀ count, ¬ CutsBehind members count k) :
    ∃ found fault, Archive.members ((write members).extract 0 k) =
      { members := found, failure := some fault } := by
  obtain ⟨init, member, rest, rfl, hinit, hmember⟩ :=
    exists_member_at members [] hsignature (by simpa using hk)
  have hmemberPlain : PlainMember member := h member (by simp)
  have hsize := size_write_append init [member]
  rw [size_writeMembers_singleton hmemberPlain] at hsize
  have hnext : (init ++ member :: rest).take (init.length + 1) = init ++ [member] := by
    rw [List.take_append, List.take_of_length_le (by omega), Nat.add_sub_cancel_left]
    rfl
  -- The cut is neither at the end of the members before nor around the padding of this one.
  have hfront : k ≠ (write init).size := fun heq =>
    hcut init.length ⟨by simp, .inl (by rw [List.take_left]; exact heq)⟩
  have hpadding : member.data.size % 2 = 1 → k + 1 ≠ (write (init ++ [member])).size :=
    fun hodd heq => hcut (init.length + 1)
      ⟨by simp, .inr ⟨member, by simp [hnext], hodd, by rw [hnext]; exact heq⟩⟩
  have hfile : ((write (init ++ member :: rest)).extract 0 k).size = k :=
    size_extract_write (by omega)
  -- The walk goes over the members before, and stops at this one.
  have hinitPath := path_writeMembers ByteArray.empty
    (fun m hm => h m (by simp [hm]))
    ((holdsAt_write init (member :: rest)).extract_zero (k := k) (by rw [← size_write]; omega))
  -- If the header of this one is there, it is the header that was written.
  have hheader := (Bytes.holdsAt_append_iff.mp (holdsAt_content init rest hmemberPlain)).1
  obtain ⟨fault, hfault⟩ : ∃ fault,
      membersFrom ((write (init ++ member :: rest)).extract 0 k) ByteArray.empty
        (write init).size = { members := [], failure := some fault } :=
    membersFrom_of_cut_inside hmemberPlain (by omega) (by omega) fun hfits =>
      hheader.extract_zero (by rw [Frame.size_header]; omega)
  rw [← size_write] at hinitPath
  refine ⟨init, fault, ?_⟩
  rw [members_extract_write h, membersFrom_of_path hinitPath, hfault, Listing.prepend,
    List.append_nil]

end RuntimeSlots.Archive
