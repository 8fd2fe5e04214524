import RuntimeSlots.Proofs.Archive.Name
import Mathlib.Data.List.Forall2

/-!
# Walks through an archive

`Archive.membersFrom` goes from header to header.  A walk is what it does between two offsets; a
listing is put together from a walk and what follows it.

* `Archive.Path` is a walk, `Archive.path_of_holdsAt` the walk over frames that stand in a row.
* `Archive.membersFrom_of_reads` is one step, `Archive.membersFrom_of_path` the whole walk.
-/

namespace RuntimeSlots.Archive

/-! ## Frames in a row -/

/-- The bytes of frames that follow each other. -/
def frameBytes : List Frame → Bytes
  | [] => ByteArray.empty
  | frame :: rest => frame.bytes ++ frameBytes rest

@[simp]
theorem frameBytes_cons (frame : Frame) (rest : List Frame) :
    frameBytes (frame :: rest) = frame.bytes ++ frameBytes rest := rfl

/-! ## Walks -/

/-- From header to header, each step a `Reads`, `members` stand between two offsets. -/
inductive Path (file names : Bytes) : Nat → List Member → Nat → Prop
  | nil (offset : Nat) : Path file names offset [] offset
  | cons {offset next last : Nat} {member : Member} {members : List Member}
      (hread : Reads file names offset member next)
      (hrest : Path file names next members last) :
      Path file names offset (member :: members) last

/-- There is a `Path` over frames in a row, each of which `Denotes` its member. -/
theorem path_of_holdsAt {file names : Bytes} {offset : Nat} {frames : List Frame}
    {members : List Member} (hmembers : List.Forall₂ (Frame.Denotes names) frames members)
    (h : file.HoldsAt offset (frameBytes frames)) :
    Path file names offset members (offset + (frameBytes frames).size) := by
  -- Induction on the frames, for any place where the first of them stands.
  induction hmembers generalizing offset with
  | nil => exact Path.nil offset
  | cons hmember _ ih =>
    rw [frameBytes_cons, Bytes.holdsAt_append_iff] at h
    obtain ⟨hframe, hrest⟩ := h
    rw [frameBytes_cons, ByteArray.size_append, ← Nat.add_assoc]
    exact Path.cons (hmember.reads (Bytes.holdsAt_append_iff.mp hframe).1) (ih hrest)

/-! ## Listings -/

/-- The listing with these members in front. -/
def Listing.prepend (members : List Member) (listing : Listing) : Listing :=
  { listing with members := members ++ listing.members }

/-- `membersFrom` ends with the fault of a header that cannot be read. -/
theorem membersFrom_of_read_error {file names : Bytes} {offset : Nat} {fault : Fault}
    (hoffset : offset < file.size) (h : Entry.read file names offset = .error fault) :
    membersFrom file names offset = { members := [], failure := some fault } := by
  rw [membersFrom, if_pos hoffset]
  split
  · simp_all
  · simp_all

theorem membersFrom_of_size_le {file names : Bytes} {offset : Nat} (h : file.size ≤ offset) :
    membersFrom file names offset = { members := [], failure := none } := by
  rw [membersFrom, if_neg (by omega)]

/-- A header that `Entry.read` reads lies in the file. -/
theorem le_size_of_read {file names : Bytes} {offset : Nat} {entry : Entry}
    (h : Entry.read file names offset = .ok entry) : offset + headerSize ≤ file.size := by
  by_contra hpast
  have hslice : file.slice? offset headerSize = none := by
    rw [Bytes.slice?, if_neg hpast]
  simp [Entry.read, hslice] at h

theorem lt_size_of_read {file names : Bytes} {offset : Nat} {entry : Entry}
    (h : Entry.read file names offset = .ok entry) : offset < file.size := by
  have hfits := le_size_of_read h
  simp only [headerSize] at hfits
  omega

/-- At a header that can be read, `membersFrom` goes on if the data lies in the file. -/
theorem membersFrom_of_read {file names : Bytes} {offset : Nat} {entry : Entry}
    (h : Entry.read file names offset = .ok entry) :
    membersFrom file names offset =
      match entry.data? file with
      | none => { members := [], failure := some .dataSize }
      | some data =>
        (membersFrom file names entry.next).prepend [{ name := entry.name, data := data }] := by
  rw [membersFrom, if_pos (lt_size_of_read h)]
  split
  -- `membersFrom` keeps the equation of its match for termination, so it is split and compared.
  case h_1 fault herror => simp [h] at herror
  case h_2 entry' hread' =>
    have hentry : entry' = entry := by simpa [h] using hread'.symm
    subst hentry
    rfl

/-- One step: a member that is read stands in front of what `membersFrom` finds behind it. -/
theorem membersFrom_of_reads {file names : Bytes} {offset next : Nat} {member : Member}
    (h : Reads file names offset member next) :
    membersFrom file names offset = (membersFrom file names next).prepend [member] := by
  obtain ⟨entry, hread, hname, hdata, hnext⟩ := h
  rw [membersFrom_of_read hread, hdata, hname, hnext]

/-- The whole walk: `membersFrom` lists the members of a `Path` first and goes on where it ends. -/
theorem membersFrom_of_path {file names : Bytes} {offset last : Nat} {members : List Member}
    (h : Path file names offset members last) :
    membersFrom file names offset = (membersFrom file names last).prepend members := by
  -- Induction on the walk; each of its steps is a step of `membersFrom`.
  induction h with
  | nil offset => rfl
  | cons hread _ ih =>
    rw [membersFrom_of_reads hread, ih]
    rfl

theorem membersFrom_of_path_to_end {file names : Bytes} {offset last : Nat}
    {members : List Member} (h : Path file names offset members last) (hlast : file.size ≤ last) :
    membersFrom file names offset = { members := members, failure := none } := by
  rw [membersFrom_of_path h, membersFrom_of_size_le hlast]
  simp [Listing.prepend]

end RuntimeSlots.Archive
