import RuntimeSlots.Proofs.Archive.Walk

/-!
# How many members fit into an archive

Whatever sizes and names the headers of an archive give, the reader goes over a whole header with
every member that it lists, and it never goes back.  So the bytes of an archive bound the number of
its members, be they written by a linker or made up.

* `Archive.exists_path_membersFrom` says that a listing is a walk;
  `Archive.Path.length_mul_headerSize_le` bounds the members of a walk.
* `Archive.size_signature_le_of_findStart` says that the special members are passed over forwards.
* `Archive.length_members_le` bounds the members of an archive.
-/

namespace RuntimeSlots

/-! ## Results of steps that can fail -/

section Steps

variable {φ α β : Type} {step : Except φ α} {result : β}

/-- A bind with a result had a value to go on with. -/
theorem exists_of_bind_eq_ok {next : α → Except φ β} (h : step >>= next = .ok result) :
    ∃ value, step = .ok value ∧ next value = .ok result := by
  cases step with
  | error fault => cases h
  | ok value => exact ⟨value, rfl, h⟩

theorem exists_of_map_eq_ok {f : α → β} (h : step.map f = .ok result) :
    ∃ value, step = .ok value ∧ f value = result := by
  cases step with
  | error fault => cases h
  | ok value => exact ⟨value, rfl, Except.ok.inj h⟩

theorem eq_error_of_map_eq_error {f : α → β} {fault : φ} (h : step.map f = .error fault) :
    step = .error fault := by
  cases step with
  | error own => exact congrArg Except.error (Except.error.inj h)
  | ok value => cases h

end Steps

namespace Archive

variable {file names : Bytes} {offset last : Nat} {entry : Entry} {start : Start}

/-! ## Walks -/

/-- What `membersFrom` lists, it has walked over: there is a `Path` along the members, wherever they
begin. -/
theorem exists_path_membersFrom (file names : Bytes) (offset : Nat) :
    ∃ last, Path file names offset (membersFrom file names offset).members last := by
  -- Induction on the number of bytes that are left.
  induction hleft : file.size - offset using Nat.strongRecOn generalizing offset with
  | ind left ih =>
    by_cases hoffset : offset < file.size
    · cases hread : Entry.read file names offset with
      | error fault =>
        -- Nothing is listed here, and the walk that ends where it begins lists nothing.
        rw [membersFrom_of_read_error hoffset hread]
        exact ⟨offset, .nil offset⟩
      | ok entry =>
        rw [membersFrom_of_read hread]
        cases hdata : entry.data? file with
        | none => exact ⟨offset, .nil offset⟩
        | some data =>
          -- `Entry.next` is further on, so fewer bytes are left behind the step.
          have hnext := Entry.lt_next_of_read hread
          obtain ⟨last, hrest⟩ := ih (file.size - entry.next) (by omega) entry.next rfl
          exact ⟨last, .cons ⟨entry, hread, rfl, hdata, rfl⟩ hrest⟩
    · rw [membersFrom_of_size_le (by omega)]
      exact ⟨offset, .nil offset⟩

/-- A `Path` goes over a whole header with each member, whatever the headers say. -/
theorem Path.length_mul_headerSize_le {members : List Member}
    (h : Path file names offset members last) :
    members.length * headerSize ≤ file.size - offset := by
  induction h with
  | nil offset => simp
  | cons hread _ ih =>
    -- The header lies in the file and in front of `next`, from where the rest is counted.
    obtain ⟨entry, hentry, -, -, rfl⟩ := hread
    have hfits := le_size_of_read hentry
    have hnext := Entry.add_headerSize_le_next hentry
    rw [List.length_cons, Nat.add_mul, Nat.one_mul]
    simp only [headerSize] at hfits hnext ih ⊢
    omega

/-! ## Special members -/

theorem le_next_of_entryAt? (h : entryAt? file names offset = .ok (some entry)) :
    offset ≤ entry.next := by
  rw [entryAt?] at h
  split at h
  · obtain ⟨found, hread, hfound⟩ := exists_of_map_eq_ok h
    obtain rfl := Option.some.inj hfound
    exact Nat.le_of_lt (Entry.lt_next_of_read hread)
  · cases h

theorem offset_of_behindNames (h : Start.behindNames file entry = .ok start) :
    start.offset = entry.next := by
  rw [Start.behindNames] at h
  split at h
  · obtain rfl := Except.ok.inj h
    rfl
  · cases h

/-- `passNames` does not go back: one case for each of its branches. -/
theorem le_offset_of_passNames (h : passNames file offset = .ok start) :
    offset ≤ start.offset := by
  obtain ⟨found, hentry, h⟩ := exists_of_bind_eq_ok h
  cases found with
  | none =>
    obtain rfl := Except.ok.inj h
    exact Nat.le_refl offset
  | some entry =>
    dsimp only at h
    -- The table of long names is passed over, anything else is left where it stands.
    split at h
    · rw [offset_of_behindNames h]
      exact le_next_of_entryAt? hentry
    · obtain rfl := Except.ok.inj h
      exact Nat.le_refl offset

/-- The second half of `passSecondIndex`, which looks at the member behind `entry`, moves the start
forwards, if at all. -/
theorem le_offset_of_following {first : Start} (hfirst : offset ≤ first.offset)
    (hnext : offset ≤ entry.next)
    (h : (entryAt? file first.names entry.next >>= fun
        | none => pure first
        | some following =>
          if following.name = secondaryIndexName then
            pure { first with offset := following.next }
          else pure first) = Except.ok start) : offset ≤ start.offset := by
  -- What follows is a second index, which is passed over, or it is left where it stands.
  obtain ⟨found, hfollowing, h⟩ := exists_of_bind_eq_ok h
  cases found with
  | none =>
    obtain rfl := Except.ok.inj h
    exact hfirst
  | some following =>
    dsimp only at h
    split at h
    · obtain rfl := Except.ok.inj h
      exact hnext.trans (le_next_of_entryAt? hfollowing)
    · obtain rfl := Except.ok.inj h
      exact hfirst

/-- `passSecondIndex` does not go back, with or without a table of long names. -/
theorem le_offset_of_passSecondIndex (h : passSecondIndex file offset = .ok start) :
    offset ≤ start.offset := by
  obtain ⟨found, hentry, h⟩ := exists_of_bind_eq_ok h
  cases found with
  | none =>
    obtain rfl := Except.ok.inj h
    exact Nat.le_refl offset
  | some entry =>
    have hnext := le_next_of_entryAt? hentry
    dsimp only at h
    split at h
    · -- There is a table of long names, and `le_offset_of_following` looks behind it.
      obtain ⟨first, hfirst, h⟩ := exists_of_bind_eq_ok h
      exact le_offset_of_following ((offset_of_behindNames hfirst).symm ▸ hnext) hnext h
    · exact le_offset_of_following (Nat.le_refl offset) hnext h

theorem le_offset_of_passIndex (h : passIndex file offset = .ok start) :
    offset ≤ start.offset := by
  obtain ⟨found, hentry, h⟩ := exists_of_bind_eq_ok h
  cases found with
  | none =>
    obtain rfl := Except.ok.inj h
    exact Nat.le_refl offset
  | some entry =>
    have hnext := le_next_of_entryAt? hentry
    dsimp only at h
    -- The names are tested in this order: second index, table.
    split at h
    · exact hnext.trans (le_offset_of_passSecondIndex h)
    split at h
    · rwa [offset_of_behindNames h]
    · obtain rfl := Except.ok.inj h
      exact Nat.le_refl offset

/-- `findStart` starts behind the signature, whatever it has passed over. -/
theorem size_signature_le_of_findStart (h : findStart file = .ok start) :
    signature.size ≤ start.offset := by
  obtain ⟨found, hentry, h⟩ := exists_of_bind_eq_ok h
  cases found with
  | none =>
    obtain rfl := Except.ok.inj h
    exact Nat.le_refl _
  | some entry =>
    have hnext := le_next_of_entryAt? hentry
    -- The names are tested in this order: index, wide index, table, sorted index.
    dsimp only at h
    split at h
    · exact hnext.trans (le_offset_of_passIndex h)
    split at h
    · exact hnext.trans (le_offset_of_passNames h)
    split at h
    · rwa [offset_of_behindNames h]
    split at h
    · obtain rfl := Except.ok.inj h
      exact hnext
    · obtain rfl := Except.ok.inj h
      exact Nat.le_refl _

/-- `Archive.members` lists no more members than headers fit in behind the signature. -/
theorem length_members_le (file : Bytes) :
    (Archive.members file).members.length ≤ (file.size - signature.size) / headerSize := by
  rw [Nat.le_div_iff_mul_le (by decide), Archive.members]
  cases hstart : findStart file with
  | error fault => simp
  | ok start =>
    obtain ⟨last, hpath⟩ := exists_path_membersFrom file start.names start.offset
    -- Each member of the walk takes a header, and all of them stand behind the signature.
    have hbehind := size_signature_le_of_findStart hstart
    exact hpath.length_mul_headerSize_le.trans (by omega)

end Archive

end RuntimeSlots
