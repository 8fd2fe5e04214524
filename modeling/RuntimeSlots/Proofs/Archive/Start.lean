import RuntimeSlots.Proofs.Archive.Walk

/-!
# Passing over special members

`Archive.findStart` passes over special members at the start of an archive, and only there.  What it
does at an offset depends on the name of the member that it finds there, so there is one lemma for
each of its branches that archives come to.

* `Archive.OrdinaryAt` says that nothing special stands at an offset.
* `Archive.findStart_of_reads_index`, `Archive.passIndex_of_reads_index` and their companions go
  over one special member each.
* `Archive.members_eq_membersFrom` passes over nothing in front of an ordinary member.
-/

namespace RuntimeSlots.Archive

variable {file names : Bytes} {offset next last : Nat} {member : Member} {members : List Member}

/-! ## Ordinary members -/

theorem entryAt?_of_size_le {file names : Bytes} {offset : Nat} (h : file.size ≤ offset) :
    entryAt? file names offset = .ok none :=
  if_neg (by omega)

theorem entryAt?_of_read {file names : Bytes} {offset : Nat} {entry : Entry}
    (h : Entry.read file names offset = .ok entry) :
    entryAt? file names offset = .ok (some entry) := by
  rw [entryAt?, if_pos (lt_size_of_read h), h]
  rfl

/-- Each of the four special names has a slash, which an ordinary name has not. -/
theorem OrdinaryName.ne_special {name : Bytes} (h : OrdinaryName name) :
    name ≠ indexName ∧ name ≠ wideIndexName ∧ name ≠ namesName ∧ name ≠ secondaryIndexName :=
  ⟨h.ne_of_slash_mem (by decide), h.ne_of_slash_mem (by decide), h.ne_of_slash_mem (by decide),
    h.ne_of_slash_mem (by decide)⟩

/-- At `offset` the archive ends, or a member with an ordinary name stands there. -/
def OrdinaryAt (file names : Bytes) (offset : Nat) : Prop :=
  entryAt? file names offset = .ok none ∨
    ∃ entry, entryAt? file names offset = .ok (some entry) ∧ OrdinaryName entry.name

/-- A `Path` over ordinary members to the end of the file begins `OrdinaryAt` its offset. -/
theorem Path.ordinaryAt (h : Path file names offset members last) (hlast : file.size ≤ last)
    (hordinary : ∀ member ∈ members, OrdinaryName member.name) : OrdinaryAt file names offset := by
  cases h with
  | nil => exact .inl (entryAt?_of_size_le hlast)
  | cons hread hrest =>
    obtain ⟨entry, hentry, hname, -, -⟩ := hread
    exact .inr ⟨entry, entryAt?_of_read hentry,
      hname ▸ hordinary _ (List.mem_cons_self ..)⟩

/-! ## The first member -/

/-- `behindNames` starts behind a table of long names whose data lies in the file. -/
theorem behindNames_of_data {entry : Entry} {data : Bytes} (h : entry.data? file = some data) :
    Start.behindNames file entry = .ok { offset := entry.next, names := data } := by
  rw [Start.behindNames, h]

/-- Nothing special stands behind the signature: the members begin there. -/
theorem findStart_of_ordinaryAt (h : OrdinaryAt file ByteArray.empty signature.size) :
    findStart file = .ok (.plain signature.size) := by
  rcases h with hend | ⟨entry, hentry, hordinary⟩
  · rw [findStart, hend]
    rfl
  · obtain ⟨hindex, hwide, hnames, -⟩ := hordinary.ne_special
    -- All four tests of the name fail, so the last branch is left.
    simp [findStart, hentry, bind, Except.bind, hindex, hwide, hnames, hordinary.ne_sortedIndex,
      pure, Except.pure]

/-- An index of symbols is passed over by `passIndex`. -/
theorem findStart_of_reads_index (h : Reads file ByteArray.empty signature.size member next)
    (hname : member.name = indexName) : findStart file = passIndex file next := by
  obtain ⟨entry, hread, hentry, -, rfl⟩ := h
  simp [findStart, entryAt?_of_read hread, bind, Except.bind, hentry, hname]

/-- A table of long names at the very start is kept, and the members begin behind it. -/
theorem findStart_of_reads_names (h : Reads file ByteArray.empty signature.size member next)
    (hname : member.name = namesName) :
    findStart file = .ok { offset := next, names := member.data } := by
  obtain ⟨entry, hread, hentry, hdata, rfl⟩ := h
  have hindex : namesName ≠ indexName := by decide
  have hwide : namesName ≠ wideIndexName := by decide
  simp [findStart, entryAt?_of_read hread, bind, Except.bind, hentry, hname, hindex, hwide,
    behindNames_of_data hdata]

/-- An archive that begins with an ordinary member, or with one that cannot be read, has no special
members to pass over. -/
theorem members_eq_membersFrom
    (h : ∀ entry, Entry.read file ByteArray.empty signature.size = .ok entry →
      OrdinaryName entry.name) :
    Archive.members file = membersFrom file ByteArray.empty signature.size := by
  by_cases hsize : file.size ≤ signature.size
  · rw [Archive.members, findStart_of_ordinaryAt (.inl (entryAt?_of_size_le hsize))]
    rfl
  cases hread : Entry.read file ByteArray.empty signature.size with
  | error fault =>
    -- `findStart` fails at the header at which `membersFrom` fails too.
    rw [Archive.members, findStart, entryAt?, if_pos (by omega), hread,
      membersFrom_of_read_error (by omega) hread]
    rfl
  | ok entry =>
    rw [Archive.members,
      findStart_of_ordinaryAt (.inr ⟨entry, entryAt?_of_read hread, h entry hread⟩)]
    rfl

/-! ## Behind an index -/

/-- Behind one index the members begin, if nothing special follows. -/
theorem passIndex_of_ordinaryAt (h : OrdinaryAt file ByteArray.empty offset) :
    passIndex file offset = .ok (.plain offset) := by
  rcases h with hend | ⟨entry, hentry, hordinary⟩
  · rw [passIndex, hend]
    rfl
  · obtain ⟨hindex, -, hnames, -⟩ := hordinary.ne_special
    simp [passIndex, hentry, bind, Except.bind, hindex, hnames, pure, Except.pure]

/-- A second index is passed over by `passSecondIndex`. -/
theorem passIndex_of_reads_index (h : Reads file ByteArray.empty offset member next)
    (hname : member.name = indexName) : passIndex file offset = passSecondIndex file next := by
  obtain ⟨entry, hread, hentry, -, rfl⟩ := h
  simp [passIndex, entryAt?_of_read hread, bind, Except.bind, hentry, hname]

/-- A table of long names behind one index is kept. -/
theorem passIndex_of_reads_names (h : Reads file ByteArray.empty offset member next)
    (hname : member.name = namesName) :
    passIndex file offset = .ok { offset := next, names := member.data } := by
  obtain ⟨entry, hread, hentry, hdata, rfl⟩ := h
  have hindex : namesName ≠ indexName := by decide
  simp [passIndex, entryAt?_of_read hread, bind, Except.bind, hentry, hname, hindex,
    behindNames_of_data hdata]

/-! ## Behind two indices -/

/-- A table of long names behind two indices is kept; what follows is read with that table, to see
that it is no secondary index. -/
theorem passSecondIndex_of_reads_names (h : Reads file ByteArray.empty offset member next)
    (hname : member.name = namesName) (hnext : OrdinaryAt file member.data next) :
    passSecondIndex file offset = .ok { offset := next, names := member.data } := by
  obtain ⟨entry, hread, hentry, hdata, rfl⟩ := h
  -- The file ends behind the table, or an ordinary member follows.
  rcases hnext with hend | ⟨following, hfollowing, hordinary⟩
  · simp [passSecondIndex, entryAt?_of_read hread, bind, Except.bind, hentry, hname,
      behindNames_of_data hdata, hend, pure, Except.pure]
  · obtain ⟨-, -, -, hsecondary⟩ := hordinary.ne_special
    simp [passSecondIndex, entryAt?_of_read hread, bind, Except.bind, hentry, hname,
      behindNames_of_data hdata, hfollowing, hsecondary, pure, Except.pure]

/-- Without a table, `passSecondIndex` looks at two members before it starts at the first of them.
-/
theorem passSecondIndex_of_path (h : Path file ByteArray.empty offset members last)
    (hlast : file.size ≤ last) (hordinary : ∀ member ∈ members, OrdinaryName member.name) :
    passSecondIndex file offset = .ok (.plain offset) := by
  cases h with
  | nil =>
    rw [passSecondIndex, entryAt?_of_size_le hlast]
    rfl
  | cons hread hrest =>
    obtain ⟨entry, hentry, hname, -, rfl⟩ := hread
    have hfirst := (hordinary _ (List.mem_cons_self ..)).ne_special
    rw [← hname] at hfirst
    obtain ⟨-, -, hnames, -⟩ := hfirst
    -- The member behind the first one could still be a secondary index by its name.
    have hnext := hrest.ordinaryAt hlast fun member hmember =>
      hordinary member (List.mem_cons_of_mem _ hmember)
    rcases hnext with hend | ⟨following, hfollowing, hsecond⟩
    · simp [passSecondIndex, entryAt?_of_read hentry, bind, Except.bind, hnames, Start.plain, hend,
        pure, Except.pure]
    · obtain ⟨-, -, -, hsecondary⟩ := hsecond.ne_special
      simp [passSecondIndex, entryAt?_of_read hentry, bind, Except.bind, hnames, Start.plain,
        hfollowing, hsecondary, pure, Except.pure]

end RuntimeSlots.Archive
