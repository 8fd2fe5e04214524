import RuntimeSlots.File.Tree

/-!
# Opening files of a tree

`FileTree.resolve` looks one name after another up, each in the place that the names before it led
to.  For a tree without surprises it arrives where it was sent to.

* `FileTree.IsInner` are the paths that stay below the working directory and within the limits.
* `FileTree.step_inside` is one step of the walk, `FileTree.foldlM_step_inside` the walk along the
  names of a file; the invariant is that the names done so far are the beginning of the file's.
* `FileTree.opening_ofFiles` finds every file of a tree, `FileTree.exists_mem_of_opening` nothing
  else.
-/

namespace RuntimeSlots.FileTree

/-! ## Paths below the working directory -/

/-- A name that is looked up in its directory: it neither stays there nor leads back. -/
structure IsInnerName (name : String) : Prop where
  ne_empty : name ≠ ""
  ne_here : name ≠ "."
  ne_parent : name ≠ ".."
  size_le : name.utf8ByteSize ≤ nameLimit

/-- A relative path of names that are looked up, which the system takes as it is. -/
structure IsInner (path : String) : Prop where
  no_zeroByte : '\x00' ∉ path.toList
  size_lt : path.utf8ByteSize < pathLimit
  names : ∀ name ∈ names path, IsInnerName name

variable {path : String} {bytes : Bytes}

theorem IsInner.ne_empty (h : IsInner path) : path ≠ "" := by
  rintro rfl
  exact (h.names "" (by decide)).ne_empty rfl

/-- An inner path is walked from the working directory on, name by name. -/
theorem IsInner.resolve_eq (h : IsInner path) (tree : FileTree) :
    tree.resolve path = (FileTree.names path).foldlM tree.step (.inside []) := by
  have hzero : path.toList.contains '\x00' = false := by simpa using h.no_zeroByte
  rw [resolve, hzero, if_neg Bool.false_ne_true, if_neg (Nat.not_le_of_lt h.size_lt),
    if_neg h.ne_empty]
  split
  case h_1 rest hnames =>
    exact absurd rfl (h.names "" (hnames ▸ List.mem_cons_self)).ne_empty
  case h_2 => rfl

/-! ## The walk to a file -/

theorem isSome_contents?_of_mem {tree : FileTree} {names : List String}
    (h : (names, bytes) ∈ tree.files) : (tree.contents? names).isSome := by
  rw [contents?, Option.isSome_map, List.find?_isSome]
  exact ⟨_, h, beq_self_eq_true names⟩

theorem mem_of_contents?_eq {tree : FileTree} {names : List String}
    (h : tree.contents? names = some bytes) : (names, bytes) ∈ tree.files := by
  rw [contents?, Option.map_eq_some_iff] at h
  obtain ⟨file, hfound, rfl⟩ := h
  have hnames := List.find?_some hfound
  exact beq_iff_eq.mp hnames ▸ List.mem_of_find?_eq_some hfound

theorem contents?_eq_none {tree : FileTree} {names : List String}
    (h : ∀ file ∈ tree.files, file.1 ≠ names) : tree.contents? names = none := by
  rw [contents?, Option.map_eq_none_iff, List.find?_eq_none]
  exact fun file hfile => by simpa using h file hfile

/-- The names that a file's own names go on from belong to a directory. -/
theorem isDirectory_of_mem {tree : FileTree} {names after : List String}
    (h : (names ++ after, bytes) ∈ tree.files) (hafter : after ≠ []) :
    tree.isDirectory names = true := by
  have hlonger : names.length < (names ++ after).length := by
    have hpos := List.length_pos_iff.mpr hafter
    rw [List.length_append]
    omega
  -- The file itself shows that more names follow.
  rw [isDirectory, Bool.or_eq_true, List.any_eq_true]
  refine .inr ⟨_, h, ?_⟩
  rw [Bool.and_eq_true, decide_eq_true_iff, List.isPrefixOf_iff_prefix]
  exact ⟨List.prefix_append names after, hlonger⟩

/-- A step towards a file enters the next of its names, unless another file stands in the way. -/
theorem step_inside {tree : FileTree} {before after : List String} {name : String}
    (hfile : (before ++ name :: after, bytes) ∈ tree.files)
    (hway : tree.contents? before = none) (hname : IsInnerName name) :
    tree.step (.inside before) name = .ok (.inside (before ++ [name])) := by
  -- What stands under the name is the file itself, or a directory that is needed for it.
  have hthere : (tree.contents? (before ++ [name])).isSome ∨
      tree.isDirectory (before ++ [name]) = true := by
    rw [List.append_cons] at hfile
    cases after with
    | nil => exact .inl (isSome_contents?_of_mem (List.append_nil (before ++ [name]) ▸ hfile))
    | cons next after => exact .inr (isDirectory_of_mem hfile (List.cons_ne_nil next after))
  have hplain : ¬(name = "" ∨ name = ".") := not_or.mpr ⟨hname.ne_empty, hname.ne_here⟩
  rw [step, hway, enter, if_neg hplain]
  simp [hname.ne_parent, Nat.not_lt_of_le hname.size_le, hthere]

/-- The walk along the names of a file leads to the file, if they lead through no other one. -/
theorem foldlM_step_inside {tree : FileTree} {before after : List String}
    (hfile : (before ++ after, bytes) ∈ tree.files)
    (hway : ∀ file ∈ tree.files, file.1 <+: before ++ after → file.1 = before ++ after)
    (hnames : ∀ name ∈ after, IsInnerName name) :
    after.foldlM tree.step (.inside before) = .ok (.inside (before ++ after)) := by
  -- Induction on the names that are left; those in `before` have led to a directory.
  induction after generalizing before with
  | nil => rw [List.append_nil]; rfl
  | cons name after ih =>
    obtain ⟨hname, hrest⟩ := List.forall_mem_cons.mp hnames
    -- A file on the way would be the file itself, but names are left.
    have hnone : tree.contents? before = none := by
      refine contents?_eq_none fun file hmem heq => ?_
      have hwhole := hway file hmem (heq ▸ List.prefix_append before (name :: after))
      rw [heq, List.self_eq_append_right] at hwhole
      cases hwhole
    have happend : before ++ name :: after = before ++ [name] ++ after := List.append_cons ..
    rw [List.foldlM_cons, step_inside hfile hnone hname]
    rw [happend] at hfile hway ⊢
    exact ih hfile hway hrest

/-! ## Trees from lists of files -/

/-- No file of the list stands on the way to another one, or in its place. -/
def Apart (files : List (String × Bytes)) : Prop :=
  ∀ file ∈ files, ∀ other ∈ files, names file.1 <+: names other.1 → file = other

variable {files : List (String × Bytes)}

/-- `ofFiles` drops the names that lead nowhere, and an inner path has none of them. -/
theorem files_ofFiles (hinner : ∀ file ∈ files, IsInner file.1) :
    (ofFiles files).files = files.map fun file => (names file.1, file.2) := by
  apply List.map_congr_left
  intro file hfile
  -- Neither an empty name nor the own directory is among the names.
  have hkept : ∀ name ∈ names file.1, (name != "" && name != ".") = true := by
    intro name hname
    have hinnerName := (hinner file hfile).names name hname
    simp [hinnerName.ne_empty, hinnerName.ne_here]
  rw [List.filter_eq_self.mpr hkept]

/-- Opening the path of a file gives its contents. -/
theorem opening_ofFiles (hinner : ∀ file ∈ files, IsInner file.1) (hapart : Apart files)
    (h : (path, bytes) ∈ files) : (ofFiles files).opening path = .contents bytes := by
  have hfiles := files_ofFiles hinner
  have hfile : (names path, bytes) ∈ (ofFiles files).files :=
    hfiles ▸ List.mem_map.mpr ⟨_, h, rfl⟩
  -- By `Apart` the only entry on the way to the file is its own.
  have hway : ∀ file ∈ (ofFiles files).files, file.1 <+: names path →
      file = (names path, bytes) := by
    intro file hmem hprefix
    rw [hfiles] at hmem
    obtain ⟨other, hother, rfl⟩ := List.mem_map.mp hmem
    rw [hapart other hother _ h hprefix]
  have hresolve : (ofFiles files).resolve path = .ok (.inside (names path)) := by
    have hentries : ∀ file ∈ (ofFiles files).files, file.1 <+: [] ++ names path →
        file.1 = [] ++ names path := fun file hmem hprefix =>
      congrArg Prod.fst (hway file hmem hprefix)
    rw [(hinner _ h).resolve_eq]
    exact foldlM_step_inside hfile hentries (hinner _ h).names
  -- There may be another entry with the same names, but then it has the same contents.
  have hcontents : (ofFiles files).contents? (names path) = some bytes := by
    obtain ⟨found, hfound⟩ := Option.isSome_iff_exists.mp (isSome_contents?_of_mem hfile)
    have hown := hway _ (mem_of_contents?_eq hfound) (List.prefix_refl _)
    rw [hfound, (Prod.mk.inj hown).2]
  rw [opening, hresolve]
  simp only [hcontents]

/-- Whatever is read from a tree stands in it. -/
theorem exists_mem_of_opening {tree : FileTree} (h : tree.opening path = .contents bytes) :
    ∃ names, (names, bytes) ∈ tree.files := by
  rw [opening] at h
  split at h
  case h_1 | h_2 => cases h
  case h_3 names _ =>
    split at h
    case h_1 found hfound => exact ⟨names, Opening.contents.inj h ▸ mem_of_contents?_eq hfound⟩
    case h_2 => cases h

end RuntimeSlots.FileTree
