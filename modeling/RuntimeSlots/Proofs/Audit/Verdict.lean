import RuntimeSlots.Proofs.Audit.Gathering
import Mathlib.Data.Set.Basic

/-!
# What a report means

A `Report` has one entry for each slot, a state of the accessor, and a kind.  Each of them is
equivalent to a statement about the names that the object files of the artifact tell, which is a
`Set String` for each `Role`.

* `Report.IsVerdictOn` spells the judgements out for any names.
* `NameSets.report_isVerdictOn` says that the names of an audit are judged so.
* `Audit.objects` and `Audit.namesTold` are the object files of an artifact and what they tell.
* `Audit.report_isVerdictOn_namesTold` says it of every audit that has a report.
-/

namespace RuntimeSlots

/-! ## Judgements -/

/-- The report is the verdict on the names `told`: each state of a slot or of the accessor,
`missing` and `isComplete` are equivalent to statements about these names. -/
structure Report.IsVerdictOn (report : Report) (told : Role → Set String) : Prop where
  /-- Every slot is judged, in table order. -/
  slots : report.entries.map Prod.fst = Slot.all
  defined_iff : ∀ entry ∈ report.entries,
    (entry.2 = .defined ↔ entry.1.linkName ∈ told .defined)
  referenced_iff : ∀ entry ∈ report.entries,
    (entry.2 = .referenced ↔ entry.1.linkName ∈ told .referenced \ told .defined)
  missing_iff : ∀ entry ∈ report.entries,
    (entry.2 = .missing ↔ entry.1.linkName ∉ told .defined ∪ told .referenced)
  accessor_defined_iff : report.accessor = .defined ↔ Slot.accessorName ∈ told .defined
  accessor_exported_iff :
    report.accessor = .exported ↔ Slot.accessorName ∈ told .exported \ told .defined
  accessor_absent_iff :
    report.accessor = .absent ↔ Slot.accessorName ∉ told .defined ∪ told .exported
  /-- The missing slots are listed in table order, each as often as the table has it. -/
  missing_sublist : report.missing.Sublist Slot.all
  mem_missing_iff : ∀ slot, slot ∈ report.missing ↔
    slot ∈ Slot.all ∧ slot.linkName ∉ told .defined ∪ told .referenced
  /-- An image has no slots to be complete in. -/
  isComplete_iff : report.isComplete = true ↔
    Slot.accessorName ∈ told .defined ∪ told .exported ∧
      (report.kind = .image ∨ ∀ slot ∈ Slot.all, slot.linkName ∈ told .defined ∪ told .referenced)

/-- `NameSets.backing` and `NameSets.accessorState` are two tests in a row, with three different
answers. -/
private theorem two_tests_eq_iff {α : Type} {first second : Prop} [Decidable first]
    [Decidable second] {a b c : α} (hab : a ≠ b) (hac : a ≠ c) (hbc : b ≠ c) :
    ((if first then a else if second then b else c) = a ↔ first) ∧
      ((if first then a else if second then b else c) = b ↔ second ∧ ¬ first) ∧
      ((if first then a else if second then b else c) = c ↔ ¬ (first ∨ second)) := by
  by_cases hfirst : first
  · simp [hfirst, hab, hac]
  · by_cases hsecond : second
    · simp [hfirst, hsecond, hab.symm, hbc]
    · simp [hfirst, hsecond, hac.symm, hbc.symm]

namespace NameSets

variable {names : NameSets} {told : Role → Set String}

/-- `backing` judges a slot by its link name in two roles, the definitions first. -/
theorem backing_eq_iff (h : ∀ role name, name ∈ names.inRole role ↔ name ∈ told role)
    (slot : Slot) :
    (names.backing slot = .defined ↔ slot.linkName ∈ told .defined) ∧
      (names.backing slot = .referenced ↔ slot.linkName ∈ told .referenced \ told .defined) ∧
      (names.backing slot = .missing ↔ slot.linkName ∉ told .defined ∪ told .referenced) := by
  rw [Set.mem_sdiff, Set.mem_union, ← h, ← h]
  exact two_tests_eq_iff (by decide) (by decide) (by decide)

/-- `accessorState` judges by the accessor's name in two roles, the definitions first. -/
theorem accessorState_eq_iff (h : ∀ role name, name ∈ names.inRole role ↔ name ∈ told role) :
    (names.accessorState = .defined ↔ Slot.accessorName ∈ told .defined) ∧
      (names.accessorState = .exported ↔ Slot.accessorName ∈ told .exported \ told .defined) ∧
      (names.accessorState = .absent ↔ Slot.accessorName ∉ told .defined ∪ told .exported) := by
  rw [Set.mem_sdiff, Set.mem_union, ← h, ← h]
  exact two_tests_eq_iff (by decide) (by decide) (by decide)

theorem entries_report (names : NameSets) (kind : ArtifactKind) :
    (names.report kind).entries.map Prod.fst = Slot.all := by
  simp [report, Function.comp_def]

/-- There are as many entries as slots in `Slot.all`. -/
theorem length_entries_report (names : NameSets) (kind : ArtifactKind) :
    (names.report kind).entries.length = 52 := by
  rw [← List.length_map Prod.fst, entries_report, Slot.length_all]

theorem backing_of_mem_entries {kind : ArtifactKind} {entry : Slot × Backing}
    (hentry : entry ∈ (names.report kind).entries) :
    entry.1 ∈ Slot.all ∧ names.backing entry.1 = entry.2 := by
  obtain ⟨slot, hslot, rfl⟩ := List.mem_map.mp hentry
  exact ⟨hslot, rfl⟩

/-- `Report.missing` has the slots of the table whose names are told neither as definitions nor as
references. -/
theorem mem_missing_report (h : ∀ role name, name ∈ names.inRole role ↔ name ∈ told role)
    (kind : ArtifactKind) (slot : Slot) :
    slot ∈ (names.report kind).missing ↔
      slot ∈ Slot.all ∧ slot.linkName ∉ told .defined ∪ told .referenced := by
  rw [← (backing_eq_iff h slot).2.2]
  simp only [Report.missing, report, List.mem_map, List.mem_filter, beq_iff_eq, Prod.exists,
    Prod.mk.injEq]
  -- A missing entry is a slot of the table with its backing, and the other way round.
  constructor
  · rintro ⟨_, _, ⟨⟨slot', hslot, rfl, rfl⟩, hmissing⟩, rfl⟩
    exact ⟨hslot, hmissing⟩
  · rintro ⟨hslot, hmissing⟩
    exact ⟨slot, _, ⟨⟨slot, hslot, rfl, rfl⟩, hmissing⟩, rfl⟩

/-- If the sets of an audit have the names `told` as their members, its report is the verdict on
them. -/
theorem report_isVerdictOn (h : ∀ role name, name ∈ names.inRole role ↔ name ∈ told role)
    (kind : ArtifactKind) : (names.report kind).IsVerdictOn told where
  slots := entries_report names kind
  defined_iff := fun entry hentry => by
    rw [← (backing_of_mem_entries hentry).2]
    exact (backing_eq_iff h entry.1).1
  referenced_iff := fun entry hentry => by
    rw [← (backing_of_mem_entries hentry).2]
    exact (backing_eq_iff h entry.1).2.1
  missing_iff := fun entry hentry => by
    rw [← (backing_of_mem_entries hentry).2]
    exact (backing_eq_iff h entry.1).2.2
  accessor_defined_iff := (accessorState_eq_iff h).1
  accessor_exported_iff := (accessorState_eq_iff h).2.1
  accessor_absent_iff := (accessorState_eq_iff h).2.2
  missing_sublist := by
    rw [← entries_report names kind]
    exact (List.filter_sublist ..).map Prod.fst
  mem_missing_iff := mem_missing_report h kind
  isComplete_iff := by
    -- Nothing is missing if every slot of the table is backed.
    have hnone : (names.report kind).missing.isEmpty = true ↔
        ∀ slot ∈ Slot.all, slot.linkName ∈ told .defined ∪ told .referenced := by
      rw [List.isEmpty_iff, List.eq_nil_iff_forall_not_mem]
      simp only [mem_missing_report h, not_and, not_not]
    have hpresent := (accessorState_eq_iff h).2.2
    -- The first test is on the accessor, the second one on the kind or the slots.
    rw [Report.isComplete, Bool.and_eq_true, Bool.or_eq_true, bne_iff_ne, beq_iff_eq, hnone]
    exact and_congr_left fun _ => (not_congr hpresent).trans not_not

end NameSets

/-! ## Audits -/

namespace Audit

/-- The object files of an artifact: `objectsOf` the members of an archive, or the artifact itself
if `ObjectFile.read` reads it. -/
def objects (bytes : Bytes) : List (ObjectFile ObjectFault) :=
  if bytes.startsWith Archive.signature then objectsOf (Archive.members bytes).members
  else (ObjectFile.read bytes).toOption.toList

/-- The names that some object file of the artifact `Tells` in a role. -/
def namesTold (bytes : Bytes) (role : Role) : Set String :=
  {name | ∃ file ∈ objects bytes, file.Tells role name}

theorem mem_inRole_empty (role : Role) (name : String) :
    ¬ name ∈ NameSets.empty.inRole role := by
  cases role <;> simp [NameSets.empty, NameSets.inRole]

/-- If there is a report on an archive, `gather` has ended well, and the report is on its names. -/
theorem ofArchive_result_ok {bytes : Bytes} {report : Report}
    (h : (ofArchive bytes).result = .ok report) :
    (Archive.members bytes).failure = none ∧
      (∀ file ∈ objectsOf (Archive.members bytes).members, file.IsReadable) ∧
      ∃ names : NameSets, report = names.report .archive ∧ ∀ role name,
        name ∈ names.inRole role ↔
          ∃ file ∈ objectsOf (Archive.members bytes).members, file.Tells role name := by
  rw [ofArchive] at h
  cases hresult : (gather (Archive.members bytes).failure .empty
      (Archive.members bytes).members).result with
  | error failure => simp [hresult, Except.map] at h
  | ok names =>
    obtain ⟨hfailure, hreadable, hmem⟩ := gather_result_ok hresult
    -- The report is on the names of the run, and the run began with none.
    refine ⟨hfailure, hreadable, names, ?_, ?_⟩
    · simpa [hresult, Except.map] using h.symm
    · intro role name
      rw [hmem, or_iff_right (mem_inRole_empty role name)]

/-- If there is a report on a single object file, `absorb` has added its names to none, and the
report is on them. -/
theorem ofObjectFile_result_ok {bytes : Bytes} {report : Report}
    (h : (ofObjectFile bytes).result = .ok report) :
    ∃ file, ObjectFile.read bytes = .ok file ∧ file.IsReadable ∧
      ∃ names : NameSets, report = names.report (if file.isImage then .image else .object) ∧
        ∀ role name, name ∈ names.inRole role ↔ file.Tells role name := by
  rw [ofObjectFile] at h
  cases hread : ObjectFile.read bytes with
  | error fault => simp [hread] at h
  | ok file =>
    cases habsorb : absorb .empty inputName file with
    | error failure => simp [hread, habsorb] at h
    | ok names =>
      -- What `absorb` has made of no names is what the report is on.
      refine ⟨file, rfl, isReadable_of_absorb_ok habsorb, names, ?_, ?_⟩
      · simpa [hread, habsorb] using h.symm
      · intro role name
        rw [mem_of_absorb_ok habsorb, or_iff_right (mem_inRole_empty role name)]

/-- Every report of `ofBytes` has an entry for each slot, in whichever way it came about. -/
theorem length_entries_of_ofBytes {bytes : Bytes} {report : Report}
    (h : (ofBytes bytes).result = .ok report) : report.entries.length = 52 := by
  rw [ofBytes] at h
  split at h
  case isTrue =>
    obtain ⟨-, -, names, rfl, -⟩ := ofArchive_result_ok h
    exact names.length_entries_report _
  case isFalse =>
    obtain ⟨file, -, -, names, rfl, -⟩ := ofObjectFile_result_ok h
    exact names.length_entries_report _

/-- A report of `ofBytes` is the verdict on `namesTold`.  There is one on an archive only if
`Archive.members` lists its members without a fault, and one on any artifact only if all of its
object files are readable. -/
theorem report_isVerdictOn_namesTold {bytes : Bytes} {report : Report}
    (h : (ofBytes bytes).result = .ok report) :
    report.IsVerdictOn (namesTold bytes) ∧ report.entries.length = 52 ∧
      (∀ file ∈ objects bytes, file.IsReadable) ∧
      (bytes.startsWith Archive.signature = true →
        (Archive.members bytes).failure = none ∧ report.kind = .archive) ∧
      (bytes.startsWith Archive.signature = false →
        ∃ file, ObjectFile.read bytes = .ok file ∧ objects bytes = [file] ∧
          report.kind = if file.isImage then .image else .object) := by
  have hlength := length_entries_of_ofBytes h
  -- The signature decides whether the object files are the members or the artifact itself.
  cases hstart : bytes.startsWith Archive.signature with
  | true =>
    rw [ofBytes, if_pos hstart] at h
    obtain ⟨hfailure, hreadable, names, rfl, hmem⟩ := ofArchive_result_ok h
    have hobjects : objects bytes = objectsOf (Archive.members bytes).members := by
      rw [objects, if_pos hstart]
    refine ⟨NameSets.report_isVerdictOn ?_ _, hlength, ?_, fun _ => ⟨hfailure, rfl⟩, ?_⟩
    · intro role name
      rw [hmem, namesTold, hobjects]
      rfl
    · rwa [hobjects]
    · intro hcontra
      cases hcontra
  | false =>
    rw [ofBytes, if_neg (by simp [hstart])] at h
    obtain ⟨file, hread, hreadable, names, rfl, hmem⟩ := ofObjectFile_result_ok h
    -- The artifact is its own and only object file.
    have hobjects : objects bytes = [file] := by
      rw [objects, if_neg (by simp [hstart]), hread]
      rfl
    refine ⟨NameSets.report_isVerdictOn ?_ _, hlength, ?_, ?_,
      fun _ => ⟨file, hread, hobjects, rfl⟩⟩
    · simpa [namesTold, hobjects] using hmem
    · simpa [hobjects] using hreadable
    · intro hcontra
      cases hcontra

/-- A small object file: it defines `scanf`, refers to `printf`, and has a local `fscanf`. -/
def sampleObject : Bytes :=
  ⟨#[0x64, 0x86, 0, 0, 0, 0, 0, 0, 20, 0, 0, 0, 3, 0, 0, 0, 0, 0, 0, 0,
     0x73, 0x63, 0x61, 0x6E, 0x66, 0, 0, 0, 0, 0, 0, 0, 1, 0, 0, 0, 2, 0,
     0x70, 0x72, 0x69, 0x6E, 0x74, 0x66, 0, 0, 0, 0, 0, 0, 0, 0, 0, 0, 2, 0,
     0x66, 0x73, 0x63, 0x61, 0x6E, 0x66, 0, 0, 0, 0, 0, 0, 1, 0, 0, 0, 3, 0,
     4, 0, 0, 0]⟩

theorem read_sampleObject :
    ObjectFile.read sampleObject = .ok {
      isImage := false
      symbols := .ok [⟨"scanf", false, false⟩, ⟨"printf", true, false⟩, ⟨"fscanf", false, true⟩]
      exportNames := .ok []
      importNames := .ok [] } := by
  -- The walk over the symbol table is no structural recursion, and so it has to be opened.
  with_unfolding_all rfl

/-- The report on the small object file. -/
def sampleReport : Report :=
  NameSets.report
    { defined := (∅ : Std.HashSet String).insert "scanf"
      referenced := (∅ : Std.HashSet String).insert "printf" } .object

/-- A local symbol is told in no role, so `fscanf` is not in the report. -/
theorem ofBytes_sampleObject : (ofBytes sampleObject).result = .ok sampleReport := by
  rw [ofBytes, if_neg (by decide), ofObjectFile, read_sampleObject]
  rfl

theorem sampleReport_isVerdictOn :
    (ofBytes sampleObject).result = .ok sampleReport ∧
      sampleReport.IsVerdictOn (namesTold sampleObject) ∧ sampleReport.entries.length = 52 := by
  have hmeaning := report_isVerdictOn_namesTold ofBytes_sampleObject
  exact ⟨ofBytes_sampleObject, hmeaning.1, hmeaning.2.1⟩

end Audit

end RuntimeSlots
