import RuntimeSlots.Proofs.Archive.Plain
import RuntimeSlots.Proofs.Audit.Verdict
import RuntimeSlots.Proofs.ObjectFile.Formats

/-!
# Archives are audited member by member

`ofBytes` pools the names of all members of an archive and reports on the pool.  The result is the
same as if `ofBytes` reported on the data of every member and `Report.join` joined the reports: the
better state wins for each slot and for the accessor.

* `Report.join` joins two reports, `Report.blank` is the report on nothing.
* `NameSets.report_join` says that pooling names joins the reports on them.
* `Audit.part` is what one member contributes, `Audit.gather_eq_join` joins the parts of any
  members, and `Audit.ofBytes_write_eq_join` those of the members of an archive.
-/

namespace RuntimeSlots

/-! ## Joining reports -/

/-- The better of two states of the accessor: `defined`, then `exported`, then `absent`. -/
def AccessorState.join : AccessorState → AccessorState → AccessorState
  | .defined, _ | _, .defined => .defined
  | .exported, _ | _, .exported => .exported
  | .absent, .absent => .absent

/-- The better of two backings: `defined`, then `referenced`, then `missing`. -/
def Backing.join : Backing → Backing → Backing
  | .defined, _ | _, .defined => .defined
  | .referenced, _ | _, .referenced => .referenced
  | .missing, .missing => .missing

/-- The report on an archive that holds what two reports are about. -/
def Report.join (first second : Report) : Report where
  kind := .archive
  accessor := first.accessor.join second.accessor
  entries := List.zipWith (fun x y => (x.1, x.2.join y.2)) first.entries second.entries

/-- The report on an archive in which nothing was found, with which the joining begins. -/
def Report.blank : Report where
  kind := .archive
  accessor := .absent
  entries := Slot.all.map fun slot => (slot, .missing)

namespace NameSets

variable {names first second : NameSets}

/-- The accessor's state for pooled names is the better one of its states for the two parts. -/
theorem accessorState_join
    (h : ∀ role name, name ∈ names.inRole role ↔
      name ∈ first.inRole role ∨ name ∈ second.inRole role) :
    names.accessorState = first.accessorState.join second.accessorState := by
  have hdefined := h .defined Slot.accessorName
  have hexported := h .exported Slot.accessorName
  simp only [inRole] at hdefined hexported
  simp only [accessorState, hdefined, hexported]
  -- Two sets of each part decide: all combinations of what they hold agree.
  by_cases hd₁ : Slot.accessorName ∈ first.defined <;>
    by_cases hd₂ : Slot.accessorName ∈ second.defined <;>
    by_cases he₁ : Slot.accessorName ∈ first.exported <;>
    by_cases he₂ : Slot.accessorName ∈ second.exported <;>
    simp [hd₁, hd₂, he₁, he₂, AccessorState.join]

theorem backing_join
    (h : ∀ role name, name ∈ names.inRole role ↔
      name ∈ first.inRole role ∨ name ∈ second.inRole role) (slot : Slot) :
    names.backing slot = (first.backing slot).join (second.backing slot) := by
  have hdefined := h .defined slot.linkName
  have hreferenced := h .referenced slot.linkName
  simp only [inRole] at hdefined hreferenced
  simp only [backing, hdefined, hreferenced]
  -- As for the accessor, with references in place of exports.
  by_cases hd₁ : slot.linkName ∈ first.defined <;>
    by_cases hd₂ : slot.linkName ∈ second.defined <;>
    by_cases hr₁ : slot.linkName ∈ first.referenced <;>
    by_cases hr₂ : slot.linkName ∈ second.referenced <;>
    simp [hd₁, hd₂, hr₁, hr₂, Backing.join]

/-- The report on pooled names is the `Report.join` of the reports on the names, of whatever kind
these are. -/
theorem report_join
    (h : ∀ role name, name ∈ names.inRole role ↔
      name ∈ first.inRole role ∨ name ∈ second.inRole role) (kind₁ kind₂ : ArtifactKind) :
    (first.report kind₁).join (second.report kind₂) = names.report .archive := by
  simp only [Report.join, report, List.zipWith_map, List.zipWith_self, ← accessorState_join h,
    ← backing_join h]

theorem report_empty : NameSets.empty.report .archive = Report.blank := by
  have haccessor : NameSets.empty.accessorState = .absent := by
    simp [accessorState, empty]
  have hbacking : ∀ slot, NameSets.empty.backing slot = .missing := fun slot => by
    simp [backing, empty]
  simp only [report, haccessor, hbacking, Report.blank]

theorem report_join_blank (names : NameSets) :
    (names.report .archive).join Report.blank = names.report .archive := by
  rw [← report_empty]
  exact report_join (fun role name => (or_iff_left (Audit.mem_inRole_empty role name)).symm) _ _

end NameSets

namespace Audit

/-! ## Parts -/

/-- What a member contributes to the audit of its archive.  A member that is itself an archive, or
no object file, contributes nothing; what fails in an object file fails under the member's name. -/
def part (member : Archive.Member) : Except Failure Report :=
  if member.data.startsWith Archive.signature then .ok Report.blank
  else
    match (ofBytes member.data).result with
    | .ok report => .ok report
    | .error (.unreadable _) => .ok Report.blank
    | .error failure => .error (failure.inSource member.name.asciiText)

/-- What `ObjectFile.read` rejects contributes nothing, be it an archive or not. -/
theorem part_of_read_error {member : Archive.Member} {fault : ObjectFault}
    (h : ObjectFile.read member.data = .error fault) : part member = .ok Report.blank := by
  unfold part
  split
  case isTrue => rfl
  case isFalse hstart => rw [ofBytes, if_neg hstart, ofObjectFile, h]

/-- A readable object file contributes the report on the names that it `Tells`. -/
theorem part_of_isReadable {member : Archive.Member} {file : ObjectFile ObjectFault}
    (hread : ObjectFile.read member.data = .ok file) (hfile : file.IsReadable) :
    ∃ (own : NameSets) (kind : ArtifactKind), part member = .ok (own.report kind) ∧
      ∀ role name, name ∈ own.inRole role ↔ file.Tells role name := by
  obtain ⟨own, habsorb, hmem⟩ := absorb_of_isReadable hfile .empty inputName
  have hstart := ObjectFile.not_startsWith_of_read_ok hread
  refine ⟨own, if file.isImage then .image else .object, ?_, ?_⟩
  · rw [part, if_neg hstart, ofBytes, if_neg hstart, ofObjectFile, hread]
    simp only [habsorb]
  · intro role name
    rw [hmem, or_iff_right (mem_inRole_empty role name)]

/-- An object file that is not readable contributes the failure of `absorb`, under the name of the
member. -/
theorem part_of_not_isReadable {member : Archive.Member} {file : ObjectFile ObjectFault}
    (hread : ObjectFile.read member.data = .ok file) (hfile : ¬ file.IsReadable) :
    ∃ failure : Failure, part member = .error (failure.inSource member.name.asciiText) ∧
      ∀ names source, absorb names source file = .error (failure.inSource source) := by
  obtain ⟨failure, hobject, hfailure⟩ := absorb_of_not_isReadable hfile
  have hstart := ObjectFile.not_startsWith_of_read_ok hread
  refine ⟨failure, ?_, hfailure⟩
  rw [part, if_neg hstart, ofBytes, if_neg hstart, ofObjectFile, hread]
  simp only [hfailure]
  -- Of the failures, `part` would take only `unreadable` for a blank report.
  cases failure with
  | unreadable fault => exact absurd rfl (hobject fault)
  | archive fault => rfl
  | symbols source fault => rfl
  | exports source fault => rfl
  | imports source fault => rfl

/-! ## Archives -/

/-- The report on what `gather` pools is what joining the parts gives, if the joining begins with
the report on the names gathered before. -/
theorem gather_eq_join {members : List Archive.Member}
    (h : ∀ member ∈ members, member.name.IsAscii) (names : NameSets) :
    (gather none names members).result.map (fun names => names.report .archive) =
      (members.mapM part).map fun parts => parts.foldl Report.join (names.report .archive) := by
  -- Induction on the members; the names gathered so far are the report the joining begins with.
  induction members generalizing names with
  | nil => rfl
  | cons member rest ih =>
    obtain ⟨hmember, hrest⟩ := List.forall_mem_cons.mp h
    rw [List.mapM_cons]
    cases hread : ObjectFile.read member.data with
    | error fault =>
      -- The member is passed over, and its blank report changes nothing.
      rw [part_of_read_error hread]
      simp only [gather, hread, ih hrest]
      cases rest.mapM part with
      | error failure => rfl
      | ok parts =>
        simp [Except.map, bind, Except.bind, pure, Except.pure, NameSets.report_join_blank]
    | ok file =>
      by_cases hfile : file.IsReadable
      -- The names of the file are pooled, so its report is joined.
      · obtain ⟨own, kind, hpart, hown⟩ := part_of_isReadable hread hfile
        obtain ⟨added, habsorb, hadded⟩ :=
          absorb_of_isReadable hfile names member.name.toTextLossy
        have hpool : ∀ role name, name ∈ added.inRole role ↔
            name ∈ names.inRole role ∨ name ∈ own.inRole role := fun role name => by
          rw [hadded, hown]
        have hjoin := NameSets.report_join hpool .archive kind
        simp only [gather, hread, habsorb, hpart, ih hrest]
        cases rest.mapM part with
        | error failure => rfl
        | ok parts => simp [Except.map, bind, Except.bind, pure, Except.pure, hjoin]
      -- The audit fails here, and so does the part, under the same name.
      · obtain ⟨failure, hpart, habsorb⟩ := part_of_not_isReadable hread hfile
        simp only [gather, hread, habsorb, hpart, hmember.toTextLossy]
        rfl

/-- The report on a plain archive is the join of the parts of its members, and the failure is that
of the first part that fails. -/
theorem ofBytes_write_eq_join {members : List Archive.Member}
    (h : ∀ member ∈ members, Archive.PlainMember member) :
    (ofBytes (Archive.write members)).result =
      (members.mapM part).map fun parts => parts.foldl Report.join Report.blank := by
  -- The log and the failures spell an ASCII name as it is.
  have hascii : ∀ member ∈ members, member.name.IsAscii := fun member hmember =>
    (h member hmember).ordinary.isAscii
  rw [ofBytes_eq_ofMembers (Archive.startsWith_write members) (Archive.members_write h),
    ofMembers, gather_eq_join hascii, NameSets.report_empty]

/-- The object file `sampleObject` beside a text. -/
def sampleMembers : List Archive.Member :=
  [⟨Bytes.ofText "a.o", sampleObject⟩, ⟨Bytes.ofText "notes.txt", Bytes.ofText "not an object"⟩]

theorem plainMember_of_mem_sampleMembers :
    ∀ member ∈ sampleMembers, Archive.PlainMember member := by
  rw [sampleMembers, List.forall_mem_cons, List.forall_mem_singleton]
  exact ⟨⟨⟨by decide, by decide, by decide, by decide⟩, by decide, by decide⟩,
    ⟨⟨by decide, by decide, by decide, by decide⟩, by decide, by decide⟩⟩

theorem part_sampleMembers : sampleMembers.mapM part = .ok [sampleReport, Report.blank] := by
  have hobject : part ⟨Bytes.ofText "a.o", sampleObject⟩ = .ok sampleReport := by
    rw [part, if_neg (by decide), ofBytes_sampleObject]
  -- The text is shorter than any object file.
  have htext : part ⟨Bytes.ofText "notes.txt", Bytes.ofText "not an object"⟩ =
      .ok Report.blank := by
    have hread : ObjectFile.read (Bytes.ofText "not an object") = .error .tooShort := rfl
    exact part_of_read_error hread
  rw [sampleMembers, List.mapM_cons, List.mapM_cons, List.mapM_nil, hobject, htext]
  rfl

/-- The archive of the two sample members is judged by its object file. -/
theorem ofBytes_write_sampleMembers :
    (∀ member ∈ sampleMembers, Archive.PlainMember member) ∧
      (ofBytes (Archive.write sampleMembers)).result =
        .ok ((Report.blank.join sampleReport).join Report.blank) := by
  refine ⟨plainMember_of_mem_sampleMembers, ?_⟩
  rw [ofBytes_write_eq_join plainMember_of_mem_sampleMembers, part_sampleMembers]
  rfl

end Audit

end RuntimeSlots
