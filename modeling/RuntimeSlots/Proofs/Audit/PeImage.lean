import RuntimeSlots.Proofs.Audit.ObjectFile
import RuntimeSlots.Proofs.Pe.ReadBack
import RuntimeSlots.Proofs.Text.Ascii

/-!
# Audits of dynamic libraries

The report on a `Pe.WrittenImage` follows from the names in its export table: the accessor is
`exported` if its name is among them, and `Report.isComplete` asks nothing else of an image.

* `Bytes.toTextLossy_eq_accessorName` finds the bytes that are read as the accessor's name.
* `Report.isComplete_onLibrary` says which libraries are complete.
* `Audit.ofBytes_peImage` is the report on a library.
-/

namespace RuntimeSlots

/-- `Bytes.toTextLossy` reads only one byte string as `Slot.accessorName`, although it replaces what
is no text. -/
theorem Bytes.toTextLossy_eq_accessorName (name : Bytes) :
    name.toTextLossy = Slot.accessorName ↔ name = Bytes.ofText Slot.accessorName := by
  -- What is replaced gives characters beyond ASCII, and the name has none.
  have hascii : (Bytes.ofText Slot.accessorName).IsAscii := by decide
  have htext : (Bytes.ofText Slot.accessorName).asciiText = Slot.accessorName := by decide
  rw [← hascii.toTextLossy_eq_iff, htext]

/-- `Report.onLibrary` is complete if it has the accessor, although all of its slots are missing. -/
theorem Report.isComplete_onLibrary (exportsAccessor : Bool) :
    (Report.onLibrary exportsAccessor).isComplete = exportsAccessor := by
  cases exportsAccessor with
  | true => rfl
  | false => rfl

/-- `ObjectFormat.detect` knows a library by the two letters in front of its stub. -/
theorem Pe.detect_file (image : Pe.WrittenImage) :
    ObjectFormat.detect image.file = .ok .pe := by
  have hsize : 16 ≤ image.file.size := by
    have hfits := image.holdsAt_stub.le_size
    rw [Pe.size_stub image.size_middle] at hfits
    omega
  have hstart : image.file.HoldsAt 0 ⟨#[0x4D, 0x5A]⟩ :=
    (Bytes.holdsAt_append_iff.mp (Bytes.holdsAt_append_iff.mp image.holdsAt_stub).1).1
  exact ObjectFormat.detect_of_holdsAt hsize hstart (by decide) fun _ => rfl

namespace Audit

/-- The audit of a written library has a report in which every slot is missing.  The accessor is
exported if the export table lists its name, and just then the library is complete. -/
theorem ofBytes_peImage (image : Pe.WrittenImage) :
    ∃ exportsAccessor : Bool,
      (ofBytes image.file).result = .ok (Report.onLibrary exportsAccessor) ∧
      (exportsAccessor = true ↔ Bytes.ofText Slot.accessorName ∈ image.exports.names) ∧
      ((Report.onLibrary exportsAccessor).isComplete = true ↔
        Bytes.ofText Slot.accessorName ∈ image.exports.names) := by
  have hread : ObjectFile.read image.file = .ok {
      isImage := true
      symbols := .ok []
      exportNames := .ok image.exports.names
      importNames := .ok [] } := by
    rw [ObjectFile.read_of_detect_pe (Pe.detect_file image) image.addressWidth?_file, Pe.read_file]
    rfl
  -- An export is read as the accessor's name just if it has the bytes of that name.
  have hlisted : (∃ name ∈ image.exports.names, name.toTextLossy = Slot.accessorName) ↔
      Bytes.ofText Slot.accessorName ∈ image.exports.names := by
    simp only [Bytes.toTextLossy_eq_accessorName, exists_eq_right]
  -- The Boolean that the report is about can be computed from the list of names.
  have haccessor : (image.exports.names.any fun name => name = Bytes.ofText Slot.accessorName) =
      true ↔ Bytes.ofText Slot.accessorName ∈ image.exports.names := by
    simp only [List.any_eq_true, decide_eq_true_eq, exists_eq_right]
  refine ⟨_, ofBytes_of_exports hread (haccessor.trans hlisted.symm), haccessor, ?_⟩
  rw [Report.isComplete_onLibrary]
  exact haccessor

end Audit

/-- A library that exports the accessor twice, between a slot's function and a name that is no
text. -/
def Pe.sampleImage : Pe.WrittenImage :=
  .ofNames [Bytes.ofText "printf", Bytes.ofText Slot.accessorName, ⟨#[0xFF]⟩,
    Bytes.ofText Slot.accessorName] (by decide) (by rw [Pe.size_exportBytes]; decide)

/-- A library that exports functions of two slots, but not the accessor. -/
def Pe.sampleImageWithoutAccessor : Pe.WrittenImage :=
  .ofNames [Bytes.ofText "printf", Bytes.ofText "scanf"] (by decide)
    (by rw [Pe.size_exportBytes]; decide)

namespace Audit

/-- Only the first one of the two libraries is complete. -/
theorem ofBytes_peSample :
    (∃ report, (ofBytes Pe.sampleImage.file).result = .ok report ∧
      report.accessor = .exported ∧ report.isComplete = true) ∧
      ∃ report, (ofBytes Pe.sampleImageWithoutAccessor.file).result = .ok report ∧
        report.accessor = .absent ∧ report.isComplete = false := by
  constructor
  · -- The name of the accessor is the second one in the list.
    obtain ⟨exportsAccessor, hresult, haccessor, -⟩ := ofBytes_peImage Pe.sampleImage
    have hlisted : Bytes.ofText Slot.accessorName ∈ Pe.sampleImage.exports.names := by
      rw [Pe.sampleImage, Pe.WrittenImage.ofNames, Pe.WrittenExports.names_ofNames]
      exact List.mem_cons_of_mem _ (List.mem_cons_self ..)
    obtain rfl : exportsAccessor = true := haccessor.mpr hlisted
    exact ⟨_, hresult, rfl, rfl⟩
  · -- It is neither of the two names in the list.
    obtain ⟨exportsAccessor, hresult, haccessor, -⟩ :=
      ofBytes_peImage Pe.sampleImageWithoutAccessor
    have hunlisted : Bytes.ofText Slot.accessorName ∉
        Pe.sampleImageWithoutAccessor.exports.names := by
      rw [Pe.sampleImageWithoutAccessor, Pe.WrittenImage.ofNames, Pe.WrittenExports.names_ofNames]
      simp only [List.mem_cons, List.not_mem_nil, or_false]
      decide
    obtain rfl : exportsAccessor = false :=
      Bool.eq_false_iff.mpr fun h => hunlisted (haccessor.mp h)
    exact ⟨_, hresult, rfl, rfl⟩

end Audit

end RuntimeSlots
