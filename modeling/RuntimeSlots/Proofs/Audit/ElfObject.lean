import RuntimeSlots.Proofs.Audit.ObjectFile
import RuntimeSlots.Proofs.Elf.ReadBack

/-!
# Audits of ELF objects

The report on an `Elf.WrittenObject` follows from its symbols: the name of a symbol with
`sectionIndex` 0 is referenced whatever its binding, that of any other symbol is defined unless its
`binding` is 0.

* `Elf.SourceSymbol.nameInRole?_symbol` ties the written symbols to the roles of names.
* `Audit.ofBytes_elfObject` is the report on an object.
-/

namespace RuntimeSlots

namespace Elf

namespace SourceSymbol

/-- `SourceSymbol.symbol` keeps the role in which the symbol was written. -/
theorem nameInRole?_symbol (source : SourceSymbol) :
    source.symbol.nameInRole? .defined = source.definedName? ∧
      source.symbol.nameInRole? .referenced = source.undefinedName? := by
  -- Both sides test the same fields, one side by their Boolean views.
  have hdefined : source.symbol.HasRole .defined ↔
      source.sectionIndex ≠ 0 ∧ source.binding ≠ 0 := by
    simp only [Symbol.HasRole, symbol, decide_eq_false_iff_not, Fin.val_eq_zero_iff]
  have hreferenced : source.symbol.HasRole .referenced ↔ source.sectionIndex = 0 := by
    simp only [Symbol.HasRole, symbol, decide_eq_true_eq]
  exact ⟨if_congr hdefined rfl rfl, if_congr hreferenced rfl rfl⟩

end SourceSymbol

/-- `ObjectFormat.detect` knows an object by the first bytes of `Elf.signature`. -/
theorem detect_file (object : WrittenObject) :
    ObjectFormat.detect object.file = .ok (.elf true) := by
  have hsize : 16 ≤ object.file.size := by
    -- The file header alone is longer than that.
    have hfits := object.holdsAt_header.le_size
    rw [size_fileHeader, show objectEncoding.headerSize = 64 from rfl] at hfits
    omega
  have hsignature : object.file.HoldsAt 0 signature :=
    object.holdsAt_header.trans (holdsAt_signature ..)
  exact ObjectFormat.detect_of_holdsAt hsize hsignature (by decide) fun _ => rfl

end Elf

namespace Audit

/-- The audit of a written ELF object has a report, and it is the one on the names of its symbols:
those with a section and a binding that other files see are defined, those without a section are
referenced. -/
theorem ofBytes_elfObject (object : Elf.WrittenObject) :
    (ofBytes object.file).result =
      .ok (Report.onObject object.definedNames object.undefinedNames) := by
  have hread : ObjectFile.read object.file = .ok {
      isImage := false
      symbols := .ok (object.sources.map Elf.SourceSymbol.symbol)
      exportNames := .ok []
      importNames := .ok [] } := by
    rw [ObjectFile.read_of_detect_elf (Elf.detect_file object), Elf.read_file]
    rfl
  exact ofBytes_of_sources hread Elf.SourceSymbol.nameInRole?_symbol

end Audit

/-- The strings of `sampleObject`: the empty one, and the names of its four symbols. -/
def Elf.sampleStrings : Bytes :=
  Bytes.concat (["", Slot.accessorName, "fprintf", "sprintf", "sscanf"].map fun name =>
    Bytes.terminated (Bytes.ofText name))

/-- An object with a global and a weak definition, and with two local symbols, of which only
`sscanf` has a section. -/
def Elf.sampleObject : Elf.WrittenObject :=
  @Elf.WrittenObject.ofSymbols Elf.sampleStrings [
    { source := {
        name := Slot.accessorName, binding := ⟨1, by decide⟩, type := ⟨2, by decide⟩
        visibility := 0, sectionIndex := 1, value := 0, size := 9
        zero_notMem := Slot.zero_notMem_accessorName }
      position := 1
      holdsAt_name := by decide },
    { source := {
        name := "fprintf", binding := ⟨2, by decide⟩, type := ⟨2, by decide⟩
        visibility := 2, sectionIndex := 0xFFF1, value := 7, size := 0, zero_notMem := by decide }
      position := 26
      holdsAt_name := by decide },
    { source := {
        name := "sprintf", binding := ⟨0, by decide⟩, type := ⟨0, by decide⟩
        visibility := 0, sectionIndex := 0, value := 0, size := 0, zero_notMem := by decide }
      position := 34
      holdsAt_name := by decide },
    { source := {
        name := "sscanf", binding := ⟨0, by decide⟩, type := ⟨0, by decide⟩
        visibility := 0, sectionIndex := 3, value := 0, size := 0, zero_notMem := by decide }
      position := 42
      holdsAt_name := by decide }] (by decide) (by decide)

namespace Audit

/-- The local `sprintf` is a reference, and the local `sscanf` is in neither list of the report. -/
theorem ofBytes_elfSample :
    Elf.sampleObject.definedNames = [Slot.accessorName, "fprintf"] ∧
      Elf.sampleObject.undefinedNames = ["sprintf"] ∧
      (ofBytes Elf.sampleObject.file).result =
        .ok (Report.onObject [Slot.accessorName, "fprintf"] ["sprintf"]) :=
  ⟨rfl, rfl, ofBytes_elfObject Elf.sampleObject⟩

end Audit

end RuntimeSlots
