import RuntimeSlots.Proofs.Audit.ObjectFile
import RuntimeSlots.Proofs.Coff.ReadBack

/-!
# Audits of COFF objects

The report on a `Coff.WrittenObject` follows from its symbols: the names of `Linking.external`
symbols are defined, those of `Linking.undefined` symbols are referenced, and `Linking.static`
symbols do not count.

* `Coff.SourceSymbol.nameInRole?_symbol` ties the written symbols to the roles of names.
* `Audit.ofBytes_coffObject` is the report on an object.
-/

namespace RuntimeSlots

namespace Coff

namespace SourceSymbol

/-- `SourceSymbol.symbol` keeps the role in which the symbol was written. -/
theorem nameInRole?_symbol (source : SourceSymbol) :
    source.symbol.nameInRole? .defined = source.definedName? ∧
      source.symbol.nameInRole? .referenced = source.undefinedName? := by
  -- How the symbol is linked decides both roles.
  obtain ⟨name, linking, _⟩ := source
  cases linking with
  | external place => exact ⟨rfl, rfl⟩
  | undefined => exact ⟨rfl, rfl⟩
  | static place => exact ⟨rfl, rfl⟩

end SourceSymbol

/-- A COFF object has no signature: `ObjectFormat.detect` knows it by the number of its machine. -/
theorem detect_bytes (object : WrittenObject) :
    ObjectFormat.detect object.bytes = .ok .coff := by
  have hsize : 16 ≤ object.bytes.size := by
    rw [object.size_bytes, headerSize]
    omega
  have hmachine : object.bytes.HoldsAt 0 (Bytes.little 2 machine) :=
    object.holdsAt_parts.1.trans object.holdsAt_machine
  exact ObjectFormat.detect_of_holdsAt hsize hmachine (by decide) fun _ => rfl

end Coff

namespace Audit

/-- The audit of a written COFF object has a report, and it is the one on the names of its external
symbols: those with a section are defined, those without are referenced. -/
theorem ofBytes_coffObject (object : Coff.WrittenObject) :
    (ofBytes object.bytes).result =
      .ok (Report.onObject object.definedNames object.undefinedNames) := by
  -- The format is told from the first bytes, and its reader finds the symbols.
  have hread : ObjectFile.read object.bytes = .ok {
      isImage := false
      symbols := .ok (object.sources.map Coff.SourceSymbol.symbol)
      exportNames := .ok []
      importNames := .ok [] } := by
    rw [ObjectFile.read_of_detect_coff (Coff.detect_bytes object), Coff.read_bytes]
    rfl
  exact ofBytes_of_sources hread Coff.SourceSymbol.nameInRole?_symbol

end Audit

/-- An object with one symbol for each case of `Linking`.  The name of the accessor is too long for
a record, and its record has an auxiliary one behind it. -/
def Coff.sampleObject : Coff.WrittenObject where
  timestamp := 0
  flags := 0
  strings := Bytes.terminated (Bytes.ofText Slot.accessorName)
  symbols := [
    { source := {
        name := Slot.accessorName, linking := .external ⟨1, 0, by decide⟩, type := 0x20
        auxiliary := [Bytes.little 18 0xFF], name_ne_empty := by decide
        zero_notMem := Slot.zero_notMem_accessorName
        length_auxiliary_le := by decide, size_auxiliary := by decide }
      place := .inStrings 4
      allowed := by decide },
    { source := {
        name := "printf", linking := .undefined, type := 0, auxiliary := []
        name_ne_empty := by decide, zero_notMem := by decide
        length_auxiliary_le := by decide, size_auxiliary := by decide }
      place := .inRecord
      allowed := by decide },
    { source := {
        name := "scanf", linking := .static ⟨2, 7, by decide⟩, type := 0, auxiliary := []
        name_ne_empty := by decide, zero_notMem := by decide
        length_auxiliary_le := by decide, size_auxiliary := by decide }
      place := .inRecord
      allowed := by decide }]
  size_lt := by decide

namespace Audit

/-- The static `scanf` is in neither list of the report. -/
theorem ofBytes_coffSample :
    Coff.sampleObject.definedNames = [Slot.accessorName] ∧
      Coff.sampleObject.undefinedNames = ["printf"] ∧
      (ofBytes Coff.sampleObject.bytes).result =
        .ok (Report.onObject [Slot.accessorName] ["printf"]) :=
  ⟨rfl, rfl, ofBytes_coffObject Coff.sampleObject⟩

end Audit

end RuntimeSlots
