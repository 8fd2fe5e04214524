import RuntimeSlots.ObjectFile.Reader
import RuntimeSlots.Proofs.Bytes.Strings

/-!
# Telling formats apart

`ObjectFormat.detect` compares the first sixteen bytes of a file with a list of signatures, and
`ObjectFile.read` hands the file to the reader of the format.

* `ObjectFormat.detect_of_holdsAt` finds the format of any file that begins with its signature.
* `ObjectFile.read_of_detect_coff` and its companions name the reader of each format.
* `ObjectFile.not_startsWith_of_read_ok`: what can be read is no archive.
-/

namespace RuntimeSlots

/-- `List.mapM` in `Except` is `List.map` if no item fails. -/
theorem mapM_eq_ok {φ α β : Type} {read : α → Except φ β} {value : α → β} {items : List α}
    (h : ∀ item ∈ items, read item = .ok (value item)) :
    items.mapM read = .ok (items.map value) := by
  -- Induction on the items; the first one is read, and then the rest.
  induction items with
  | nil => rfl
  | cons item rest ih =>
    have hrest := ih fun x hx => h x (List.mem_cons_of_mem _ hx)
    rw [List.mapM_cons, h item (List.mem_cons_self ..), hrest]
    rfl

/-- A step of a reader that succeeds hands its value on; rewriting with this leaves the later steps
alone. -/
theorem ok_bind {φ α β : Type} {value : α} {next : α → Except φ β} :
    (Except.ok value >>= next) = next value :=
  rfl

/-- The same of a step that might have ended with a fault for want of a value. -/
theorem orFault_some_bind {φ α β : Type} {value : α} {fault : φ} {next : α → Except φ β} :
    (orFault (some value) fault >>= next) = next value :=
  rfl

/-! ## Signatures -/

namespace ObjectFormat

/-- A file has the `format` whose signature it begins with, whatever `rest` of the sixteen bytes
follows `start`. -/
theorem detect_of_holdsAt {file start : Bytes} {format : ObjectFormat} {entry : List UInt8}
    (hsize : 16 ≤ file.size) (hstart : file.HoldsAt 0 start) (hshort : start.size ≤ 16)
    (hfound : ∀ rest : List UInt8,
      (signatures.find? fun signature => signature.1.isPrefixOf (start.data.toList ++ rest)) =
        some (entry, format)) :
    detect file = .ok format := by
  obtain ⟨rest, hrest⟩ : start.data.toList <+: (file.extract 0 16).data.toList := by
    -- What the file begins with, its first sixteen bytes begin with.
    have hbegins : start.data.toList <+: file.data.toList := by
      simpa using hstart.isPrefix_drop
    rw [ByteArray.data_extract, Array.toList_extract, List.extract_eq_take_drop, List.drop_zero,
      List.prefix_take_iff]
    exact ⟨hbegins, by simpa using hshort⟩
  rw [detect, if_neg (by omega)]
  simp only [← hrest, hfound]

end ObjectFormat

/-! ## Readers -/

namespace ObjectFile

variable {file : Bytes}

theorem read_of_detect_coff (h : ObjectFormat.detect file = .ok .coff) :
    read file = widen .coff (Coff.read file) := by
  rw [read, h]
  rfl

theorem read_of_detect_elf {wide : Bool} (h : ObjectFormat.detect file = .ok (.elf wide)) :
    read file = widen .elf (Elf.read wide file) := by
  rw [read, h]
  rfl

theorem read_of_detect_pe {width : Pe.Width} (h : ObjectFormat.detect file = .ok .pe)
    (hwidth : Pe.addressWidth? file = some width) :
    read file = widen .pe (Pe.read width file) := by
  rw [read, h]
  simp only [bind, Except.bind, hwidth]

/-- `ObjectFile.read` rejects what begins as an archive. -/
theorem read_error_of_startsWith (h : file.startsWith Archive.signature = true) :
    ∃ fault, read file = .error fault := by
  by_cases hsize : file.size < 16
  · exact ⟨.tooShort, by rw [read, ObjectFormat.detect, if_pos hsize]; rfl⟩
  · have hdetect : ObjectFormat.detect file = .ok .unsupported :=
      ObjectFormat.detect_of_holdsAt (Nat.le_of_not_lt hsize) (Bytes.startsWith_iff.mp h)
        (by decide) fun _ => rfl
    exact ⟨.unsupported, by rw [read, hdetect]; rfl⟩

/-- So no artifact is audited both as an archive and as an object file. -/
theorem not_startsWith_of_read_ok {contents : ObjectFile ObjectFault}
    (h : read file = .ok contents) : ¬ file.startsWith Archive.signature = true := by
  intro hstart
  obtain ⟨fault, hfault⟩ := read_error_of_startsWith hstart
  rw [h] at hfault
  cases hfault

end ObjectFile

end RuntimeSlots
