import RuntimeSlots.Proofs.Audit.Verdict
import RuntimeSlots.Proofs.ObjectFile.Formats

/-!
# Audits of single object files

An artifact has a report if `ObjectFile.read` reads it and the file is `ObjectFile.IsReadable`.  The
report follows from the three lists of the file.

* `Report.onObject` and `Report.onLibrary` are the reports on an object that has only symbols and
  on a linked library that has only exports.
* `Audit.ofBytes_of_sources` and `Audit.ofBytes_of_exports` say which files have these reports.
-/

namespace RuntimeSlots

/-! ## Reports on lists of names -/

/-- The report on an object that defines and refers to these names, where a definition counts
before a reference.  As an object exports nothing, its accessor is `defined` or `absent`. -/
def Report.onObject (defined referenced : List String) : Report where
  kind := .object
  accessor := if Slot.accessorName ∈ defined then .defined else .absent
  entries := Slot.all.map fun slot =>
    (slot, if slot.linkName ∈ defined then .defined
      else if slot.linkName ∈ referenced then .referenced
      else .missing)

/-- The report on a linked library of which only the exports are known, and of these only whether
the accessor is among them. -/
def Report.onLibrary (exportsAccessor : Bool) : Report where
  kind := .image
  accessor := if exportsAccessor then .exported else .absent
  entries := Slot.all.map fun slot => (slot, .missing)

namespace NameSets

variable {names : NameSets}

theorem report_eq_onObject {defined referenced : List String}
    (hdefined : ∀ name, name ∈ names.inRole .defined ↔ name ∈ defined)
    (hreferenced : ∀ name, name ∈ names.inRole .referenced ↔ name ∈ referenced)
    (hexported : ∀ name, name ∉ names.inRole .exported) :
    names.report .object = Report.onObject defined referenced := by
  simp only [inRole] at hdefined hreferenced hexported
  simp only [report, Report.onObject, accessorState, backing, hdefined, hreferenced, hexported,
    if_false]

theorem report_eq_onLibrary {exportsAccessor : Bool}
    (hdefined : ∀ name, name ∉ names.inRole .defined)
    (hreferenced : ∀ name, name ∉ names.inRole .referenced)
    (hexported : Slot.accessorName ∈ names.inRole .exported ↔ exportsAccessor = true) :
    names.report .image = Report.onLibrary exportsAccessor := by
  simp only [inRole] at hdefined hreferenced hexported
  simp only [report, Report.onLibrary, accessorState, backing, hdefined, hreferenced, hexported,
    if_false]

end NameSets

/-! ## Audits -/

namespace Audit

/-- A readable object file has a report, on just the names that it `Tells`. -/
theorem exists_report_of_isReadable {bytes : Bytes} {file : ObjectFile ObjectFault}
    (hread : ObjectFile.read bytes = .ok file) (hfile : file.IsReadable) :
    ∃ names : NameSets,
      (ofBytes bytes).result = .ok (names.report (if file.isImage then .image else .object)) ∧
      ∀ role name, name ∈ names.inRole role ↔ file.Tells role name := by
  obtain ⟨names, habsorb, hmem⟩ := absorb_of_isReadable hfile .empty inputName
  refine ⟨names, ?_, ?_⟩
  · rw [ofBytes, if_neg (ObjectFile.not_startsWith_of_read_ok hread), ofObjectFile, hread]
    simp only [habsorb]
  · intro role name
    rw [hmem, or_iff_right (mem_inRole_empty role name)]

/-- The report on an object that has only symbols.  Each `symbol` comes from a source, of which
`definedName?` and `referencedName?` are the names in the two roles. -/
theorem ofBytes_of_sources {α : Type} {bytes : Bytes} {sources : List α} {symbol : α → Symbol}
    {definedName? referencedName? : α → Option String}
    (hread : ObjectFile.read bytes = .ok {
      isImage := false
      symbols := .ok (sources.map symbol)
      exportNames := .ok []
      importNames := .ok [] })
    (hnames : ∀ source, (symbol source).nameInRole? .defined = definedName? source ∧
      (symbol source).nameInRole? .referenced = referencedName? source) :
    (ofBytes bytes).result = .ok
      (Report.onObject (sources.filterMap definedName?) (sources.filterMap referencedName?)) := by
  obtain ⟨names, hresult, hmem⟩ :=
    exists_report_of_isReadable hread ⟨⟨_, rfl⟩, ⟨_, rfl⟩, ⟨_, rfl⟩⟩
  -- Without exports and imports, only the symbols tell names.
  have htells : ∀ role name, name ∈ names.inRole role ↔
      ∃ source ∈ sources, (symbol source).nameInRole? role = some name := by
    intro role name
    rw [hmem, ObjectFile.tells_iff rfl rfl rfl]
    simp [Symbol.nameInRole?_eq_some_iff]
  rw [hresult, if_neg Bool.false_ne_true, NameSets.report_eq_onObject]
  · intro name
    simp only [htells, (hnames _).1, List.mem_filterMap]
  · intro name
    simp only [htells, (hnames _).2, List.mem_filterMap]
  · intro name hname
    -- No symbol is an export.
    obtain ⟨source, -, hsource⟩ := (htells .exported name).mp hname
    cases hsource

/-- The report on a linked library that has only exports: what matters is whether one of them is
read as `Slot.accessorName`. -/
theorem ofBytes_of_exports {bytes : Bytes} {exports : List Bytes} {exportsAccessor : Bool}
    (hread : ObjectFile.read bytes = .ok {
      isImage := true, symbols := .ok [], exportNames := .ok exports, importNames := .ok [] })
    (haccessor : exportsAccessor = true ↔
      ∃ item ∈ exports, item.toTextLossy = Slot.accessorName) :
    (ofBytes bytes).result = .ok (Report.onLibrary exportsAccessor) := by
  obtain ⟨names, hresult, hmem⟩ :=
    exists_report_of_isReadable hread ⟨⟨_, rfl⟩, ⟨_, rfl⟩, ⟨_, rfl⟩⟩
  -- Without symbols and imports, only the exports tell names.
  have htells : ∀ role name, name ∈ names.inRole role ↔
      ∃ item ∈ exports, role = .exported ∧ item.toTextLossy = name := by
    intro role name
    rw [hmem, ObjectFile.tells_iff rfl rfl rfl]
    simp
  rw [hresult, if_pos rfl, NameSets.report_eq_onLibrary]
  · intro name hname
    obtain ⟨item, -, hrole, -⟩ := (htells .defined name).mp hname
    cases hrole
  · intro name hname
    obtain ⟨item, -, hrole, -⟩ := (htells .referenced name).mp hname
    cases hrole
  · -- In the role `exported` the exports themselves are told.
    rw [htells, haccessor]
    simp

end Audit

/-- The accessor's name has no zero byte, so every format can write it. -/
theorem Slot.zero_notMem_accessorName : 0 ∉ Slot.accessorName.toUTF8.data.toList := by decide

end RuntimeSlots
