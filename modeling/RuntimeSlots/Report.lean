import RuntimeSlots.Slot
import Std.Data.HashSet

/-!
# Audit reports

What is known about an artifact once its symbols were read: whether it has the accessor of the
function table, and for each slot whether a symbol backs it.

* `NameSets` holds the names of an artifact in their three roles.
* `NameSets.report` judges the accessor and every slot by them.
* `Report.isComplete` says whether the artifact carries all of the table that its kind can show.
-/

namespace RuntimeSlots

/-- What an artifact is. -/
inductive ArtifactKind
  /-- A file that is still to be linked. -/
  | object
  /-- A library of such files. -/
  | archive
  /-- A linked program or dynamic library, which shows only its exports and imports. -/
  | image
deriving DecidableEq, Repr

/-- The word for the kind in a report. -/
def ArtifactKind.label : ArtifactKind → String
  | object => "Object"
  | archive => "Archive"
  | image => "Image"

/-- How an artifact provides the accessor. -/
inductive AccessorState
  /-- It defines the accessor as a global symbol. -/
  | defined
  /-- Its export table lists the accessor. -/
  | exported
  | absent
deriving DecidableEq, Repr

/-- The word for the state of the accessor in a report. -/
def AccessorState.label : AccessorState → String
  | defined => "defined"
  | exported => "exported"
  | absent => "absent"

/-- How an artifact backs a slot. -/
inductive Backing
  | defined
  /-- The symbol is undefined or imported, so the linker had to find it. -/
  | referenced
  | missing
deriving DecidableEq, Repr

/-- The outcome of an audit. -/
structure Report where
  kind : ArtifactKind
  accessor : AccessorState
  /-- The slots that were judged, each with its backing. -/
  entries : List (Slot × Backing)
deriving DecidableEq, Repr

namespace Report

/-- The slots that no symbol backs, in order. -/
def missing (report : Report) : List Slot :=
  (report.entries.filter fun entry => entry.2 == .missing).map Prod.fst

/-- How many slots some symbol backs. -/
def backedCount (report : Report) : Nat :=
  report.entries.countP fun entry => entry.2 != .missing

/-- The accessor is there and, unless the artifact is an image, no slot is missing. -/
def isComplete (report : Report) : Bool :=
  report.accessor != .absent && (report.kind == .image || report.missing.isEmpty)

end Report

/-- The names found in an artifact, by role. -/
structure NameSets where
  /-- Names of global definitions. -/
  defined : Std.HashSet String := ∅
  /-- Names of undefined or imported symbols. -/
  referenced : Std.HashSet String := ∅
  /-- Names listed in an export table. -/
  exported : Std.HashSet String := ∅

namespace NameSets

/-- No names. -/
def empty : NameSets := {}

/-- A definition of the accessor counts before an export of it. -/
def accessorState (names : NameSets) : AccessorState :=
  if Slot.accessorName ∈ names.defined then .defined
  else if Slot.accessorName ∈ names.exported then .exported
  else .absent

/-- A slot is judged by its link name; a definition counts before a reference, and an export
backs nothing. -/
def backing (names : NameSets) (slot : Slot) : Backing :=
  if slot.linkName ∈ names.defined then .defined
  else if slot.linkName ∈ names.referenced then .referenced
  else .missing

/-- The report on an artifact of the given kind in which these names were found. -/
def report (names : NameSets) (kind : ArtifactKind) : Report where
  kind := kind
  accessor := names.accessorState
  entries := Slot.all.map fun slot => (slot, names.backing slot)

end NameSets

end RuntimeSlots
