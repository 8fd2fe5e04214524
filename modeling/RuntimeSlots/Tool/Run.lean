import RuntimeSlots.Audit.File
import RuntimeSlots.Linkage
import RuntimeSlots.Text.Lines

/-!
# What the commands do

Each command of the tool prints lines, tells the log records, and may fail.

* `Tool.list` prints the layout of the table.
* `Tool.inspect` audits files in order, up to the first one without a report.
* `Tool.resolve` registers every slot of a linked table.
-/

namespace RuntimeSlots.Tool

/-- What a command prints, what it tells the log, and the causes of its failure if it fails, the
outermost first. -/
structure Run where
  lines : List String
  records : List Log.Record
  failure : Option (List String)

/-- The name under which the tool itself logs. -/
def logTarget : String := "syslookup"

/-! ## Listing the layout -/

/-- The line that shows a slot. -/
def slotLine (index : Nat) (slot : Slot) : String :=
  Text.atRight 3 (toString index) ++ "  " ++ Text.atLeft 12 slot.name ++ " " ++
    Text.atLeft 12 slot.linkName ++ " " ++ slot.header.fileName

/-- Prints the slots of one header, or all of them. -/
def list (header : Option Header) : Run where
  lines :=
    match header with
    | some header => (Slot.declaredIn header).map fun entry => slotLine entry.1 entry.2
    | none => Slot.all.zipIdx.map fun entry => slotLine entry.2 entry.1
  records := []
  failure := none

/-! ## Auditing files -/

/-- The line that sums up the report on a file. -/
def reportLine (path : String) (report : Report) : String :=
  path ++ ": " ++ report.kind.label ++ ", accessor " ++ report.accessor.label ++ ", " ++
    toString report.backedCount ++ "/" ++ toString report.entries.length ++ " slots backed"

/-- The warning about a slot that no symbol of a file backs. -/
def missingRecord (path : String) (slot : Slot) : Log.Record where
  level := .warn
  target := logTarget
  message := path ++ ": no symbol for " ++ slot.name ++ " (" ++ slot.linkName ++ ")"

/-- The audits of several files: what they print and log, and how many reports are incomplete or
the failure that ended them. -/
structure Inspection where
  lines : List String
  records : List Log.Record
  incomplete : Except Audit.FileFailure Nat

/-- Audits files in order, up to the first one without a report. -/
def inspectAll (opening : String → Opening) : List String → Inspection
  | [] => { lines := [], records := [], incomplete := .ok 0 }
  | path :: rest =>
    let audit := Audit.ofFile path (opening path)
    let records := audit.events.map Audit.Event.toRecord
    match audit.result with
    -- What the audit told the log before it failed is kept.
    | .error failure => { lines := [], records := records, incomplete := .error failure }
    | .ok report =>
      let tail := inspectAll opening rest
      let here := if report.isComplete then 0 else 1
      { lines := reportLine path report :: tail.lines
        records := records ++ report.missing.map (missingRecord path) ++ tail.records
        incomplete := tail.incomplete.map (here + ·) }

/-- The sentence with which a strict audit fails. -/
def incompleteMessage (incomplete total : Nat) : String :=
  toString incomplete ++ " of " ++ toString total ++ " artifacts are incomplete"

/-- Audits files; when strict, incomplete reports are a failure. -/
def inspect (opening : String → Opening) (inputs : List String) (strict : Bool) : Run :=
  let inspection := inspectAll opening inputs
  { lines := inspection.lines
    records := inspection.records
    failure :=
      match inspection.incomplete with
      | .error failure => some failure.chain
      | .ok incomplete =>
        if strict ∧ 0 < incomplete then some [incompleteMessage incomplete inputs.length]
        else none }

/-! ## Resolving the table -/

/-- The line that shows a function and its address. -/
def addressLine (entry : String × Address) : String :=
  Text.atLeft 12 entry.1 ++ " " ++ entry.2.text

/-- Registers every slot of a linked table and prints the addresses. -/
def resolve (linkage : Linkage) : Run :=
  let collection := linkage.collectBook
  { lines :=
      match collection.result with
      | .ok book => book.entries.map addressLine
      | .error _ => []
    records := collection.events.map AddressBook.Event.toRecord
    failure :=
      match collection.result with
      | .ok _ => none
      | .error failure => some [failure.message] }

end RuntimeSlots.Tool
