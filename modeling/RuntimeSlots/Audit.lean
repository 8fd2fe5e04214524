import RuntimeSlots.Archive.Members
import RuntimeSlots.Log.Record
import RuntimeSlots.ObjectFile.Reader
import RuntimeSlots.Report

/-!
# Audits of artifacts

An audit gathers the names of all object files of an artifact and judges the function table by
them.  Members of an archive that are no object files are passed over; a fault inside an object
file, or in the archive itself, ends the audit.

* `Audit.absorb` adds the names of one object file.
* `Audit.gather` goes through the members of an archive.
* `Audit.ofBytes` audits an artifact in memory, `Audit.ofFile` a file.
-/

namespace RuntimeSlots

namespace Audit

/-- Why an audit has no report. -/
inductive Failure
  /-- The artifact is neither an archive nor an object file. -/
  | unreadable (fault : ObjectFault)
  | archive (fault : Archive.Fault)
  /-- The symbols of the named object file. -/
  | symbols (source : String) (fault : ObjectFault)
  /-- The exports of the named object file. -/
  | exports (source : String) (fault : ObjectFault)
  /-- The imports of the named object file. -/
  | imports (source : String) (fault : ObjectFault)
deriving DecidableEq, Repr

/-- What failed, from the outermost description to the innermost cause. -/
def Failure.chain : Failure → List String
  | unreadable fault => ["failed to parse object file", fault.message]
  | archive fault => [fault.message]
  | symbols source fault => ["bad symbol name in " ++ source, fault.message]
  | exports source fault => ["bad export table in " ++ source, fault.message]
  | imports source fault => ["bad import table in " ++ source, fault.message]

/-- What an audit tells the log. -/
inductive Event
  /-- A member of the archive is no object file. -/
  | skipped (member : String)
  /-- The names of an object file were added, and there are now so many of each role. -/
  | absorbed (source : String) (defined referenced exported : Nat)
deriving DecidableEq, Repr

/-- The log record of an event. -/
def Event.toRecord : Event → Log.Record
  | skipped member =>
    { level := .debug, target := "syslookup::inspect"
      message := "Skipping archive member " ++ member }
  | absorbed source defined referenced exported =>
    { level := .trace, target := "syslookup::inspect"
      message := source ++ ": " ++ toString defined ++ " defined, " ++ toString referenced ++
        " referenced, " ++ toString exported ++ " exported" }

/-- How an audit ended, and what it told the log. -/
structure Outcome (α : Type) where
  events : List Event
  result : Except Failure α

/-- The names with one symbol added: under the referenced ones if it is undefined, under the
defined ones if it is a global definition. -/
def absorbSymbol (names : NameSets) (symbol : Symbol) : NameSets :=
  if symbol.isUndefined then { names with referenced := names.referenced.insert symbol.name }
  else if symbol.isLocal then names
  else { names with defined := names.defined.insert symbol.name }

/-- The names with one exported name added. -/
def absorbExport (names : NameSets) (name : Bytes) : NameSets :=
  { names with exported := names.exported.insert name.toTextLossy }

/-- The names with one imported name added, which counts as a reference. -/
def absorbImport (names : NameSets) (name : Bytes) : NameSets :=
  { names with referenced := names.referenced.insert name.toTextLossy }

/-- Adds the names of an object file that is known as `source`. -/
def absorb (names : NameSets) (source : String) (file : ObjectFile ObjectFault) :
    Except Failure NameSets := do
  let symbols ← file.symbols.mapError (Failure.symbols source)
  let exports ← file.exportNames.mapError (Failure.exports source)
  let imports ← file.importNames.mapError (Failure.imports source)
  let names := symbols.foldl absorbSymbol names
  let names := exports.foldl absorbExport names
  return imports.foldl absorbImport names

/-- The event that tells how many names there are once `source` was added. -/
def absorbedEvent (source : String) (names : NameSets) : Event :=
  .absorbed source names.defined.size names.referenced.size names.exported.size

/-- Adds the names of the members one after another; `ending` is what ended their list. -/
def gather (ending : Option Archive.Fault) : NameSets → List Archive.Member → Outcome NameSets
  | names, [] =>
    match ending with
    | some fault => { events := [], result := .error (.archive fault) }
    | none => { events := [], result := .ok names }
  | names, member :: rest =>
    let source := member.name.toTextLossy
    match ObjectFile.read member.data with
    | .error _ =>
      -- The fault is dropped: texts and the like may stand in any archive.
      let tail := gather ending names rest
      { tail with events := .skipped source :: tail.events }
    | .ok file =>
      match absorb names source file with
      -- The rest is not looked at, not even for the log.
      | .error failure => { events := [], result := .error failure }
      | .ok names =>
        let tail := gather ending names rest
        { tail with events := absorbedEvent source names :: tail.events }

/-- Audits an archive. -/
def ofArchive (bytes : Bytes) : Outcome Report :=
  let listing := Archive.members bytes
  let outcome := gather listing.failure .empty listing.members
  { events := outcome.events, result := outcome.result.map fun names => names.report .archive }

/-- The name under which an artifact that is a single object file is reported. -/
def inputName : String := "<input>"

/-- Audits a single object file. -/
def ofObjectFile (bytes : Bytes) : Outcome Report :=
  match ObjectFile.read bytes with
  | .error fault => { events := [], result := .error (.unreadable fault) }
  | .ok file =>
    match absorb .empty inputName file with
    | .error failure => { events := [], result := .error failure }
    | .ok names =>
      { events := [absorbedEvent inputName names]
        result := .ok (names.report (if file.isImage then .image else .object)) }

/-- Audits an artifact: an archive if it begins as one, otherwise a single object file. -/
def ofBytes (bytes : Bytes) : Outcome Report :=
  if bytes.startsWith Archive.signature then ofArchive bytes else ofObjectFile bytes

end Audit

end RuntimeSlots
