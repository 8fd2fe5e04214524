import RuntimeSlots.Audit
import RuntimeSlots.File.Opening

/-!
# Audits of files

A file is audited by its contents.  What fails is reported together with the path, except that a
path whose contents cannot be mapped is not named.
-/

namespace RuntimeSlots.Audit

/-- Why the audit of a file has no report. -/
inductive FileFailure
  | unopened (path : String) (fault : OpenFault)
  | unmapped (fault : OpenFault)
  /-- The contents could not be audited. -/
  | contents (path : String) (failure : Failure)
deriving DecidableEq, Repr

/-- What failed, from the outermost description to the innermost cause. -/
def FileFailure.chain : FileFailure → List String
  | unopened path fault => ["failed to open " ++ path, fault.message]
  | unmapped fault => [fault.message]
  | contents path failure => ("failed to inspect " ++ path) :: failure.chain

/-- How the audit of a file ended, and what it told the log. -/
structure FileOutcome where
  events : List Event
  result : Except FileFailure Report

/-- Audits what opening `path` led to. -/
def ofFile (path : String) (opening : Opening) : FileOutcome :=
  match opening with
  | .unopened fault => { events := [], result := .error (.unopened path fault) }
  | .unmapped fault => { events := [], result := .error (.unmapped fault) }
  | .contents bytes =>
    let outcome := ofBytes bytes
    { events := outcome.events, result := outcome.result.mapError (FileFailure.contents path) }

end RuntimeSlots.Audit
