import RuntimeSlots.Proofs.Audit.Verdict
import RuntimeSlots.Proofs.Command.Inspecting
import RuntimeSlots.Proofs.File.Tree
import RuntimeSlots.Tool
import Mathlib.Data.List.Forall2

/-!
# Runs that audit files

`Tool.inspectAll` goes through the files of a command line in order.  It prints one line for each
report, and the first file without a report ends it, whatever stands behind.  `Tool.inspect` makes a
failure of a run through all files only if it is strict and some report is incomplete.

* `Report.backedCount_add_length_missing` and `Report.isComplete_iff_backedCount` tie the number on
  a line to the report.
* `Tool.inspectAll_append` and `Tool.inspectAll_of_failure` are the steps of the run,
  `Tool.inspect_of_failure` and `Tool.inspect_of_reports` its two endings.
* `Tool.hasReport_ofFiles_iff` reads the files from a tree.
* `Tool.AuditsInOrder` says how a run of the tool ends and what it writes, `Tool.run_auditsInOrder`
  that every run does so.
-/

namespace RuntimeSlots

/-! ## Numbers of slots -/

namespace Report

/-- `Report.backedCount` and `Report.missing` share the entries. -/
theorem backedCount_add_length_missing (report : Report) :
    report.backedCount + report.missing.length = report.entries.length := by
  rw [backedCount, missing, List.length_map, ← List.countP_eq_length_filter,
    List.length_eq_countP_add_countP fun entry : Slot × Backing => entry.2 != .missing]
  -- Not to be unlike a missing slot is to be one.
  refine congrArg _ (List.countP_congr ?_)
  simp

/-- Where slots can be seen, a report is complete just if all of them are backed and the accessor is
there. -/
theorem isComplete_iff_backedCount {report : Report} (hkind : report.kind ≠ .image) :
    report.isComplete = true ↔
      report.backedCount = report.entries.length ∧ report.accessor ≠ .absent := by
  have hbacked : report.missing.isEmpty = true ↔ report.backedCount = report.entries.length := by
    -- Nothing is missing just if all entries are backed.
    rw [List.isEmpty_iff_length_eq_zero, ← backedCount_add_length_missing]
    omega
  have himage : (report.kind == .image) = false := beq_eq_false_iff_ne.mpr hkind
  rw [isComplete, himage, Bool.false_or, Bool.and_eq_true, bne_iff_ne, hbacked, and_comm]

end Report

namespace Tool

/-! ## Going through the files -/

/-- The file that the path leads to has this report. -/
def HasReport (opening : String → Opening) (path : String) (report : Report) : Prop :=
  (Audit.ofFile path (opening path)).result = .ok report

/-- What is told to the log about one file: what its audit tells, and a warning for every slot that
its report misses. -/
def fileRecords (opening : String → Opening) (path : String) : List Log.Record :=
  let audit := Audit.ofFile path (opening path)
  audit.events.map Audit.Event.toRecord ++
    match audit.result with
    | .ok report => report.missing.map (missingRecord path)
    | .error _ => []

/-- How many of the reports are incomplete. -/
def incompleteCount (reports : List Report) : Nat :=
  reports.countP fun report => !report.isComplete

variable {opening : String → Opening} {before after inputs : List String} {path : String}
  {reports : List Report} {failure : Audit.FileFailure}

/-- In front of the `rest`, files with reports add their lines, their records and the number of
incomplete reports. -/
theorem inspectAll_append (h : List.Forall₂ (HasReport opening) before reports)
    (rest : List String) :
    inspectAll opening (before ++ rest) = {
      lines := List.zipWith reportLine before reports ++ (inspectAll opening rest).lines
      records := before.flatMap (fileRecords opening) ++ (inspectAll opening rest).records
      incomplete := (inspectAll opening rest).incomplete.map (incompleteCount reports + ·) } := by
  -- Induction on the files with reports; each adds its line, its records and its count.
  induction h with
  | nil =>
    -- Without any files nothing is counted.
    have hcount : (inspectAll opening rest).incomplete.map (incompleteCount [] + ·) =
        (inspectAll opening rest).incomplete := by
      cases (inspectAll opening rest).incomplete <;> simp [incompleteCount, Except.map]
    rw [hcount]
    rfl
  | @cons path report before reports hreport hrest ih =>
    -- The count of this file comes on top of that of the others, unless the rest fails.
    have hcount : ((inspectAll opening rest).incomplete.map (incompleteCount reports + ·)).map
        ((if report.isComplete then 0 else 1) + ·) =
        (inspectAll opening rest).incomplete.map (incompleteCount (report :: reports) + ·) := by
      cases (inspectAll opening rest).incomplete with
      | error failure => rfl
      | ok count =>
        cases hcomplete : report.isComplete with
        | false =>
          simp [Except.map, incompleteCount, hcomplete]
          omega
        | true => simp [Except.map, incompleteCount, hcomplete]
    have hrecords : fileRecords opening path =
        (Audit.ofFile path (opening path)).events.map Audit.Event.toRecord ++
          report.missing.map (missingRecord path) := by
      rw [fileRecords, hreport]
    rw [List.cons_append, inspectAll, hreport]
    simp only [ih, hcount, hrecords, List.zipWith_cons_cons, List.cons_append, List.flatMap_cons,
      List.append_assoc]

/-- A file without a report ends `inspectAll`, whatever stands behind it. -/
theorem inspectAll_of_failure
    (h : (Audit.ofFile path (opening path)).result = .error failure) (after : List String) :
    inspectAll opening (path :: after) =
      { lines := [], records := fileRecords opening path, incomplete := .error failure } := by
  have hrecords : fileRecords opening path =
      (Audit.ofFile path (opening path)).events.map Audit.Event.toRecord := by
    rw [fileRecords, h, List.append_nil]
  rw [inspectAll, h, hrecords]

/-- Either every file has a report, or there is a first one that has none. -/
theorem exists_reports_or_failure (opening : String → Opening) (inputs : List String) :
    (∃ reports, List.Forall₂ (HasReport opening) inputs reports) ∨
      ∃ before path after reports failure, inputs = before ++ path :: after ∧
        List.Forall₂ (HasReport opening) before reports ∧
        (Audit.ofFile path (opening path)).result = .error failure := by
  -- Induction on the files; a file without a report is the first one of those that are left.
  induction inputs with
  | nil => exact .inl ⟨[], .nil⟩
  | cons path rest ih =>
    cases hresult : (Audit.ofFile path (opening path)).result with
    | error failure => exact .inr ⟨[], path, rest, [], failure, rfl, .nil, hresult⟩
    | ok report =>
      -- The file stands in front of whatever the rest comes to.
      rcases ih with ⟨reports, hreports⟩ |
        ⟨before, failing, after, reports, failure, rfl, hbefore, hfailure⟩
      · exact .inl ⟨report :: reports, .cons hresult hreports⟩
      · exact .inr ⟨path :: before, failing, after, report :: reports, failure, rfl,
          .cons hresult hbefore, hfailure⟩

/-! ## The endings of a run -/

/-- A run that fails has printed the lines of the files in front of the failure, and logged what it
did up to there.  Strictness does not count. -/
theorem inspect_of_failure (hbefore : List.Forall₂ (HasReport opening) before reports)
    (hfailure : (Audit.ofFile path (opening path)).result = .error failure)
    (after : List String) (strict : Bool) :
    inspect opening (before ++ path :: after) strict = {
      lines := List.zipWith reportLine before reports
      records := (before ++ [path]).flatMap (fileRecords opening)
      failure := some failure.chain } := by
  rw [inspect, inspectAll_append hbefore, inspectAll_of_failure hfailure]
  simp [Except.map]

/-- A run through all files fails only if it is strict, and then over the number of incomplete
reports. -/
theorem inspect_of_reports (h : List.Forall₂ (HasReport opening) inputs reports) (strict : Bool) :
    inspect opening inputs strict = {
      lines := List.zipWith reportLine inputs reports
      records := inputs.flatMap (fileRecords opening)
      failure :=
        if strict = true ∧ 0 < incompleteCount reports then
          some [incompleteMessage (incompleteCount reports) inputs.length]
        else none } := by
  -- Nothing is left behind the files.
  have hall := inspectAll_append h []
  rw [List.append_nil] at hall
  rw [inspect, hall]
  simp [inspectAll, Except.map]

/-- The records about a file come from its contents alone. -/
theorem fileRecords_congr {others : String → Opening} (h : opening path = others path) :
    fileRecords opening path = fileRecords others path := by
  rw [fileRecords, fileRecords, h]

theorem forall₂_hasReport_of_same {others : String → Opening}
    (hsame : ∀ path ∈ before, opening path = others path)
    (h : List.Forall₂ (HasReport others) before reports) :
    List.Forall₂ (HasReport opening) before reports := by
  rw [List.forall₂_iff_zip] at h ⊢
  refine ⟨h.1, fun {path report} hmem => ?_⟩
  have hpath : path ∈ before := (List.of_mem_zip hmem).1
  rw [HasReport, hsame path hpath]
  exact h.2 hmem

theorem incompleteCount_pos_iff (reports : List Report) :
    0 < incompleteCount reports ↔ ∃ report ∈ reports, report.isComplete = false := by
  rw [incompleteCount, List.countP_pos_iff]
  simp only [Bool.not_eq_true']

/-! ## Whole runs -/

/-- The log of a run that looked at these files, as far as a filter lets it through. -/
def logText (surroundings : Surroundings) (filter : Log.Filter) (paths : List String) : String :=
  Text.ofLines (((openingRecord surroundings.linkage.isSome ::
    paths.flatMap (fileRecords surroundings.opening)).filter filter.allows).map Log.Record.line)

/-- The line on a file shows how many of the 52 slots are backed, and the rest of the report agrees
with the number. -/
structure LineAgrees (path : String) (report : Report) : Prop where
  line_eq : reportLine path report =
    path ++ ": " ++ report.kind.label ++ ", accessor " ++ report.accessor.label ++ ", " ++
      toString report.backedCount ++ "/52 slots backed"
  backedCount_add : report.backedCount + report.missing.length = 52
  /-- The contents of an image say nothing about its slots, so only its accessor counts. -/
  isComplete_iff : report.kind ≠ .image →
    (report.isComplete = true ↔ report.backedCount = 52 ∧ report.accessor ≠ .absent)

/-- The audit of a file with contents is that of its contents, in their name. -/
theorem result_ofFile_of_contents {bytes : Bytes} (h : opening path = .contents bytes) :
    (Audit.ofFile path (opening path)).result =
      (Audit.ofBytes bytes).result.mapError (Audit.FileFailure.contents path) := by
  rw [h]
  rfl

/-- The report on a file is the one on its contents. -/
theorem hasReport_iff_of_contents {bytes : Bytes} {report : Report}
    (h : opening path = .contents bytes) :
    HasReport opening path report ↔ (Audit.ofBytes bytes).result = .ok report := by
  rw [HasReport, result_ofFile_of_contents h]
  cases (Audit.ofBytes bytes).result <;> simp [Except.mapError]

/-- In a tree of files, where `FileTree.opening_ofFiles` finds each of them, a path has the report
on the contents that the tree was given under it. -/
theorem hasReport_ofFiles_iff {files : List (String × Bytes)} {bytes : Bytes} {report : Report}
    (hinner : ∀ file ∈ files, FileTree.IsInner file.1) (hapart : FileTree.Apart files)
    (h : (path, bytes) ∈ files) :
    HasReport (FileTree.ofFiles files).opening path report ↔
      (Audit.ofBytes bytes).result = .ok report :=
  hasReport_iff_of_contents (FileTree.opening_ofFiles hinner hapart h)

/-- Every report is one on some contents. -/
theorem HasReport.exists_contents {report : Report} (h : HasReport opening path report) :
    ∃ bytes, (Audit.ofBytes bytes).result = .ok report := by
  -- Only contents are audited; a path that cannot be opened or mapped has no report.
  cases hopening : opening path with
  | unopened fault =>
    rw [HasReport, hopening] at h
    cases h
  | unmapped fault =>
    rw [HasReport, hopening] at h
    cases h
  | contents bytes => exact ⟨bytes, (hasReport_iff_of_contents hopening).mp h⟩

/-- Every report on a file agrees with its line, since it has an entry for each slot. -/
theorem HasReport.lineAgrees {report : Report} (h : HasReport opening path report) :
    LineAgrees path report := by
  obtain ⟨bytes, hbytes⟩ := h.exists_contents
  have hlength := Audit.length_entries_of_ofBytes hbytes
  -- The line shows the number of entries, which is 52 for every report.
  have htotal : "/52 slots backed" = "/" ++ (toString 52 ++ " slots backed") := by decide
  exact {
    line_eq := by
      rw [reportLine, hlength, htotal]
      simp only [String.append_assoc]
    backedCount_add := by rw [report.backedCount_add_length_missing, hlength]
    isComplete_iff := fun hkind => by rw [Report.isComplete_iff_backedCount hkind, hlength] }

/-- A failure of contents names the path above the failure of their audit. -/
theorem exists_cause_of_contents {bytes : Bytes} (hopening : opening path = .contents bytes)
    (hfailure : (Audit.ofFile path (opening path)).result = .error failure) :
    ∃ cause, (Audit.ofBytes bytes).result = .error cause ∧
      failure.chain = ("failed to inspect " ++ path) :: cause.chain := by
  rw [result_ofFile_of_contents hopening] at hfailure
  cases hresult : (Audit.ofBytes bytes).result with
  | ok report => simp [hresult, Except.mapError] at hfailure
  | error cause =>
    obtain rfl : Audit.FileFailure.contents path cause = failure := by
      simpa [hresult, Except.mapError] using hfailure
    exact ⟨cause, rfl, rfl⟩

/-- How a run that audits these files ends, and what it writes. -/
structure AuditsInOrder (surroundings : Surroundings) (filter : Log.Filter)
    (inputs : List String) (strict : Bool) (outcome : Outcome) : Prop where
  reports_or_failure : (∃ reports, List.Forall₂ (HasReport surroundings.opening) inputs reports) ∨
    ∃ before path after reports failure, inputs = before ++ path :: after ∧
      List.Forall₂ (HasReport surroundings.opening) before reports ∧
      (Audit.ofFile path (surroundings.opening path)).result = .error failure
  /-- The first file without a report ends the run, behind the lines of the files in front of it.
  The failure is that of the audit of its contents, if it has any. -/
  of_failure : ∀ before path after reports failure, inputs = before ++ path :: after →
    List.Forall₂ (HasReport surroundings.opening) before reports →
    (Audit.ofFile path (surroundings.opening path)).result = .error failure →
    outcome = {
        code := 1
        output := Text.ofLines (List.zipWith reportLine before reports)
        errors := logText surroundings filter (before ++ [path]) ++ failureText failure.chain } ∧
      ∀ bytes, surroundings.opening path = .contents bytes →
        ∃ cause, (Audit.ofBytes bytes).result = .error cause ∧
          failure.chain = ("failed to inspect " ++ path) :: cause.chain
  /-- What stands behind a file without a report does not count, and neither does strictness. -/
  ignores_rest : ∀ before path after reports failure, inputs = before ++ path :: after →
    List.Forall₂ (HasReport surroundings.opening) before reports →
    (Audit.ofFile path (surroundings.opening path)).result = .error failure →
    ∀ opening others strictly,
      (∀ other ∈ before ++ [path], opening other = surroundings.opening other) →
      inspect opening (before ++ path :: others) strictly =
        inspect surroundings.opening inputs strict
  /-- If every file has a report, each of them has its line. -/
  of_reports : ∀ reports, List.Forall₂ (HasReport surroundings.opening) inputs reports →
    outcome = {
      code := if strict = true ∧ 0 < incompleteCount reports then 1 else 0
      output := Text.ofLines (List.zipWith reportLine inputs reports)
      errors := logText surroundings filter inputs ++
        if strict = true ∧ 0 < incompleteCount reports then
          failureText [toString (incompleteCount reports) ++ " of " ++ toString inputs.length ++
            " artifacts are incomplete"]
        else "" }
  /-- Then only strictness about an incomplete report is a failure. -/
  fails_iff : ∀ reports, List.Forall₂ (HasReport surroundings.opening) inputs reports →
    (outcome.code ≠ 0 ↔ strict = true ∧ ∃ report ∈ reports, report.isComplete = false)
  /-- Every line that is printed agrees with its report. -/
  lineAgrees : ∀ path report, HasReport surroundings.opening path report → LineAgrees path report

theorem run_of_read {surroundings : Surroundings} {words : List String} {line : CommandLine}
    {filter : Log.Filter} (hread : CommandLine.read surroundings.linkage.isSome words = .ok line)
    (hfilter : chooseFilter surroundings.logFilter line.logLevel = .ok filter) :
    run surroundings words =
      Run.outcome
        { carryOut surroundings line.command with
          records := openingRecord surroundings.linkage.isSome ::
            (carryOut surroundings line.command).records }
        filter := by
  simp only [run, hread, hfilter]

/-- A run that audits files goes through them in order, and ends with the first one that has no
report. -/
theorem run_auditsInOrder {surroundings : Surroundings} {words inputs : List String}
    {strict : Bool} {level : String} {filter : Log.Filter}
    (hread : CommandLine.read surroundings.linkage.isSome words =
      .ok { command := .inspect inputs strict, logLevel := level })
    (hfilter : chooseFilter surroundings.logFilter level = .ok filter) :
    AuditsInOrder surroundings filter inputs strict (run surroundings words) := by
  rw [run_of_read hread hfilter]
  refine {
    reports_or_failure := exists_reports_or_failure surroundings.opening inputs
    of_failure := ?_
    ignores_rest := ?_
    of_reports := ?_
    fails_iff := ?_
    lineAgrees := fun path report hreport => hreport.lineAgrees }
  · -- The run ends at `path`, with the failure of its audit.
    rintro before path after reports failure rfl hbefore hfailure
    refine ⟨?_, fun bytes hopening => exists_cause_of_contents hopening hfailure⟩
    rw [carryOut, inspect_of_failure hbefore hfailure]
    rfl
  · rintro before path after reports failure rfl hbefore hfailure opening others strictly hsame
    -- Both runs end at the same file, and up to there they find the same contents.
    have hsameBefore : ∀ other ∈ before, opening other = surroundings.opening other :=
      fun other hother => hsame other (List.mem_append_left _ hother)
    have hsamePath : opening path = surroundings.opening path := hsame path (by simp)
    rw [inspect_of_failure hbefore hfailure,
      inspect_of_failure (forall₂_hasReport_of_same hsameBefore hbefore) (hsamePath ▸ hfailure),
      List.flatMap_congr fun other hother => fileRecords_congr (hsame other hother)]
  · intro reports hreports
    rw [carryOut, inspect_of_reports hreports]
    -- The code and the errors depend on the same condition.
    by_cases hfails : strict = true ∧ 0 < incompleteCount reports
    · simp only [if_pos hfails]
      rfl
    · simp only [if_neg hfails]
      rfl
  · intro reports hreports
    rw [carryOut, inspect_of_reports hreports, ← incompleteCount_pos_iff]
    by_cases hfails : strict = true ∧ 0 < incompleteCount reports
    · simp only [Run.outcome, if_pos hfails, Option.isSome_some, if_true]
      exact iff_of_true Nat.one_ne_zero hfails
    · simp only [Run.outcome, if_neg hfails, Option.isSome_none]
      exact iff_of_false (fun hcode => hcode rfl) hfails

/-- Surroundings with one small object file, in which only errors are logged. -/
def oneObject : Surroundings where
  opening path := if path = "a.obj" then .contents Audit.sampleObject else .unopened .missing
  logFilter := some ""
  linkage := none

/-- The filter of these surroundings. -/
def errorsOnly : Log.Filter where
  directives := [{ target := none, detail := Log.Level.error.detail }]

theorem hasReport_oneObject : HasReport oneObject.opening "a.obj" Audit.sampleReport := by
  have hopening : oneObject.opening "a.obj" = .contents Audit.sampleObject := rfl
  exact (hasReport_iff_of_contents hopening).mpr Audit.ofBytes_sampleObject

/-- The report is incomplete, and it counts as often as the file is asked for. -/
theorem incompleteCount_sampleReport :
    incompleteCount [Audit.sampleReport, Audit.sampleReport] = 2 := by
  have hincomplete : Audit.sampleReport.isComplete = false := by
    simp [Audit.sampleReport, Report.isComplete, NameSets.report, NameSets.accessorState,
      Slot.accessorName]
  simp [incompleteCount, hincomplete]

/-- The small object file fails a strict run, once for each time that it is asked for, and a file
that is not there ends a run between two of them. -/
theorem run_oneObject :
    run oneObject (CommandLine.inspecting "syslookup" ["a.obj", "a.obj"] true) = {
        code := 1
        output := Text.ofLines
          [reportLine "a.obj" Audit.sampleReport, reportLine "a.obj" Audit.sampleReport]
        errors := logText oneObject errorsOnly ["a.obj", "a.obj"] ++
          "Error: 2 of 2 artifacts are incomplete\n" } ∧
      run oneObject (CommandLine.inspecting "syslookup" ["a.obj", "gone.obj", "a.obj"] false) = {
        code := 1
        output := Text.ofLines [reportLine "a.obj" Audit.sampleReport]
        errors := logText oneObject errorsOnly ["a.obj", "gone.obj"] ++
          failureText ["failed to open gone.obj", "No such file or directory (os error 2)"] } := by
  have hfilter : chooseFilter oneObject.logFilter Invocation.defaultLogLevel = .ok errorsOnly := rfl
  have hreport := hasReport_oneObject
  constructor
  · -- Both reports are incomplete, and the run is strict.
    have hread : CommandLine.read oneObject.linkage.isSome
        (CommandLine.inspecting "syslookup" ["a.obj", "a.obj"] true) =
        .ok { command := .inspect ["a.obj", "a.obj"] true
              logLevel := Invocation.defaultLogLevel } :=
      CommandLine.read_inspecting false "syslookup" (by simp) (by simp) true
    have hrun := (run_auditsInOrder hread hfilter).of_reports
      [Audit.sampleReport, Audit.sampleReport] (.cons hreport (.cons hreport .nil))
    rw [incompleteCount_sampleReport] at hrun
    rw [hrun]
    rfl
  · -- The second file is missing, so the third one is not looked at.
    have hread : CommandLine.read oneObject.linkage.isSome
        (CommandLine.inspecting "syslookup" ["a.obj", "gone.obj", "a.obj"] false) =
        .ok { command := .inspect ["a.obj", "gone.obj", "a.obj"] false
              logLevel := Invocation.defaultLogLevel } :=
      CommandLine.read_inspecting false "syslookup" (by simp) (by simp) false
    have hrun := (run_auditsInOrder hread hfilter).of_failure ["a.obj"] "gone.obj" ["a.obj"]
      [Audit.sampleReport] (.unopened "gone.obj" .missing) rfl (.cons hreport .nil) rfl
    exact hrun.1

end Tool

end RuntimeSlots
