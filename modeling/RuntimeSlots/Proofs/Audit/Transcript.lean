import RuntimeSlots.Proofs.Archive.Extent
import RuntimeSlots.Proofs.Audit.Merging
import Mathlib.Data.Set.Card

/-!
# What an audit tells the log

The `events` of an audit are a transcript of its run (`Gathers`): one event for every member that it
has gone over, and none for the member that it `Stops` at.  The `counts` in them only grow, and the
last ones are the numbers of names in `namesTold`.

* `NameSets.ncard_setOf_mem_inRole` counts the distinct names of a role.
* `Audit.Event.IsAbout` says what the log may be told of a member; `Audit.Gathers.forall₂_isAbout`
  and `Audit.Gathers.pairwise_counts` say what it is told in a run.
* `Audit.ObjectTranscript` and `Audit.ArchiveTranscript` say what the log holds, of a single object
  file and of an archive; `Audit.transcript` says it of any bytes at all.
-/

namespace RuntimeSlots

/-! ## Counting names -/

theorem setOf_mem_hashSet (names : Std.HashSet String) :
    {name | name ∈ names} = (names.toList.toFinset : Set String) := by
  ext name
  simp

namespace NameSets

theorem finite_setOf_mem_inRole (names : NameSets) (role : Role) :
    {name | name ∈ names.inRole role}.Finite := by
  rw [setOf_mem_hashSet]
  exact Finset.finite_toSet _

/-- The size of the hash set of a role is the number of distinct names in it. -/
theorem ncard_setOf_mem_inRole (names : NameSets) (role : Role) :
    {name | name ∈ names.inRole role}.ncard = (names.inRole role).size := by
  -- The list of a hash set has no name twice, so its length is a cardinality.
  have hnodup : (names.inRole role).toList.Nodup :=
    Std.HashSet.distinct_toList.imp fun hne => by simpa using hne
  rw [setOf_mem_hashSet, Set.ncard_coe_finset, List.toFinset_card_of_nodup hnodup,
    Std.HashSet.length_toList]

/-- A set that has all names of another one is not smaller. -/
theorem size_inRole_le {names next : NameSets} {role : Role}
    (h : ∀ name, name ∈ names.inRole role → name ∈ next.inRole role) :
    (names.inRole role).size ≤ (next.inRole role).size := by
  rw [← ncard_setOf_mem_inRole, ← ncard_setOf_mem_inRole]
  exact Set.ncard_le_ncard h (next.finite_setOf_mem_inRole role)

end NameSets

namespace Audit

/-! ## Events -/

/-- The number of names in a role that the event shows; `skipped` shows none. -/
def Event.count? : Event → Role → Option Nat
  | skipped _, _ => none
  | absorbed _ defined _ _, .defined => some defined
  | absorbed _ _ referenced _, .referenced => some referenced
  | absorbed _ _ _ exported, .exported => some exported

/-- The numbers that the events show for a role, in their order. -/
def counts (events : List Event) (role : Role) : List Nat :=
  events.filterMap fun event => event.count? role

theorem count?_absorbedEvent (source : String) (names : NameSets) (role : Role) :
    (absorbedEvent source names).count? role = some (names.inRole role).size := by
  cases role <;> rfl

theorem counts_cons_absorbedEvent (source : String) (names : NameSets) (events : List Event)
    (role : Role) :
    counts (absorbedEvent source names :: events) role =
      (names.inRole role).size :: counts events role := by
  rw [counts, List.filterMap_cons, count?_absorbedEvent, counts]

/-- The event is what the log may be told of `member`: `skipped` if `ObjectFile.read` rejects it, or
else `absorbed`, with any counts.  The counts of a run are the subject of `counts`. -/
inductive Event.IsAbout (member : Archive.Member) : Event → Prop
  | skipped {fault : ObjectFault} (hread : ObjectFile.read member.data = .error fault) :
      IsAbout member (.skipped member.name.toTextLossy)
  | absorbed {file : ObjectFile ObjectFault} (hread : ObjectFile.read member.data = .ok file)
      (defined referenced exported : Nat) :
      IsAbout member (.absorbed member.name.toTextLossy defined referenced exported)

/-- Just the members that `ObjectFile.read` rejects are told of at debug level. -/
theorem Event.IsAbout.level_eq_debug_iff {member : Archive.Member} {event : Event}
    (h : event.IsAbout member) :
    event.toRecord.level = .debug ↔ ∃ fault, ObjectFile.read member.data = .error fault := by
  cases h with
  | skipped hread => exact iff_of_true rfl ⟨_, hread⟩
  | absorbed hread =>
    refine iff_of_false (fun hlevel => by cases hlevel) ?_
    rintro ⟨fault, herror⟩
    simp [hread] at herror

/-- The `Log.Record` of a member that was passed over. -/
def skipRecord (member : String) : Log.Record where
  level := .debug
  target := "syslookup::inspect"
  message := "Skipping archive member " ++ member

/-- The `Log.Record` that shows how many names of each role there are, once those of `source` were
added. -/
def countsRecord (source : String) (count : Role → Nat) : Log.Record where
  level := .trace
  target := "syslookup::inspect"
  message := source ++ ": " ++ toString (count .defined) ++ " defined, " ++
    toString (count .referenced) ++ " referenced, " ++ toString (count .exported) ++ " exported"

/-- The event is written as a `skipRecord` and has no count, or as a `countsRecord` of its counts.
-/
def Event.HasForm (event : Event) : Prop :=
  (∃ member, event.toRecord = skipRecord member ∧ ∀ role, event.count? role = none) ∨
    ∃ source count, event.toRecord = countsRecord source count ∧
      ∀ role, event.count? role = some (count role)

theorem Event.hasForm (event : Event) : event.HasForm := by
  cases event with
  | skipped member => exact .inl ⟨member, rfl, fun _ => rfl⟩
  | absorbed source defined referenced exported =>
    -- There is a count for each role, so the default is never taken.
    refine .inr ⟨source, fun role =>
      ((absorbed source defined referenced exported).count? role).getD 0, rfl, ?_⟩
    intro role
    cases role <;> rfl

theorem toRecord_absorbedEvent (source : String) (names : NameSets) :
    (absorbedEvent source names).toRecord =
      countsRecord source fun role => (names.inRole role).size := rfl

/-! ## Runs -/

/-- If `absorb` fails on an object file, it fails alike with any `other` names. -/
theorem absorb_eq_error {file : ObjectFile ObjectFault} {names : NameSets} {source : String}
    {failure : Failure} (h : absorb names source file = .error failure) (other : NameSets) :
    absorb other source file = .error failure := by
  -- The failure does not depend on the names, as the file is not readable.
  by_cases hfile : file.IsReadable
  · obtain ⟨next, hok, -⟩ := absorb_of_isReadable hfile names source
    simp [h] at hok
  · obtain ⟨own, -, hown⟩ := absorb_of_not_isReadable hfile
    rw [hown, ← h, hown]

/-- What is to blame for a failure: the fault that has cut off the list of members, or the member in
front of which the run stops, which `absorb` fails on even with no names. -/
theorem Stops.blame {last : NameSets} {ending : Option Archive.Fault}
    {rest : List Archive.Member} {failure : Failure} (h : Stops last ending rest (.error failure)) :
    (rest = [] ∧ ∃ fault, ending = some fault ∧ failure = .archive fault) ∨
      ∃ member others file, rest = member :: others ∧ ObjectFile.read member.data = .ok file ∧
        absorb .empty member.name.toTextLossy file = .error failure := by
  -- `atEnd` is about no failure.
  cases h with
  | atFault fault => exact .inl ⟨rfl, fault, rfl, rfl⟩
  | atMember hread habsorb =>
    exact .inr ⟨_, _, _, rfl, hread, absorb_eq_error habsorb .empty⟩

namespace Gathers

variable {names last : NameSets} {members : List Archive.Member} {events : List Event}

/-- A run tells the log one event for each member, which is about this member. -/
theorem forall₂_isAbout (h : Gathers names members events last) :
    List.Forall₂ (fun member event => Event.IsAbout member event) members events := by
  induction h with
  | nil names => exact .nil
  | skipped hread _ ih => exact .cons (.skipped hread) ih
  | absorbed hread _ _ ih => exact .cons (.absorbed hread _ _ _) ih

/-- No count of a run is less than the number of names before it. -/
theorem size_le_of_mem_counts (h : Gathers names members events last) (role : Role) :
    ∀ count ∈ counts events role, (names.inRole role).size ≤ count := by
  induction h with
  | nil names => simp [counts]
  -- A skipped member has no count and leaves the names as they are.
  | skipped hread _ ih => exact ih
  | absorbed hread habsorb _ ih =>
    have hle := NameSets.size_inRole_le fun name hname =>
      (mem_of_absorb_ok habsorb role name).mpr (.inl hname)
    rw [counts_cons_absorbedEvent, List.forall_mem_cons]
    exact ⟨hle, fun count hcount => hle.trans (ih count hcount)⟩

theorem pairwise_counts (h : Gathers names members events last) (role : Role) :
    (counts events role).Pairwise (· ≤ ·) := by
  induction h with
  | nil names => exact .nil
  | skipped hread _ ih => exact ih
  | absorbed hread habsorb hrest ih =>
    -- The run that is left begins with the names that the first event counts.
    rw [counts_cons_absorbedEvent]
    exact .cons (hrest.size_le_of_mem_counts role) ih

/-- The last count is the number of names after the run.  Without any count, that is the number of
names before it. -/
theorem getLastD_counts (h : Gathers names members events last) (role : Role) :
    (counts events role).getLastD (names.inRole role).size = (last.inRole role).size := by
  induction h with
  | nil names => rfl
  | skipped hread _ ih => exact ih
  | absorbed hread habsorb _ ih => rw [counts_cons_absorbedEvent, List.getLastD_cons, ih]

end Gathers

/-! ## Single object files -/

/-- What the log of an audit of a single object file holds. -/
structure ObjectTranscript (bytes : Bytes) (outcome : Outcome Report) : Prop where
  /-- If there is a report, the log tells how many names it is about. -/
  of_ok : ∀ report, outcome.result = .ok report →
    outcome.events.map Event.toRecord =
      [countsRecord "<input>" fun role => (namesTold bytes role).ncard]
  of_error : ∀ failure, outcome.result = .error failure → outcome.events = []

/-- The log of a single object file holds one event if there is a report, and none if there is not.
-/
theorem objectTranscript {bytes : Bytes} (h : bytes.startsWith Archive.signature = false) :
    ObjectTranscript bytes (ofObjectFile bytes) := by
  cases hread : ObjectFile.read bytes with
  | error fault => constructor <;> simp [ofObjectFile, hread]
  | ok file =>
    cases habsorb : absorb .empty inputName file with
    | error failure => constructor <;> simp [ofObjectFile, hread, habsorb]
    | ok names =>
      have hcount : ∀ role, (names.inRole role).size = (namesTold bytes role).ncard := by
        intro role
        -- The artifact is its only object file, and nothing was gathered before it.
        have htold : {name | name ∈ names.inRole role} = namesTold bytes role := by
          ext name
          simp [namesTold, objects, h, hread, Except.toOption, mem_of_absorb_ok habsorb,
            mem_inRole_empty]
        rw [← htold, NameSets.ncard_setOf_mem_inRole]
      constructor
      · -- The one event is the last thing that is told, and it counts all names.
        intro report _
        simp only [ofObjectFile, hread, habsorb, List.map_cons, List.map_nil,
          toRecord_absorbedEvent, hcount]
        rfl
      · simp [ofObjectFile, hread, habsorb]

/-! ## Archives -/

/-- What the log of an audit of an archive holds. -/
structure ArchiveTranscript (bytes : Bytes) (outcome : Outcome Report) : Prop where
  /-- There are no more events than headers of members fit in, whatever these headers say. -/
  length_le :
    outcome.events.length ≤ (bytes.size - Archive.signature.size) / Archive.headerSize
  hasForm : ∀ event ∈ outcome.events, event.HasForm
  pairwise_counts : ∀ role, (counts outcome.events role).Pairwise (· ≤ ·)
  /-- If there is no report, the log ends in front of the member that is to blame: it could not be
  read from the archive, or its names could not be added. -/
  of_error : ∀ failure, outcome.result = .error failure → ∃ walked,
    List.Forall₂ (fun member event => Event.IsAbout member event) walked outcome.events ∧
    ((∃ fault, Archive.members bytes = { members := walked, failure := some fault } ∧
        failure = .archive fault) ∨
      ∃ member rest file, (Archive.members bytes).members = walked ++ member :: rest ∧
        ObjectFile.read member.data = .ok file ∧
        absorb .empty member.name.toTextLossy file = .error failure)
  /-- If there is a report, the log tells of every member, and at debug level of those that are no
  object files.  The last counts are those of the names that the report is about. -/
  of_ok : ∀ report, outcome.result = .ok report →
    (Archive.members bytes).failure = none ∧
    List.Forall₂ (fun member event => Event.IsAbout member event ∧
        (event.toRecord.level = .debug ↔ ∃ fault, ObjectFile.read member.data = .error fault))
      (Archive.members bytes).members outcome.events ∧
    ∃ names : NameSets, report = names.report .archive ∧ ∀ role,
      {name | name ∈ names.inRole role} = namesTold bytes role ∧
      (∀ count, (counts outcome.events role).getLast? = some count →
        count = (namesTold bytes role).ncard) ∧
      (counts outcome.events role = [] → namesTold bytes role = ∅)

theorem namesTold_of_startsWith {bytes : Bytes} (h : bytes.startsWith Archive.signature = true)
    (role : Role) :
    namesTold bytes role =
      {name | ∃ file ∈ objectsOf (Archive.members bytes).members, file.Tells role name} := by
  rw [namesTold, objects, if_pos h]

/-- A run over all members of an archive comes to the names in `namesTold`, and its last counts are
their numbers. -/
theorem Gathers.counts_of_members {bytes : Bytes} {events : List Event} {last : NameSets}
    (hstart : bytes.startsWith Archive.signature = true)
    (h : Gathers .empty (Archive.members bytes).members events last) (role : Role) :
    {name | name ∈ last.inRole role} = namesTold bytes role ∧
      (∀ count, (counts events role).getLast? = some count →
        count = (namesTold bytes role).ncard) ∧
      (counts events role = [] → namesTold bytes role = ∅) := by
  have htold : {name | name ∈ last.inRole role} = namesTold bytes role := by
    rw [namesTold_of_startsWith hstart]
    ext name
    exact (h.mem_iff role name).trans (or_iff_right (mem_inRole_empty role name))
  -- The last count of the run is a size, and by `htold` the number of names that are told.
  have hlast := h.getLastD_counts role
  rw [← NameSets.ncard_setOf_mem_inRole last, htold, List.getLastD_eq_getLast?] at hlast
  refine ⟨htold, ?_, ?_⟩
  · intro count hcount
    rw [← hlast, hcount, Option.getD_some]
  · -- There is no count, so there are as many names as at first, and these are none.
    intro hnone
    have hempty : (NameSets.empty.inRole role).size = 0 := by cases role <;> rfl
    rw [hnone, hempty] at hlast
    exact (Set.ncard_eq_zero (htold ▸ last.finite_setOf_mem_inRole role)).mp hlast.symm

/-- The log of an archive is the log of the run that `exists_gathers` finds. -/
theorem archiveTranscript {bytes : Bytes} (h : bytes.startsWith Archive.signature = true) :
    ArchiveTranscript bytes (ofArchive bytes) := by
  cases hlisting : Archive.members bytes with
  | mk members ending =>
    obtain ⟨walked, rest, last, hmembers, hrun, hend⟩ := exists_gathers ending .empty members
    rw [ofArchive, hlisting]
    refine {
      length_le := ?_
      hasForm := fun event _ => event.hasForm
      pairwise_counts := hrun.pairwise_counts
      of_error := ?_
      of_ok := ?_ }
    · -- There are as many events as members gone over, and each member has a header in the file.
      have hbound := Archive.length_members_le bytes
      rw [hlisting, hmembers, List.length_append, hrun.forall₂_isAbout.length_eq] at hbound
      exact (Nat.le_add_right _ _).trans hbound
    · -- The run has failed, so it stops in front of what is to blame.
      intro failure herror
      rw [eq_error_of_map_eq_error herror] at hend
      refine ⟨walked, hrun.forall₂_isAbout, ?_⟩
      rcases hend.blame with ⟨rfl, fault, rfl, hfault⟩ | ⟨member, others, file, rfl, hblame⟩
      · rw [List.append_nil] at hmembers
        exact .inl ⟨fault, by rw [hlisting, hmembers], hfault⟩
      · exact .inr ⟨member, others, file, by rw [hlisting, hmembers], hblame⟩
    · -- The run has ended well, so it has gone over all members.
      intro report hok
      obtain ⟨names, hresult, rfl⟩ := exists_of_map_eq_ok hok
      obtain ⟨rfl, hall⟩ := gathers_of_result_ok hresult
      have habout := hall.forall₂_isAbout.imp fun member event hevent =>
        And.intro hevent hevent.level_eq_debug_iff
      rw [hlisting]
      exact ⟨rfl, habout, names, rfl, Gathers.counts_of_members h (by rwa [hlisting])⟩

/-! ## Any bytes -/

/-- The events of `ofBytes` are an `ObjectTranscript` or an `ArchiveTranscript`, as the signature
says, whatever the bytes are. -/
theorem transcript (bytes : Bytes) :
    (bytes.startsWith Archive.signature = false → ObjectTranscript bytes (ofBytes bytes)) ∧
      (bytes.startsWith Archive.signature = true → ArchiveTranscript bytes (ofBytes bytes)) := by
  constructor
  · intro h
    rw [ofBytes, if_neg (by simp [h])]
    exact objectTranscript h
  · intro h
    rw [ofBytes, if_pos h]
    exact archiveTranscript h

/-- The names in the sample archive. -/
def sampleNames : NameSets where
  defined := (∅ : Std.HashSet String).insert "scanf"
  referenced := (∅ : Std.HashSet String).insert "printf"

theorem gather_sampleMembers :
    gather none .empty sampleMembers = {
      events := [.absorbed "a.o" 1 1 0, .skipped "notes.txt"]
      result := .ok sampleNames } := by
  -- Both names are ASCII, so the log spells them as they are.
  have hobject : (Bytes.ofText "a.o").toTextLossy = "a.o" :=
    Bytes.IsAscii.toTextLossy (by decide)
  have htext : (Bytes.ofText "notes.txt").toTextLossy = "notes.txt" :=
    Bytes.IsAscii.toTextLossy (by decide)
  have hread : ObjectFile.read (Bytes.ofText "not an object") = .error .tooShort := rfl
  have habsorb : absorb .empty "a.o" {
      isImage := false
      symbols := .ok [⟨"scanf", false, false⟩, ⟨"printf", true, false⟩, ⟨"fscanf", false, true⟩]
      exportNames := .ok []
      importNames := .ok [] } = .ok sampleNames := rfl
  simp [sampleMembers, gather, read_sampleObject, hread, hobject, htext, habsorb, absorbedEvent,
    sampleNames, Std.HashSet.size_insert]

/-- The log counts the names of the object file in the sample archive, and then passes over the
text. -/
theorem transcript_sampleMembers :
    (Archive.write sampleMembers).startsWith Archive.signature = true ∧
      (ofBytes (Archive.write sampleMembers)).events =
        [.absorbed "a.o" 1 1 0, .skipped "notes.txt"] ∧
      (namesTold (Archive.write sampleMembers) .defined).ncard = 1 := by
  have hstart := Archive.startsWith_write sampleMembers
  -- The events come from the listing, the number of names from the theorem about any archive.
  have houtcome := ofBytes_eq_ofMembers hstart
    (Archive.members_write plainMember_of_mem_sampleMembers)
  rw [ofMembers, gather_sampleMembers] at houtcome
  have hevents := congrArg Outcome.events houtcome
  obtain ⟨-, -, names, -, hcounts⟩ :=
    ((transcript (Archive.write sampleMembers)).2 hstart).of_ok _ (congrArg Outcome.result houtcome)
  obtain ⟨-, hlast, -⟩ := hcounts .defined
  exact ⟨hstart, hevents, (hlast 1 (by rw [hevents]; rfl)).symm⟩

end Audit

end RuntimeSlots
