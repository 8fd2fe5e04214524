import RuntimeSlots.Proofs.Log.Record
import RuntimeSlots.Tool

/-!
# Records of the tool's runs

A run logs the names of files, and those of archive members as they stand in the archive.  They
enter `Log.Record.message` only, which `Log.Record.line` escapes; what stands in the fields of a
record is chosen by the program.

* `AddressBook.exists_slot_of_mem_events` and `Tool.shownApart_of_mem_inspectAll` go through the two
  loops that log: over the slots of a layout and over the files of a command line.
* `Tool.shown_line_of_mem_records` covers the records of every run.
-/

namespace RuntimeSlots

open Log

/-! ## Filling a book -/

namespace AddressBook

/-- The name of the slot that an event is about. -/
def Event.slotName? : Event → Option String
  | registered _ name _ => some name
  | missed _ name _ => some name
  | populated _ => none

/-- The only text among the fields of an event's record is `Event.slotName?`. -/
theorem Event.shownApart_toRecord {event : Event}
    (h : ∀ name, event.slotName? = some name → Shown name) : event.toRecord.ShownApart where
  target := by
    have htarget : event.toRecord.target = "syslookup::registry" := by cases event <;> rfl
    rw [htarget]
    decide
  fields := by
    -- One case for each event, as their fields differ; numbers and addresses can always be shown.
    cases event with
    | registered index name address =>
      simp only [Event.toRecord, List.forall_mem_cons]
      exact ⟨⟨by decide, Value.shown_bare_number _⟩, ⟨by decide, h name rfl⟩,
        ⟨by decide, Value.shown_bare_address _⟩, List.forall_mem_nil _⟩
    | missed index name expected =>
      simp only [Event.toRecord, List.forall_mem_cons]
      exact ⟨⟨by decide, Value.shown_bare_number _⟩, ⟨by decide, h name rfl⟩,
        ⟨by decide, Value.shown_bare_number _⟩, List.forall_mem_nil _⟩
    | populated count =>
      simp only [Event.toRecord, List.forall_mem_cons]
      exact ⟨⟨by decide, Value.shown_bare_number _⟩, List.forall_mem_nil _⟩

/-- Whatever the source answers, `collectFrom` tells of no slot but those that it is given. -/
theorem exists_slot_of_mem_events {σ : Type} {source : AddressSource σ} {expected index : Int32}
    {slots : List Slot} {book : AddressBook} {state : σ} {event : Event} {name : String}
    (hevent : event ∈ (collectFrom source expected slots index book state).events)
    (hname : event.slotName? = some name) : ∃ slot ∈ slots, slot.name = name := by
  -- Induction on the slots that are left; each adds the event of its own answer.
  induction slots generalizing index book state with
  | nil =>
    obtain rfl := List.mem_singleton.mp hevent
    cases hname
  | cons slot rest ih =>
    rw [collectFrom] at hevent
    split at hevent
    case h_1 =>
      obtain rfl := List.mem_singleton.mp hevent
      exact ⟨slot, List.mem_cons_self, Option.some.inj hname⟩
    case h_2 =>
      rcases List.mem_cons.mp hevent with rfl | htail
      · exact ⟨slot, List.mem_cons_self, Option.some.inj hname⟩
      · obtain ⟨other, hother, heq⟩ := ih htail
        exact ⟨other, List.mem_cons_of_mem _ hother, heq⟩

end AddressBook

theorem Slot.shown_name : ∀ slot ∈ Slot.all, Shown slot.name := by decide +kernel

theorem Linkage.shownApart_of_mem_collectBook (linkage : Linkage) {event : AddressBook.Event}
    (h : event ∈ linkage.collectBook.events) : event.toRecord.ShownApart := by
  refine AddressBook.Event.shownApart_toRecord fun name hname => ?_
  obtain ⟨slot, hslot, rfl⟩ := AddressBook.exists_slot_of_mem_events h hname
  exact Slot.shown_name slot hslot

/-! ## Auditing files -/

/-- An audit has nothing but messages to tell. -/
theorem Audit.Event.shownApart_toRecord (event : Audit.Event) : event.toRecord.ShownApart := by
  have htarget : Shown "syslookup::inspect" := by decide
  cases event with
  | skipped member => exact ⟨htarget, List.forall_mem_nil _⟩
  | absorbed source defined referenced exported => exact ⟨htarget, List.forall_mem_nil _⟩

namespace Tool

theorem shown_logTarget : Shown logTarget := by decide

/-- Over all files, the events of audits and the warnings about missing slots are messages. -/
theorem shownApart_of_mem_inspectAll {opening : String → Opening} {paths : List String}
    {record : Log.Record} (h : record ∈ (inspectAll opening paths).records) :
    record.ShownApart := by
  have haudit : ∀ events : List Audit.Event, record ∈ events.map Audit.Event.toRecord →
      record.ShownApart := by
    intro events hmem
    obtain ⟨event, -, rfl⟩ := List.mem_map.mp hmem
    exact event.shownApart_toRecord
  -- Induction on the files; what a file logs comes from its audit or from its report.
  induction paths with
  | nil => cases h
  | cons path rest ih =>
    rw [inspectAll] at h
    dsimp only at h
    split at h
    case h_1 => exact haudit _ h
    case h_2 report _ =>
      rcases List.mem_append.mp h with hhere | htail
      · rcases List.mem_append.mp hhere with hevents | hmissing
        · exact haudit _ hevents
        · obtain ⟨slot, -, rfl⟩ := List.mem_map.mp hmissing
          exact ⟨shown_logTarget, List.forall_mem_nil _⟩
      · exact ih htail

/-! ## Every run -/

theorem shownApart_of_mem_carryOut {surroundings : Surroundings} {command : Command}
    {record : Log.Record} (h : record ∈ (carryOut surroundings command).records) :
    record.ShownApart := by
  -- To list the layout logs nothing, and to resolve logs only if the routines are linked.
  cases command with
  | list header => cases h
  | inspect inputs strict => exact shownApart_of_mem_inspectAll h
  | resolve =>
    rw [carryOut] at h
    split at h
    case h_1 linkage _ =>
      obtain ⟨event, hevent, rfl⟩ := List.mem_map.mp h
      exact linkage.shownApart_of_mem_collectBook hevent
    case h_2 => cases h

/-- What a run logs commands no terminal, whatever the command, the names and contents of its files
and the linked addresses are. -/
theorem shown_line_of_mem_records {surroundings : Surroundings} {command : Command}
    {record : Log.Record}
    (h : record ∈ openingRecord surroundings.linkage.isSome ::
      (carryOut surroundings command).records) :
    Shown record.line := by
  apply Record.shown_line
  rcases List.mem_cons.mp h with rfl | hrun
  · exact ⟨shown_logTarget, List.forall_mem_nil _⟩
  · exact shownApart_of_mem_carryOut hrun

end Tool

end RuntimeSlots
