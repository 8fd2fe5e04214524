import RuntimeSlots.Proofs.Address.Walk

/-!
# Contents of a book

An `AddressBook` keeps its names in a list and its addresses in a map, and a name that is recorded
again is listed again but found under its last address only.  `AddressBook.record` keeps the two in
step: it carries one invariant from slot to slot.

* `AddressBook.Holds` is the invariant: names in order, and under each name what was found last.
* `AddressBook.Holds.record` and `AddressBook.Holds.recordAll` keep it.
* `AddressBook.Lists` is what the invariant says to a reader of the book;
  `AddressBook.contents_of_answers` says it of every book that a walk fills.
-/

namespace RuntimeSlots

namespace AddressBook

/-! ## The invariant -/

/-- The address of the last entry of `found` under a name. -/
def lastFound (found : List (Slot × Address)) (name : String) : Option Address :=
  (found.reverse.find? fun entry => entry.1.name == name).map Prod.snd

/-- The book holds `found` and nothing else: its list has every name, its map `lastFound`. -/
structure Holds (book : AddressBook) (found : List (Slot × Address)) : Prop where
  names_eq : book.names.toList = found.map fun entry => entry.1.name
  get?_eq : ∀ name, book.get? name = lastFound found name

theorem holds_empty : empty.Holds [] where
  names_eq := rfl
  get?_eq name := by simp [empty, get?, lastFound]

namespace Holds

variable {book : AddressBook} {found : List (Slot × Address)}

/-- One step keeps the invariant: `AddressBook.record` puts its slot behind what was found. -/
theorem record (h : book.Holds found) (slot : Slot) (address : Address) :
    (book.record slot.name address).Holds (found ++ [(slot, address)]) where
  names_eq := by
    rw [AddressBook.record, Array.toList_push, h.names_eq, List.map_append, List.map_cons,
      List.map_nil]
  get?_eq name := by
    rw [get?_record, h.get?_eq, lastFound, lastFound, List.reverse_concat, List.find?_cons]
    -- What is recorded now is the last under its own name, and no other name is touched.
    by_cases hname : slot.name = name
    · simp [hname]
    · simp only [hname, if_false, beq_eq_false_iff_ne.mpr hname]

/-- `AddressBook.recordAll` keeps the invariant, step by step. -/
theorem recordAll {others : List (Slot × Address)} (h : book.Holds found) :
    (book.recordAll others).Holds (found ++ others) := by
  -- Each entry moves from `others` to the end of `found`.
  induction others generalizing book found with
  | nil => rwa [AddressBook.recordAll, List.append_nil]
  | cons entry rest ih =>
    rw [AddressBook.recordAll, List.append_cons]
    exact ih (h.record entry.1 entry.2)

end Holds

/-! ## Reading the book -/

/-- `find?` on the reversed list finds an element with `p` that has no other one behind it. -/
theorem find?_reverse_eq_some_iff {α : Type} {p : α → Bool} {items : List α} {item : α} :
    items.reverse.find? p = some item ↔
      ∃ k : Nat, items[k]? = some item ∧ p item = true ∧
        ∀ i other, k < i → items[i]? = some other → p other = false := by
  rw [List.find?_eq_some_iff_append]
  -- What `find?` passes in the reversed list stands behind the item in the list itself.
  constructor
  · rintro ⟨hitem, behind, before, heq, hbehind⟩
    obtain rfl : items = before.reverse ++ item :: behind.reverse := by
      rw [List.reverse_eq_iff.mp heq]
      simp
    refine ⟨before.length, by simp, hitem, ?_⟩
    intro i other hi hother
    -- An index behind the item is one of the part behind it.
    obtain ⟨d, rfl⟩ := Nat.exists_eq_add_of_lt hi
    have hmem : other ∈ behind.reverse := by
      rw [List.getElem?_append_right (by simp; omega), List.length_reverse,
        show before.length + d + 1 - before.length = d + 1 by omega, List.getElem?_cons_succ]
        at hother
      exact List.mem_of_getElem? hother
    simpa using hbehind other (List.mem_reverse.mp hmem)
  · rintro ⟨k, hk, hitem, hlast⟩
    obtain ⟨hlt, rfl⟩ := List.getElem?_eq_some_iff.mp hk
    -- Reversed, the list is cut at the item: behind it the part that lacks `p`, in front the rest.
    refine ⟨hitem, (items.drop (k + 1)).reverse, (items.take k).reverse, ?_, ?_⟩
    · conv_lhs => rw [← List.take_append_drop k items, List.drop_eq_getElem_cons hlt]
      simp
    · intro other hother
      obtain ⟨d, hd⟩ := List.mem_iff_getElem?.mp (List.mem_reverse.mp hother)
      rw [List.getElem?_drop] at hd
      simpa using hlast (k + 1 + d) other (by omega) hd

/-- What the readers of an `AddressBook` see if it holds `slots` with `answers`: `size`, `isEmpty`,
`get?` and `entries`. -/
structure Lists (book : AddressBook) (slots : List Slot) (answers : List Address) : Prop where
  size_eq : book.size = slots.length
  isEmpty_iff : book.isEmpty = true ↔ slots.length = 0
  /-- Of several slots with one name the last one counts. -/
  get?_eq_some_iff : ∀ name address, book.get? name = some address ↔
    ∃ (k : Nat) (slot : Slot), slots[k]? = some slot ∧ slot.name = name ∧
      answers[k]? = some address ∧
      ∀ (i : Nat) (other : Slot), k < i → slots[i]? = some other → other.name ≠ name
  get?_eq_none_iff : ∀ name, book.get? name = none ↔ ∀ slot ∈ slots, slot.name ≠ name
  length_entries : book.entries.length = slots.length
  /-- Every listed name has an address, the one that is found under it. -/
  getElem?_entries : ∀ (k : Nat) (slot : Slot), slots[k]? = some slot →
    ∃ address, book.get? slot.name = some address ∧ book.entries[k]? = some (slot.name, address)
  mem_entries_iff : ∀ name, (∃ address, (name, address) ∈ book.entries) ↔
    (book.get? name).isSome = true
  /-- Names that differ are listed with their own addresses. -/
  entries_of_nodup : (slots.map Slot.name).Nodup →
    book.entries = (slots.map Slot.name).zip answers

variable {book : AddressBook} {slots : List Slot} {answers : List Address}

/-- With an answer for each slot, no slot is lost in `slots.zip answers`. -/
theorem map_zip_answers {β : Type} (f : Slot → β) (hlength : answers.length = slots.length) :
    (slots.zip answers).map (fun entry => f entry.1) = slots.map f := by
  have hslots : (slots.zip answers).map Prod.fst = slots :=
    List.map_fst_zip (Nat.le_of_eq hlength.symm)
  conv_rhs => rw [← hslots, List.map_map]
  rfl

namespace Holds

variable (h : book.Holds (slots.zip answers)) (hlength : answers.length = slots.length)

include h hlength

theorem toList_names : book.names.toList = slots.map Slot.name := by
  rw [h.names_eq, map_zip_answers Slot.name hlength]

/-- `get?` answers with the address of the last slot of the name. -/
theorem get?_eq_some_iff (name : String) (address : Address) :
    book.get? name = some address ↔
      ∃ (k : Nat) (slot : Slot), slots[k]? = some slot ∧ slot.name = name ∧
        answers[k]? = some address ∧
        ∀ (i : Nat) (other : Slot), k < i → slots[i]? = some other → other.name ≠ name := by
  rw [h.get?_eq, lastFound, Option.map_eq_some_iff]
  simp only [find?_reverse_eq_some_iff, List.getElem?_zip_eq_some, beq_iff_eq,
    beq_eq_false_iff_ne]
  constructor
  · rintro ⟨⟨slot, _⟩, ⟨k, ⟨hslot, haddress⟩, hname, hlast⟩, rfl⟩
    refine ⟨k, slot, hslot, hname, haddress, ?_⟩
    intro i other hi hother
    -- Every slot behind has an address, so it is among what was found.
    have hlt : i < answers.length := by
      rw [hlength]
      exact (List.getElem?_eq_some_iff.mp hother).1
    exact hlast i (other, answers[i]) hi ⟨hother, List.getElem?_eq_getElem hlt⟩
  · -- An entry behind the slot is one of a slot behind it.
    rintro ⟨k, slot, hslot, hname, haddress, hlast⟩
    exact ⟨(slot, address), ⟨k, ⟨hslot, haddress⟩, hname,
      fun i other hi hother => hlast i other.1 hi hother.1⟩, rfl⟩

/-- `get?` has no answer just for the names that no slot has. -/
theorem get?_eq_none_iff (name : String) :
    book.get? name = none ↔ ∀ slot ∈ slots, slot.name ≠ name := by
  have hnames : (slots.zip answers).map (fun entry => entry.1.name) = slots.map Slot.name :=
    map_zip_answers Slot.name hlength
  rw [h.get?_eq, lastFound, Option.map_eq_none_iff, List.find?_eq_none]
  simp only [List.mem_reverse, beq_iff_eq]
  -- Only the names of the entries count, and these are the names of the slots.
  calc (∀ entry ∈ slots.zip answers, entry.1.name ≠ name)
      ↔ ∀ other ∈ (slots.zip answers).map (fun entry => entry.1.name), other ≠ name :=
        by simp only [List.forall_mem_map]
    _ ↔ ∀ other ∈ slots.map Slot.name, other ≠ name := by rw [hnames]
    _ ↔ ∀ slot ∈ slots, slot.name ≠ name := List.forall_mem_map

/-- The `k`-th entry is the `k`-th slot's name with the address that `get?` finds under it. -/
theorem getElem?_entries {k : Nat} {slot : Slot} (hslot : slots[k]? = some slot) :
    ∃ address, book.get? slot.name = some address ∧
      book.entries[k]? = some (slot.name, address) := by
  -- The entries are the names with what is found under them, so the slot's place holds its own.
  have hentry := congrArg (fun entries => entries[k]?) book.map_entries
  rw [h.toList_names hlength, List.map_map] at hentry
  simp only [List.getElem?_map, hslot, Option.map_some, Function.comp_apply] at hentry
  obtain ⟨⟨name, address⟩, hlisted, heq⟩ := Option.map_eq_some_iff.mp hentry
  obtain ⟨rfl, haddress⟩ := Prod.mk.inj heq
  exact ⟨address, haddress.symm, hlisted⟩

/-- `entries` lists just the names that `get?` finds. -/
theorem mem_entries_iff (name : String) :
    (∃ address, (name, address) ∈ book.entries) ↔ (book.get? name).isSome = true := by
  rw [Option.isSome_iff_ne_none, ne_eq, h.get?_eq_none_iff hlength]
  constructor
  · rintro ⟨address, hmem⟩ hnone
    -- What is listed stands under the name of a slot.
    have hentry : (name, some address) ∈ book.entries.map fun entry => (entry.1, some entry.2) :=
      List.mem_map.mpr ⟨_, hmem, rfl⟩
    rw [book.map_entries, h.toList_names hlength, List.map_map] at hentry
    obtain ⟨slot, hslot, heq⟩ := List.mem_map.mp hentry
    exact hnone slot hslot (Prod.mk.inj heq).1
  · -- The slot of the name has a place in the list, and an entry at this place.
    intro hsome
    push Not at hsome
    obtain ⟨slot, hslot, rfl⟩ := hsome
    obtain ⟨k, hk⟩ := List.mem_iff_getElem?.mp hslot
    obtain ⟨address, -, hlisted⟩ := h.getElem?_entries hlength hk
    exact ⟨address, List.mem_of_getElem? hlisted⟩

end Holds

/-- By `Holds`, the book of `slots.zip answers` shows its readers what `Lists` says. -/
theorem lists_recordAll (hlength : answers.length = slots.length) :
    (empty.recordAll (slots.zip answers)).Lists slots answers := by
  have h : (empty.recordAll (slots.zip answers)).Holds (slots.zip answers) := holds_empty.recordAll
  have hsize : (empty.recordAll (slots.zip answers)).size = slots.length := by
    rw [size, ← Array.length_toList, h.toList_names hlength, List.length_map]
  refine {
    size_eq := hsize
    isEmpty_iff := ?_
    get?_eq_some_iff := h.get?_eq_some_iff hlength
    get?_eq_none_iff := h.get?_eq_none_iff hlength
    length_entries := ?_
    getElem?_entries := fun k slot => h.getElem?_entries hlength
    mem_entries_iff := h.mem_entries_iff hlength
    entries_of_nodup := ?_ }
  · -- A book is empty just if it has no names, of which there is one for each slot.
    rw [isEmpty, Array.isEmpty_iff_size_eq_zero, ← hsize, size]
  · rw [entries, List.length_map, List.length_attach, h.toList_names hlength, List.length_map]
  · -- Under distinct names nothing is overwritten, so the entries are what was recorded.
    intro hnodup
    rw [← map_zip_answers Slot.name hlength] at hnodup
    rw [entries_recordAll hnodup, List.zip_map_left]
    rfl

/-- `collect` along a run with an answer for each slot fills a book that `Lists` the slots with
these answers, and the default book `Lists` nothing. -/
theorem contents_of_answers {σ : Type} {source : AddressSource σ} {state last : σ}
    (hcount : slots.length ≤ countLimit) (hlength : answers.length = slots.length)
    (hanswers : source.Answers (Int32.ofNat slots.length) 0 state answers last) :
    (∃ book, (collect source slots state).result = .ok book ∧ book.Lists slots answers) ∧
      (default : AddressBook).Lists [] [] := by
  have hempty : empty.Lists [] [] := @lists_recordAll [] [] rfl
  refine ⟨⟨_, ?_, lists_recordAll hlength⟩, hempty⟩
  rw [collect_of_le hcount, collectFrom_of_answers hlength.symm hanswers]

/-- The source that counts its questions and answers with their number. -/
def counting : AddressSource Nat := fun _ _ asked => (some ⟨UInt64.ofNat asked⟩, asked + 1)

/-- A layout with a name that is given twice. -/
def repeatedSlots : List Slot :=
  [Slot.ofStdio "printf", Slot.ofStdio "scanf", Slot.ofStdio "printf"]

/-- Of the two slots with one name the second one is found, while both are listed. -/
theorem contents_repeatedSlots :
    repeatedSlots.length ≤ countLimit ∧
      counting.Answers (Int32.ofNat repeatedSlots.length) 0 7 [⟨7⟩, ⟨8⟩, ⟨9⟩] 10 ∧
      ∃ book, (collect counting repeatedSlots 7).result = .ok book ∧ book.size = 3 ∧
        book.get? "printf" = some ⟨9⟩ ∧ book.entries[0]? = some ("printf", ⟨9⟩) := by
  have hcount : repeatedSlots.length ≤ countLimit := by decide
  have hanswers : counting.Answers (Int32.ofNat repeatedSlots.length) 0 7 [⟨7⟩, ⟨8⟩, ⟨9⟩] 10 :=
    .cons rfl (.cons rfl (.cons rfl (.nil _ _)))
  obtain ⟨⟨book, hbook, hlists⟩, -⟩ := contents_of_answers hcount rfl hanswers
  have hget : book.get? "printf" = some ⟨9⟩ := by
    -- The slot at place 2 is the last of all, so none of its name is behind it.
    refine (hlists.get?_eq_some_iff _ _).mpr ⟨2, _, rfl, rfl, rfl, ?_⟩
    intro i other hi hother
    have hlt : i < 3 := (List.getElem?_eq_some_iff.mp hother).1
    omega
  obtain ⟨address, haddress, hentry⟩ := hlists.getElem?_entries 0 _ rfl
  obtain rfl : (⟨9⟩ : Address) = address := Option.some.inj (hget.symm.trans haddress)
  exact ⟨hcount, hanswers, book, hbook, hlists.size_eq, hget, hentry⟩

end AddressBook

end RuntimeSlots
