import RuntimeSlots.Address.Book
import Mathlib.Data.List.Basic

/-!
# Walks over a layout

`AddressBook.collectFrom` asks a source for one slot after another.  A source that answers every
question fills the book with its answers, however its state moves in between, and a table answers
every question about itself.

* `AddressSource.Answers` is a run of a source that has an answer each time;
  `AddressSource.answers_ofFunction` finds the runs of a function, `AddressTable.answers_get?` that
  of a table.
* `AddressBook.collectFrom_of_answers` is what a walk makes of such a run.
* `AddressBook.recordAll` is the book after such a walk; `AddressBook.get?_recordAll_of_mem` and
  `AddressBook.entries_recordAll` read it where no name is recorded twice.
-/

namespace RuntimeSlots

/-! ## Runs of a source -/

/-- A run of `source` that has an answer to each question.  From the state given first, `source`
answers the listed addresses for consecutive indices from the given one on, each time with the same
`expected`, and is left in the state given last. -/
inductive AddressSource.Answers {σ : Type} (source : AddressSource σ) (expected : Int32) :
    Int32 → σ → List Address → σ → Prop
  | nil (index : Int32) (state : σ) : Answers source expected index state [] state
  | cons {index : Int32} {state next last : σ} {address : Address} {rest : List Address}
      (hfirst : source index expected state = (some address, next))
      (hrest : Answers source expected (index + 1) next rest last) :
      Answers source expected index state (address :: rest) last

namespace AddressSource

theorem add_ofNat_zero (index : Int32) : index + Int32.ofNat 0 = index := Int32.add_zero index

theorem add_ofNat_succ (index : Int32) (k : Nat) :
    index + Int32.ofNat (k + 1) = index + 1 + Int32.ofNat k := by
  rw [Nat.add_comm, Int32.ofNat_add, ← Int32.add_assoc]
  rfl

/-- `AddressSource.ofFunction answer` runs through `answers` if `answer` has the `k`-th of them `k`
indices behind the first. -/
theorem answers_ofFunction {σ : Type} {answer : Int32 → Int32 → Option Address}
    {expected index : Int32} {answers : List Address}
    (h : ∀ k address, answers[k]? = some address →
      answer (index + Int32.ofNat k) expected = some address) (state : σ) :
    (ofFunction answer).Answers expected index state answers state := by
  -- The first index moves along, so that `h` speaks of the answers that are left.
  induction answers generalizing index with
  | nil => exact .nil _ _
  | cons address rest ih =>
    have hfirst := h 0 address rfl
    rw [add_ofNat_zero] at hfirst
    refine .cons (congrArg (fun found => (found, state)) hfirst) (ih ?_)
    intro k other hother
    rw [← add_ofNat_succ]
    exact h (k + 1) other hother

/-- The `k`-th answer of a run of `ofFunction answer` is what `answer` says about the index that is
`k` behind the first. -/
theorem Answers.apply_of_getElem? {σ : Type} {answer : Int32 → Int32 → Option Address}
    {expected index : Int32} {answers : List Address} {state last : σ}
    (h : (ofFunction answer).Answers expected index state answers last) {k : Nat}
    {address : Address} (haddress : answers[k]? = some address) :
    answer (index + Int32.ofNat k) expected = some address := by
  -- The answer that is asked for is the first of the run, or stands in the rest of it.
  induction h generalizing k with
  | nil => cases haddress
  | @cons index state next last first rest hfirst hrest ih =>
    cases k with
    | zero =>
      rw [add_ofNat_zero, ← Option.some.inj haddress]
      exact congrArg Prod.fst hfirst
    | succ k =>
      rw [add_ofNat_succ]
      exact ih haddress

end AddressSource

namespace AddressTable

variable {table : AddressTable}

/-- What `AddressTable.get?` tests, in integers without a width. -/
theorem get?_eq_some_iff {index expected : Int32} {address : Address} :
    table.get? index expected = some address ↔
      expected.toInt = table.size ∧ 0 ≤ index.toInt ∧
        table[index.toInt.toNat]? = some address := by
  rw [get?]
  split
  case isTrue hin => simp [hin]
  case isFalse hout =>
    simp only [reduceCtorEq, false_iff]
    rintro ⟨hexpected, hindex, -⟩
    exact hout ⟨hexpected, hindex⟩

/-- In a table that an `Int32` can count, `AddressTable.get?` finds every slot under its index. -/
theorem get?_ofNat (hsize : table.size < 0x80000000) {k : Nat} (hk : k < table.size) :
    table.get? (Int32.ofNat k) (Int32.ofNat table.size) = some table[k] := by
  rw [get?_eq_some_iff, Int32.toInt_ofNat_of_lt hsize, Int32.toInt_ofNat_of_lt (by omega)]
  refine ⟨rfl, by omega, ?_⟩
  rw [Int.toNat_natCast, Array.getElem?_eq_getElem hk]

/-- Asked for all of its slots, a table answers `table.toList`. -/
theorem answers_get? (hsize : table.size < 0x80000000) {σ : Type} (state : σ) :
    (AddressSource.ofFunction table.get?).Answers (Int32.ofNat table.size) 0 state table.toList
      state := by
  refine AddressSource.answers_ofFunction (fun k address haddress => ?_) state
  obtain ⟨hk, rfl⟩ := List.getElem?_eq_some_iff.mp haddress
  rw [Array.length_toList] at hk
  rw [Int32.zero_add, get?_ofNat hsize hk, Array.getElem_toList]

end AddressTable

/-! ## Recording -/

namespace AddressBook

/-- The book after `record` for each of these slots, in order. -/
def recordAll (book : AddressBook) : List (Slot × Address) → AddressBook
  | [] => book
  | entry :: rest => (book.record entry.1.name entry.2).recordAll rest

theorem get?_record (book : AddressBook) (name other : String) (address : Address) :
    (book.record name address).get? other =
      if name = other then some address else book.get? other := by
  simp only [get?, record, Std.HashMap.getElem?_insert, beq_iff_eq]

/-- `recordAll` lists every name once more, also one that the book has already. -/
theorem names_recordAll (book : AddressBook) (found : List (Slot × Address)) :
    (book.recordAll found).names.toList =
      book.names.toList ++ found.map fun entry => entry.1.name := by
  induction found generalizing book with
  | nil => rw [recordAll, List.map_nil, List.append_nil]
  | cons entry rest ih =>
    rw [recordAll, ih, record, Array.toList_push, List.append_assoc, List.map_cons,
      List.singleton_append]

/-- `recordAll` leaves the address of every other name alone. -/
theorem get?_recordAll_of_forall_ne {book : AddressBook} {found : List (Slot × Address)}
    {name : String} (h : ∀ entry ∈ found, entry.1.name ≠ name) :
    (book.recordAll found).get? name = book.get? name := by
  induction found generalizing book with
  | nil => rfl
  | cons entry rest ih =>
    rw [recordAll, ih fun other hother => h other (List.mem_cons_of_mem _ hother), get?_record,
      if_neg (h entry (List.mem_cons_self ..))]

/-- If no name is recorded twice, `get?` finds each under its own address. -/
theorem get?_recordAll_of_mem {book : AddressBook} {found : List (Slot × Address)}
    (hnodup : (found.map fun entry => entry.1.name).Nodup) {entry : Slot × Address}
    (h : entry ∈ found) : (book.recordAll found).get? entry.1.name = some entry.2 := by
  -- Induction on what is recorded: the first entry is not recorded over, the others are behind it.
  induction found generalizing book with
  | nil => cases h
  | cons first rest ih =>
    obtain ⟨hnotMem, hrest⟩ := List.nodup_cons.mp hnodup
    rw [recordAll]
    rcases List.mem_cons.mp h with rfl | hmem
    · -- Nothing behind the entry has its name.
      rw [get?_recordAll_of_forall_ne, get?_record, if_pos rfl]
      intro other hother heq
      exact hnotMem (List.mem_map.mpr ⟨other, hother, heq⟩)
    · exact ih hrest hmem

/-- `entries` pairs each of the names with what `get?` finds under it. -/
theorem map_entries (book : AddressBook) :
    (book.entries.map fun entry => (entry.1, some entry.2)) =
      book.names.toList.map fun name => (name, book.get? name) := by
  -- `covered` lets `entries` look up without an `Option`; `get?` finds the same address.
  have hget : ∀ listed ∈ book.names.toList.attach,
      (listed.val, some (book.addresses.get listed.val
        (book.covered listed.val (Array.mem_toList_iff.mp listed.property)))) =
      (listed.val, book.get? listed.val) := by
    intro listed _
    rw [get?, Std.HashMap.getElem?_eq_some_getElem]
    rfl
  rw [entries, List.map_map]
  exact (List.map_congr_left hget).trans
    (@List.attach_map_val _ _ book.names.toList fun name => (name, book.get? name))

/-- If no name is recorded twice, `entries` is what was recorded. -/
theorem entries_recordAll {found : List (Slot × Address)}
    (hnodup : (found.map fun entry => entry.1.name).Nodup) :
    (empty.recordAll found).entries = found.map fun entry => (entry.1.name, entry.2) := by
  have hnames : (empty.recordAll found).names.toList = found.map fun entry => entry.1.name := by
    rw [names_recordAll]
    rfl
  have hget : ∀ entry ∈ found,
      (entry.1.name, (empty.recordAll found).get? entry.1.name) =
        (entry.1.name, some entry.2) := by
    intro entry hentry
    rw [get?_recordAll_of_mem hnodup hentry]
  -- `map_entries` speaks of optional addresses, so `some` has to be taken off both lists.
  have hinjective : Function.Injective fun entry : String × Address => (entry.1, some entry.2) := by
    rintro ⟨name, address⟩ ⟨other, otherAddress⟩ heq
    simpa using heq
  apply List.map_injective_iff.mpr hinjective
  rw [map_entries, hnames, List.map_map, List.map_map]
  exact List.map_congr_left hget

/-! ## Walks -/

/-- The events of recorded slots, the first of which has the given index. -/
def registeredEvents : Int32 → List (Slot × Address) → List Event
  | _, [] => []
  | index, entry :: rest =>
    .registered index entry.1.name entry.2 :: registeredEvents (index + 1) rest

/-- Along a run of the source with one answer for each slot, `collectFrom` records the answers,
tells of each of them, and ends in the state in which the run ends. -/
theorem collectFrom_of_answers {σ : Type} {source : AddressSource σ} {expected index : Int32}
    {slots : List Slot} {addresses : List Address} {state last : σ} {book : AddressBook}
    (hlength : slots.length = addresses.length)
    (hanswers : source.Answers expected index state addresses last) :
    collectFrom source expected slots index book state = {
      result := .ok (book.recordAll (slots.zip addresses))
      events := registeredEvents index (slots.zip addresses) ++
        [.populated (book.size + slots.length)]
      source := last } := by
  -- Induction on the run of the source; the walk takes one slot for each answer.
  induction hanswers generalizing slots book with
  | nil index state =>
    obtain rfl := List.length_eq_zero_iff.mp hlength
    rfl
  | @cons index state next last address others hfirst hrest ih =>
    obtain ⟨slot, rest, rfl⟩ := List.exists_cons_of_length_eq_add_one hlength
    have htail := @ih rest (book.record slot.name address) (Nat.succ_inj.mp hlength)
    -- The event at the end counts what was in the book before, and every slot.
    have hsize : (book.record slot.name address).size + rest.length =
        book.size + (slot :: rest).length := by
      rw [size, record, Array.size_push, List.length_cons, size]
      omega
    rw [collectFrom, hfirst]
    simp only [htail, hsize, List.zip_cons_cons, registeredEvents, recordAll, List.cons_append]

end AddressBook

end RuntimeSlots
