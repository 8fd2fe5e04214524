import RuntimeSlots.Proofs.Address.Contents

/-!
# The count as a handshake

`AddressBook.collect` puts the length of its layout into every question, and `AddressTable.get?`
answers none in which that count is not its own length.  So a caller that was built for another
layout learns it from the first question, before anything is registered.

* `AddressTable.source` asks a table; `AddressTable.get?_eq_none_of_ne` is its answer to a caller
  with another count.
* `AddressBook.walk_of_size_eq` and `AddressBook.walk_of_size_ne` are the walks against a table of
  the right and of the wrong length.
* `AddressBook.handshake` assembles `AddressBook.Handshake` from them.
* `AddressBook.collect_shifted_ok_iff` says that `AddressSource.shifted` never fills a book where
  it moves an index: with the right count, wrong indices are noticed too.
-/

namespace RuntimeSlots

namespace AddressTable

/-- `AddressTable.get?` as a source; it has no state to change. -/
abbrev source (table : AddressTable) : AddressSource Unit := AddressSource.ofFunction table.get?

/-- `get?` tests the count first: a caller with another one misses at every index. -/
theorem get?_eq_none_of_ne {table : AddressTable} {index expected : Int32}
    (h : expected.toInt ≠ table.size) : table.get? index expected = none :=
  if_neg fun hin => h hin.1

end AddressTable

namespace AddressBook

variable {table : AddressTable} {slots : List Slot}

/-! ## Walks against a table -/

/-- Against a table of the right length, the walk records every slot with its own address. -/
theorem walk_of_size_eq (hcount : slots.length ≤ countLimit) (h : table.size = slots.length) :
    walk table.source slots () = {
      result := .ok (empty.recordAll (slots.zip table.toList))
      log := registrations slots table.toList ++ [fullRecord slots.length]
      questions := questionsBelow slots slots.length } := by
  -- The run in which the table answers about itself is one for the layout, as the lengths agree.
  have hanswers := AddressTable.answers_get? (lt_of_le_countLimit (h ▸ hcount)) ()
  rw [h] at hanswers
  exact walk_of_answers hcount (by rw [Array.length_toList, h]) hanswers

/-- Against a table of another length, the question about index 0 already misses, so it is the only
one. -/
theorem walk_of_size_ne {slot : Slot} {rest : List Slot}
    (hcount : (slot :: rest).length ≤ countLimit) (h : table.size ≠ (slot :: rest).length) :
    walk table.source (slot :: rest) () = {
      result := .error (.missing 0 slot.name)
      log := [missRecord 0 slot.name (slot :: rest).length]
      questions := [(0, ((slot :: rest).length : Nat))] } := by
  have hexpected : (Int32.ofNat (slot :: rest).length).toInt ≠ table.size := by
    rw [toInt_ofNat hcount]
    exact fun heq => h (Int.ofNat_inj.mp heq).symm
  have hmiss : table.source (Int32.ofNat 0) (Int32.ofNat (slot :: rest).length) () = (none, ()) :=
    congrArg (fun answer => (answer, ())) (AddressTable.get?_eq_none_of_ne hexpected)
  -- The run in front of the miss is empty.
  exact walk_of_miss hcount (.nil 0 ()) rfl hmiss

/-! ## What a caller learns -/

/-- What `collect` makes of `slots` and `table`, told by the two lengths alone. -/
structure Handshake (table : AddressTable) (slots : List Slot) : Prop where
  /-- Only a caller without slots gets along with a table of another length. -/
  ok_iff : (∃ book, (collect table.source slots ()).result = .ok book) ↔
    slots = [] ∨ table.size = slots.length
  /-- With the right count every name gets the address of its own slot. -/
  of_size_eq : table.size = slots.length → (slots.map Slot.name).Nodup →
    ∃ book, (collect table.source slots ()).result = .ok book ∧
      (∀ (k : Nat) (slot : Slot) (address : Address), slots[k]? = some slot →
        table[k]? = some address → book.get? slot.name = some address) ∧
      book.entries = (slots.map Slot.name).zip table.toList
  /-- With a wrong count the first slot is the only one that is asked about, and none is
  registered. -/
  of_size_ne : ∀ slot rest, slots = slot :: rest → table.size ≠ slots.length →
    (collect table.source slots ()).result = .error (.missing 0 slot.name) ∧
      walk table.source slots () = {
        result := .error (.missing 0 slot.name)
        log := [missRecord 0 slot.name slots.length]
        questions := [(0, (slots.length : Nat))] }

/-- `Handshake` holds of every layout that can be counted and of every table. -/
theorem handshake (hcount : slots.length ≤ countLimit) : Handshake table slots := by
  -- `walk` notes the questions, and `collect` without the notes has the same result.
  have hresult := (collect_noting table.source slots ()).1
  refine { ok_iff := ?_, of_size_eq := ?_, of_size_ne := ?_ }
  · rw [hresult]
    constructor
    · rintro ⟨book, hbook⟩
      -- A caller with slots and another count has missed with its first question.
      by_contra hwrong
      obtain ⟨hslots, hsize⟩ := not_or.mp hwrong
      obtain ⟨slot, rest, rfl⟩ := List.exists_cons_of_ne_nil hslots
      rw [walk_of_size_ne hcount hsize] at hbook
      cases hbook
    · rintro (rfl | hsize)
      · exact ⟨empty, rfl⟩
      · exact ⟨_, congrArg Walk.result (walk_of_size_eq hcount hsize)⟩
  · -- `recordAll` keeps each address under its name, because no name comes twice.
    intro hsize hnodup
    have hlength : table.toList.length = slots.length := by rw [Array.length_toList, hsize]
    have hlists := lists_recordAll hlength
    rw [hresult, walk_of_size_eq hcount hsize]
    refine ⟨_, rfl, ?_, hlists.entries_of_nodup hnodup⟩
    intro k slot address hslot haddress
    have hmem : (slot, address) ∈ slots.zip table.toList := by
      refine List.mem_of_getElem? (List.getElem?_zip_eq_some.mpr ⟨hslot, ?_⟩)
      rw [Array.getElem?_toList, haddress]
    rw [← map_zip_answers Slot.name hlength] at hnodup
    exact get?_recordAll_of_mem hnodup hmem
  · rintro slot rest rfl hsize
    rw [hresult, walk_of_size_ne hcount hsize]
    exact ⟨rfl, rfl⟩

/-- A layout of two slots, and a table for it. -/
def twoSlots : List Slot := [Slot.ofStdio "printf", Slot.ofStdio "scanf"]

def twoAddresses : AddressTable := #[⟨7⟩, ⟨8⟩]

/-- A caller of `twoSlots` finds them in `twoAddresses`, and misses at index 0 once a third address
was added to the table. -/
theorem handshake_twoSlots :
    twoSlots.length ≤ countLimit ∧
      (∃ book, (collect twoAddresses.source twoSlots ()).result = .ok book ∧
        book.get? "scanf" = some ⟨8⟩ ∧ book.entries = [("printf", ⟨7⟩), ("scanf", ⟨8⟩)]) ∧
      (collect (AddressTable.source (twoAddresses.push ⟨9⟩)) twoSlots ()).result =
        .error (.missing 0 "printf") := by
  have hcount : twoSlots.length ≤ countLimit := by decide
  have hnodup : (twoSlots.map Slot.name).Nodup := by decide
  obtain ⟨book, hbook, hget, hentries⟩ :=
    (@handshake twoAddresses twoSlots hcount).of_size_eq rfl hnodup
  -- The caller's count is stale once the table is longer.
  have hlonger : (twoAddresses.push ⟨9⟩).size ≠ twoSlots.length := by decide
  exact ⟨hcount, ⟨book, hbook, hget 1 _ _ rfl rfl, hentries⟩,
    ((handshake hcount).of_size_ne _ _ rfl hlonger).1⟩

/-! ## Indices that are off -/

/-- A `bias` that moves no index below `count` out of bounds is zero: the first index keeps it from
being negative, and the last from being positive, also where the sum wraps. -/
theorem eq_zero_of_forall_add_lt {count : Nat} {bias : Int32} (hpos : 0 < count)
    (hcount : count ≤ countLimit)
    (h : ∀ k < count, 0 ≤ (Int32.ofNat k + bias).toInt ∧ (Int32.ofNat k + bias).toInt < count) :
    bias = 0 := by
  obtain ⟨hfirst, -⟩ := h 0 hpos
  obtain ⟨hnonneg, hlt⟩ := h (count - 1) (Nat.sub_lt hpos Nat.one_pos)
  rw [show Int32.ofNat 0 = 0 from rfl, Int32.zero_add] at hfirst
  rw [Int32.toInt_add, toInt_ofNat (by omega), Int.bmod_def] at hnonneg hlt
  -- A sum of two numbers below `Int32.maxValue` that wraps in `Int.bmod` comes out negative.
  have hlimit : countLimit = 2147483647 := rfl
  have hle : bias.toInt ≤ 2147483647 := bias.toInt_le
  apply Int32.toInt_inj.mp
  rw [Int32.toInt_zero]
  omega

/-- The count alone does not make up for wrong indices: a caller that asks `table` about the slot
`bias` further on fills a book just if it asks about nothing, or if `bias` is zero and the count is
right. -/
theorem collect_shifted_ok_iff (hcount : slots.length ≤ countLimit) (bias : Int32) :
    (∃ book, (collect (table.source.shifted bias) slots ()).result = .ok book) ↔
      slots = [] ∨ table.size = slots.length ∧ bias = 0 := by
  rw [(collect_noting (table.source.shifted bias) slots ()).1]
  constructor
  · intro hok
    obtain ⟨answers, last, hlength, hanswers⟩ := (walk_ok_iff hcount).mp hok
    -- Each index below the count, moved by `bias`, has had an answer, so it is one of the table's.
    have hfound : ∀ k < slots.length, table.size = slots.length ∧
        0 ≤ (Int32.ofNat k + bias).toInt ∧ (Int32.ofNat k + bias).toInt < slots.length := by
      intro k hk
      have hget := hanswers.apply_of_getElem? (List.getElem?_eq_getElem (hlength ▸ hk))
      rw [Int32.zero_add, AddressTable.get?_eq_some_iff, toInt_ofNat hcount] at hget
      obtain ⟨hsize, hnonneg, hslot⟩ := hget
      have hlt := (Array.getElem?_eq_some_iff.mp hslot).1
      omega
    refine slots.length.eq_zero_or_pos.imp List.length_eq_zero_iff.mp fun hpos => ?_
    exact ⟨(hfound 0 hpos).1, eq_zero_of_forall_add_lt hpos hcount fun k hk => (hfound k hk).2⟩
  · -- Without slots nothing is asked, and a bias of zero leaves the source as it is.
    rintro (rfl | ⟨hsize, rfl⟩)
    · exact ⟨empty, rfl⟩
    · have hzero : table.source.shifted 0 = table.source := by
        funext index expected
        rw [AddressSource.shifted, Int32.add_zero]
      rw [hzero, walk_of_size_eq hcount hsize]
      exact ⟨_, rfl⟩

end AddressBook

end RuntimeSlots
