import RuntimeSlots.Linkage
import RuntimeSlots.Proofs.Address.Book

/-!
# The table and the layout agree

`Routine.all` and `Slot.all` are written down separately, routine by routine and slot by slot.  They
list the same functions in the same order, so that what is found by index in `Linkage.table`, by
name in the layout, and by name in the book of `Linkage.collectBook` is the same.

* `Routine.ofName` is the function that a program calls by a C name;
  `Routine.all_eq_map_ofName` compares the two lists.
* `Linkage.IsFaithful` is what is asked of the linker, `Linkage.Agrees` what follows for a caller.
* `Linkage.agrees_of_isFaithful` ties them together; `Linkage.numbered` is one such linker's choice.
-/

namespace RuntimeSlots

/-! ## The layout -/

namespace Slot

theorem nodup_names : (all.map Slot.name).Nodup := by decide

theorem exists_of_indexOf?_eq_some {name : String} {index : Nat}
    (h : indexOf? name = some index) : ∃ slot, all[index]? = some slot ∧ slot.name = name := by
  obtain ⟨hlt, hname, -⟩ := List.findIdx?_eq_some_iff_getElem.mp h
  exact ⟨all[index], List.getElem?_eq_getElem hlt, by simpa using hname⟩

theorem name_ne_of_indexOf?_eq_none {name : String} (h : indexOf? name = none) :
    ∀ slot ∈ all, slot.name ≠ name := by
  intro slot hslot
  simpa using List.findIdx?_eq_none_iff.mp h slot hslot

end Slot

/-- The routine that a program calls by a C name: the wrapper for `gmtime`, and for every other name
the symbol of the runtime. -/
def Routine.ofName (name : String) : Routine :=
  if name = "gmtime" then .gmtimeWrapper else .runtime name

/-- `Routine.all` lists the routine of every slot, in the order of `Slot.all`. -/
theorem Routine.all_eq_map_ofName : all = Slot.all.map fun slot => ofName slot.name := by decide

theorem Routine.nodup_all : all.Nodup := by decide

namespace Linkage

variable {linkage : Linkage}

/-! ## The linked table -/

/-- The linker gave every routine of `Routine.all` an address of its own, and none of them null. -/
structure IsFaithful (linkage : Linkage) : Prop where
  ne_null : ∀ routine ∈ Routine.all, linkage routine ≠ .null
  inj : ∀ first ∈ Routine.all, ∀ second ∈ Routine.all, linkage first = linkage second →
    first = second

/-- The table in terms of the layout, by `Routine.all_eq_map_ofName`. -/
theorem toList_table (linkage : Linkage) :
    linkage.table.toList = Slot.all.map fun slot => linkage (Routine.ofName slot.name) := by
  rw [table, Routine.all_eq_map_ofName, List.map_map]
  rfl

theorem size_table (linkage : Linkage) : linkage.table.size = 52 := by
  rw [← Array.length_toList, toList_table, List.length_map, Slot.length_all]

theorem getElem?_table (linkage : Linkage) (index : Nat) :
    linkage.table[index]? =
      Slot.all[index]?.map fun slot => linkage (Routine.ofName slot.name) := by
  rw [← Array.getElem?_toList, toList_table, List.getElem?_map]

/-- `functionAddress` answers to the right count, with the address of the routine whose name the
slot at the index has. -/
theorem functionAddress_eq_some_iff {index expected : Int32} {address : Address} :
    linkage.functionAddress index expected = some address ↔
      expected = Slot.count ∧ 0 ≤ index ∧
        ∃ slot, Slot.all[index.toInt.toNat]? = some slot ∧
          linkage (Routine.ofName slot.name) = address := by
  -- `AddressTable.get?` compares integers, and the layout's count and indices are of `Int32`.
  have hexpected : expected.toInt = (52 : Nat) ↔ expected = Slot.count :=
    ⟨fun h => Int32.toInt_inj.mp h, fun h => h ▸ rfl⟩
  have hindex : 0 ≤ index.toInt ↔ 0 ≤ index := by
    rw [Int32.le_iff_toInt_le, Int32.toInt_zero]
  rw [functionAddress, AddressTable.get?_eq_some_iff, size_table, hexpected, hindex,
    getElem?_table, Option.map_eq_some_iff]

theorem mem_all_of_getElem? {slot : Slot} {index : Nat} (h : Slot.all[index]? = some slot) :
    Routine.ofName slot.name ∈ Routine.all := by
  rw [Routine.all_eq_map_ofName]
  exact List.mem_map_of_mem (List.mem_of_getElem? h)

theorem accessor_eq_getD (linkage : Linkage) (index expected : Int32) :
    linkage.accessor index expected =
      (linkage.functionAddress index expected).getD .null :=
  rfl

/-- `functionAddress` and `accessor` differ only in how they tell a miss, as no routine has the null
address that `accessor` tells it with. -/
theorem functionAddress_eq_ite (h : linkage.IsFaithful) (index expected : Int32) :
    linkage.functionAddress index expected =
      if linkage.accessor index expected = .null then none
      else some (linkage.accessor index expected) := by
  rw [accessor_eq_getD]
  cases hfound : linkage.functionAddress index expected with
  | none => rfl
  | some address =>
    obtain ⟨-, -, slot, hslot, rfl⟩ := functionAddress_eq_some_iff.mp hfound
    rw [Option.getD_some, if_neg (h.ne_null _ (mem_all_of_getElem? hslot))]

/-- What `accessor` tells other than null is no miss, whatever the linker did. -/
theorem functionAddress_eq_some_of_ne_null {index expected : Int32}
    (h : linkage.accessor index expected ≠ .null) :
    linkage.functionAddress index expected = some (linkage.accessor index expected) := by
  rw [accessor_eq_getD] at h ⊢
  cases hfound : linkage.functionAddress index expected with
  | none =>
    rw [hfound] at h
    exact absurd rfl h
  | some address => rfl

/-- Two indices at which `functionAddress` has one address are the same index. -/
theorem index_eq_of_functionAddress_eq (h : linkage.IsFaithful) {first second expected : Int32}
    {address : Address} (hfirst : linkage.functionAddress first expected = some address)
    (hsecond : linkage.functionAddress second expected = some address) : first = second := by
  obtain ⟨-, hfirstIndex, slot, hslot, rfl⟩ := functionAddress_eq_some_iff.mp hfirst
  obtain ⟨-, hsecondIndex, other, hother, heq⟩ := functionAddress_eq_some_iff.mp hsecond
  -- One address belongs to one routine.
  have hroutine : Routine.ofName other.name = Routine.ofName slot.name :=
    h.inj _ (mem_all_of_getElem? hother) _ (mem_all_of_getElem? hslot) heq
  -- The table lists no routine twice.
  have hlist : Routine.all[first.toInt.toNat]? = Routine.all[second.toInt.toNat]? := by
    rw [Routine.all_eq_map_ofName, List.getElem?_map, List.getElem?_map, hslot, hother,
      Option.map_some, Option.map_some, hroutine]
  have hlt : first.toInt.toNat < Routine.all.length :=
    (List.getElem?_eq_some_iff.mp hslot).1
  have hposition := (List.getElem?_inj hlt Routine.nodup_all).mp hlist
  rw [Int32.le_iff_toInt_le, Int32.toInt_zero] at hfirstIndex hsecondIndex
  apply Int32.toInt_inj.mp
  omega

/-- `functionAddress` has an answer with the right count and an index inside of the layout, and only
so. -/
theorem exists_functionAddress_iff {index expected : Int32} :
    (∃ address, linkage.functionAddress index expected = some address) ↔
      expected = Slot.count ∧ 0 ≤ index ∧ index < Slot.count := by
  -- The layout as a list and its count as an `Int32` set the same bound.
  have hlength : index.toInt.toNat < Slot.all.length ↔ index.toInt < Slot.count.toInt := by
    rw [Slot.length_all, show Slot.count.toInt = 52 from rfl]
    omega
  rw [Int32.lt_iff_toInt_lt, ← hlength]
  constructor
  · rintro ⟨address, hfound⟩
    obtain ⟨hexpected, hindex, slot, hslot, -⟩ := functionAddress_eq_some_iff.mp hfound
    exact ⟨hexpected, hindex, (List.getElem?_eq_some_iff.mp hslot).1⟩
  · rintro ⟨hexpected, hindex, hlt⟩
    exact ⟨_, functionAddress_eq_some_iff.mpr
      ⟨hexpected, hindex, _, List.getElem?_eq_getElem hlt, rfl⟩⟩

/-! ## A book of the table -/

theorem entries_eq_map (linkage : Linkage) :
    linkage.entries = Slot.all.map fun slot => (slot, linkage (Routine.ofName slot.name)) := by
  rw [entries, toList_table, List.map_prod_left_eq_zip]

/-- No two entries have one name, so the book of them loses no address. -/
theorem nodup_names_entries (linkage : Linkage) :
    (linkage.entries.map fun entry => entry.1.name).Nodup := by
  rw [entries_eq_map, List.map_map]
  exact Slot.nodup_names

/-- `collectBook` fills the book that `recordAll` makes of `entries`. -/
theorem result_collectBook (linkage : Linkage) :
    linkage.collectBook.result = .ok (AddressBook.empty.recordAll linkage.entries) := by
  have hsize : linkage.table.size < 0x80000000 := by
    rw [size_table]
    decide
  have hlength : Slot.all.length = linkage.table.toList.length := by
    rw [toList_table, List.length_map]
  -- The layout is as long as the table, so its length is the count that the table asks for.
  have hanswers := AddressTable.answers_get? hsize ()
  rw [size_table] at hanswers
  have hwalk := @AddressBook.collectFrom_of_answers _ _ _ _ _ _ _ _ .empty hlength hanswers
  have hcollect : linkage.collectBook =
      AddressBook.collectFrom linkage.source (Int32.ofNat 52) Slot.all 0 .empty () := rfl
  rw [hcollect]
  exact congrArg AddressBook.Collection.result hwalk

/-! ## Agreement -/

/-- What a caller can rely on, whether it asks for a function by `accessor`, by `functionAddress` or
in the book of `collectBook`. -/
structure Agrees (linkage : Linkage) : Prop where
  /-- The accessor has an address for every slot, if it is asked with the right count. -/
  accessor_ne_null_iff : ∀ index expected, linkage.accessor index expected ≠ .null ↔
    expected = Slot.count ∧ 0 ≤ index ∧ index < Slot.count
  /-- The address is that of the function with the name of the slot. -/
  accessor_eq : ∀ index expected, linkage.accessor index expected ≠ .null →
    ∃ slot, Slot.all[index.toInt.toNat]? = some slot ∧
      linkage.accessor index expected = linkage (Routine.ofName slot.name)
  /-- No two slots share an address. -/
  accessor_inj : ∀ first second expected, linkage.accessor first expected ≠ .null →
    linkage.accessor first expected = linkage.accessor second expected → first = second
  /-- Where the accessor is null, the typed way to read the table has nothing. -/
  functionAddress_eq : ∀ index expected, linkage.functionAddress index expected =
    if linkage.accessor index expected = .null then none
    else some (linkage.accessor index expected)
  /-- A book of the table can be filled. -/
  exists_book : ∃ book, linkage.collectBook.result = .ok book ∧
    (∀ name, book.get? name = (Slot.indexOf? name).map fun index =>
      linkage.accessor (Int32.ofNat index) Slot.count) ∧
    (∀ name, book.get? name = none ↔ Slot.indexOf? name = none) ∧
    book.entries = linkage.entries.map fun entry => (entry.1.name, entry.2)

/-- Asked with the right count for a slot of the layout, `accessor` has the address of its routine.
-/
theorem accessor_eq_of_getElem? {index : Nat} {slot : Slot} (h : Slot.all[index]? = some slot) :
    linkage.accessor (Int32.ofNat index) Slot.count = linkage (Routine.ofName slot.name) := by
  -- An index of the layout is small enough for an `Int32`.
  have hlt : index < 52 := (List.getElem?_eq_some_iff.mp h).1
  have hindex : (Int32.ofNat index).toInt = index := Int32.toInt_ofNat_of_lt (by omega)
  have hfound : linkage.functionAddress (Int32.ofNat index) Slot.count =
      some (linkage (Routine.ofName slot.name)) := by
    refine functionAddress_eq_some_iff.mpr ⟨rfl, ?_, slot, ?_, rfl⟩
    · rw [Int32.le_iff_toInt_le, hindex, Int32.toInt_zero]
      omega
    · rw [hindex, Int.toNat_natCast, h]
  exact congrArg (fun found => found.getD Address.null) hfound

/-- The book of `entries` finds a name just where `Slot.indexOf?` does, with the address that
`accessor` has at that index. -/
theorem get?_recordAll_entries (linkage : Linkage) (name : String) :
    (AddressBook.empty.recordAll linkage.entries).get? name =
      (Slot.indexOf? name).map fun index => linkage.accessor (Int32.ofNat index) Slot.count := by
  have hentries := linkage.entries_eq_map
  cases hfound : Slot.indexOf? name with
  | none =>
    -- No entry is under the name, so the empty book decides.
    have hnone := Slot.name_ne_of_indexOf?_eq_none hfound
    rw [AddressBook.get?_recordAll_of_forall_ne]
    · simp [AddressBook.get?, AddressBook.empty]
    · intro entry hentry
      rw [hentries] at hentry
      obtain ⟨slot, hslot, rfl⟩ := List.mem_map.mp hentry
      exact hnone slot hslot
  | some index =>
    -- The slot of the name is among the entries, and no other entry has its name.
    obtain ⟨slot, hslot, rfl⟩ := Slot.exists_of_indexOf?_eq_some hfound
    have hmem : (slot, linkage (Routine.ofName slot.name)) ∈ linkage.entries := by
      rw [hentries]
      exact List.mem_map_of_mem (List.mem_of_getElem? hslot)
    have hget := @AddressBook.get?_recordAll_of_mem .empty _ linkage.nodup_names_entries _ hmem
    rw [Option.map_some, accessor_eq_of_getElem? hslot]
    exact hget

/-- `Agrees` follows from `IsFaithful` alone: index, name and book lead to the same functions. -/
theorem agrees_of_isFaithful (h : linkage.IsFaithful) : linkage.Agrees where
  accessor_ne_null_iff index expected := by
    rw [← @exists_functionAddress_iff linkage]
    -- Null tells a miss only because no routine has it: here the linker is needed.
    constructor
    · exact fun hne => ⟨_, functionAddress_eq_some_of_ne_null hne⟩
    · rintro ⟨address, hfound⟩ hnull
      rw [functionAddress_eq_ite h, if_pos hnull] at hfound
      cases hfound
  accessor_eq index expected hne := by
    obtain ⟨-, -, slot, hslot, haddress⟩ :=
      functionAddress_eq_some_iff.mp (functionAddress_eq_some_of_ne_null hne)
    exact ⟨slot, hslot, haddress.symm⟩
  accessor_inj first second expected hne heq := by
    -- Both indices lead to the same address, and to one routine only.
    have hfirst := functionAddress_eq_some_of_ne_null hne
    rw [heq] at hne hfirst
    exact index_eq_of_functionAddress_eq h hfirst (functionAddress_eq_some_of_ne_null hne)
  functionAddress_eq := functionAddress_eq_ite h
  exists_book := by
    refine ⟨_, linkage.result_collectBook, linkage.get?_recordAll_entries, ?_,
      AddressBook.entries_recordAll linkage.nodup_names_entries⟩
    intro name
    rw [linkage.get?_recordAll_entries, Option.map_eq_none_iff]

/-- The linkage that numbers the routines from 1 on. -/
def numbered : Linkage := fun routine => ⟨UInt64.ofNat (Routine.all.idxOf routine + 1)⟩

theorem toNat_numbered {routine : Routine} (h : routine ∈ Routine.all) :
    (numbered routine).value.toNat = Routine.all.idxOf routine + 1 := by
  have hlt : Routine.all.idxOf routine < 52 := List.idxOf_lt_length_of_mem h
  exact UInt64.toNat_ofNat_of_lt' (Nat.lt_of_lt_of_le (Nat.succ_lt_succ hlt) (by decide))

/-- Numbers from 1 on are addresses as `IsFaithful` asks for them. -/
theorem isFaithful_numbered : numbered.IsFaithful where
  ne_null routine hroutine hnull := by
    have hzero := toNat_numbered hroutine
    rw [hnull] at hzero
    cases hzero
  inj first hfirst second hsecond heq := by
    have hnumber := toNat_numbered hfirst
    rw [heq, toNat_numbered hsecond] at hnumber
    exact (List.idxOf_inj hfirst).mp (Nat.succ_inj.mp hnumber).symm

theorem agrees_numbered : numbered.IsFaithful ∧ numbered.Agrees :=
  ⟨isFaithful_numbered, agrees_of_isFaithful isFaithful_numbered⟩

end Linkage

end RuntimeSlots
