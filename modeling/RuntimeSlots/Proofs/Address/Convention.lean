import RuntimeSlots.Proofs.Address.Handshake

/-!
# Null addresses and misses

In the C convention of `AddressTable.getOrNull` a null address stands for a miss, while a table may
well hold one.  A caller who goes by that convention gets along with a table as every other caller
does, until it comes to the first slot that holds null.

* `AddressBook.collectFrom_congr` walks alike over sources that answer alike.
* `AddressTable.nonNull?` is an answer in the C convention as a caller takes it;
  `AddressTable.nonNull?_eq_some_iff` compares it with the answer itself.
* `AddressBook.collect_nonNullSource` walks alike in both conventions where no null address is come
  upon; `AddressBook.walk_of_first_null` is the walk up to the first one.
* `AddressBook.agreesButForNull` says which walks agree in both conventions.
-/

namespace RuntimeSlots

/-! ## Sources that answer alike -/

namespace AddressBook

/-- `collectFrom` depends on nothing but the answers to questions with its own count. -/
theorem collectFrom_congr {σ : Type} {source other : AddressSource σ} {expected : Int32}
    (h : ∀ index state, source index expected state = other index expected state)
    (slots : List Slot) (index : Int32) (book : AddressBook) (state : σ) :
    collectFrom source expected slots index book state =
      collectFrom other expected slots index book state := by
  -- Induction on the slots; after the same answer both walks are in the same state.
  induction slots generalizing index book state with
  | nil => rfl
  | cons slot rest ih => simp only [collectFrom, h, ih]

end AddressBook

/-! ## Answers in the C convention -/

namespace AddressTable

/-- The answer of `getOrNull` as a caller takes it, to whom a null address is a miss. -/
def nonNull? (table : AddressTable) (index expected : Int32) : Option Address :=
  if (table.getOrNull index expected).isNull then none else some (table.getOrNull index expected)

/-- `nonNull?` as a source, for callers who go by the C convention. -/
abbrev nonNullSource (table : AddressTable) : AddressSource Unit :=
  AddressSource.ofFunction table.nonNull?

variable {table : AddressTable} {index expected : Int32} {address : Address}

theorem getOrNull_of_get?_eq_some (h : table.get? index expected = some address) :
    table.getOrNull index expected = address := by
  rw [getOrNull, h, Option.getD_some]

theorem getOrNull_of_get?_eq_none (h : table.get? index expected = none) :
    table.getOrNull index expected = .null := by
  rw [getOrNull, h, Option.getD_none]

/-- `getOrNull` and `get?` answer with an address other than null to the same questions. -/
theorem getOrNull_eq_iff (h : address ≠ .null) :
    table.getOrNull index expected = address ↔ table.get? index expected = some address := by
  constructor
  · intro hraw
    cases hget : table.get? index expected with
    | none => exact absurd (hraw.symm.trans (getOrNull_of_get?_eq_none hget)) h
    | some found => rw [← hraw, getOrNull_of_get?_eq_some hget]
  · exact getOrNull_of_get?_eq_some

/-- `nonNull?` loses of `get?` just the null addresses. -/
theorem nonNull?_eq_some_iff :
    table.nonNull? index expected = some address ↔
      table.get? index expected = some address ∧ address ≠ .null := by
  rw [nonNull?, Address.isNull]
  constructor
  · intro h
    split at h
    case isTrue => cases h
    case isFalse hraw =>
      -- An address other than null is what `get?` has.
      rw [beq_iff_eq] at hraw
      obtain rfl := Option.some.inj h
      exact ⟨(getOrNull_eq_iff hraw).mp rfl, hraw⟩
  · rintro ⟨hget, hnull⟩
    rw [getOrNull_of_get?_eq_some hget, if_neg (by rwa [beq_iff_eq])]

/-- Where `get?` does not answer with null, `nonNull?` is the same. -/
theorem nonNull?_eq_get? (h : table.get? index expected ≠ some .null) :
    table.nonNull? index expected = table.get? index expected := by
  ext address
  rw [nonNull?_eq_some_iff, and_iff_left_iff_imp]
  rintro hget rfl
  exact h hget

/-- Where `get?` answers with null, `nonNull?` takes it for a miss. -/
theorem nonNull?_eq_none (h : table.get? index expected = some .null) :
    table.nonNull? index expected = none := by
  refine Option.eq_none_iff_forall_ne_some.mpr fun address haddress => ?_
  obtain ⟨hget, hnull⟩ := nonNull?_eq_some_iff.mp haddress
  exact hnull (Option.some.inj (hget.symm.trans h))

/-- `get?` answers with null only from a table that holds it, and only to the right count. -/
theorem get?_ne_some_null (h : ¬ (expected.toInt = table.size ∧ Address.null ∈ table)) :
    table.get? index expected ≠ some .null := by
  intro hget
  obtain ⟨hexpected, -, hslot⟩ := get?_eq_some_iff.mp hget
  exact h ⟨hexpected, Array.mem_of_getElem? hslot⟩

end AddressTable

/-! ## Walks in both conventions -/

namespace AddressBook

variable {table : AddressTable} {slots : List Slot}

/-- By `collectFrom_congr` both conventions walk alike, unless a caller with the right count comes
upon a null address. -/
theorem collect_nonNullSource (hcount : slots.length ≤ countLimit)
    (h : ¬ (slots ≠ [] ∧ table.size = slots.length ∧ Address.null ∈ table)) :
    collect table.nonNullSource slots () = collect table.source slots () := by
  rw [collect_of_le hcount, collect_of_le hcount]
  cases slots with
  | nil => rfl
  | cons slot rest =>
    refine collectFrom_congr (fun index state => ?_) _ _ _ _
    refine congrArg (fun answer => (answer, state)) (AddressTable.nonNull?_eq_get? ?_)
    -- An answer with a null address would be one to the right count.
    refine AddressTable.get?_ne_some_null ?_
    rintro ⟨hexpected, hmem⟩
    rw [toInt_ofNat hcount] at hexpected
    exact h ⟨List.cons_ne_nil _ _, (Int.ofNat_inj.mp hexpected).symm, hmem⟩

/-- In the C convention the walk has the addresses in `front` as answers and misses the null address
behind them. -/
theorem walk_of_first_null (hcount : slots.length ≤ countLimit) (hsize : table.size = slots.length)
    {front back : List Address} (htable : table.toList = front ++ .null :: back)
    (hfront : Address.null ∉ front) {slot : Slot} (hslot : slots[front.length]? = some slot) :
    walk table.nonNullSource slots () = {
      result := .error (.missing (Int32.ofNat front.length) slot.name)
      log := registrations slots front ++ [missRecord front.length slot.name slots.length]
      questions := questionsBelow slots (front.length + 1) } := by
  -- Without regard to null, the `k`-th question has the `k`-th address as its answer.
  have hget : ∀ k address, table.toList[k]? = some address →
      table.get? (Int32.ofNat k) (Int32.ofNat slots.length) = some address := by
    intro k address haddress
    obtain ⟨hk, rfl⟩ := List.getElem?_eq_some_iff.mp haddress
    rw [Array.length_toList] at hk
    rw [← hsize, AddressTable.get?_ofNat (lt_of_le_countLimit (hsize ▸ hcount)) hk,
      Array.getElem_toList]
  -- The addresses in front are answers in both conventions, and the next one is none.
  have hanswers : table.nonNullSource.Answers (Int32.ofNat slots.length) 0 () front () := by
    refine AddressSource.answers_ofFunction (fun k address haddress => ?_) ()
    obtain ⟨hk, hmem⟩ := List.getElem?_eq_some_iff.mp haddress
    rw [Int32.zero_add, AddressTable.nonNull?_eq_some_iff]
    refine ⟨hget k address ?_, ?_⟩
    · rw [htable, List.getElem?_append_left hk, haddress]
    · rintro rfl
      exact hfront (List.mem_of_getElem? haddress)
  have hmiss : table.nonNullSource (Int32.ofNat front.length) (Int32.ofNat slots.length) () =
      (none, ()) := by
    refine congrArg (fun answer => (answer, ())) (AddressTable.nonNull?_eq_none (hget _ _ ?_))
    rw [htable, List.getElem?_append_right (Nat.le_refl _), Nat.sub_self, List.getElem?_cons_zero]
  exact walk_of_miss hcount hanswers hslot hmiss

/-- How `source` and `nonNullSource` of a table agree: as walks over `slots`, and for each question.
-/
structure AgreesButForNull (table : AddressTable) (slots : List Slot) : Prop where
  /-- Unless a caller with the right count comes upon a null address, both fill the same book or
  fail alike, and the log is told the same. -/
  collect_eq : ¬ (slots ≠ [] ∧ table.size = slots.length ∧ Address.null ∈ table) →
    collect table.nonNullSource slots () = collect table.source slots ()
  /-- Otherwise the book is filled, null addresses included, but for a caller in the C convention
  the first of them is a miss. -/
  of_null_mem : slots ≠ [] → table.size = slots.length → Address.null ∈ table →
    (∃ book, (collect table.source slots ()).result = .ok book ∧ book.Lists slots table.toList) ∧
      ∃ (k : Nat) (slot : Slot) (index : Int32), table[k]? = some .null ∧
        (∀ i < k, table[i]? ≠ some .null) ∧ slots[k]? = some slot ∧ index.toInt = k ∧
        (collect table.nonNullSource slots ()).result = .error (.missing index slot.name)
  getOrNull_ne_null_iff : ∀ index expected, table.getOrNull index expected ≠ .null ↔
    ∃ address, table.get? index expected = some address ∧ address ≠ .null
  /-- An address that is found is the same in both conventions. -/
  getOrNull_eq : ∀ index expected address, table.get? index expected = some address →
    table.getOrNull index expected = address

/-- `AgreesButForNull` holds of every table and of every layout that can be counted. -/
theorem agreesButForNull (hcount : slots.length ≤ countLimit) : AgreesButForNull table slots := by
  refine {
    collect_eq := collect_nonNullSource hcount
    of_null_mem := ?_
    getOrNull_ne_null_iff := ?_
    getOrNull_eq := fun index expected address => AddressTable.getOrNull_of_get?_eq_some }
  · -- The table is cut at its first null address, and both walks are told by the cut.
    intro _ hsize hmem
    have hlength : table.toList.length = slots.length := by rw [Array.length_toList, hsize]
    obtain ⟨front, back, htable, hfront⟩ :=
      List.eq_append_cons_of_mem (Array.mem_toList_iff.mpr hmem)
    have hlt : front.length < slots.length := by
      rw [← hlength, htable, List.length_append, List.length_cons]
      omega
    refine ⟨⟨_, ?_, lists_recordAll hlength⟩, front.length, slots[front.length],
      Int32.ofNat front.length, ?_, ?_, List.getElem?_eq_getElem hlt, toInt_ofNat (by omega), ?_⟩
    · rw [(collect_noting table.source slots ()).1, walk_of_size_eq hcount hsize]
    -- The null address is the one behind `front`, and there is none in `front`.
    · rw [← Array.getElem?_toList, htable, List.getElem?_append_right (Nat.le_refl _),
        Nat.sub_self, List.getElem?_cons_zero]
    · intro i hi hnull
      rw [← Array.getElem?_toList, htable, List.getElem?_append_left hi] at hnull
      exact hfront (List.mem_of_getElem? hnull)
    · rw [(collect_noting table.nonNullSource slots ()).1,
        walk_of_first_null hcount hsize htable hfront (List.getElem?_eq_getElem hlt)]
  · intro index expected
    constructor
    · intro hraw
      exact ⟨_, (AddressTable.getOrNull_eq_iff hraw).mp rfl, hraw⟩
    · rintro ⟨address, hget, hnull⟩
      rwa [AddressTable.getOrNull_of_get?_eq_some hget]

/-- A table for two slots, the second of which holds no address. -/
def halfFilled : AddressTable := #[⟨7⟩, .null]

/-- In `halfFilled` the null address is registered as that of `scanf`, or `scanf` is missed. -/
theorem agreesButForNull_halfFilled :
    twoSlots.length ≤ countLimit ∧
      (∃ book, (collect halfFilled.source twoSlots ()).result = .ok book ∧
        book.get? "scanf" = some .null) ∧
      (collect halfFilled.nonNullSource twoSlots ()).result = .error (.missing 1 "scanf") := by
  have hcount : twoSlots.length ≤ countLimit := by decide
  have hmem : Address.null ∈ halfFilled := by simp [halfFilled]
  obtain ⟨⟨book, hbook, hlists⟩, k, slot, index, hnull, -, hslot, hindex, hmiss⟩ :=
    (@agreesButForNull halfFilled twoSlots hcount).of_null_mem (by decide) rfl hmem
  have hget : book.get? "scanf" = some .null := by
    refine (hlists.get?_eq_some_iff _ _).mpr ⟨1, _, rfl, rfl, rfl, ?_⟩
    intro i other hi hother
    have hlt : i < 2 := (List.getElem?_eq_some_iff.mp hother).1
    omega
  -- Of the two slots only the second one is without an address.
  obtain rfl : k = 1 := by
    have hlt : k < 2 := (List.getElem?_eq_some_iff.mp hslot).1
    have hpos : k ≠ 0 := by
      rintro rfl
      exact absurd hnull (by decide)
    omega
  obtain rfl : index = 1 := Int32.toInt_inj.mp hindex
  obtain rfl : Slot.ofStdio "scanf" = slot := Option.some.inj hslot
  exact ⟨hcount, ⟨book, hbook, hget⟩, hmiss⟩

end AddressBook

end RuntimeSlots
