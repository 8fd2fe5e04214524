import RuntimeSlots.Proofs.Address.Book
import Mathlib.Data.List.Sort

/-!
# The answers of a table

`AddressTable.get?` answers a question if the caller's count is the table's own length and the index
is that of a slot, and then with that slot.  No other number can pass for the length and no other
index for a slot, since neither number is negative and both are compared without wrapping.

* `AddressTable.everyIndex` lists all indices that a caller can ask for, in order.
* `AddressTable.filter_everyIndex` says which of them hit.
* `AddressTable.hitsExactly` says what the questions of all callers make of a table.
-/

namespace RuntimeSlots

namespace AddressTable

/-! ## All indices -/

/-- All values of `Int32`, the least first: the indices that a caller can ask for. -/
def everyIndex : List Int32 :=
  (List.range Int32.size).map fun k : Nat => Int32.ofInt (Int32.minValue.toInt + k)

/-- The `k`-th index is `k` above the least, as no sum in `everyIndex` wraps. -/
theorem toInt_ofInt_add {k : Nat} (hk : k < Int32.size) :
    (Int32.ofInt (Int32.minValue.toInt + k)).toInt = Int32.minValue.toInt + k := by
  have hmin : Int32.minValue.toInt = -0x80000000 := rfl
  have hsize : Int32.size = 0x100000000 := rfl
  exact Int32.toInt_ofInt_of_le (by omega) (by omega)

theorem mem_everyIndex (index : Int32) : index ∈ everyIndex := by
  have hmin : Int32.minValue.toInt = -0x80000000 := rfl
  have hsize : Int32.size = 0x100000000 := rfl
  have hle := index.le_toInt
  have hlt := index.toInt_lt
  -- The index stands as many places behind the least one as it is greater.
  refine List.mem_map.mpr ⟨(index.toInt - Int32.minValue.toInt).toNat, ?_, ?_⟩
  · rw [List.mem_range]
    omega
  · have hsum : Int32.minValue.toInt + (index.toInt - Int32.minValue.toInt) = index.toInt := by
      omega
    rw [Int.toNat_of_nonneg (by omega), hsum, Int32.ofInt_toInt]

theorem pairwise_everyIndex : everyIndex.Pairwise (· < ·) := by
  refine List.pairwise_map.mpr (List.pairwise_lt_range.imp_of_mem ?_)
  intro k l hk hl hlt
  rw [Int32.lt_iff_toInt_lt, toInt_ofInt_add (List.mem_range.mp hk),
    toInt_ofInt_add (List.mem_range.mp hl)]
  omega

/-! ## Hits -/

variable {table : AddressTable}

/-- A question hits just if its count is the length of the table and its index below it. -/
theorem isSome_get?_iff {index expected : Int32} :
    (table.get? index expected).isSome = true ↔
      expected.toInt = table.size ∧ 0 ≤ index.toInt ∧ index.toInt < table.size := by
  rw [Option.isSome_iff_exists]
  simp only [get?_eq_some_iff, Array.getElem?_eq_some_iff]
  constructor
  · rintro ⟨address, hexpected, hindex, hlt, -⟩
    exact ⟨hexpected, hindex, by omega⟩
  · rintro ⟨hexpected, hindex, hlt⟩
    exact ⟨_, hexpected, hindex, by omega, rfl⟩

/-- Of `everyIndex` just the indices of slots hit, each once and in order. -/
theorem filter_everyIndex {expected : Int32} (h : expected.toInt = table.size) :
    everyIndex.filter (fun index => (table.get? index expected).isSome) =
      (List.range table.size).map Int32.ofNat := by
  have hmax := expected.toInt_lt
  have hofNat : ∀ k < table.size, (Int32.ofNat k).toInt = k := fun k hk =>
    Int32.toInt_ofNat_of_lt (by omega)
  -- Both lists are in order, so it is enough that they have the same members.
  refine List.Pairwise.eq_of_mem_iff (pairwise_everyIndex.filter _) ?_ ?_
  · refine List.pairwise_map.mpr (List.pairwise_lt_range.imp_of_mem ?_)
    intro k l hk hl hlt
    rw [Int32.lt_iff_toInt_lt, hofNat k (List.mem_range.mp hk), hofNat l (List.mem_range.mp hl)]
    omega
  · intro index
    rw [List.mem_filter, isSome_get?_iff, List.mem_map]
    constructor
    · -- An index that hits is not negative, so it is that of its own `Nat`.
      rintro ⟨-, -, hindex, hlt⟩
      refine ⟨index.toInt.toNat, List.mem_range.mpr (by omega), ?_⟩
      rw [← Int32.toInt_inj, hofNat _ (by omega), Int.toNat_of_nonneg hindex]
    · rintro ⟨k, hk, rfl⟩
      have hlt := List.mem_range.mp hk
      refine ⟨mem_everyIndex _, h, ?_⟩
      rw [hofNat k hlt]
      omega

/-- `items[k]?` for each place `k` in order gives `items` back. -/
theorem filterMap_getElem?_range {α : Type} (items : List α) :
    ((List.range items.length).filterMap fun k => items[k]?) = items := by
  induction items with
  | nil => rfl
  | cons item rest ih =>
    rw [List.length_cons, List.range_succ_eq_map, List.filterMap_cons, List.filterMap_map]
    exact congrArg (item :: ·) ih

/-- `get?` at `everyIndex`, misses left out, gives the table in order. -/
theorem filterMap_everyIndex {expected : Int32} (h : expected.toInt = table.size) :
    everyIndex.filterMap (fun index => table.get? index expected) = table.toList := by
  have hmax := expected.toInt_lt
  -- As the count is the length, each index of a slot is within the range of `Int32`.
  have hslots : ∀ k ∈ List.range table.size,
      table.get? (Int32.ofNat k) expected = table.toList[k]? := by
    intro k hk
    have hlt := List.mem_range.mp hk
    have hindex : (Int32.ofNat k).toInt = k := Int32.toInt_ofNat_of_lt (by omega)
    rw [get?, if_pos ⟨h, by omega⟩, hindex, Int.toNat_natCast, Array.getElem?_toList]
  -- Without the misses the indices are those of the slots, and there the answers are the slots.
  calc everyIndex.filterMap (fun index => table.get? index expected)
      = (everyIndex.filter fun index => (table.get? index expected).isSome).filterMap
          fun index => table.get? index expected := by
        rw [List.filterMap_filter]
        refine List.filterMap_congr fun index _ => ?_
        cases table.get? index expected <;> rfl
    _ = (List.range table.size).filterMap fun k => table.get? (Int32.ofNat k) expected := by
        rw [filter_everyIndex h, List.filterMap_map]
        rfl
    _ = (List.range table.toList.length).filterMap fun k => table.toList[k]? := by
        rw [Array.length_toList]
        exact List.filterMap_congr hslots
    _ = table.toList := filterMap_getElem?_range table.toList

/-! ## All callers -/

/-- What `get?` makes of all questions, whatever their index and count. -/
structure HitsExactly (table : AddressTable) : Prop where
  get?_iff : ∀ index expected address, table.get? index expected = some address ↔
    0 ≤ expected.toInt ∧ expected.toInt = table.size ∧ 0 ≤ index.toInt ∧
      index.toInt < table.size ∧ table[index.toInt.toNat]? = some address
  /-- All callers who hit have told the same count. -/
  expected_eq : ∀ index other expected otherExpected,
    (table.get? index expected).isSome = true →
      (table.get? other otherExpected).isSome = true → expected = otherExpected
  /-- In a table that is empty, or longer than any count, nobody hits. -/
  get?_eq_none : table.size = 0 ∨ Int32.maxValue.toInt < table.size →
    ∀ index expected, table.get? index expected = none
  /-- In any other table the right count finds every slot. -/
  of_le_maxValue : table.size ≤ Int32.maxValue.toInt →
    (Int32.ofNat table.size).toInt = table.size ∧
      everyIndex.filterMap (fun index => table.get? index (Int32.ofNat table.size)) =
        table.toList ∧
      (everyIndex.filter fun index => (table.get? index (Int32.ofNat table.size)).isSome) =
        (List.range table.size).map Int32.ofNat

/-- `HitsExactly` holds of every table, also of an empty one and of one that is too long. -/
theorem hitsExactly (table : AddressTable) : table.HitsExactly := by
  have hvalue : Int32.maxValue.toInt = 0x7FFFFFFF := rfl
  refine { get?_iff := ?_, expected_eq := ?_, get?_eq_none := ?_, of_le_maxValue := ?_ }
  · intro index expected address
    rw [get?_eq_some_iff]
    -- What `get?_iff` says beyond `get?_eq_some_iff` follows from the length of the table.
    constructor
    · rintro ⟨hexpected, hindex, haddress⟩
      obtain ⟨hlt, -⟩ := Array.getElem?_eq_some_iff.mp haddress
      exact ⟨by omega, hexpected, hindex, by omega, haddress⟩
    · rintro ⟨-, hexpected, hindex, -, haddress⟩
      exact ⟨hexpected, hindex, haddress⟩
  · intro index other expected otherExpected hfirst hsecond
    obtain ⟨hexpected, -⟩ := isSome_get?_iff.mp hfirst
    obtain ⟨hother, -⟩ := isSome_get?_iff.mp hsecond
    exact Int32.toInt_inj.mp (hexpected.trans hother.symm)
  · intro hsize index expected
    -- A hit needs an index below the length, and a count that is the length.
    rw [← Option.not_isSome_iff_eq_none, isSome_get?_iff]
    rintro ⟨hexpected, hindex, hlt⟩
    have hmax := expected.toInt_le
    omega
  · intro hsize
    have hexpected : (Int32.ofNat table.size).toInt = table.size :=
      Int32.toInt_ofNat_of_lt (by omega)
    exact ⟨hexpected, filterMap_everyIndex hexpected, filter_everyIndex hexpected⟩

end AddressTable

end RuntimeSlots
