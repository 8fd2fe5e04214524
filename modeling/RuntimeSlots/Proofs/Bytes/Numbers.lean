import RuntimeSlots.Proofs.Bytes.Ranges
import Mathlib.Algebra.Group.Nat.Defs

/-!
# Written numbers and records

Binary formats lay out numbers of fixed widths one after another, and arrays of records of one
size.  `Bytes.number` and `Bytes.records` read them back wherever they stand.

* `Bytes.little` writes a number with its lowest byte first, `Bytes.number_of_holdsAt` reads it.
* `Bytes.concat` puts parts one behind another, `Bytes.records_concat` takes records apart again.
-/

namespace RuntimeSlots

/-! ## Numbers -/

namespace ByteOrder

/-- The `width` lowest digits of a number to base 256, the lowest first. -/
def lowestFirst : (width n : Nat) → List UInt8
  | 0, _ => []
  | width + 1, n => UInt8.ofNat n :: lowestFirst width (n / 256)

@[simp]
theorem length_lowestFirst (width n : Nat) : (lowestFirst width n).length = width := by
  induction width generalizing n with
  | zero => rfl
  | succ width ih => rw [lowestFirst, List.length_cons, ih]

/-- `ofLowestFirst` reads the digits back, up to what does not fit into `width` of them. -/
theorem ofLowestFirst_lowestFirst (width n : Nat) :
    ofLowestFirst (lowestFirst width n) = n % 256 ^ width := by
  induction width generalizing n with
  | zero => simp [lowestFirst, ofLowestFirst, Nat.mod_one]
  | succ width ih =>
    have hdigit : (UInt8.ofNat n).toNat = n % 256 := UInt8.toNat_ofNat'
    have hstep : ofLowestFirst (lowestFirst (width + 1) n) =
        (UInt8.ofNat n).toNat + 256 * ofLowestFirst (lowestFirst width (n / 256)) := rfl
    -- By the induction hypothesis the rest of the digits is `n / 256`, modulo one power less.
    rw [hstep, ih, hdigit, Nat.pow_succ', Nat.mod_mul]

end ByteOrder

namespace Bytes

/-- A number in `width` bytes, the lowest byte first. -/
def little (width n : Nat) : Bytes := (ByteOrder.lowestFirst width n).toByteArray

@[simp]
theorem size_little (width n : Nat) : (little width n).size = width := by
  simp [little]

/-- `number` reads back what `little` wrote, wherever it stands, if it fits the width. -/
theorem number_of_holdsAt {bytes : Bytes} {offset width n : Nat}
    (h : bytes.HoldsAt offset (little width n)) (hn : n < 256 ^ width) :
    bytes.number .little offset width = n := by
  have hextract := (holdsAt_iff.mp h).2
  rw [size_little] at hextract
  -- What stands there are the digits of the number, and none was cut off.
  have hlist : (little width n).data.toList = ByteOrder.lowestFirst width n := by
    simp [little]
  rw [number, ByteOrder.decode, hextract, hlist, ByteOrder.ofLowestFirst_lowestFirst,
    Nat.mod_eq_of_lt hn]

/-- Read in one byte, a byte string is its first byte, whatever follows. -/
theorem number_one_of_toList {bytes : Bytes} {first : UInt8} {rest : List UInt8}
    (h : bytes.data.toList = first :: rest) : bytes.number .little 0 1 = first.toNat := by
  have hfirst : (bytes.extract 0 (0 + 1)).data.toList = [first] := by
    simp [h, List.extract_eq_take_drop]
  rw [number, ByteOrder.decode, hfirst]
  simp [ByteOrder.ofLowestFirst]

/-! ## Parts of parts -/

/-- `HoldsAt` is transitive: what stands in a part stands in the whole, at the sum of the offsets.
-/
theorem HoldsAt.trans {bytes part inner : Bytes} {offset start : Nat}
    (h : bytes.HoldsAt offset part) (hinner : part.HoldsAt start inner) :
    bytes.HoldsAt (offset + start) inner := by
  obtain ⟨hfits, hextract⟩ := holdsAt_iff.mp hinner
  have hslice := h.slice? start inner.size hfits
  rwa [hextract] at hslice

/-- `slice?` cuts an empty range out anywhere up to the end. -/
theorem slice?_zero {bytes : Bytes} {offset : Nat} (h : offset ≤ bytes.size) :
    bytes.slice? offset 0 = some ByteArray.empty := by
  rw [slice?, Nat.add_zero, if_pos h]
  simp

/-- What stands in the whole stands in a range around it, `offset` further in front. -/
theorem HoldsAt.extract {bytes inner : Bytes} {offset start stop : Nat}
    (h : bytes.HoldsAt (offset + start) inner) (hstop : offset + start + inner.size ≤ stop) :
    HoldsAt (bytes.extract offset stop) start inner := by
  obtain ⟨hfits, hextract⟩ := holdsAt_iff.mp h
  have hinside : min (offset + (start + inner.size)) stop = offset + start + inner.size := by omega
  rw [holdsAt_iff, ByteArray.size_extract, ByteArray.extract_extract, hinside]
  exact ⟨by omega, hextract⟩

/-! ## Records -/

/-- The parts one behind another. -/
def concat : List Bytes → Bytes
  | [] => ByteArray.empty
  | part :: rest => part ++ concat rest

theorem concat_append (first second : List Bytes) :
    concat (first ++ second) = concat first ++ concat second := by
  induction first with
  | nil => simp [concat]
  | cons part rest ih => rw [List.cons_append, concat, ih, concat, ByteArray.append_assoc]

theorem size_concat {parts : List Bytes} {size : Nat} (h : ∀ part ∈ parts, part.size = size) :
    (concat parts).size = parts.length * size := by
  -- Induction on the records, each of which adds the same size.
  induction parts with
  | nil => simp [concat]
  | cons part rest ih =>
    have hpart := h part (List.mem_cons_self ..)
    have hrest := ih fun p hp => h p (List.mem_cons_of_mem _ hp)
    rw [concat, ByteArray.size_append, hpart, hrest, List.length_cons, Nat.succ_mul, Nat.add_comm]

/-- In `concat parts`, the record with number `i` stands behind `i` records of one size. -/
theorem holdsAt_concat {parts : List Bytes} {size : Nat} (h : ∀ part ∈ parts, part.size = size)
    {i : Nat} {part : Bytes} (hpart : parts[i]? = some part) :
    (concat parts).HoldsAt (i * size) part := by
  obtain ⟨hi, rfl⟩ := List.getElem?_eq_some_iff.mp hpart
  -- The records are those before number `i`, that one, and those behind it.
  have hsplit : concat parts =
      concat (parts.take i) ++ parts[i] ++ concat (parts.drop (i + 1)) := by
    calc concat parts
        = concat (parts.take i ++ parts[i] :: parts.drop (i + 1)) := by
          rw [← List.drop_eq_getElem_cons hi, List.take_append_drop]
      _ = _ := by rw [concat_append, concat, ByteArray.append_assoc]
  have hbefore : (concat (parts.take i)).size = i * size := by
    rw [size_concat fun p hp => h p (List.mem_of_mem_take hp), List.length_take_of_le hi.le]
  rw [hsplit, ← hbefore]
  exact holdsAt_size_append ..

/-- Every part stands somewhere in `concat parts`, whatever the sizes are. -/
theorem exists_holdsAt_concat {parts : List Bytes} {part : Bytes} (h : part ∈ parts) :
    ∃ offset, (concat parts).HoldsAt offset part := by
  obtain ⟨before, after, rfl⟩ := List.append_of_mem h
  refine ⟨(concat before).size, ?_⟩
  rw [concat_append, concat, ← ByteArray.append_assoc]
  exact holdsAt_size_append ..

/-- `records` takes `concat parts` apart again, if all parts have the same positive size. -/
theorem records_concat {parts : List Bytes} {size : Nat} (h : ∀ part ∈ parts, part.size = size)
    (hsize : 0 < size) : (concat parts).records size = parts := by
  have hcount : (concat parts).size / size = parts.length := by
    rw [size_concat h, Nat.mul_div_cancel _ hsize]
  -- `records` maps over the numbers of the records, so the lists are compared place by place.
  apply List.ext_getElem?
  intro i
  rw [records, hcount, List.getElem?_map]
  by_cases hi : i < parts.length
  · have hrecord := (holdsAt_iff.mp (holdsAt_concat h (List.getElem?_eq_getElem hi))).2
    rw [h _ (List.getElem_mem hi)] at hrecord
    rw [List.getElem?_range hi, Option.map_some, hrecord, List.getElem?_eq_getElem hi]
  · -- Both lists end before position `i`.
    rw [List.getElem?_eq_none (by simpa using hi), List.getElem?_eq_none (by omega),
      Option.map_none]

theorem size_of_mem_map_little {width : Nat} {numbers : List Nat} {part : Bytes}
    (h : part ∈ numbers.map (little width)) : part.size = width := by
  obtain ⟨n, -, rfl⟩ := List.mem_map.mp h
  exact size_little ..

/-- An array that `little` wrote is read back number by number, if all of them fit the width. -/
theorem numbers_concat {numbers : List Nat} {width : Nat} (h : ∀ n ∈ numbers, n < 256 ^ width)
    (hwidth : 0 < width) :
    ((concat (numbers.map (little width))).records width).map
      (fun record => record.number .little 0 width) = numbers := by
  have hnumber : ∀ n ∈ numbers, (little width n).number .little 0 width = n := fun n hn =>
    number_of_holdsAt (holdsAt_zero_self _) (h n hn)
  rw [records_concat (fun _ => size_of_mem_map_little) hwidth, List.map_map]
  exact (List.map_congr_left hnumber).trans (List.map_id _)

end Bytes

end RuntimeSlots
