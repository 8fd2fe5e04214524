import RuntimeSlots.Bytes
import Mathlib.Data.List.TakeWhile

/-!
# Parts of byte strings

Where a byte string stands inside another one, and what the readers of byte strings find there.
`Bytes.slice?` and `Bytes.from?` are followed through concatenation; the searches `Bytes.findFrom?`,
`Bytes.find?` and `Bytes.before` are seen as searches of the list of bytes.

* `Bytes.HoldsAt` says that a part stands at an offset.
* `Bytes.holdsAt_append_iff` takes a part apart, and `Bytes.HoldsAt.slice?` reads inside it.
* `Bytes.startsWith_iff` is the case of a part at the beginning.
* `Bytes.find?_eq_findIdx?` and `Bytes.before_append` describe the searches.
-/

namespace RuntimeSlots.Bytes

theorem ext_toList {a b : Bytes} (h : a.data.toList = b.data.toList) : a = b :=
  ByteArray.ext (Array.toList_inj.mp h)

/-! ## Ranges -/

/-- The bytes of `part` stand in `bytes` from `offset` on. -/
def HoldsAt (bytes : Bytes) (offset : Nat) (part : Bytes) : Prop :=
  bytes.slice? offset part.size = some part

instance (bytes : Bytes) (offset : Nat) (part : Bytes) : Decidable (bytes.HoldsAt offset part) :=
  inferInstanceAs (Decidable (_ = _))

/-- `HoldsAt` without the `Option` of `slice?`: the range fits, and `part` is what it extracts. -/
theorem holdsAt_iff {bytes part : Bytes} {offset : Nat} :
    bytes.HoldsAt offset part ↔
      offset + part.size ≤ bytes.size ∧ bytes.extract offset (offset + part.size) = part := by
  unfold HoldsAt slice?
  split
  case isTrue hin => simp [hin]
  case isFalse hout => simp [hout]

theorem HoldsAt.le_size {bytes part : Bytes} {offset : Nat} (h : bytes.HoldsAt offset part) :
    offset + part.size ≤ bytes.size :=
  (holdsAt_iff.mp h).1

/-- `HoldsAt` for a part whose size is known as a number. -/
theorem HoldsAt.slice?_of_size {bytes part : Bytes} {offset size : Nat}
    (h : bytes.HoldsAt offset part) (hsize : part.size = size) :
    bytes.slice? offset size = some part := by
  rw [← hsize]
  exact h

theorem holdsAt_zero_self (bytes : Bytes) : bytes.HoldsAt 0 bytes := by
  rw [holdsAt_iff]
  exact ⟨by omega, by simp⟩

/-- A range of `part` is the range of `bytes` that lies `offset` further on. -/
theorem HoldsAt.slice? {bytes part : Bytes} {offset : Nat} (h : bytes.HoldsAt offset part)
    (start length : Nat) (hin : start + length ≤ part.size) :
    bytes.slice? (offset + start) length = some (part.extract start (start + length)) := by
  obtain ⟨hfits, hextract⟩ := holdsAt_iff.mp h
  -- A range of a range is a range, and the outer one is `part`.
  have hrange : bytes.extract (offset + start) (offset + start + length) =
      part.extract start (start + length) := by
    calc bytes.extract (offset + start) (offset + start + length)
        = (bytes.extract offset (offset + part.size)).extract start (start + length) := by
          rw [ByteArray.extract_extract, Nat.min_eq_left (by omega), Nat.add_assoc]
      _ = part.extract start (start + length) := by rw [hextract]
  rw [Bytes.slice?, if_pos (by omega), hrange]

/-- Two parts stand one behind the other just if the first stands at the offset, and the second
where the first ends. -/
theorem holdsAt_append_iff {bytes first second : Bytes} {offset : Nat} :
    bytes.HoldsAt offset (first ++ second) ↔
      bytes.HoldsAt offset first ∧ bytes.HoldsAt (offset + first.size) second := by
  constructor
  · -- Both parts are ranges of what stands at the offset.
    intro h
    have hfirst := h.slice? 0 first.size (by simp)
    have hsecond := h.slice? first.size second.size (by simp)
    rw [Nat.zero_add, ByteArray.extract_append_eq_left rfl] at hfirst
    rw [ByteArray.extract_append_eq_right rfl rfl] at hsecond
    exact ⟨hfirst, hsecond⟩
  · rintro ⟨hfirst, hsecond⟩
    -- The two ranges touch, so they are one range.
    obtain ⟨-, hextract₁⟩ := holdsAt_iff.mp hfirst
    obtain ⟨hfits, hextract₂⟩ := holdsAt_iff.mp hsecond
    rw [holdsAt_iff, ByteArray.size_append, ← Nat.add_assoc]
    refine ⟨hfits, ?_⟩
    rw [ByteArray.extract_eq_extract_append_extract (offset + first.size) (by omega) (by omega),
      hextract₁, hextract₂]

/-- `HoldsAt` survives a cut at `k`, if that is not before the end of the part. -/
theorem HoldsAt.extract_zero {bytes part : Bytes} {offset k : Nat} (h : bytes.HoldsAt offset part)
    (hk : offset + part.size ≤ k) : HoldsAt (bytes.extract 0 k) offset part := by
  obtain ⟨hfits, hextract⟩ := holdsAt_iff.mp h
  rw [holdsAt_iff, ByteArray.size_extract, ByteArray.extract_extract, Nat.zero_add, Nat.zero_add,
    Nat.min_eq_left hk]
  exact ⟨by omega, hextract⟩

/-- `from?` at the offset of a part begins with the part. -/
theorem HoldsAt.exists_from? {bytes part : Bytes} {offset : Nat} (h : bytes.HoldsAt offset part) :
    ∃ rest, bytes.from? offset = some (part ++ rest) := by
  obtain ⟨hfits, hextract⟩ := holdsAt_iff.mp h
  refine ⟨bytes.extract (offset + part.size) bytes.size, ?_⟩
  rw [from?, if_pos (by omega),
    ByteArray.extract_eq_extract_append_extract (offset + part.size) (by omega) hfits, hextract]

theorem holdsAt_size_append (before part after : Bytes) :
    Bytes.HoldsAt (before ++ part ++ after) before.size part := by
  have hfront := (holdsAt_append_iff.mp (holdsAt_zero_self (before ++ part ++ after))).1
  simpa using (holdsAt_append_iff.mp hfront).2

/-! ## Beginnings -/

theorem holdsAt_zero_append (first second : Bytes) : Bytes.HoldsAt (first ++ second) 0 first :=
  (holdsAt_append_iff.mp (holdsAt_zero_self (first ++ second))).1

/-- `startsWith` compares the first bytes, and fails if there are not enough of them. -/
theorem startsWith_iff {bytes start : Bytes} :
    bytes.startsWith start = true ↔ bytes.HoldsAt 0 start := by
  -- The comparison of byte strings compares their arrays.
  have hbeq : ∀ a b : Bytes, (a == b) = true ↔ a = b := fun a b => by
    rw [ByteArray.ext_iff, ← beq_iff_eq (a := a.data)]
    rfl
  rw [startsWith, hbeq, holdsAt_iff, Nat.zero_add]
  constructor
  · intro h
    -- `extract` cuts off what is missing, so equality tells that nothing is.
    have hsize := congrArg ByteArray.size h
    rw [ByteArray.size_extract] at hsize
    exact ⟨by omega, h⟩
  · exact And.right

theorem startsWith_append (start rest : Bytes) : Bytes.startsWith (start ++ rest) start = true :=
  startsWith_iff.mpr (holdsAt_zero_append start rest)

/-- `startsWith` as the prefix relation of the lists of bytes. -/
theorem startsWith_iff_isPrefix {bytes start : Bytes} :
    bytes.startsWith start = true ↔ start.data.toList <+: bytes.data.toList := by
  rw [startsWith_iff, holdsAt_iff, List.prefix_iff_eq_take, Nat.zero_add]
  constructor
  · rintro ⟨-, hextract⟩
    have hlist := congrArg (·.data.toList) hextract
    simpa [List.extract_eq_take_drop] using hlist.symm
  · -- As the list is a prefix, it is no longer than the whole.
    intro htake
    have hsize := congrArg List.length htake
    simp only [List.length_take, Array.length_toList, ByteArray.size_data] at hsize
    refine ⟨by omega, ext_toList ?_⟩
    simpa [List.extract_eq_take_drop] using htake.symm

/-! ## Searches -/

theorem getElem?_eq_getElem?_toList (bytes : Bytes) (i : Nat) :
    bytes[i]? = bytes.data.toList[i]? := by
  rw [Array.getElem?_toList]
  rfl

/-- `findFrom?` searches the `count` bytes from `start` on, and tells the position in the whole. -/
theorem findFrom?_eq_findIdx? (bytes : Bytes) (test : UInt8 → Bool) (start count : Nat) :
    bytes.findFrom? test start count =
      (((bytes.data.toList.drop start).take count).findIdx? test).map (· + start) := by
  -- Induction on how many positions are left to search, for every place where the search begins.
  induction count generalizing start with
  | zero => simp [findFrom?]
  | succ count ih =>
    rw [findFrom?, getElem?_eq_getElem?_toList, ih]
    cases hdrop : bytes.data.toList.drop start with
    | nil =>
      -- The search has run over the end, where no byte passes the test.
      have hpast : bytes.data.toList.length ≤ start := List.drop_eq_nil_iff.mp hdrop
      simp [List.getElem?_eq_none hpast, List.drop_eq_nil_of_le (Nat.le_succ_of_le hpast)]
    | cons head tail =>
      -- The head of the list is the byte at `start`, its tail what the search goes on with.
      have hhead : bytes.data.toList[start]? = some head := by
        rw [← List.head?_drop, hdrop, List.head?_cons]
      have htail : bytes.data.toList.drop (start + 1) = tail := by
        rw [← List.tail_drop, hdrop, List.tail_cons]
      rw [hhead, htail, List.take_succ_cons, List.findIdx?_cons]
      cases htest : test head with
      | true => simp [htest]
      | false => simp [htest, Function.comp_def, Nat.add_comm, Nat.add_left_comm]

theorem find?_eq_findIdx? (bytes : Bytes) (test : UInt8 → Bool) :
    bytes.find? test = bytes.data.toList.findIdx? test := by
  have hall : bytes.data.toList.take bytes.size = bytes.data.toList :=
    List.take_of_length_le (by simp)
  simp [find?, findFrom?_eq_findIdx?, hall]

/-- `before` takes bytes as long as they are not the given one; if it never comes, it takes all. -/
theorem toList_before (bytes : Bytes) (byte : UInt8) :
    (bytes.before byte).data.toList = bytes.data.toList.takeWhile (· != byte) := by
  have hall : bytes.data.toList.take bytes.size = bytes.data.toList :=
    List.take_of_length_le (by simp)
  have hstop : (fun b : UInt8 => !(b != byte)) = (· == byte) := by
    funext b
    exact Bool.not_not (b == byte)
  -- `takeWhile` stops where the negated test first holds, which is where `find?` finds the byte.
  rw [List.takeWhile_eq_take_findIdx_not, hstop, List.findIdx_eq_getD_findIdx?, before,
    find?_eq_findIdx?]
  cases bytes.data.toList.findIdx? (· == byte) with
  | none => simp [hall]
  | some position => simp

/-- `before` gives back a part without the byte, if the byte or the end follows. -/
theorem before_append {part rest : Bytes} {byte : UInt8} (habsent : byte ∉ part.data.toList)
    (hends : ∀ b ∈ rest.data.toList.head?, b = byte) :
    Bytes.before (part ++ rest) byte = part := by
  apply ext_toList
  rw [toList_before, ByteArray.toList_data_append, List.takeWhile_append_of_pos]
  · -- What follows the part stops the search at once.
    cases hrest : rest.data.toList with
    | nil => simp
    | cons head tail =>
      have hhead : head = byte := hends head (by simp [hrest])
      simp [hhead]
  · intro b hb
    rw [bne_iff_ne]
    rintro rfl
    exact habsent hb

end RuntimeSlots.Bytes
