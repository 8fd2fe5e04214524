import RuntimeSlots.Archive.Header
import RuntimeSlots.Proofs.Bytes.Ranges
import Mathlib.Algebra.Group.Nat.Defs

/-!
# Fields of member headers

A header field is a text that is filled up with spaces.  A number in it is written in decimal
digits, and `Archive.number?` gives the number back.

* `Archive.fill` writes a field, `Archive.decimal` the digits of a number.
* `Archive.number?_decimal` reads the digits back in front of any spaces.
-/

namespace RuntimeSlots.Archive

/-! ## Filling up -/

/-- The bytes of `count` spaces. -/
def spaces (count : Nat) : Bytes := (List.replicate count space).toByteArray

@[simp]
theorem toList_spaces (count : Nat) : (spaces count).data.toList = List.replicate count space := by
  simp [spaces]

@[simp]
theorem size_spaces (count : Nat) : (spaces count).size = count := by
  simp [spaces]

/-- Behind a field's text comes a space or nothing, as `Bytes.before_append` wants it. -/
theorem mem_head?_spaces {count : Nat} {b : UInt8} (h : b ∈ (spaces count).data.toList.head?) :
    b = space := by
  rw [toList_spaces] at h
  exact List.eq_of_mem_replicate (List.mem_of_mem_head? h)

/-- A field of the given width that begins with `text`; spaces follow. -/
def fill (width : Nat) (text : Bytes) : Bytes := text ++ spaces (width - text.size)

theorem size_fill {width : Nat} {text : Bytes} (h : text.size ≤ width) :
    (fill width text).size = width := by
  simp only [fill, ByteArray.size_append, size_spaces]
  omega

/-! ## Numbers -/

/-- The decimal digits of a number. -/
def decimal (n : Nat) : Bytes := ((Nat.toDigits 10 n).map Char.toUInt8).toByteArray

theorem toList_decimal (n : Nat) :
    (decimal n).data.toList = (Nat.toDigits 10 n).map Char.toUInt8 := by
  simp [decimal]

theorem size_decimal_le {n width : Nat} (h : n < 10 ^ width) (hwidth : 0 < width) :
    (decimal n).size ≤ width := by
  simpa [decimal] using (Nat.length_toDigits_le_iff (by decide) hwidth).mpr h

/-- `isDigit` holds of the byte of a digit, and the byte has the digit's value. -/
theorem toUInt8_of_isDigit {c : Char} (h : c.isDigit = true) :
    isDigit c.toUInt8 = true ∧ c.toUInt8.toNat - 0x30 = c.toNat - '0'.toNat := by
  obtain ⟨hlow, hhigh⟩ : 48 ≤ c.toNat ∧ c.toNat ≤ 57 := by
    simpa [Char.isDigit, UInt32.le_iff_toNat_le] using h
  -- The number of a digit fits a byte, so nothing is cut off.
  have hbyte : c.toUInt8.toNat = c.toNat := by
    change c.val.toNat % 2 ^ 8 = c.val.toNat
    exact Nat.mod_eq_of_lt (by change c.val.toNat ≤ 57 at hhigh; omega)
  refine ⟨?_, by rw [hbyte]; rfl⟩
  rw [isDigit, Bool.and_eq_true, decide_eq_true_eq, decide_eq_true_eq, UInt8.le_iff_toNat_le,
    UInt8.le_iff_toNat_le, hbyte]
  exact ⟨hlow, hhigh⟩

/-- The fold of `ofDigits?` meets no byte that it gives up at, and computes `Nat.ofDigitChars`. -/
theorem foldlM_digits {digits : List Char} (h : ∀ c ∈ digits, c.isDigit = true) (value : Nat) :
    (digits.map Char.toUInt8).foldlM (fun value byte =>
      if isDigit byte then some (value * 10 + (byte.toNat - 0x30)) else none) value =
      some (Nat.ofDigitChars 10 digits value) := by
  -- Induction on the digits; `value` is what the digits before them were worth.
  induction digits generalizing value with
  | nil => simp
  | cons c rest ih =>
    obtain ⟨hdigit, hvalue⟩ := toUInt8_of_isDigit (h c (List.mem_cons_self ..))
    rw [List.map_cons, List.foldlM_cons, if_pos hdigit, hvalue, Option.bind_eq_bind,
      Option.bind_some, ih (fun c hc => h c (List.mem_cons_of_mem _ hc)), Nat.ofDigitChars_cons,
      Nat.mul_comm]

theorem isDigit_of_mem_decimal {n : Nat} {b : UInt8} (h : b ∈ (decimal n).data.toList) :
    isDigit b = true := by
  rw [toList_decimal, List.mem_map] at h
  obtain ⟨c, hc, rfl⟩ := h
  exact (toUInt8_of_isDigit (Nat.isDigit_of_mem_toDigits (by decide) (by decide) hc)).1

/-- `ofDigits?` reads back what `decimal` wrote. -/
theorem ofDigits?_decimal (n : Nat) : ofDigits? (decimal n).data.toList = some n := by
  rw [ofDigits?, toList_decimal, foldlM_digits, Nat.ofDigitChars_ten_toDigits]
  exact fun c hc => Nat.isDigit_of_mem_toDigits (by decide) (by decide) hc

theorem ne_space_of_isDigit {b : UInt8} (h : isDigit b = true) : b ≠ space := by
  rintro rfl
  exact absurd h (by decide)

theorem exists_decimal_cons (n : Nat) :
    ∃ first rest, (decimal n).data.toList = first :: rest ∧ isDigit first = true := by
  cases hdigits : (decimal n).data.toList with
  | nil =>
    rw [toList_decimal, List.map_eq_nil_iff] at hdigits
    exact absurd hdigits Nat.toDigits_ne_nil
  | cons first rest =>
    exact ⟨first, rest, rfl, isDigit_of_mem_decimal (by rw [hdigits]; exact List.mem_cons_self ..)⟩

/-- `number?` reads back what `decimal` wrote, in front of any spaces. -/
theorem number?_decimal {n : Nat} (h : n < 2 ^ 64) (count : Nat) :
    number? (decimal n ++ spaces count) = some n := by
  obtain ⟨first, rest, hdigits, hfirst⟩ := exists_decimal_cons n
  have hhead : (decimal n ++ spaces count).data.toList.head? = some first := by
    simp [hdigits]
  -- A digit is no space, so the number ends where the spaces begin.
  have hdigitsOnly : (decimal n ++ spaces count).data.toList.takeWhile (· != space) =
      (decimal n).data.toList := by
    rw [← Bytes.toList_before, Bytes.before_append]
    · exact fun hmem => ne_space_of_isDigit (isDigit_of_mem_decimal hmem) rfl
    · exact fun b hb => mem_head?_spaces hb
  have hne : some first ≠ some space := by
    simpa using ne_space_of_isDigit hfirst
  simp only [number?, hhead, hdigitsOnly]
  rw [if_neg hne, ofDigits?_decimal, Option.filter_some, if_pos (by simpa using h)]

end RuntimeSlots.Archive
