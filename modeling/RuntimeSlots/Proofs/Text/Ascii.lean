import RuntimeSlots.Proofs.Bytes.Ranges
import RuntimeSlots.Text.Utf8
import Mathlib.Algebra.Group.Nat.Defs
import Mathlib.Data.List.Basic
import Mathlib.Tactic.SplitIfs

/-!
# ASCII text

`Bytes.toTextLossy` reads bytes below `0x80` as characters of their own, so a byte string of them is
read byte by byte, and nothing in it is ill-formed.  No other byte string is read as the same text,
because `Utf8.step` reads what begins with any other byte as a character beyond ASCII.

* `Bytes.IsAscii.toTextLossy` reads ASCII bytes.
* `Utf8.le_toNat_step` is about all other bytes.
* `Bytes.IsAscii.toTextLossy_eq_iff` finds the bytes from which an ASCII text was read.
-/

namespace RuntimeSlots

/-- Every byte is an ASCII character. -/
def Bytes.IsAscii (bytes : Bytes) : Prop := ∀ b ∈ bytes.data.toList, b < 0x80

instance (bytes : Bytes) : Decidable bytes.IsAscii :=
  List.decidableBAll _ bytes.data.toList

/-- The text in which every byte is the character of its number. -/
def Bytes.asciiText (bytes : Bytes) : String :=
  String.ofList (bytes.data.toList.map fun b => Char.ofNat b.toNat)

/-- `Utf8.lossy` takes one byte for each character, as long as all of them are ASCII. -/
theorem Utf8.lossy_of_ascii {bytes : List UInt8} (h : ∀ b ∈ bytes, b < 0x80) :
    Utf8.lossy bytes = bytes.map fun b => Char.ofNat b.toNat := by
  induction bytes with
  | nil => rw [Utf8.lossy, List.map_nil]
  | cons first rest ih =>
    -- The first byte is a character, and no further byte is taken for it.
    have hstep : Utf8.step first rest = (Char.ofNat first.toNat, 0) := by
      rw [Utf8.step, if_pos (h first (List.mem_cons_self ..))]
    have hrest : ∀ b ∈ rest, b < 0x80 := fun b hb => h b (List.mem_cons_of_mem _ hb)
    rw [Utf8.lossy, hstep, List.drop_zero, ih hrest, List.map_cons]

/-- `toTextLossy` reads ASCII bytes as `asciiText`. -/
theorem Bytes.IsAscii.toTextLossy {bytes : Bytes} (h : bytes.IsAscii) :
    bytes.toTextLossy = bytes.asciiText := by
  rw [Bytes.toTextLossy, Utf8.lossy_of_ascii h, Bytes.asciiText]

/-! ## Bytes beyond ASCII -/

namespace Utf8

/-- If `tail` finds as many bytes behind a lead byte as it asks for, the first of them is between
`Lead.low` and `Lead.high`. -/
theorem tail_eq_cons {lead : Lead} {rest : List UInt8} (hpos : 0 < lead.tail)
    (hlength : (tail lead rest).length = lead.tail) :
    ∃ second others, tail lead rest = second :: others ∧ others.length + 1 = lead.tail ∧
      lead.low ≤ second ∧ second ≤ lead.high := by
  cases rest with
  | nil =>
    rw [tail, List.length_nil] at hlength
    omega
  | cons second rest =>
    rw [tail] at hlength ⊢
    split at hlength
    case isTrue hbounds =>
      rw [if_pos hbounds]
      exact ⟨second, _, rfl, hlength, hbounds⟩
    case isFalse =>
      -- A second byte out of bounds ends the tail before it has begun.
      rw [List.length_nil] at hlength
      omega

/-- Each further byte adds a digit to base 64, so `bytes` move the number only within the range that
`value` and its successor span. -/
theorem foldl_digits_bounds (value : Nat) (bytes : List UInt8) :
    value * 64 ^ bytes.length ≤
        bytes.foldl (fun value byte => value * 64 + byte.toNat % 64) value ∧
      bytes.foldl (fun value byte => value * 64 + byte.toNat % 64) value <
        (value + 1) * 64 ^ bytes.length := by
  -- Induction on the bytes that are left, for any number read before them.
  induction bytes generalizing value with
  | nil => simp
  | cons byte rest ih =>
    obtain ⟨hlow, hhigh⟩ := ih (value * 64 + byte.toNat % 64)
    rw [List.foldl_cons, List.length_cons, Nat.pow_succ']
    constructor
    · refine Nat.le_trans ?_ hlow
      rw [← Nat.mul_assoc]
      exact Nat.mul_le_mul_right _ (Nat.le_add_right ..)
    · refine Nat.lt_of_lt_of_le hhigh ?_
      rw [← Nat.mul_assoc]
      exact Nat.mul_le_mul_right _ (by omega)

/-- The number that `scalar` has after the lead byte and the byte behind it. -/
def scalarStart (first : UInt8) (lead : Lead) (second : UInt8) : Nat :=
  first.toNat % (1 <<< (6 - lead.tail)) * 64 + second.toNat % 64

/-- Whatever digits follow `scalarStart`, the number is that of a character beyond ASCII: the bounds
of the second byte in `lead?` keep it from being overlong, a surrogate or too great. -/
theorem isValidChar_of_scalarStart {first second : UInt8} {lead : Lead} {n : Nat}
    (hlead : lead? first = some lead) (hlow : lead.low ≤ second) (hhigh : second ≤ lead.high)
    (hfrom : scalarStart first lead second * 64 ^ (lead.tail - 1) ≤ n)
    (hto : n < (scalarStart first lead second + 1) * 64 ^ (lead.tail - 1)) :
    0x80 ≤ n ∧ n.isValidChar := by
  -- One case for each kind of lead byte, where all numbers are known.
  rw [lead?] at hlead
  simp only [UInt8.lt_iff_toNat_lt, ← UInt8.toNat_inj, UInt8.reduceToNat] at hlead
  split_ifs at hlead <;> cases hlead <;>
    simp only [UInt8.le_iff_toNat_le, UInt8.reduceToNat, scalarStart, Nat.reduceSub,
      Nat.reduceShiftLeft, Nat.reducePow, Nat.isValidChar] at hlow hhigh hfrom hto ⊢ <;> omega

theorem toNat_ofNat {n : Nat} (h : n.isValidChar) : (Char.ofNat n).toNat = n := by
  rw [Char.ofNat, dif_pos h]
  rfl

/-- Where all bytes that a lead byte asks for are there, `scalar` is a character beyond ASCII. -/
theorem le_toNat_scalar {first : UInt8} {lead : Lead} {rest : List UInt8}
    (hlead : lead? first = some lead) (hlength : (tail lead rest).length = lead.tail) :
    0x80 ≤ (Char.ofNat (scalar first lead (tail lead rest))).toNat := by
  -- Every lead byte in the table asks for one byte at least.
  have hpos : 0 < lead.tail := by
    rw [lead?] at hlead
    split_ifs at hlead <;> cases hlead <;> decide
  obtain ⟨second, others, htail, hothers, hlow, hhigh⟩ := tail_eq_cons hpos hlength
  -- The bytes behind the first two only add lower digits.
  obtain ⟨hfrom, hto⟩ := foldl_digits_bounds (scalarStart first lead second) others
  rw [show others.length = lead.tail - 1 by omega] at hfrom hto
  obtain ⟨hlarge, hvalid⟩ := isValidChar_of_scalarStart hlead hlow hhigh hfrom hto
  have hscalar : scalar first lead (tail lead rest) =
      others.foldl (fun value byte => value * 64 + byte.toNat % 64)
        (scalarStart first lead second) := by
    rw [htail]
    rfl
  rwa [hscalar, toNat_ofNat hvalid]

theorem le_toNat_replacement : 0x80 ≤ '\uFFFD'.toNat := by decide

/-- `step` reads no ASCII character from a byte beyond ASCII: it is a character of several bytes, or
the replacement character. -/
theorem le_toNat_step {first : UInt8} (h : ¬ first < 0x80) (rest : List UInt8) :
    0x80 ≤ (step first rest).1.toNat := by
  rw [step, if_neg h]
  cases hlead : lead? first with
  | none => exact le_toNat_replacement
  | some lead =>
    dsimp only
    -- All bytes that the lead byte asks for are there, or there is nothing to read.
    split
    case isTrue hlength => exact le_toNat_scalar hlead hlength
    case isFalse => exact le_toNat_replacement

/-- If `lossy` reads only ASCII characters, it has read only ASCII bytes. -/
theorem ascii_of_lossy {bytes : List UInt8} (h : ∀ c ∈ lossy bytes, c.toNat < 0x80) :
    ∀ b ∈ bytes, b < 0x80 := by
  -- Induction on the bytes; a first byte beyond ASCII would give a character beyond ASCII.
  induction bytes with
  | nil => simp
  | cons first rest ih =>
    rw [lossy] at h
    have hfirst : first < 0x80 := by
      by_contra hnot
      have hstep := h _ (List.mem_cons_self ..)
      have hlarge := le_toNat_step hnot rest
      omega
    -- The first byte is a character, and the others are read on their own.
    have hrest : ∀ b ∈ rest, b < 0x80 := by
      apply ih
      intro c hc
      apply h c
      rw [step, if_pos hfirst]
      exact List.mem_cons_of_mem _ hc
    exact List.forall_mem_cons.mpr ⟨hfirst, hrest⟩

end Utf8

namespace Bytes

/-- An ASCII character has the number of its byte. -/
theorem toNat_ofNat_toNat {b : UInt8} (h : b < 0x80) : (Char.ofNat b.toNat).toNat = b.toNat := by
  have hlt : b.toNat < 0x80 := UInt8.lt_iff_toNat_lt.mp h
  exact Utf8.toNat_ofNat (Or.inl (by omega))

/-- The numbers of the characters of `asciiText` are those of the bytes. -/
theorem IsAscii.map_asciiText {bytes : Bytes} (h : bytes.IsAscii) :
    bytes.asciiText.toList.map Char.toNat = bytes.data.toList.map UInt8.toNat := by
  rw [asciiText, String.toList_ofList, List.map_map]
  exact List.map_congr_left fun b hb => toNat_ofNat_toNat (h b hb)

/-- `toTextLossy` reads an ASCII text from its own bytes only. -/
theorem IsAscii.toTextLossy_eq_iff {bytes text : Bytes} (h : text.IsAscii) :
    bytes.toTextLossy = text.asciiText ↔ bytes = text := by
  constructor
  · intro heq
    have hascii : bytes.IsAscii := by
      apply Utf8.ascii_of_lossy
      intro c hc
      -- The character is one of the text, and so has the number of one of its bytes.
      have hnumber : c.toNat ∈ text.asciiText.toList.map Char.toNat := by
        rw [← heq, Bytes.toTextLossy, String.toList_ofList]
        exact List.mem_map_of_mem hc
      rw [h.map_asciiText] at hnumber
      obtain ⟨b, hb, hbc⟩ := List.mem_map.mp hnumber
      rw [← hbc]
      exact UInt8.lt_iff_toNat_lt.mp (h b hb)
    -- Both are ASCII, so the characters tell the bytes.
    have hnumbers : bytes.data.toList.map UInt8.toNat = text.data.toList.map UInt8.toNat := by
      rw [← hascii.map_asciiText, ← h.map_asciiText, ← hascii.toTextLossy, heq]
    exact ext_toList (List.map_injective_iff.mpr (fun _ _ => UInt8.toNat_inj.mp) hnumbers)
  · rintro rfl
    exact h.toTextLossy

end Bytes

end RuntimeSlots
