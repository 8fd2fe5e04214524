import RuntimeSlots.Bytes

/-!
# Text from bytes

Names in object files are bytes that ought to be UTF-8.  `Bytes.toText?` accepts only well-formed
text; `Bytes.toTextLossy` always answers, with a replacement character for every ill-formed part.

An ill-formed part is as long as it could still have been the start of a character: the lead byte
and those bytes after it that were allowed in their places.
-/

namespace RuntimeSlots

namespace Utf8

/-- What a lead byte asks of the bytes after it. -/
structure Lead where
  /-- How many bytes follow. -/
  tail : Nat
  /-- The least allowed second byte. -/
  low : UInt8
  /-- The greatest allowed second byte. -/
  high : UInt8
deriving DecidableEq, Repr

/-- What `byte` announces as the first byte of a character of more than one byte.  The bounds on
the second byte exclude overlong forms, surrogates, and numbers beyond the last character. -/
def lead? (byte : UInt8) : Option Lead :=
  if byte < 0xC2 then none
  else if byte < 0xE0 then some ⟨1, 0x80, 0xBF⟩
  else if byte = 0xE0 then some ⟨2, 0xA0, 0xBF⟩
  else if byte = 0xED then some ⟨2, 0x80, 0x9F⟩
  else if byte < 0xF0 then some ⟨2, 0x80, 0xBF⟩
  else if byte = 0xF0 then some ⟨3, 0x90, 0xBF⟩
  else if byte < 0xF4 then some ⟨3, 0x80, 0xBF⟩
  else if byte = 0xF4 then some ⟨3, 0x80, 0x8F⟩
  else none

/-- The bytes that may stand after the lead byte, as far as they do: at most `lead.tail` of them,
the first between the bounds, the others in the range of continuation bytes. -/
def tail (lead : Lead) : List UInt8 → List UInt8
  | [] => []
  | second :: rest =>
    if lead.low ≤ second ∧ second ≤ lead.high then
      second :: (rest.take (lead.tail - 1)).takeWhile fun byte => 0x80 ≤ byte && byte ≤ 0xBF
    else []

/-- The number of the character with the given lead byte and continuation bytes. -/
def scalar (first : UInt8) (lead : Lead) (rest : List UInt8) : Nat :=
  rest.foldl (fun value byte => value * 64 + byte.toNat % 64)
    (first.toNat % (1 <<< (6 - lead.tail)))

/-- The character at the head of `first :: rest`, and how many bytes of `rest` belong to it. -/
def step (first : UInt8) (rest : List UInt8) : Char × Nat :=
  if first < 0x80 then (Char.ofNat first.toNat, 0)
  else
    match lead? first with
    | none => ('\uFFFD', 0)
    | some lead =>
      let found := tail lead rest
      -- Bytes that were allowed in their places are replaced together with the lead byte.
      if found.length = lead.tail then (Char.ofNat (scalar first lead found), found.length)
      else ('\uFFFD', found.length)

/-- The characters of a byte string, with a replacement character for each ill-formed part. -/
def lossy : List UInt8 → List Char
  | [] => []
  | first :: rest => (step first rest).1 :: lossy (rest.drop (step first rest).2)
termination_by bytes => bytes.length

end Utf8

namespace Bytes

/-- The text that the bytes encode, if they are well-formed UTF-8. -/
def toText? (bytes : Bytes) : Option String := String.fromUTF8? bytes

/-- The text that the bytes encode, with a replacement character for each ill-formed part. -/
def toTextLossy (bytes : Bytes) : String := String.ofList (Utf8.lossy bytes.data.toList)

end Bytes

end RuntimeSlots
