/-!
# Byte strings

Reading ranges, numbers and terminated strings out of a byte string.  Every function is total: a
range that does not lie inside the bytes is answered with `none`.

* `Bytes.slice?` and `Bytes.alignedSlice?` cut out a range.
* `Bytes.number` reads the bytes of a range as a number in either byte order.
* `Bytes.cString?` reads a string that ends at a zero byte.
* `Window` is a range that remembers where in the file it lies, for formats that ask for
  alignment in the file.
-/

namespace RuntimeSlots

/-- A byte string. -/
abbrev Bytes := ByteArray

instance (priority := high) : DecidableEq Bytes := ByteArray.decEq

/-- Which byte of a number comes first. -/
inductive ByteOrder
  | little
  | big
deriving DecidableEq, Repr

namespace ByteOrder

/-- The number whose digits to base 256 are `digits`, the lowest first. -/
def ofLowestFirst (digits : List UInt8) : Nat :=
  digits.foldr (fun digit rest => digit.toNat + 256 * rest) 0

/-- The number whose bytes in this order are `digits`. -/
def decode : ByteOrder → List UInt8 → Nat
  | little, digits => ofLowestFirst digits
  | big, digits => ofLowestFirst digits.reverse

end ByteOrder

namespace Bytes

/-- The `length` bytes at `offset`, if all of them exist.  An empty range may lie at the end of
the bytes but not behind it. -/
def slice? (bytes : Bytes) (offset length : Nat) : Option Bytes :=
  if offset + length ≤ bytes.size then some (bytes.extract offset (offset + length)) else none

/-- The `length` bytes at `offset`, if all of them exist and `offset` is a multiple of
`alignment`, which is asked of an empty range too. -/
def alignedSlice? (bytes : Bytes) (alignment offset length : Nat) : Option Bytes :=
  if offset % alignment = 0 then bytes.slice? offset length else none

/-- The bytes from `offset` on, if `offset` is not behind the end. -/
def from? (bytes : Bytes) (offset : Nat) : Option Bytes :=
  if offset ≤ bytes.size then some (bytes.extract offset bytes.size) else none

/-- The number in the `width` bytes at `offset`.  The caller knows that they exist. -/
def number (order : ByteOrder) (bytes : Bytes) (offset width : Nat) : Nat :=
  order.decode (bytes.extract offset (offset + width)).data.toList

/-- The records of `size` bytes that fill the bytes; what is left over at the end is no record. -/
def records (bytes : Bytes) (size : Nat) : List Bytes :=
  (List.range (bytes.size / size)).map fun i => bytes.extract (i * size) (i * size + size)

/-- Whether `start` is how the bytes begin. -/
def startsWith (bytes start : Bytes) : Bool :=
  bytes.extract 0 start.size == start

/-- The first position from `start` on, among `count` positions, at which `test` holds. -/
def findFrom? (bytes : Bytes) (test : UInt8 → Bool) (start : Nat) : Nat → Option Nat
  | 0 => none
  | count + 1 =>
    if bytes[start]?.any test then some start else findFrom? bytes test (start + 1) count

/-- The first position at which `test` holds. -/
def find? (bytes : Bytes) (test : UInt8 → Bool) : Option Nat :=
  bytes.findFrom? test 0 bytes.size

/-- The bytes before the first `byte`, or all of them. -/
def before (bytes : Bytes) (byte : UInt8) : Bytes :=
  match bytes.find? (· == byte) with
  | some position => bytes.extract 0 position
  | none => bytes

/-- The string at `start` that ends at a zero byte in front of `stop`.  There is none if the range
does not lie inside the bytes. -/
def cString? (bytes : Bytes) (start stop : Nat) : Option Bytes :=
  if start ≤ stop ∧ stop ≤ bytes.size then
    (bytes.findFrom? (· == 0) start (stop - start)).map fun stop => bytes.extract start stop
  else none

/-- The bytes of a text that is written with ASCII letters only. -/
def ofText (text : String) : Bytes := text.toUTF8

end Bytes

/-- A range of a file together with its offset in the file. -/
structure Window where
  origin : Nat
  bytes : Bytes

namespace Window

/-- The `length` bytes at `position` of the window, if they exist and their place in the file is a
multiple of `alignment`. -/
def alignedSlice? (window : Window) (alignment position length : Nat) : Option Bytes :=
  if (window.origin + position) % alignment = 0 then window.bytes.slice? position length else none

end Window

end RuntimeSlots
