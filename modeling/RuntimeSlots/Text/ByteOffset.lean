/-!
# Offsets in text

An offset in a text counts the bytes in front of it, as the text is encoded in UTF-8.  Not every
offset can divide the text: one within a character cannot.

* `Text.byteWidth` is the offset behind a text.
* `Text.takeBytes?` and `Text.dropBytes?` are what stands in front of an offset and behind it.
* `Text.slice?` is what stands between two offsets.
-/

namespace RuntimeSlots.Text

/-- How many bytes a text takes. -/
def byteWidth : List Char → Nat
  | [] => 0
  | char :: rest => char.utf8Size + byteWidth rest

/-- What stands in front of an offset. -/
def takeBytes? : (offset : Nat) → List Char → Option (List Char)
  | 0, _ => some []
  | _ + 1, [] => none
  | offset + 1, c :: text =>
    if c.utf8Size ≤ offset + 1 then (takeBytes? (offset + 1 - c.utf8Size) text).map (c :: ·)
    else none

/-- What stands behind an offset. -/
def dropBytes? : (offset : Nat) → List Char → Option (List Char)
  | 0, text => some text
  | _ + 1, [] => none
  | offset + 1, c :: text =>
    if c.utf8Size ≤ offset + 1 then dropBytes? (offset + 1 - c.utf8Size) text else none

/-- What stands between two offsets. -/
def slice? (start stop : Nat) (text : List Char) : Option (List Char) := do
  dropBytes? start (← takeBytes? stop text)

end RuntimeSlots.Text
