import RuntimeSlots.Proofs.Bytes.Ranges
import RuntimeSlots.Text.Utf8

/-!
# Strings in tables

A name in a binary file either ends at a zero byte, where `Bytes.cString?` finds its end, or it
begins a field of fixed width, which is filled up with zero bytes.

* `Bytes.terminated` writes a string with its end, `Bytes.cString?_of_holdsAt` reads it.
* `Bytes.padded` writes a field, `Bytes.before_padded` reads it.
* `Bytes.toText?_toUTF8` reads the bytes of a text as the text.
-/

namespace RuntimeSlots.Bytes

/-- The string and the zero byte that ends it. -/
def terminated (name : Bytes) : Bytes := name ++ ⟨#[0]⟩

@[simp]
theorem size_terminated (name : Bytes) : (terminated name).size = name.size + 1 := by
  rw [terminated, ByteArray.size_append]
  rfl

/-- `HoldsAt` as a prefix of the list of bytes from the offset on. -/
theorem HoldsAt.isPrefix_drop {bytes part : Bytes} {offset : Nat} (h : bytes.HoldsAt offset part) :
    part.data.toList <+: bytes.data.toList.drop offset := by
  have hlist := congrArg (·.data.toList) (holdsAt_iff.mp h).2
  rw [← hlist]
  simpa [List.extract_eq_take_drop] using List.take_prefix ..

/-- `cString?` reads a name without zero bytes where it stands `terminated`, if the range from
`start` to `stop` reaches over the zero byte that ends it. -/
theorem cString?_of_holdsAt {bytes name : Bytes} {start stop : Nat}
    (h : bytes.HoldsAt start (terminated name)) (habsent : 0 ∉ name.data.toList)
    (hinside : start + name.size < stop) (hstop : stop ≤ bytes.size) :
    bytes.cString? start stop = some name := by
  have hname := (holdsAt_append_iff.mp h).1
  -- What is searched begins with the name and its end.
  obtain ⟨after, hafter⟩ : (terminated name).data.toList <+:
      (bytes.data.toList.drop start).take (stop - start) := by
    refine List.prefix_take_iff.mpr ⟨h.isPrefix_drop, ?_⟩
    rw [Array.length_toList, ByteArray.size_data, size_terminated]
    omega
  have hsearched : (bytes.data.toList.drop start).take (stop - start) =
      name.data.toList ++ 0 :: after := by
    simpa [terminated] using hafter.symm
  -- No byte of the name is zero, so the search stops at its end.
  have hfound : (name.data.toList ++ 0 :: after).findIdx? (· == 0) = some name.size := by
    have hnone : name.data.toList.findIdx? (· == 0) = none := by
      rw [List.findIdx?_eq_none_iff]
      intro b hb
      rw [beq_eq_false_iff_ne]
      rintro rfl
      exact habsent hb
    simp [List.findIdx?_append, hnone, List.findIdx?_cons]
  rw [cString?, if_pos ⟨by omega, hstop⟩, findFrom?_eq_findIdx?, hsearched, hfound, Option.map_some,
    Option.map_some, Nat.add_comm, (holdsAt_iff.mp hname).2]

/-- A field of the given width that begins with `text`; zero bytes follow. -/
def padded (width : Nat) (text : Bytes) : Bytes :=
  text ++ (List.replicate (width - text.size) 0).toByteArray

theorem size_padded {width : Nat} {text : Bytes} (h : text.size ≤ width) :
    (padded width text).size = width := by
  simp only [padded, ByteArray.size_append, List.size_toByteArray, List.length_replicate]
  omega

/-- `before` reads a text without zero bytes back from its field; the field may also be full. -/
theorem before_padded {width : Nat} {text : Bytes} (h : 0 ∉ text.data.toList) :
    (padded width text).before 0 = text := by
  apply before_append h
  intro b hb
  exact List.eq_of_mem_replicate (List.mem_of_mem_head? (by simpa using hb))

/-- `toText?` reads the UTF-8 bytes of a text as the text. -/
theorem toText?_toUTF8 (text : String) : toText? text.toUTF8 = some text :=
  dif_pos text.isValidUTF8

end RuntimeSlots.Bytes
