import RuntimeSlots.Proofs.Archive.Frame
import RuntimeSlots.Proofs.Text.Ascii

/-!
# Spellings of member names

A name can be written in three ways: in the name field itself, in the table of long names, or at
the start of the body.  `Archive.Entry.resolveName` reads each of them back as the name, whatever
else the archive holds.

* `Archive.OrdinaryName` are the names that no special member has.
* `Archive.resolveName_short`, `Archive.resolveName_tabled` and `Archive.resolveName_leading` read
  the three spellings; `Archive.resolveName_special` reads the names of special members.
-/

namespace RuntimeSlots.Archive

/-! ## Ordinary names -/

/-- How all of `sortedIndexNames` begin. -/
def sortedIndexMark : Bytes := Bytes.ofText "__.SYMDEF"

/-- Names that cannot be mistaken for the name of a special member.  They may contain spaces. -/
structure OrdinaryName (name : Bytes) : Prop where
  isAscii : name.IsAscii
  ne_empty : name.data.toList ≠ []
  slash_notMem : slash ∉ name.data.toList
  not_index : name.startsWith sortedIndexMark = false

/-- An ordinary name is none of the special names with a slash. -/
theorem OrdinaryName.ne_of_slash_mem {name special : Bytes} (h : OrdinaryName name)
    (hslash : slash ∈ special.data.toList) : name ≠ special := by
  rintro rfl
  exact h.slash_notMem hslash

/-- An ordinary name is none of `sortedIndexNames`, as it begins otherwise. -/
theorem OrdinaryName.ne_sortedIndex {name : Bytes} (h : OrdinaryName name) :
    sortedIndexNames.any (name = ·) = false := by
  rw [List.any_eq_false]
  intro special hspecial
  have hstart : ∀ index ∈ sortedIndexNames, index.startsWith sortedIndexMark = true := by decide
  rw [decide_eq_true_eq]
  rintro rfl
  exact absurd (hstart name hspecial) (by simp [h.not_index])

/-! ## The name field -/

theorem extract_fill {width : Nat} {mark text : Bytes} (h : (mark ++ text).size ≤ width) :
    (fill width (mark ++ text)).extract mark.size (fill width (mark ++ text)).size =
      text ++ spaces (width - (mark ++ text).size) := by
  rw [size_fill h, fill, ByteArray.append_assoc]
  apply ByteArray.extract_append_eq_right rfl
  simp only [ByteArray.size_append, size_spaces] at h ⊢
  omega

theorem getElem?_fill {width i : Nat} {text : Bytes} {byte : UInt8}
    (h : text.data.toList[i]? = some byte) : (fill width text)[i]? = some byte := by
  rw [Bytes.getElem?_eq_getElem?_toList, fill, ByteArray.toList_data_append,
    List.getElem?_append_left (List.getElem?_eq_some_iff.mp h).1, h]

/-! ## Names in the name field -/

/-- The byte of a slash as a text, which ends a name in the name field. -/
def slashText : Bytes := ⟨#[slash]⟩

@[simp]
theorem toList_slashText : slashText.data.toList = [slash] := rfl

@[simp]
theorem size_slashText : slashText.size = 1 := rfl

/-- A field that holds a name and its slash does not pass for `Entry.leadingNameMark` and a digit:
the slash of the mark would have to be the slash behind the name, and spaces follow there. -/
theorem not_leading_fill {name : Bytes} (hname : OrdinaryName name) :
    ¬ ((fill 16 (name ++ slashText)).startsWith Entry.leadingNameMark ∧
      (fill 16 (name ++ slashText))[3]?.any isDigit) := by
  rintro ⟨hmark, hdigit⟩
  have hmarkList : Entry.leadingNameMark.data.toList = [0x23, 0x31, slash] := by decide
  have hlength : name.size = name.data.toList.length := by simp
  have hslash := hname.slash_notMem
  rw [Bytes.startsWith_iff_isPrefix, hmarkList] at hmark
  rw [Bytes.getElem?_eq_getElem?_toList] at hdigit
  simp only [fill, ByteArray.toList_data_append, toList_spaces, ByteArray.size_append,
    toList_slashText, size_slashText, hlength] at hmark hdigit
  -- The slash of the mark is its third byte; where the slash behind the name stands depends on
  -- the length of the name.
  rcases hbytes : name.data.toList with _ | ⟨a, _ | ⟨b, _ | ⟨c, rest⟩⟩⟩
  · exact hname.ne_empty hbytes
  · simp [hbytes, slash] at hmark
  · -- Here the field may begin with the mark, but no digit follows it.
    have hspace : ([a, b] ++ [slash] ++
        List.replicate (16 - ([a, b].length + 1)) space)[3]? = some space := rfl
    rw [hbytes, hspace] at hdigit
    exact absurd hdigit (by decide)
  · -- Here the third byte belongs to the name, which holds no slash.
    simp only [hbytes, List.cons_append, List.cons_prefix_cons] at hmark
    obtain ⟨-, -, rfl, -⟩ := hmark
    exact hslash (by simp [hbytes])

/-- The first spelling: `resolveName` reads an ordinary name in front of a slash. -/
theorem resolveName_short {file names name : Bytes} (offset size : Nat)
    (hname : OrdinaryName name) :
    Entry.resolveName file names (fill 16 (name ++ slashText)) offset size = .ok (name, 0) := by
  obtain ⟨first, rest, hfirst⟩ := List.exists_cons_of_ne_nil hname.ne_empty
  have hhead : (fill 16 (name ++ slashText))[0]? = some first :=
    getElem?_fill (by simp [hfirst])
  -- The first byte is no slash, so the field gives no place in the table.
  have hne : ¬ some first = some slash := by
    rw [Option.some_inj]
    rintro rfl
    exact hname.slash_notMem (by simp [hfirst])
  -- The field has a slash, and the first one is that behind the name.
  have hfound : ((fill 16 (name ++ slashText)).find? (· == slash)).isSome = true := by
    rw [Bytes.find?_eq_findIdx?, List.findIdx?_isSome]
    simp [fill]
  have hbefore : (fill 16 (name ++ slashText)).before slash = name := by
    rw [fill, ByteArray.append_assoc]
    exact Bytes.before_append hname.slash_notMem (by simp)
  rw [Entry.resolveName, if_neg (by rw [hhead]; exact fun h => hne h.1),
    if_neg (not_leading_fill hname), Entry.shortName, hhead, if_neg hne, if_pos hfound, hbefore]

/-- `resolveName` reads the names of the special members that archives begin with. -/
theorem resolveName_special {file names special : Bytes} (offset size : Nat)
    (h : special = indexName ∨ special = namesName) :
    Entry.resolveName file names (fill 16 special) offset size = .ok (special, 0) := by
  rcases h with rfl | rfl
  · rw [Entry.resolveName, if_neg (by decide), if_neg (by decide)]
    rfl
  · rw [Entry.resolveName, if_neg (by decide), if_neg (by decide)]
    rfl

/-! ## Names in the table -/

/-- The two customs for the end of a name in the table. -/
inductive NameEnd
  /-- A slash and a line feed. -/
  | lineFeed
  /-- A zero byte. -/
  | zero
deriving DecidableEq, Repr

/-- The bytes that end the name. -/
def NameEnd.bytes : NameEnd → Bytes
  | lineFeed => ⟨#[slash, 0x0A]⟩
  | zero => ⟨#[0]⟩

/-- `longName?` reads a name at its position of the table, whichever way it ends there. -/
theorem longName?_field {names name field : Bytes} {position : Nat} (ending : NameEnd)
    (hfield : number? field = some position)
    (hzero : 0 ∉ name.data.toList) (hfeed : 0x0A ∉ name.data.toList)
    (htable : names.HoldsAt position (name ++ ending.bytes)) :
    Entry.longName? names field = some name := by
  obtain ⟨rest, hrest⟩ := htable.exists_from?
  have hlength : name.data.toList.length = name.size := by simp
  have hname : name.data.toList.findIdx? (fun byte => byte == 0x0A || byte == 0) = none := by
    rw [List.findIdx?_eq_none_iff]
    intro b hb
    rw [Bool.or_eq_false_iff, beq_eq_false_iff_ne, beq_eq_false_iff_ne]
    exact ⟨fun h => hfeed (h ▸ hb), fun h => hzero (h ▸ hb)⟩
  have hextract : ByteArray.extract (name ++ ending.bytes ++ rest) 0 name.size = name := by
    rw [ByteArray.append_assoc]
    exact ByteArray.extract_append_eq_left rfl
  -- The search stops at the end of the name, since the name itself holds no such byte.
  simp only [Entry.longName?, hfield, hrest, Option.bind_eq_bind, Option.bind_some,
    Bytes.find?_eq_findIdx?, Bytes.getElem?_eq_getElem?_toList, ByteArray.toList_data_append,
    List.append_assoc, List.findIdx?_append, hname, hlength, Option.none_or]
  cases ending with
  | lineFeed =>
    -- A line feed ends the name one byte earlier, at the slash.
    have hstop : NameEnd.lineFeed.bytes.data.toList.findIdx?
        (fun byte => byte == 0x0A || byte == 0) = some 1 := by decide
    have hbytes : NameEnd.lineFeed.bytes.data.toList = [slash, 0x0A] := rfl
    have hfeedAt : (name.data.toList ++ ([slash, 0x0A] ++ rest.data.toList))[1 + name.size]? =
        some 0x0A := by
      rw [List.getElem?_append_right (by omega), hlength, Nat.add_sub_cancel]
      rfl
    have hslashAt : (name.data.toList ++ ([slash, 0x0A] ++ rest.data.toList))[name.size]? =
        some slash := by
      rw [List.getElem?_append_right (by omega), hlength, Nat.sub_self]
      rfl
    rw [hstop, hbytes]
    simp only [Option.some_or, Option.map_some, Option.bind_some, hfeedAt, if_true,
      Nat.add_sub_cancel_left, hslashAt]
    rw [if_pos ⟨by omega, trivial⟩, hextract]
  | zero =>
    -- A zero byte ends the name right there.
    have hstop : NameEnd.zero.bytes.data.toList.findIdx?
        (fun byte => byte == 0x0A || byte == 0) = some 0 := by decide
    have hbytes : NameEnd.zero.bytes.data.toList = [0] := rfl
    have hzeroAt : (name.data.toList ++ ([0] ++ rest.data.toList))[name.size]? = some 0 := by
      rw [List.getElem?_append_right (by omega), hlength, Nat.sub_self]
      rfl
    rw [hstop, hbytes]
    simp only [Option.some_or, Option.map_some, Option.bind_some, Nat.zero_add, hzeroAt]
    rw [if_neg (by decide), hextract]

/-- The second spelling: a slash and the position of the name in the table. -/
theorem resolveName_tabled {file names name : Bytes} {position : Nat} (ending : NameEnd)
    (offset size : Nat) (hposition : position < 10 ^ 15)
    (hzero : 0 ∉ name.data.toList) (hfeed : 0x0A ∉ name.data.toList)
    (htable : names.HoldsAt position (name ++ ending.bytes)) :
    Entry.resolveName file names (fill 16 (slashText ++ decimal position)) offset size =
      .ok (name, 0) := by
  obtain ⟨first, rest, hdigits, hfirst⟩ := exists_decimal_cons position
  have hsize : (slashText ++ decimal position).size ≤ 16 := by
    have := size_decimal_le hposition (by decide)
    simp only [ByteArray.size_append, size_slashText]
    omega
  -- The first two bytes are a slash and a digit, by which `resolveName` tells this spelling.
  have hslash : (fill 16 (slashText ++ decimal position))[0]? = some slash :=
    getElem?_fill (by simp)
  have hdigit : (fill 16 (slashText ++ decimal position))[1]? = some first :=
    getElem?_fill (by simp [hdigits])
  -- Behind the slash the field is the position and spaces, which `number?` reads back.
  have hnumber := number?_decimal (lt_trans hposition (by decide) : position < 2 ^ 64)
    (16 - (slashText ++ decimal position).size)
  rw [← extract_fill hsize] at hnumber
  have hlong := longName?_field ending hnumber hzero hfeed htable
  rw [size_slashText] at hlong
  rw [Entry.resolveName, if_pos (by rw [hslash, hdigit]; exact ⟨rfl, hfirst⟩), hlong]

/-! ## Names in the body -/

/-- The bytes of `count` zeros. -/
def zeros (count : Nat) : Bytes := (List.replicate count 0).toByteArray

@[simp]
theorem size_zeros (count : Nat) : (zeros count).size = count := by
  simp [zeros]

/-- The third spelling: the mark with the length of the name, and the name at the start of the body,
where zero bytes may follow. -/
theorem resolveName_leading {file names name : Bytes} {count offset size : Nat}
    (hlength : name.size + count < 10 ^ 13) (hsize : name.size + count ≤ size)
    (hzero : 0 ∉ name.data.toList) (hbody : file.HoldsAt offset (name ++ zeros count)) :
    Entry.resolveName file names
      (fill 16 (Entry.leadingNameMark ++ decimal (name.size + count))) offset size =
      .ok (name, name.size + count) := by
  obtain ⟨first, rest, hdigits, hfirst⟩ := exists_decimal_cons (name.size + count)
  have hmark : Entry.leadingNameMark.data.toList = [0x23, 0x31, slash] := by decide
  have hmarkSize : Entry.leadingNameMark.size = 3 := by decide
  have hfits : (Entry.leadingNameMark ++ decimal (name.size + count)).size ≤ 16 := by
    have := size_decimal_le hlength (by decide)
    simp only [ByteArray.size_append, hmarkSize]
    omega
  -- No slash but the mark and a digit: `resolveName` tells the spelling by them.
  have hhead : (fill 16 (Entry.leadingNameMark ++ decimal (name.size + count)))[0]? = some 0x23 :=
    getElem?_fill (by simp [hmark])
  have hdigit : (fill 16 (Entry.leadingNameMark ++ decimal (name.size + count)))[3]? =
      some first :=
    getElem?_fill (by simp [hmark, hdigits])
  have hstarts : (fill 16 (Entry.leadingNameMark ++ decimal (name.size + count))).startsWith
      Entry.leadingNameMark = true := by
    rw [fill, ByteArray.append_assoc]
    exact Bytes.startsWith_append ..
  -- The length behind the mark counts the zero bytes too; `before` takes them off again.
  have hnumber := number?_decimal (lt_trans hlength (by decide) : name.size + count < 2 ^ 64)
    (16 - (Entry.leadingNameMark ++ decimal (name.size + count)).size)
  rw [← extract_fill hfits, hmarkSize] at hnumber
  have hslice : file.slice? offset (name.size + count) = some (name ++ zeros count) := by
    have hall : (name ++ zeros count).size = name.size + count := by simp
    rw [← hall]
    exact hbody
  have hbefore : Bytes.before (name ++ zeros count) 0 = name :=
    Bytes.before_append hzero fun b hb =>
      List.eq_of_mem_replicate (List.mem_of_mem_head? (by simpa [zeros] using hb))
  rw [Entry.resolveName, if_neg (by rw [hhead]; exact fun h => absurd h.1 (by decide)),
    if_pos ⟨hstarts, by rw [hdigit]; exact hfirst⟩]
  simp only [Entry.leadingName?, hnumber, Option.bind_eq_bind, Option.bind_some, if_pos hsize,
    hslice, hbefore]

end RuntimeSlots.Archive
