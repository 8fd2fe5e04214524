import RuntimeSlots.Log.Record

/-!
# What a record shows

The message of a record may quote the name of a file, so it can hold any character.  `Record.line`
writes each of them through `harmless`; `Record.summary` shows the message as it is.

* `Log.IsHarmless` holds of the characters that `harmless` leaves alone, and of all that it writes
  (`Log.isHarmless_of_mem_harmless`).
* `Log.Record.shown_line` says that a line shows only such characters if the parts of the record
  that are no message do.
* `Log.Record.exists_line_eq` compares `line` with `summary`.
-/

namespace RuntimeSlots.Log

/-! ## Harmless characters -/

/-- The character can be no part of a terminal's commands: it is none of `commandCharacters`, nor a
control character between 0x80 and 0x9F. -/
def IsHarmless (c : Char) : Prop := c ∉ commandCharacters ∧ ¬(0x80 ≤ c.toNat ∧ c.toNat ≤ 0x9F)

instance (c : Char) : Decidable (IsHarmless c) := inferInstanceAs (Decidable (_ ∧ _))

theorem harmless_of_isHarmless {c : Char} (h : IsHarmless c) : harmless c = c.toString := by
  have hcommand : commandCharacters.contains c = false := by simpa using h.1
  simp only [harmless, hcommand, if_neg h.2, Bool.false_eq_true, if_false]

/-- What `Nat.digitChar` gives is harmless, also if it is no digit. -/
theorem isHarmless_digitChar (digit : Nat) : IsHarmless digit.digitChar := by
  have hdigits : ∀ digit < 16, IsHarmless digit.digitChar := by decide
  by_cases hlt : digit < 16
  · exact hdigits digit hlt
  · -- Behind the hexadecimal digits `Nat.digitChar` has nothing but stars.
    rw [Nat.digitChar_eq_star.mpr (Nat.le_of_not_lt hlt)]
    decide

/-- Numbers are written with harmless characters in every base. -/
theorem isHarmless_of_mem_toDigits {base number : Nat} (hbase : 1 < base) {c : Char}
    (h : c ∈ Nat.toDigits base number) : IsHarmless c := by
  -- In front of the last digit of `number` stand the digits of the smaller `number / base`.
  induction number using Nat.strongRecOn with
  | _ number ih =>
    by_cases hlt : number < base
    · rw [Nat.toDigits_of_lt_base hlt, List.mem_singleton] at h
      exact h ▸ isHarmless_digitChar number
    · rw [Nat.toDigits_of_base_le hbase (Nat.le_of_not_lt hlt), List.mem_append,
        List.mem_singleton] at h
      rcases h with hfront | rfl
      · exact ih (number / base) (Nat.div_lt_self (by omega) hbase) hfront
      · exact isHarmless_digitChar _

/-! ## Texts that can be shown -/

/-- A text of harmless characters. -/
def Shown (text : String) : Prop := ∀ c ∈ text.toList, IsHarmless c

instance (text : String) : Decidable (Shown text) := List.decidableBAll IsHarmless text.toList

theorem Shown.append {front back : String} (hfront : Shown front) (hback : Shown back) :
    Shown (front ++ back) := by
  intro c hc
  rw [String.toList_append, List.mem_append] at hc
  exact hc.elim (hfront c) (hback c)

theorem shown_join {texts : List String} (h : ∀ text ∈ texts, Shown text) :
    Shown (String.join texts) := by
  intro c hc
  rw [String.toList_join, List.mem_flatMap] at hc
  obtain ⟨text, htext, hmem⟩ := hc
  exact h text htext c hmem

theorem shown_ofList_toDigits {base : Nat} (hbase : 1 < base) (number : Nat) :
    Shown (String.ofList (Nat.toDigits base number)) := by
  intro c hc
  rw [String.toList_ofList] at hc
  exact isHarmless_of_mem_toDigits hbase hc

/-- Whatever the character is, `harmless` writes it without one that commands a terminal. -/
theorem shown_harmless (c : Char) : Shown (harmless c) := by
  have hdigits := shown_ofList_toDigits (show 1 < 16 by decide) c.toNat
  unfold harmless
  dsimp only
  split
  -- Two kinds of characters are replaced by their number between harmless ones; the rest stays.
  case isTrue =>
    have hzero : Shown (if c < '\x10' then "0" else "") := by split <;> decide
    exact (Shown.append (by decide) hzero).append hdigits
  case isFalse hcommand =>
    split
    case isTrue =>
      exact (Shown.append (by decide) hdigits).append (by decide)
    case isFalse hcontrol =>
      -- The character itself, which is harmless by the two tests.
      intro other hother
      rw [Char.toString, String.toList_singleton, List.mem_singleton] at hother
      subst hother
      exact ⟨by simpa using hcommand, hcontrol⟩

/-! ## Lines of the log -/

theorem shown_repr (number : Nat) : Shown (toString number) := by
  rw [Nat.toString_eq_ofList_toDigits]
  exact shown_ofList_toDigits (by decide) number

namespace Value

theorem shown_bare_number (value : Int) : Shown (number value).bare := by
  cases value with
  | ofNat magnitude => exact shown_repr magnitude
  | negSucc magnitude =>
    have hsign : Shown "-" := by decide
    exact hsign.append (shown_repr (magnitude + 1))

theorem shown_bare_address (value : Address) : Shown (address value).bare :=
  Shown.append (by decide) (shown_ofList_toDigits (by decide) value.value.toNat)

/-- The quotes around a text change nothing. -/
theorem shown_quoted {value : Value} (h : Shown value.bare) : Shown value.quoted := by
  cases value with
  | text value => exact (Shown.append (by decide) h).append (by decide)
  | number value => exact h
  | address value => exact h

end Value

namespace Record

variable {record : Record}

/-- Apart from its message, everything in the record can be shown as it is. -/
structure ShownApart (record : Record) : Prop where
  target : Shown record.target
  fields : ∀ field ∈ record.fields, Shown field.1 ∧ Shown field.2.bare

theorem shown_harmlessMessage (record : Record) : Shown record.harmlessMessage := by
  apply shown_join
  intro text htext
  obtain ⟨c, -, rfl⟩ := List.mem_map.mp htext
  exact shown_harmless c

/-- A line commands no terminal, whatever the message of its record is. -/
theorem shown_line (h : record.ShownApart) : Shown record.line := by
  -- The parts of a line are shown one by one; only the message is not shown as it is.
  have hlabel : Shown record.level.label := by cases record.level <;> decide
  have hfields : Shown (String.join (record.fields.map fun field =>
      " " ++ field.1 ++ "=" ++ field.2.quoted)) := by
    apply shown_join
    intro text htext
    obtain ⟨field, hfield, rfl⟩ := List.mem_map.mp htext
    obtain ⟨hname, hvalue⟩ := h.fields field hfield
    exact ((Shown.append (by decide) hname).append (by decide)).append
      (Value.shown_quoted hvalue)
  exact (((hlabel.append (by decide)).append h.target).append (by decide)).append
    (record.shown_harmlessMessage.append hfields)

theorem harmlessMessage_of_shown (h : Shown record.message) :
    record.harmlessMessage = record.message := by
  have hmap : record.message.toList.map harmless = record.message.toList.map Char.toString :=
    List.map_congr_left fun c hc => harmless_of_isHarmless (h c hc)
  apply String.toList_inj.mp
  rw [harmlessMessage, hmap, String.toList_join, List.flatMap_map]
  simp only [Char.toString, String.toList_singleton, List.flatMap_singleton']

/-- Where nothing is escaped or quoted, `line` and `summary` tell the same; only `line` tells the
target. -/
theorem exists_line_eq (hmessage : Shown record.message)
    (hfields : ∀ field ∈ record.fields, ∀ text, field.2 ≠ .text text) :
    ∃ told, record.summary = record.level.label ++ " " ++ told ∧
      record.line = record.level.label ++ " " ++ record.target ++ ": " ++ told := by
  refine ⟨body record.message record.fields Value.bare, rfl, ?_⟩
  have hvalues : (record.fields.map fun field => " " ++ field.1 ++ "=" ++ field.2.quoted) =
      record.fields.map fun field => " " ++ field.1 ++ "=" ++ field.2.bare := by
    apply List.map_congr_left
    rintro ⟨name, value⟩ hfield
    -- A text is the only value that quotes are put around.
    cases value with
    | text value => exact absurd rfl (hfields _ hfield value)
    | number value => rfl
    | address value => rfl
  rw [line, harmlessMessage_of_shown hmessage, body, hvalues, body]

end Record

end RuntimeSlots.Log
