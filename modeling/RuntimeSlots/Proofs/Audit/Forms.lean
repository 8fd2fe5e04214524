import RuntimeSlots.Proofs.Archive.Form
import RuntimeSlots.Proofs.Archive.Plain
import RuntimeSlots.Proofs.Audit.Verdict

/-!
# Audits of archives in different forms

The audit of an `Archive.Written` depends on its `contents` alone.  Indices, tables of long names,
spellings of names, attributes and padding leave no trace in it, since `Archive.members` does not
list them.

* `Audit.ofBytes_bytes` is the audit of a written archive in any form.
* `Audit.ofBytes_eq_of_contents_eq` compares any two forms.
* `Audit.gnuSample`, `Audit.coffSample` and `Audit.bsdSample` are the same two members in three
  forms.
-/

namespace RuntimeSlots.Audit

/-- Whatever its form, a written archive is audited by its contents. -/
theorem ofBytes_bytes (archive : Archive.Written) :
    ofBytes archive.bytes = ofMembers archive.contents :=
  ofBytes_eq_ofMembers archive.startsWith_bytes (Archive.members_bytes archive)

/-- Written archives with the same `contents` have the same audit, events included, and it is that
of `ofMembers`. -/
theorem ofBytes_eq_of_contents_eq {first second : Archive.Written}
    (h : first.contents = second.contents) :
    ofBytes first.bytes = ofBytes second.bytes ∧
      ofBytes first.bytes = ofMembers first.contents := by
  have hfirst := ofBytes_bytes first
  have hsecond := ofBytes_bytes second
  rw [← h] at hsecond
  exact ⟨hfirst.trans hsecond.symm, hfirst⟩

/-! ## Two members in three forms -/

/-- The small object file under a name that no name field can hold. -/
def longNamed : Archive.Member := ⟨Bytes.ofText "formatted_input.o", sampleObject⟩

/-- A text of odd size under a short name. -/
def notes : Archive.Member := ⟨Bytes.ofText "notes.txt", Bytes.ofText "not an object"⟩

theorem portableName_longNamed : Archive.PortableName longNamed.name :=
  ⟨⟨by decide, by decide, by decide, by decide⟩, by decide, by decide⟩

theorem portableName_notes : Archive.PortableName notes.name :=
  ⟨⟨by decide, by decide, by decide, by decide⟩, by decide, by decide⟩

/-- A special member with these contents. -/
def sampleSpecial (body : Bytes) (h : body.size < 10 ^ 10) : Archive.SpecialBody where
  body := body
  attributes := Archive.plainAttributes
  pad := 0x0A
  size_attributes := Archive.size_plainAttributes
  size_body_lt := h

/-- An index whose contents make no sense. -/
def sampleIndex : Archive.SpecialBody := sampleSpecial (Bytes.ofText "no index") (by decide)

/-- Another name of the table, which stands in front of the long name. -/
def unusedName (ending : Archive.NameEnd) : Bytes := Bytes.ofText "unused" ++ ending.bytes

/-- A table of two names. -/
def sampleTable (ending : Archive.NameEnd) : Archive.SpecialBody :=
  sampleSpecial (unusedName ending ++ (longNamed.name ++ ending.bytes))
    (by cases ending <;> decide)

theorem holdsAt_sampleTable (ending : Archive.NameEnd) :
    (sampleTable ending).body.HoldsAt (unusedName ending).size
      (longNamed.name ++ ending.bytes) := by
  -- The table holds itself, and so both of its parts.
  have hwhole := Bytes.holdsAt_zero_self (sampleTable ending).body
  rw [sampleTable, sampleSpecial, Bytes.holdsAt_append_iff, Nat.zero_add] at hwhole
  exact hwhole.2

/-- The two members in these spellings. -/
def sampleWritten (form : Archive.Form) (first second : Archive.Spelling)
    (hfirst : form.Allows longNamed first) (hsecond : form.Allows notes second)
    (hfirstSize : (first.body longNamed).size < 10 ^ 10)
    (hsecondSize : (second.body notes).size < 10 ^ 10) : Archive.Written where
  form := form
  members := [
    ⟨longNamed, first, Archive.plainAttributes, 0x0A, portableName_longNamed, hfirst,
      Archive.size_plainAttributes, hfirstSize⟩,
    ⟨notes, second, Archive.plainAttributes, 0x0A, portableName_notes, hsecond,
      Archive.size_plainAttributes, hsecondSize⟩]

/-- The members behind an index and a table. -/
def gnuSample : Archive.Written :=
  sampleWritten (.gnu (some sampleIndex) (some (sampleTable .lineFeed)))
    (.tabled (unusedName .lineFeed).size) .short
    ⟨by simp, by decide, holdsAt_sampleTable .lineFeed⟩ ⟨by simp, by decide⟩ (by decide)
    (by decide)

/-- The members behind two indices and a table. -/
def coffSample : Archive.Written :=
  sampleWritten (.coff sampleIndex sampleIndex (some (sampleTable .zero)))
    (.tabled (unusedName .zero).size) .short
    ⟨by simp, by decide, holdsAt_sampleTable .zero⟩ ⟨by simp, by decide⟩ (by decide) (by decide)

/-- The members with their names in their bodies. -/
def bsdSample : Archive.Written :=
  sampleWritten .bsd (.leading 3) (.leading 0) rfl rfl (by decide) (by decide)

theorem ofBytes_samples :
    gnuSample.contents = bsdSample.contents ∧ coffSample.contents = bsdSample.contents ∧
      ofBytes gnuSample.bytes = ofBytes bsdSample.bytes ∧
      ofBytes coffSample.bytes = ofBytes bsdSample.bytes ∧
      ofBytes gnuSample.bytes = ofMembers [longNamed, notes] := by
  -- The forms differ, but what they hold is the same list of members.
  have hgnu : gnuSample.contents = bsdSample.contents := rfl
  have hcoff : coffSample.contents = bsdSample.contents := rfl
  obtain ⟨hgnuSame, hgnuAudit⟩ := ofBytes_eq_of_contents_eq hgnu
  exact ⟨hgnu, hcoff, hgnuSame, (ofBytes_eq_of_contents_eq hcoff).1, hgnuAudit⟩

end RuntimeSlots.Audit
