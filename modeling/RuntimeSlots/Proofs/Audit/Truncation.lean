import RuntimeSlots.Proofs.Archive.Truncation
import RuntimeSlots.Proofs.Audit.Merging
import Mathlib.Tactic.IntervalCases

/-!
# Audits of truncated archives

An archive of `Archive.write` that was cut off has one of two outcomes: that of an archive of its
first members, if the cut is `Archive.CutsBehind` these members, or else a failure.

* `Audit.ofBytes_of_cutsBehind` and `Audit.ofBytes_of_not_cutsBehind` are the two outcomes.
* `Audit.ofBytes_extract_write` says which cut has which outcome.
-/

namespace RuntimeSlots.Audit

theorem startsWith_extract_write (members : List Archive.Member) {k : Nat}
    (hk : Archive.signature.size ≤ k) :
    Bytes.startsWith ((Archive.write members).extract 0 k) Archive.signature = true := by
  rw [Bytes.startsWith_iff]
  exact (Bytes.startsWith_iff.mp (Archive.startsWith_write members)).extract_zero (by omega)

/-- What is shorter than the signature of an archive is too short for `ObjectFormat.detect` as well.
-/
theorem ofBytes_of_size_lt_signature {bytes : Bytes} (h : bytes.size < Archive.signature.size) :
    (ofBytes bytes).result = .error (.unreadable .tooShort) := by
  have hsignature : Archive.signature.size = 8 := rfl
  have hstart : ¬ bytes.startsWith Archive.signature = true := fun hstart => by
    have hfits := (Bytes.startsWith_iff.mp hstart).le_size
    omega
  -- It is no archive, and fewer than sixteen bytes are no object file either.
  have hread : ObjectFile.read bytes = .error .tooShort := by
    rw [ObjectFile.read, ObjectFormat.detect, if_pos (by omega)]
    rfl
  rw [ofBytes, if_neg hstart, ofObjectFile, hread]

/-- If `Archive.members` ends with a fault, `ofBytes` fails. -/
theorem ofBytes_of_members_failure {bytes : Bytes} {found : List Archive.Member}
    {fault : Archive.Fault} (hstart : bytes.startsWith Archive.signature = true)
    (h : Archive.members bytes = { members := found, failure := some fault }) :
    ∃ failure, (ofBytes bytes).result = .error failure := by
  obtain ⟨failure, hfailure⟩ := gather_result_error fault .empty found
  refine ⟨failure, ?_⟩
  rw [ofBytes, if_pos hstart, ofArchive, h]
  simp only [hfailure, Except.map]

/-- A cut behind some members has the outcome of the archive of these members: both are listed
alike. -/
theorem ofBytes_of_cutsBehind {members : List Archive.Member} {count k : Nat}
    (h : ∀ member ∈ members, Archive.PlainMember member) (hk : k < (Archive.write members).size)
    (hcut : Archive.CutsBehind members count k) :
    ofBytes ((Archive.write members).extract 0 k) =
      ofBytes (Archive.write (members.take count)) := by
  have htake : ∀ member ∈ members.take count, Archive.PlainMember member :=
    fun member hmember => h member (List.mem_of_mem_take hmember)
  rw [ofBytes_eq_ofMembers (startsWith_extract_write members hcut.signature_le)
      (Archive.members_of_cutsBehind h hcut (by omega)),
    ofBytes_eq_ofMembers (Archive.startsWith_write _) (Archive.members_write htake)]

/-- A cut that is behind no members has a failure as its outcome. -/
theorem ofBytes_of_not_cutsBehind {members : List Archive.Member} {k : Nat}
    (h : ∀ member ∈ members, Archive.PlainMember member) (hk : k < (Archive.write members).size)
    (hcut : ∀ count, ¬ Archive.CutsBehind members count k) :
    ∃ failure, (ofBytes ((Archive.write members).extract 0 k)).result = .error failure := by
  -- A cut through the signature leaves no archive, and needs an argument of its own.
  by_cases hsignature : Archive.signature.size ≤ k
  · obtain ⟨found, fault, hmembers⟩ := Archive.members_of_not_cutsBehind h hsignature hk hcut
    exact ofBytes_of_members_failure (startsWith_extract_write members hsignature) hmembers
  · refine ⟨_, ofBytes_of_size_lt_signature ?_⟩
    rw [ByteArray.size_extract]
    omega

/-- A cut `CutsBehind` some members has the outcome of the archive of these members, any other cut
has a failure.  So the report on a truncated archive is complete only if that on the members that
are left is. -/
theorem ofBytes_extract_write {members : List Archive.Member} {k : Nat}
    (h : ∀ member ∈ members, Archive.PlainMember member)
    (hk : k < (Archive.write members).size) :
    (∀ count, Archive.CutsBehind members count k →
      ofBytes ((Archive.write members).extract 0 k) =
        ofBytes (Archive.write (members.take count))) ∧
    ((∀ count, ¬ Archive.CutsBehind members count k) →
      ∃ failure, (ofBytes ((Archive.write members).extract 0 k)).result = .error failure) ∧
    ∀ report, (ofBytes ((Archive.write members).extract 0 k)).result = .ok report →
      report.isComplete = true →
      ∃ count whole, Archive.CutsBehind members count k ∧
        (ofBytes (Archive.write (members.take count))).result = .ok whole ∧
        whole.isComplete = true := by
  refine ⟨fun count => ofBytes_of_cutsBehind h hk, ofBytes_of_not_cutsBehind h hk, ?_⟩
  intro report hreport hcomplete
  -- There is a report, so the cut is one that leaves an archive.
  by_cases hcut : ∃ count, Archive.CutsBehind members count k
  · obtain ⟨count, hcount⟩ := hcut
    rw [ofBytes_of_cutsBehind h hk hcount] at hreport
    exact ⟨count, report, hcount, hreport, hcomplete⟩
  · obtain ⟨failure, hfailure⟩ := ofBytes_of_not_cutsBehind h hk (not_exists.mp hcut)
    simp [hfailure] at hreport

/-- The cut after 100 bytes goes through the data of the object file. -/
theorem not_cutsBehind_sampleMembers (count : Nat) :
    ¬ Archive.CutsBehind sampleMembers count 100 := by
  rintro ⟨hcount, hplace⟩
  -- The archives of no member, of one and of both end elsewhere.
  have hsize : (Archive.write (sampleMembers.take count)).size = 8 ∨
      (Archive.write (sampleMembers.take count)).size = 146 ∨
      (Archive.write (sampleMembers.take count)).size = 220 := by
    change count ≤ 2 at hcount
    interval_cases count <;> decide +kernel
  obtain hbehind | ⟨-, -, -, hbefore⟩ := hplace <;> omega

/-- Without the last byte, the padding, the sample archive is still the same; cut off inside of the
object file, it has no report. -/
theorem ofBytes_extract_write_sampleMembers :
    (∀ member ∈ sampleMembers, Archive.PlainMember member) ∧
      219 < (Archive.write sampleMembers).size ∧ Archive.CutsBehind sampleMembers 2 219 ∧
      ofBytes ((Archive.write sampleMembers).extract 0 219) =
        ofBytes (Archive.write sampleMembers) ∧
      ∃ failure, (ofBytes ((Archive.write sampleMembers).extract 0 100)).result =
        .error failure := by
  have hplain := plainMember_of_mem_sampleMembers
  have hsize : (Archive.write sampleMembers).size = 220 := by decide +kernel
  have hcutSize : 219 < (Archive.write sampleMembers).size := by omega
  have hinside : 100 < (Archive.write sampleMembers).size := by omega
  have hcut : Archive.CutsBehind sampleMembers 2 219 :=
    ⟨by decide, .inr ⟨_, rfl, by decide, by decide +kernel⟩⟩
  have htake : sampleMembers.take 2 = sampleMembers := rfl
  have hsame := (ofBytes_extract_write hplain hcutSize).1 2 hcut
  rw [htake] at hsame
  exact ⟨hplain, hcutSize, hcut, hsame,
    (ofBytes_extract_write hplain hinside).2.1 not_cutsBehind_sampleMembers⟩

end RuntimeSlots.Audit
