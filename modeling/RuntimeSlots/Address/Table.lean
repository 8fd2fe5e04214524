import RuntimeSlots.Address

/-!
# Tables of addresses

A table of function addresses and the guarded way to read it.  A caller states how long it
expects the table to be; if table and caller disagree, every index misses, so that a caller built
against another layout never receives a wrong function.

* `AddressTable.get?` answers an address or a miss.
* `AddressTable.getOrNull` is the same answer in the C convention, where a miss is null.
-/

namespace RuntimeSlots

/-- The addresses of a table, slot 0 first. -/
abbrev AddressTable := Array Address

namespace AddressTable

/-- The address in slot `index`, unless `expected` differs from the length of the table or the
index is negative or past its end.  The causes of a miss are not told apart. -/
def get? (table : AddressTable) (index expected : Int32) : Option Address :=
  if expected.toInt = table.size ∧ 0 ≤ index.toInt then table[index.toInt.toNat]? else none

/-- The address in slot `index`, or the null address on a miss. -/
def getOrNull (table : AddressTable) (index expected : Int32) : Address :=
  (table.get? index expected).getD Address.null

end AddressTable

end RuntimeSlots
