/-!
# Function addresses

The address of a function, as a 64-bit word without a type.  A caller gives it the function's
signature back when it makes the call.  The null address is an ordinary value here; only the C
convention reads it as "none".
-/

namespace RuntimeSlots

/-- The address of a function. -/
structure Address where
  /-- The word that a pointer to the function holds. -/
  value : UInt64
deriving DecidableEq, Repr

namespace Address

/-- The address that points at nothing. -/
def null : Address := ⟨0⟩

/-- Whether the address is the null address. -/
def isNull (address : Address) : Bool := address == null

/-- An address is written as `0x` and its lower case hexadecimal digits without leading zeros. -/
def text (address : Address) : String :=
  "0x" ++ String.ofList (Nat.toDigits 16 address.value.toNat)

end Address

end RuntimeSlots
