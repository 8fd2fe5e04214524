import RuntimeSlots.Address.Book

/-!
# The table of a linked build

A build for 64-bit Windows with the MSVC runtime carries the function table itself.  Most of the
functions are inline in the runtime's headers, so naming them in a table is what makes the linker
keep them.  Where they end up is the linker's choice: a `Linkage` is one such choice, and
everything here is a function of it.

* `Routine.all` is the table as it is written down, routine by routine.
* `Linkage.table` is the table after linking; `Linkage.accessor` and `Linkage.functionAddress`
  read it by index.
* `Linkage.collectBook` registers every slot of the table.
-/

namespace RuntimeSlots

/-- A function whose address stands in the table. -/
inductive Routine
  /-- A function of the C runtime, known by its symbol. -/
  | runtime (symbol : String)
  /-- The table's own `gmtime`, since the runtime has a symbol only for its 64-bit form. -/
  | gmtimeWrapper
deriving DecidableEq, Repr

namespace Routine

/-- The routines of the table in slot order. -/
def all : List Routine :=
  [runtime "fprintf", runtime "fprintf_s", runtime "fscanf", runtime "fscanf_s",
   runtime "fwprintf", runtime "fwprintf_s", runtime "fwscanf", runtime "fwscanf_s",
   runtime "printf", runtime "printf_s", runtime "scanf", runtime "scanf_s",
   runtime "snprintf", runtime "sprintf", runtime "sprintf_s", runtime "sscanf",
   runtime "sscanf_s", runtime "swprintf", runtime "swprintf_s", runtime "swscanf",
   runtime "swscanf_s", runtime "vfprintf", runtime "vfprintf_s", runtime "vfscanf",
   runtime "vfscanf_s", runtime "vfwprintf", runtime "vfwprintf_s", runtime "vfwscanf",
   runtime "vfwscanf_s", runtime "vprintf", runtime "vprintf_s", runtime "vscanf",
   runtime "vscanf_s", runtime "vsnprintf", runtime "vsnprintf_s", runtime "vsprintf",
   runtime "vsprintf_s", runtime "vsscanf", runtime "vsscanf_s", runtime "vswprintf",
   runtime "vswprintf_s", runtime "vswscanf", runtime "vswscanf_s", runtime "vwprintf",
   runtime "vwprintf_s", runtime "vwscanf", runtime "vwscanf_s", runtime "wprintf",
   runtime "wprintf_s", runtime "wscanf", runtime "wscanf_s", gmtimeWrapper]

/-- What the table's own `gmtime` does: it hands its argument to the runtime's conversion of
64-bit times and returns what that returns.  `none` stands for a null pointer. -/
def callGmtime {τ : Type} (convert : Option Int64 → Option τ) (time : Option Int64) :
    Option τ :=
  convert time

end Routine

/-- The address that the linker gave to each routine. -/
abbrev Linkage := Routine → Address

namespace Linkage

/-- The function table of the linked build. -/
def table (linkage : Linkage) : AddressTable := (Routine.all.map linkage).toArray

/-- The exported function that reads the table: the address in slot `index`, or null on a miss. -/
def accessor (linkage : Linkage) (index expected : Int32) : Address :=
  linkage.table.getOrNull index expected

/-- The address in slot `index`, or nothing on a miss. -/
def functionAddress (linkage : Linkage) (index expected : Int32) : Option Address :=
  linkage.table.get? index expected

/-- Every slot with its address, in table order. -/
def entries (linkage : Linkage) : List (Slot × Address) :=
  Slot.all.zip linkage.table.toList

/-- The table as a source of addresses. -/
def source (linkage : Linkage) : AddressSource Unit :=
  AddressSource.ofFunction linkage.functionAddress

/-- Registers every slot of the linked table. -/
def collectBook (linkage : Linkage) : AddressBook.Collection Unit :=
  AddressBook.collect linkage.source Slot.all ()

end Linkage

end RuntimeSlots
