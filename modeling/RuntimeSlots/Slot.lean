/-!
# Slots of the function table

The function table holds one C runtime function per slot.  This module fixes the layout that
every build shares: which function each slot carries, the header that declares it, and the
symbol a linked artifact names when it needs the function.

* `Slot.all` is the layout; a slot's position in it is its index in the table.
* `Slot.indexOf?` finds a slot by the function's C name, never by its symbol.
* `Slot.declaredIn` selects the slots of one header together with their indices.
-/

namespace RuntimeSlots

/-- The two C headers that declare the functions of the table. -/
inductive Header
  | stdio
  | time
deriving DecidableEq, Repr

namespace Header

/-- The name under which a C program includes the header. -/
def fileName : Header → String
  | stdio => "stdio.h"
  | time => "time.h"

/-- The word that selects the header on a command line. -/
def word : Header → String
  | stdio => "stdio"
  | time => "time"

/-- Both headers, in the order in which a command line offers them. -/
def all : List Header := [stdio, time]

/-- The header selected by `text`; letter case counts unless `ignoreCase` is set, and then only
ASCII letters are folded. -/
def ofWord? (text : String) (ignoreCase : Bool) : Option Header :=
  all.find? fun header =>
    if ignoreCase then text.map Char.toLower == header.word else text == header.word

end Header

/-- One slot of the function table. -/
structure Slot where
  /-- The C name of the function. -/
  name : String
  /-- The header that declares the function. -/
  header : Header
  /-- The symbol an artifact refers to when it uses the function.  It differs from the name where
  the header only defines a wrapper around another function. -/
  linkName : String
deriving DecidableEq, Repr

namespace Slot

/-- A slot for a `stdio.h` function that is linked under its own name. -/
def ofStdio (name : String) : Slot :=
  { name := name, header := .stdio, linkName := name }

/-- The layout of the table, from slot 0 on. -/
def all : List Slot :=
  [ofStdio "fprintf", ofStdio "fprintf_s", ofStdio "fscanf", ofStdio "fscanf_s",
   ofStdio "fwprintf", ofStdio "fwprintf_s", ofStdio "fwscanf", ofStdio "fwscanf_s",
   ofStdio "printf", ofStdio "printf_s", ofStdio "scanf", ofStdio "scanf_s",
   ofStdio "snprintf", ofStdio "sprintf", ofStdio "sprintf_s", ofStdio "sscanf",
   ofStdio "sscanf_s", ofStdio "swprintf", ofStdio "swprintf_s", ofStdio "swscanf",
   ofStdio "swscanf_s", ofStdio "vfprintf", ofStdio "vfprintf_s", ofStdio "vfscanf",
   ofStdio "vfscanf_s", ofStdio "vfwprintf", ofStdio "vfwprintf_s", ofStdio "vfwscanf",
   ofStdio "vfwscanf_s", ofStdio "vprintf", ofStdio "vprintf_s", ofStdio "vscanf",
   ofStdio "vscanf_s", ofStdio "vsnprintf", ofStdio "vsnprintf_s", ofStdio "vsprintf",
   ofStdio "vsprintf_s", ofStdio "vsscanf", ofStdio "vsscanf_s", ofStdio "vswprintf",
   ofStdio "vswprintf_s", ofStdio "vswscanf", ofStdio "vswscanf_s", ofStdio "vwprintf",
   ofStdio "vwprintf_s", ofStdio "vwscanf", ofStdio "vwscanf_s", ofStdio "wprintf",
   ofStdio "wprintf_s", ofStdio "wscanf", ofStdio "wscanf_s",
   { name := "gmtime", header := .time, linkName := "_gmtime64" }]

/-- The number of slots, which a caller passes along as the length it expects of the table. -/
def count : Int32 := 52

/-- The layout has as many slots as `count` says. -/
theorem length_all : all.length = 52 := rfl

/-- The exported symbol of the function that reads the table. -/
def accessorName : String := "__svm_get_syslookup_func"

/-- The index of the slot whose function is called `name`. -/
def indexOf? (name : String) : Option Nat :=
  all.findIdx? fun slot => slot.name == name

/-- The slots declared in `header`, each with its index, in table order. -/
def declaredIn (header : Header) : List (Nat × Slot) :=
  (all.zipIdx.filter fun entry => entry.1.header == header).map Prod.swap

end Slot

end RuntimeSlots
