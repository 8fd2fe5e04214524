import RuntimeSlots.Address.Table
import RuntimeSlots.Log.Record
import RuntimeSlots.Slot
import Std.Data.HashMap

/-!
# Address books

A caller of the function table asks for every slot once and keeps the answers under the
functions' names.  While reading the table is silent about a miss, here a miss is an error.

* `AddressSource` is anything that answers for a slot; it may change from one question to the
  next.
* `AddressBook` holds names in table order and one address for each name.
* `AddressBook.collect` asks a source for every slot of a layout and stops at the first miss.
-/

namespace RuntimeSlots

/-- A source of addresses: asked with an index and the length the caller expects, it answers an
address or nothing, and moves to its next state. -/
abbrev AddressSource (σ : Type) := Int32 → Int32 → σ → Option Address × σ

namespace AddressSource

/-- The source that gives the same answer whenever it is asked the same question. -/
def ofFunction {σ : Type} (answer : Int32 → Int32 → Option Address) : AddressSource σ :=
  fun index expected state => (answer index expected, state)

/-- The source that also notes every question, the latest first. -/
def noting {σ : Type} (source : AddressSource σ) : AddressSource (σ × List (Int32 × Int32)) :=
  fun index expected state =>
    let (answer, inner) := source index expected state.1
    (answer, inner, (index, expected) :: state.2)

/-- The source as a caller sees it whose indices are off by `bias`; the sum wraps at 32 bits. -/
def shifted {σ : Type} (source : AddressSource σ) (bias : Int32) : AddressSource σ :=
  fun index expected => source (index + bias) expected

end AddressSource

/-- Function addresses under the functions' names. -/
structure AddressBook where
  /-- The names in table order; a name given twice stands here twice. -/
  names : Array String
  /-- The address last recorded under each name. -/
  addresses : Std.HashMap String Address
  /-- Every listed name has an address. -/
  covered : ∀ name ∈ names, name ∈ addresses

namespace AddressBook

/-- The book without entries. -/
def empty : AddressBook where
  names := #[]
  addresses := ∅
  covered := by simp

instance : Inhabited AddressBook := ⟨empty⟩

/-- The book with `name` listed once more, under `address`. -/
def record (book : AddressBook) (name : String) (address : Address) : AddressBook where
  names := book.names.push name
  addresses := book.addresses.insert name address
  covered := by
    intro other hOther
    rcases Array.mem_push.mp hOther with hListed | rfl
    · exact Std.HashMap.mem_insert.mpr (.inr (book.covered other hListed))
    · exact Std.HashMap.mem_insert_self

/-- The address last recorded under `name`. -/
def get? (book : AddressBook) (name : String) : Option Address :=
  book.addresses[name]?

/-- How many entries were recorded, repeated names included. -/
def size (book : AddressBook) : Nat := book.names.size

/-- Whether nothing was recorded. -/
def isEmpty (book : AddressBook) : Bool := book.names.isEmpty

/-- The listed names in order, each with the address last recorded under it. -/
def entries (book : AddressBook) : List (String × Address) :=
  book.names.toList.attach.map fun listed =>
    (listed.val, book.addresses.get listed.val
      (book.covered listed.val (Array.mem_toList_iff.mp listed.property)))

/-- Why a book could not be filled. -/
inductive Failure
  /-- The source had no address for a slot. -/
  | missing (index : Int32) (name : String)
  /-- The layout is longer than a signed 32-bit number can tell. -/
  | countOverflow (count : Nat)
deriving DecidableEq, Repr

/-- The text that reports the failure. -/
def Failure.message : Failure → String
  | missing index name => "no address for `" ++ name ++ "` at index " ++ toString index
  | countOverflow count => toString count ++ " entries do not fit an i32 count"

/-- What is told to the log while a book is filled. -/
inductive Event
  /-- A slot's address was recorded. -/
  | registered (index : Int32) (name : String) (address : Address)
  /-- The source had no address for a slot. -/
  | missed (index : Int32) (name : String) (expected : Int32)
  /-- Every slot was recorded. -/
  | populated (count : Nat)
deriving DecidableEq, Repr

/-- The log record of an event. -/
def Event.toRecord : Event → Log.Record
  | registered index name address =>
    { level := .debug, target := "syslookup::registry", message := "registered"
      fields := [("index", .number index.toInt), ("name", .text name), ("addr", .address address)] }
  | missed index name expected =>
    { level := .warn, target := "syslookup::registry", message := "syslookup miss"
      fields := [("index", .number index.toInt), ("name", .text name),
        ("expected", .number expected.toInt)] }
  | populated count =>
    { level := .debug, target := "syslookup::registry", message := "syslookup registry populated"
      fields := [("count", .number count)] }

/-- How filling a book ended, what it told the log, and the state it left the source in. -/
structure Collection (σ : Type) where
  result : Except Failure AddressBook
  events : List Event
  source : σ

/-- The number of slots as the source is told it; a longer layout cannot be asked for. -/
def expectedCount (slots : Nat) : Except Failure Int32 :=
  if slots < 0x80000000 then .ok (Int32.ofNat slots) else .error (.countOverflow slots)

/-- Asks `source` for the given slots, the first of which has the given index, and records the
answers in `book` until the source has none. -/
def collectFrom {σ : Type} (source : AddressSource σ) (expected : Int32) :
    List Slot → Int32 → AddressBook → σ → Collection σ
  | [], _, book, state =>
    { result := .ok book, events := [.populated book.size], source := state }
  | slot :: rest, index, book, state =>
    match source index expected state with
    | (none, state) =>
      { result := .error (.missing index slot.name)
        events := [.missed index slot.name expected], source := state }
    | (some address, state) =>
      -- The answer may have changed the source, so the walk goes on with its new state.
      let tail := collectFrom source expected rest (index + 1) (book.record slot.name address) state
      { tail with events := .registered index slot.name address :: tail.events }

/-- Asks `source` for every slot of the layout, in order, with the length of the layout as the
expected count.  The first miss ends the walk. -/
def collect {σ : Type} (source : AddressSource σ) (slots : List Slot) (state : σ) :
    Collection σ :=
  match expectedCount slots.length with
  | .error failure => { result := .error failure, events := [], source := state }
  | .ok expected => collectFrom source expected slots 0 empty state

end AddressBook

end RuntimeSlots
