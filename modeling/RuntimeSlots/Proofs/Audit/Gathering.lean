import RuntimeSlots.Audit
import Mathlib.Data.Set.Basic

/-!
# Names that an audit gathers

`gather` goes over the members of an archive and adds the names of each object file to three sets,
one for each `Role`.  What is in a set after a run depends only on what was in it before and on what
the object files tell (`ObjectFile.Tells`), not on their order.

* `ObjectFile.Tells` says which names an object file tells in which role.
* `Audit.absorb_of_isReadable` and `Audit.absorb_of_not_isReadable` are one step of the gathering.
* `Audit.Gathers` is a whole run of it and `Audit.Stops` its end; `Audit.exists_gathers` finds both
  for any members.
* `Audit.gathers_of_result_ok` and `Audit.gather_result_ok` say what a run that ends well has done.
* `Audit.ofBytes_eq_ofMembers` audits an archive by its members alone.
-/

namespace RuntimeSlots

/-! ## Roles -/

/-- The roles in which names are gathered. -/
inductive Role
  | defined
  | referenced
  | exported
deriving DecidableEq, Repr

/-- The names gathered in a role. -/
def NameSets.inRole (names : NameSets) : Role → Std.HashSet String
  | .defined => names.defined
  | .referenced => names.referenced
  | .exported => names.exported

/-- A symbol counts in a role: as a definition if it is neither undefined nor local, as a reference
if it is undefined, also if it is local. -/
def Symbol.HasRole (symbol : Symbol) : Role → Prop
  | .defined => symbol.isUndefined = false ∧ symbol.isLocal = false
  | .referenced => symbol.isUndefined = true
  | .exported => False

instance (symbol : Symbol) : (role : Role) → Decidable (symbol.HasRole role)
  | .defined => inferInstanceAs (Decidable (symbol.isUndefined = false ∧ symbol.isLocal = false))
  | .referenced => inferInstanceAs (Decidable (symbol.isUndefined = true))
  | .exported => inferInstanceAs (Decidable False)

/-- The name of the symbol, if the symbol counts in the role. -/
def Symbol.nameInRole? (symbol : Symbol) (role : Role) : Option String :=
  if symbol.HasRole role then some symbol.name else none

theorem Symbol.nameInRole?_eq_some_iff {symbol : Symbol} {role : Role} {name : String} :
    symbol.nameInRole? role = some name ↔ symbol.HasRole role ∧ symbol.name = name := by
  rw [nameInRole?, Option.ite_none_right_eq_some, Option.some_inj]

namespace ObjectFile

variable {φ : Type}

/-- The object file tells a name in a role: one of its symbols has the name and the role, or its
exports or imports list the name. -/
inductive Tells (file : ObjectFile φ) : Role → String → Prop
  | symbol {symbols : List Symbol} {symbol : Symbol} {role : Role}
      (hlist : file.symbols = .ok symbols) (hmem : symbol ∈ symbols)
      (hrole : symbol.HasRole role) : Tells file role symbol.name
  | exported {names : List Bytes} {name : Bytes}
      (hlist : file.exportNames = .ok names) (hmem : name ∈ names) :
      Tells file .exported name.toTextLossy
  | imported {names : List Bytes} {name : Bytes}
      (hlist : file.importNames = .ok names) (hmem : name ∈ names) :
      Tells file .referenced name.toTextLossy

/-- All three lists of the object file can be read, which is what `absorb` needs. -/
def IsReadable (file : ObjectFile φ) : Prop :=
  (∃ symbols, file.symbols = .ok symbols) ∧ (∃ names, file.exportNames = .ok names) ∧
    ∃ names, file.importNames = .ok names

/-- What a readable file `Tells`, by its three lists: there is one constructor for each of them. -/
theorem tells_iff {file : ObjectFile φ} {symbols : List Symbol} {exports imports : List Bytes}
    (hsymbols : file.symbols = .ok symbols) (hexports : file.exportNames = .ok exports)
    (himports : file.importNames = .ok imports) (role : Role) (name : String) :
    file.Tells role name ↔
      (∃ symbol ∈ symbols, symbol.HasRole role ∧ symbol.name = name) ∨
        (∃ item ∈ exports, role = .exported ∧ item.toTextLossy = name) ∨
        ∃ item ∈ imports, role = .referenced ∧ item.toTextLossy = name := by
  constructor
  · -- The list that a constructor speaks of is the one that was read.
    rintro (⟨hlist, hmem, hrole⟩ | ⟨hlist, hmem⟩ | ⟨hlist, hmem⟩)
    · obtain rfl : symbols = _ := by simpa [hsymbols] using hlist
      exact .inl ⟨_, hmem, hrole, rfl⟩
    · obtain rfl : exports = _ := by simpa [hexports] using hlist
      exact .inr (.inl ⟨_, hmem, rfl, rfl⟩)
    · obtain rfl : imports = _ := by simpa [himports] using hlist
      exact .inr (.inr ⟨_, hmem, rfl, rfl⟩)
  · rintro (⟨symbol, hmem, hrole, rfl⟩ | ⟨item, hmem, rfl, rfl⟩ | ⟨item, hmem, rfl, rfl⟩)
    · exact .symbol hsymbols hmem hrole
    · exact .exported hexports hmem
    · exact .imported himports hmem

end ObjectFile

namespace Audit

/-! ## One list -/

/-- A fold adds what the items of its list tell, if one `step` adds what one item tells.  `absorb`
consists of three such folds. -/
theorem mem_foldl_inRole {α : Type} {step : NameSets → α → NameSets}
    {tells : α → Role → String → Prop}
    (hstep : ∀ names item role name,
      name ∈ (step names item).inRole role ↔ name ∈ names.inRole role ∨ tells item role name)
    (items : List α) (names : NameSets) (role : Role) (name : String) :
    name ∈ (items.foldl step names).inRole role ↔
      name ∈ names.inRole role ∨ ∃ item ∈ items, tells item role name := by
  -- Induction on the items, for any names gathered before.
  induction items generalizing names with
  | nil => simp
  | cons item rest ih =>
    rw [List.foldl_cons, ih, hstep, or_assoc]
    simp only [List.mem_cons, exists_eq_or_imp]

/-- `absorbSymbol` adds the name of a symbol in the roles that `Symbol.HasRole` gives it. -/
theorem mem_absorbSymbol (names : NameSets) (symbol : Symbol) (role : Role) (name : String) :
    name ∈ (absorbSymbol names symbol).inRole role ↔
      name ∈ names.inRole role ∨ (symbol.HasRole role ∧ symbol.name = name) := by
  unfold absorbSymbol
  -- Two properties of the symbol decide; for each of the four cases there are three roles.
  cases hundefined : symbol.isUndefined <;> cases hlocal : symbol.isLocal <;> cases role <;>
    simp [NameSets.inRole, Symbol.HasRole, hundefined, hlocal, or_comm]

theorem mem_absorbExport (names : NameSets) (item : Bytes) (role : Role) (name : String) :
    name ∈ (absorbExport names item).inRole role ↔
      name ∈ names.inRole role ∨ (role = .exported ∧ item.toTextLossy = name) := by
  cases role <;> simp [absorbExport, NameSets.inRole, or_comm]

theorem mem_absorbImport (names : NameSets) (item : Bytes) (role : Role) (name : String) :
    name ∈ (absorbImport names item).inRole role ↔
      name ∈ names.inRole role ∨ (role = .referenced ∧ item.toTextLossy = name) := by
  cases role <;> simp [absorbImport, NameSets.inRole, or_comm]

/-! ## One object file -/

/-- The failure as it would be if the object file were known as `source`. -/
def Failure.inSource (source : String) : Failure → Failure
  | symbols _ fault => symbols source fault
  | exports _ fault => exports source fault
  | imports _ fault => imports source fault
  | failure => failure

/-- `absorb` succeeds on a readable file, and adds the names that the file `Tells`. -/
theorem absorb_of_isReadable {file : ObjectFile ObjectFault} (h : file.IsReadable)
    (names : NameSets) (source : String) :
    ∃ names', absorb names source file = .ok names' ∧
      ∀ role name, name ∈ names'.inRole role ↔ name ∈ names.inRole role ∨ file.Tells role name := by
  obtain ⟨⟨symbols, hsymbols⟩, ⟨exports, hexports⟩, ⟨imports, himports⟩⟩ := h
  refine ⟨_, by rw [absorb, hsymbols, hexports, himports]; rfl, ?_⟩
  intro role name
  -- `absorb` goes over the symbols first, then over the exports, and over the imports last.
  rw [mem_foldl_inRole mem_absorbImport, mem_foldl_inRole mem_absorbExport,
    mem_foldl_inRole mem_absorbSymbol, or_assoc, or_assoc,
    ObjectFile.tells_iff hsymbols hexports himports]

/-- `absorb` fails on a file that is not readable, whatever names it is given.  The failure depends
on `source` only by `Failure.inSource`, and is not `Failure.unreadable`. -/
theorem absorb_of_not_isReadable {file : ObjectFile ObjectFault} (h : ¬ file.IsReadable) :
    ∃ failure : Failure, (∀ fault, failure ≠ .unreadable fault) ∧
      ∀ names source, absorb names source file = .error (failure.inSource source) := by
  -- The lists are read in this order, and the first one that cannot be read decides.
  cases hsymbols : file.symbols with
  | error fault =>
    exact ⟨.symbols "" fault, by simp, fun _ _ => by rw [absorb, hsymbols]; rfl⟩
  | ok symbols =>
    cases hexports : file.exportNames with
    | error fault =>
      exact ⟨.exports "" fault, by simp, fun _ _ => by rw [absorb, hsymbols, hexports]; rfl⟩
    | ok exports =>
      cases himports : file.importNames with
      | error fault =>
        exact ⟨.imports "" fault, by simp, fun _ _ => by
          rw [absorb, hsymbols, hexports, himports]; rfl⟩
      | ok imports =>
        -- All three lists can be read, so the file is readable after all.
        exact absurd ⟨⟨symbols, hsymbols⟩, ⟨exports, hexports⟩, ⟨imports, himports⟩⟩ h

theorem isReadable_of_absorb_ok {file : ObjectFile ObjectFault} {names names' : NameSets}
    {source : String} (h : absorb names source file = .ok names') : file.IsReadable := by
  by_contra hfile
  obtain ⟨failure, -, hfailure⟩ := absorb_of_not_isReadable hfile
  simp [hfailure] at h

/-- If `absorb` succeeds, it has added what the file `Tells`. -/
theorem mem_of_absorb_ok {file : ObjectFile ObjectFault} {names names' : NameSets}
    {source : String} (h : absorb names source file = .ok names') (role : Role) (name : String) :
    name ∈ names'.inRole role ↔ name ∈ names.inRole role ∨ file.Tells role name := by
  obtain ⟨names'', hok, hmem⟩ := absorb_of_isReadable (isReadable_of_absorb_ok h) names source
  obtain rfl : names'' = names' := by simpa [h] using hok.symm
  exact hmem role name

/-! ## A run -/

/-- The object files among the members; what `ObjectFile.read` rejects is left out. -/
def objectsOf (members : List Archive.Member) : List (ObjectFile ObjectFault) :=
  members.filterMap fun member => (ObjectFile.read member.data).toOption

theorem objectsOf_cons_of_error {member : Archive.Member} {fault : ObjectFault}
    (h : ObjectFile.read member.data = .error fault) (rest : List Archive.Member) :
    objectsOf (member :: rest) = objectsOf rest := by
  simp [objectsOf, h, Except.toOption]

theorem objectsOf_cons_of_ok {member : Archive.Member} {file : ObjectFile ObjectFault}
    (h : ObjectFile.read member.data = .ok file) (rest : List Archive.Member) :
    objectsOf (member :: rest) = file :: objectsOf rest := by
  simp [objectsOf, h, Except.toOption]

/-- A run over `members`: from the names gathered before, it comes to the last names, and tells the
log one event for each member.  The members that are no object files are `skipped`, the names of the
others are `absorbed`. -/
inductive Gathers : NameSets → List Archive.Member → List Event → NameSets → Prop
  | nil (names : NameSets) : Gathers names [] [] names
  | skipped {names last : NameSets} {member : Archive.Member} {members : List Archive.Member}
      {events : List Event} {fault : ObjectFault}
      (hread : ObjectFile.read member.data = .error fault)
      (hrest : Gathers names members events last) :
      Gathers names (member :: members) (.skipped member.name.toTextLossy :: events) last
  | absorbed {names next last : NameSets} {member : Archive.Member}
      {members : List Archive.Member} {events : List Event} {file : ObjectFile ObjectFault}
      (hread : ObjectFile.read member.data = .ok file)
      (habsorb : absorb names member.name.toTextLossy file = .ok next)
      (hrest : Gathers next members events last) :
      Gathers names (member :: members) (absorbedEvent member.name.toTextLossy next :: events) last

namespace Gathers

variable {names last : NameSets} {members : List Archive.Member} {events : List Event}

theorem forall_isReadable (h : Gathers names members events last) :
    ∀ file ∈ objectsOf members, file.IsReadable := by
  -- Induction on the run: only `absorbed` adds an object file, and it was read in that step.
  induction h with
  | nil names => simp [objectsOf]
  | skipped hread _ ih => rwa [objectsOf_cons_of_error hread]
  | absorbed hread habsorb _ ih =>
    rw [objectsOf_cons_of_ok hread]
    exact List.forall_mem_cons.mpr ⟨isReadable_of_absorb_ok habsorb, ih⟩

/-- A run adds just what the object files among its members tell: the invariant of `gather`. -/
theorem mem_iff (h : Gathers names members events last) (role : Role) (name : String) :
    name ∈ last.inRole role ↔
      name ∈ names.inRole role ∨ ∃ file ∈ objectsOf members, file.Tells role name := by
  induction h with
  | nil names => simp [objectsOf]
  | skipped hread _ ih => rw [ih, objectsOf_cons_of_error hread]
  | absorbed hread habsorb _ ih =>
    -- What was there before the rest is what was there at first, and what this file tells.
    rw [ih, mem_of_absorb_ok habsorb, objectsOf_cons_of_ok hread, or_assoc]
    simp only [List.mem_cons, exists_eq_or_imp]

end Gathers

/-- How a run that has gathered the names `last` stops in front of the members that are left: their
list is at its end, or the first of them is an object file that cannot be added. -/
inductive Stops (last : NameSets) :
    Option Archive.Fault → List Archive.Member → Except Failure NameSets → Prop
  | atEnd : Stops last none [] (.ok last)
  | atFault (fault : Archive.Fault) : Stops last (some fault) [] (.error (.archive fault))
  | atMember {ending : Option Archive.Fault} {member : Archive.Member}
      {members : List Archive.Member} {file : ObjectFile ObjectFault} {failure : Failure}
      (hread : ObjectFile.read member.data = .ok file)
      (habsorb : absorb last member.name.toTextLossy file = .error failure) :
      Stops last ending (member :: members) (.error failure)

/-- `gather` is a run over some first members that `Stops` in front of the others. -/
theorem exists_gathers (ending : Option Archive.Fault) (names : NameSets)
    (members : List Archive.Member) :
    ∃ walked rest last, members = walked ++ rest ∧
      Gathers names walked (gather ending names members).events last ∧
      Stops last ending rest (gather ending names members).result := by
  -- Induction on the members, for any names gathered before them.
  induction members generalizing names with
  | nil =>
    cases ending with
    | none => exact ⟨[], [], names, rfl, .nil names, .atEnd⟩
    | some fault => exact ⟨[], [], names, rfl, .nil names, .atFault fault⟩
  | cons member members ih =>
    cases hread : ObjectFile.read member.data with
    | error fault =>
      -- No object file: the run goes on with the same names.
      obtain ⟨walked, rest, last, hmembers, hrun, hend⟩ := ih names
      simp only [gather, hread]
      exact ⟨member :: walked, rest, last, congrArg (member :: ·) hmembers,
        .skipped hread hrun, hend⟩
    | ok file =>
      cases habsorb : absorb names member.name.toTextLossy file with
      | error failure =>
        -- The run stops here, and this member is the first of those that are left.
        simp only [gather, hread, habsorb]
        exact ⟨[], member :: members, names, rfl, .nil names, .atMember hread habsorb⟩
      | ok added =>
        obtain ⟨walked, rest, last, hmembers, hrun, hend⟩ := ih added
        simp only [gather, hread, habsorb]
        exact ⟨member :: walked, rest, last, congrArg (member :: ·) hmembers,
          .absorbed hread habsorb hrun, hend⟩

/-- If `gather` ends well, it is a run over all members, and no fault has cut them off. -/
theorem gathers_of_result_ok {ending : Option Archive.Fault} {members : List Archive.Member}
    {names names' : NameSets} (h : (gather ending names members).result = .ok names') :
    ending = none ∧ Gathers names members (gather ending names members).events names' := by
  obtain ⟨walked, rest, last, hmembers, hrun, hend⟩ := exists_gathers ending names members
  rw [h] at hend
  -- Of the constructors of `Stops`, only `atEnd` is about a success.
  cases hend with
  | atEnd =>
    rw [List.append_nil] at hmembers
    exact ⟨rfl, hmembers ▸ hrun⟩

/-- If `gather` ends well, all object files among the members are readable, and their names are what
was added. -/
theorem gather_result_ok {ending : Option Archive.Fault} {members : List Archive.Member}
    {names names' : NameSets} (h : (gather ending names members).result = .ok names') :
    ending = none ∧ (∀ file ∈ objectsOf members, file.IsReadable) ∧
      ∀ role name, name ∈ names'.inRole role ↔
        name ∈ names.inRole role ∨ ∃ file ∈ objectsOf members, file.Tells role name := by
  obtain ⟨hending, hrun⟩ := gathers_of_result_ok h
  exact ⟨hending, hrun.forall_isReadable, hrun.mem_iff⟩

/-- If a fault has cut off the list of members, `gather` fails, with this fault or an earlier one.
-/
theorem gather_result_error (fault : Archive.Fault) (names : NameSets)
    (members : List Archive.Member) :
    ∃ failure, (gather (some fault) names members).result = .error failure := by
  cases hresult : (gather (some fault) names members).result with
  | error failure => exact ⟨failure, rfl⟩
  | ok names' => exact absurd (gather_result_ok hresult).1 (by simp)

/-! ## Archives -/

/-- The audit of members, wherever they come from: what `ofArchive` makes of a listing without a
fault. -/
def ofMembers (members : List Archive.Member) : Outcome Report :=
  let outcome := gather none .empty members
  { events := outcome.events, result := outcome.result.map fun names => names.report .archive }

/-- `ofBytes` of an archive depends only on what `Archive.members` lists. -/
theorem ofBytes_eq_ofMembers {bytes : Bytes} {members : List Archive.Member}
    (hstart : bytes.startsWith Archive.signature = true)
    (h : Archive.members bytes = { members := members, failure := none }) :
    ofBytes bytes = ofMembers members := by
  rw [ofBytes, if_pos hstart, ofArchive, h, ofMembers]

end Audit

end RuntimeSlots
