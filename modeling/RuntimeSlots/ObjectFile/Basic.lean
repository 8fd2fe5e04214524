import RuntimeSlots.Text.Utf8

/-!
# What an object file tells about its names

Whatever its format, an object file is seen as a list of symbols, a list of exported names and a
list of imported names.  Each list may turn out to be unreadable on its own, with a fault that
belongs to the format.
-/

namespace RuntimeSlots

/-- One entry of a symbol table. -/
structure Symbol where
  name : String
  /-- Another file has to define the symbol. -/
  isUndefined : Bool
  /-- The symbol is not visible outside its file. -/
  isLocal : Bool
deriving DecidableEq, Repr

/-- The view of an object file that an audit needs; `φ` holds the faults of its format. -/
structure ObjectFile (φ : Type) where
  /-- The file is a linked program or dynamic library. -/
  isImage : Bool
  symbols : Except φ (List Symbol)
  exportNames : Except φ (List Bytes)
  importNames : Except φ (List Bytes)

namespace ObjectFile

/-- The same file with its faults seen as cases of a wider type. -/
def mapFault {φ ψ : Type} (f : φ → ψ) (file : ObjectFile φ) : ObjectFile ψ where
  isImage := file.isImage
  symbols := file.symbols.mapError f
  exportNames := file.exportNames.mapError f
  importNames := file.importNames.mapError f

end ObjectFile

/-- The value, or the given fault if there is none. -/
def orFault {φ α : Type} (value : Option α) (fault : φ) : Except φ α :=
  match value with
  | some value => .ok value
  | none => .error fault

end RuntimeSlots
