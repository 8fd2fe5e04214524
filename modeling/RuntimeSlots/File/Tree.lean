import RuntimeSlots.File.Opening

/-!
# Trees of files

A tree of files in memory, as seen from a working directory inside a larger file system of which
nothing else is known.  Paths are resolved name by name: every name on the way, even an empty one
behind a last slash, needs a directory to be looked up in.

* `FileTree.resolve` walks a path.
* `FileTree.opening` is what opening a path leads to.
-/

namespace RuntimeSlots

/-- Files by the names that lead to them from the working directory.  The directories of the tree
are those that the files need. -/
structure FileTree where
  files : List (List String × Bytes)

namespace FileTree

/-- The names of a path between its slashes. -/
def names (path : String) : List String := (path.toList.splitOn '/').map String.ofList

/-- The tree with files at the given relative paths. -/
def ofFiles (files : List (String × Bytes)) : FileTree where
  files := files.map fun file =>
    ((names file.1).filter fun name => name != "" && name != ".", file.2)

/-- A place in the file system. -/
inductive Place
  /-- The place in the tree to which the names lead from the working directory. -/
  | inside (names : List String)
  /-- A directory of which only its existence is known. -/
  | outside
deriving DecidableEq, Repr

/-- The contents of the file at a place of the tree. -/
def contents? (tree : FileTree) (names : List String) : Option Bytes :=
  (tree.files.find? fun file => file.1 == names).map Prod.snd

/-- Whether a place of the tree is a directory. -/
def isDirectory (tree : FileTree) (names : List String) : Bool :=
  names.isEmpty || tree.files.any fun file =>
    names.isPrefixOf file.1 && names.length < file.1.length

/-- The greatest length of a name in bytes. -/
def nameLimit : Nat := 255

/-- The least length in bytes at which a path is too long. -/
def pathLimit : Nat := 4096

/-- The place to which `name` leads in a directory. -/
def enter (tree : FileTree) (directory : Place) (name : String) : Except OpenFault Place :=
  if name = "" ∨ name = "." then .ok directory
  else
    match directory with
    | .outside =>
      if name = ".." then .ok .outside
      else if nameLimit < name.utf8ByteSize then .error .nameTooLong
      else .error .missing
    | .inside names =>
      if name = ".." then
        -- Above the working directory nothing is known.
        if names.isEmpty then .ok .outside else .ok (.inside names.dropLast)
      else if nameLimit < name.utf8ByteSize then .error .nameTooLong
      else
        let found := names ++ [name]
        if (tree.contents? found).isSome ∨ tree.isDirectory found then .ok (.inside found)
        else .error .missing

/-- The place to which `name` leads from a place, which has to be a directory. -/
def step (tree : FileTree) (place : Place) (name : String) : Except OpenFault Place :=
  match place with
  | .outside => tree.enter place name
  | .inside names =>
    if (tree.contents? names).isSome then .error .notDirectory else tree.enter place name

/-- The place to which a path leads; an absolute one begins outside of the tree. -/
def resolve (tree : FileTree) (path : String) : Except OpenFault Place :=
  if path.toList.contains '\x00' then .error .zeroByte
  else if pathLimit ≤ path.utf8ByteSize then .error .nameTooLong
  else if path = "" then .error .missing
  else
    match names path with
    -- In front of the first slash of an absolute path there is an empty name.
    | "" :: rest => rest.foldlM tree.step .outside
    | relative => relative.foldlM tree.step (.inside [])

/-- What opening a path leads to.  A directory can be opened but not mapped. -/
def opening (tree : FileTree) (path : String) : Opening :=
  match tree.resolve path with
  | .error fault => .unopened fault
  | .ok .outside => .unmapped .notMappable
  | .ok (.inside names) =>
    match tree.contents? names with
    | some bytes => .contents bytes
    | none => .unmapped .notMappable

end FileTree

end RuntimeSlots
