import FaultPages.Files.IoFault
import FaultPages.Text.Utf8

/-! # Files — the part of a file system below one folder

    A tree lists its entries by the names that lead to them from the current
    folder.  A path is followed name by name: `.` and empty names stay, `..`
    goes back up, and every name on the way has to be a folder.  Of what lies
    outside the current folder only the folders above it are known. -/

namespace FaultPages

/-- An entry of a folder. -/
inductive FileEntry where
  | file (bytes : List UInt8)
  | folder
  deriving DecidableEq, Repr

/-- The text of an entry, if it is a file of UTF-8. -/
def FileEntry.read : FileEntry → Except IoFault Text
  | .folder => .error .isFolder
  | .file bytes =>
    match Text.Utf8.ofBytes? bytes with
    | some t => .ok t
    | none => .error .notUtf8

/-- The entries below the current folder. -/
abbrev FileTree := List (List Text × FileEntry)

namespace FileTree

/-- The entry that a list of names leads to. -/
def at? (tree : FileTree) (names : List Text) : Option FileEntry :=
  if names = [] then some .folder else tree.lookup names

/-- Add an entry, with the folders that lead to it. -/
def put (tree : FileTree) (names : List Text) (entry : FileEntry) : FileTree :=
  (names, entry) :: (List.range names.length).map (fun n => (names.take n, .folder)) ++ tree

/-- The longest name of an entry, in bytes. -/
def nameLimit : Nat := 255

/-- Where a path has led so far. -/
inductive Place where
  /-- A folder above the current one. -/
  | above
  /-- What the names lead to from the current folder. -/
  | below (names : List Text)
  deriving DecidableEq, Repr

/-- The entry at a place. -/
def atPlace? (tree : FileTree) : Place → Option FileEntry
  | .above => some .folder
  | .below names => tree.at? names

/-- The folder that a place lies in. -/
def Place.up : Place → Place
  | .above => .above
  | .below [] => .above
  | .below names => .below names.dropLast

/-- Follow names from a place. -/
def follow? (tree : FileTree) (place : Place) : List Text → Option Place
  | [] => some place
  | name :: rest =>
    if tree.atPlace? place ≠ some .folder then none
    else if name = [] ∨ name = ['.'] then follow? tree place rest
    else if name = ['.', '.'] then follow? tree place.up rest
    else
      match place with
      | .above => none
      | .below names =>
        if nameLimit < Text.byteLength name then none
        else follow? tree (.below (names ++ [name])) rest

/-- The entry at a path, which begins at the current folder or, after a slash,
    above it. -/
def entry? (tree : FileTree) (path : Text) : Option FileEntry :=
  if path = [] then none
  else
    let start := if path.head? = some '/' then Place.above else .below []
    (follow? tree start (Text.splitOn '/' path)).bind tree.atPlace?

end FileTree

/-- A path below another.  An absolute one stands for itself. -/
def joinPath (root path : Text) : Text :=
  if path.head? = some '/' ∨ root = [] then path
  else if root.getLast? = some '/' then root ++ path
  else root ++ '/' :: path

end FaultPages
