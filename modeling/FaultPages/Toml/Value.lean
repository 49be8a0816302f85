import FaultPages.Text.Basic

/-! # TOML values — tables that remember how they came about

    A table may be added to only by some of the means that open tables: a
    header may open a table that a longer header implied before, a dotted key
    puts its value only into a table that dotted keys opened, and an inline
    table is closed.  So each table keeps its origin, and both `extend` for
    headers and `assign` for keys go down a path under these rules. -/

namespace FaultPages.Toml

/-- How a table came about. -/
inductive Origin where
  /-- By a header of its own. -/
  | header
  /-- By a header of a table inside it. -/
  | implied
  /-- By a dotted key. -/
  | dotted
  /-- Between braces. -/
  | inline
  deriving DecidableEq, Repr

/-- A value.  Numbers are not told apart, as no setting takes one; it is kept
    whether a reader of any width could take the number. -/
inductive Value where
  | string (text : Text)
  | boolean (flag : Bool)
  | number (fits : Bool)
  /-- A date, a time, or both. -/
  | moment
  | array (items : List Value)
  | table (origin : Origin) (entries : List (Text × Value))
  /-- An array whose tables were opened by headers, the last of them last. -/
  | tables (items : List (List (Text × Value)))
  deriving Repr, Inhabited

/-- The entries of a table in the order in which they came about. -/
abbrev Entries := List (Text × Value)

/-- Replace what stands under a key, or add it at the end. -/
def update (key : Text) (change : Option Value → Option Value) : Entries → Option Entries
  | [] => (change none).map fun v => [(key, v)]
  | (k, v) :: rest =>
    if k = key then (change (some v)).map fun v => (k, v) :: rest
    else (update key change rest).map ((k, v) :: ·)

/-- Put a value under a key that is still free. -/
def define (key : Text) (value : Value) : Entries → Option Entries :=
  update key fun
    | none => some value
    | some _ => none

/-- Change the last element of a list. -/
def changeLast {α : Type} (change : α → Option α) : List α → Option (List α)
  | [] => none
  | [x] => (change x).map fun y => [y]
  | x :: rest => (changeLast change rest).map (x :: ·)

/-- Go down the path of a header, opening the tables that are missing, and
    change the entries of the last one. -/
def extend (path : List Text) (change : Entries → Option Entries) : Entries → Option Entries :=
  match path with
  | [] => change
  | key :: path =>
    update key fun
      | none => (extend path change []).map (.table .implied)
      | some (.table origin entries) =>
        if origin = .inline then none
        else (extend path change entries).map (.table origin)
      | some (.tables items) => (changeLast (extend path change) items).map .tables
      | some _ => none

/-- Open the table of a header.  It may have been implied, but not defined. -/
def openTable (path : List Text) (entries : Entries) : Option Entries :=
  match path.getLast? with
  | none => none
  | some key =>
    extend path.dropLast (update key fun
      | none => some (.table .header [])
      | some (.table .implied inner) => some (.table .header inner)
      | some _ => none) entries

/-- Open one more table of an array. -/
def openElement (path : List Text) (entries : Entries) : Option Entries :=
  match path.getLast? with
  | none => none
  | some key =>
    extend path.dropLast (update key fun
      | none => some (.tables [[]])
      | some (.tables items) => some (.tables (items ++ [[]]))
      | some _ => none) entries

/-- Put a value at the end of a dotted key.  Its last table has to be one that
    dotted keys opened; on the way there it also goes through implied tables and
    the last tables of arrays. -/
def assign (path : List Text) (value : Value) : Entries → Option Entries :=
  match path with
  | [] => fun _ => none
  | [key] => define key value
  | key :: path =>
    let isLast := path.length == 1
    update key fun
      | none => (assign path value []).map (.table .dotted)
      | some (.table origin entries) =>
        if origin = .dotted ∨ (origin = .implied ∧ !isLast) then
          (assign path value entries).map (.table origin)
        else none
      | some (.tables items) =>
        if isLast then none else (changeLast (assign path value) items).map .tables
      | some _ => none

end FaultPages.Toml
