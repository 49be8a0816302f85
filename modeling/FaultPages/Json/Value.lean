import FaultPages.Decimal.Binary64
import FaultPages.Text.Basic

/-! # JSON values — the data that templates are rendered against

    An object is the list of its fields in ascending order of their names, one
    field a name.  `Fields.insert` keeps that order, and writing a name again
    replaces the earlier value. -/

namespace FaultPages.Json

/-- A number: an integer of at most sixty-four bits, or a finite double. -/
inductive Number where
  | integer (value : Int)
  | double (value : Double)
  deriving DecidableEq, Repr

/-- A JSON value. -/
inductive Value where
  | null
  | bool (flag : Bool)
  | number (value : Number)
  | string (text : Text)
  | array (items : List Value)
  | object (fields : List (Text × Value))
  deriving Repr, Inhabited

/-- The fields of an object, in ascending order of their names. -/
abbrev Fields := List (Text × Value)

namespace Fields

/-- Add a field, or replace the one of that name. -/
def insert (name : Text) (value : Value) : Fields → Fields
  | [] => [(name, value)]
  | (n, v) :: rest =>
    if n = name then (name, value) :: rest
    else if n < name then (n, v) :: insert name value rest
    else (name, value) :: (n, v) :: rest

/-- The value of the field of that name. -/
def get? (name : Text) : Fields → Option Value
  | [] => none
  | (n, v) :: rest => if n = name then some v else get? name rest

/-- The fields of a list of pairs, of which a later one replaces an earlier one
    of the same name. -/
def ofList (pairs : List (Text × Value)) : Fields :=
  pairs.foldl (fun fields (name, value) => insert name value fields) []

/-- What a name leads to after an insertion. -/
theorem get?_insert (name other : Text) (value : Value) (fields : Fields) :
    get? other (insert name value fields) =
      if name = other then some value else get? other fields := by
  induction fields with
  | nil => simp [insert, get?]
  | cons field rest ih =>
    obtain ⟨n, v⟩ := field
    simp only [insert]
    split
    · rename_i h
      subst h
      simp only [get?]
      split <;> rfl
    · rename_i h
      split
      · simp only [get?, ih]
        by_cases hn : n = other
        · subst hn
          simp [Ne.symm h]
        · simp [hn]
      · simp only [get?]

end Fields

namespace Value

/-- A text as a value. -/
def ofString (s : String) : Value := .string s.toList

/-- A natural number as a value. -/
def ofNat (n : Nat) : Value := .number (.integer n)

/-- An object from its fields in any order. -/
def ofFields (pairs : List (String × Value)) : Value :=
  .object (Fields.ofList (pairs.map fun (name, value) => (name.toList, value)))

/-- The field of that name, if the value is an object that has it. -/
def field? (name : String) : Value → Option Value
  | .object fields => Fields.get? name.toList fields
  | _ => none

/-- The fields of an object; of anything else, none. -/
def fields : Value → Fields
  | .object fields => fields
  | _ => []

end Value

end FaultPages.Json
