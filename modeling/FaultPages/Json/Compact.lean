import FaultPages.Json.Value
import FaultPages.Decimal.Shortest

/-! # Compact JSON text — one line without spaces

    Strings escape the quote, the backslash and the control characters below
    U+0020, and nothing else.  Numbers follow `Layout`, a record of the choices
    that the digits themselves leave open. -/

namespace FaultPages.Json

-- ── Numbers ──────────────────────────────────────────────────────────────────────

/-- How the digits of a double are laid out. -/
structure Layout where
  /-- The least decimal exponent that is written positionally. -/
  lowest : Int
  /-- The first decimal exponent that is written positionally no more. -/
  beyond : Int
  /-- The mark between mantissa and exponent. -/
  mark : Char

/-- Numbers are written positionally, and always with a fraction, while the
    first digit stands for a power of ten from -5 to 15. -/
def Layout.compact : Layout := ⟨-5, 16, 'e'⟩

/-- A positive decimal in positional notation. -/
def positional (s : Scientific) : Text :=
  if s.exponent < 0 then
    '0' :: '.' :: List.replicate ((-s.exponent).toNat - 1) '0' ++ s.digits
  else
    let whole := s.exponent.toNat + 1
    let digits := s.digits ++ List.replicate (whole - s.digits.length) '0'
    let fraction := digits.drop whole
    digits.take whole ++ '.' :: (if fraction = [] then ['0'] else fraction)

/-- A positive decimal with an exponent, whose sign is always written. -/
def withExponent (mark : Char) (s : Scientific) : Text :=
  let mantissa := match s.digits with
    | [] => []
    | [d] => [d]
    | d :: fraction => d :: '.' :: fraction
  mantissa ++ mark :: (if s.exponent < 0 then '-' else '+') :: Text.decimal s.exponent.natAbs

/-- The text of a finite double. -/
def doubleText (layout : Layout) (x : Double) : Text :=
  let unsigned :=
    if x.magnitude = 0 then "0.0".toList
    else
      let s := x.shortest
      if layout.lowest ≤ s.exponent ∧ s.exponent < layout.beyond then positional s
      else withExponent layout.mark s
  if x.isNegative then '-' :: unsigned else unsigned

/-- The text of a number. -/
def Number.text : Number → Text
  | .integer i => Text.ofInt i
  | .double x => doubleText .compact x

/-- The text of a truth value. -/
def boolText (flag : Bool) : Text := if flag then "true".toList else "false".toList

-- ── Strings ──────────────────────────────────────────────────────────────────────

/-- A hexadecimal digit in lower case. -/
def hexDigit (n : Nat) : Char := Nat.digitChar n

/-- One character inside a quoted string. -/
def quotedChar (c : Char) : Text :=
  if c = '"' then ['\\', '"']
  else if c = '\\' then ['\\', '\\']
  else if c = '\n' then ['\\', 'n']
  else if c = '\r' then ['\\', 'r']
  else if c = '\t' then ['\\', 't']
  else if c.toNat = 8 then ['\\', 'b']
  else if c.toNat = 12 then ['\\', 'f']
  else if c.toNat < 32 then
    ['\\', 'u', '0', '0', hexDigit (c.toNat / 16), hexDigit (c.toNat % 16)]
  else [c]

/-- A string between quotes. -/
def quoted (t : Text) : Text := '"' :: t.flatMap quotedChar ++ ['"']

mutual

/-- The compact text of a value. -/
def compact : Value → Text
  | .null => "null".toList
  | .bool flag => boolText flag
  | .number n => n.text
  | .string t => quoted t
  | .array [] => ['[', ']']
  | .array (item :: items) => '[' :: compact item ++ compactItems items
  | .object [] => ['{', '}']
  | .object ((name, value) :: fields) =>
    '{' :: quoted name ++ ':' :: compact value ++ compactFields fields

/-- The items of an array after the first, and the closing bracket. -/
def compactItems : List Value → Text
  | [] => [']']
  | item :: items => ',' :: compact item ++ compactItems items

/-- The fields of an object after the first, and the closing brace. -/
def compactFields : List (Text × Value) → Text
  | [] => ['}']
  | (name, value) :: fields => ',' :: quoted name ++ ':' :: compact value ++ compactFields fields

end

/-- The text of a value inside a template: nothing for null, a string as it is,
    and arrays and objects as compact JSON. -/
def stringify : Value → Text
  | .null => []
  | .string t => t
  | .bool flag => boolText flag
  | .number n => n.text
  | .array items => compact (.array items)
  | .object fields => compact (.object fields)

end FaultPages.Json
