import FaultPages.Decimal.Binary64
import FaultPages.Text.Basic

/-! # TOML numbers and dates — which literals there are

    Literals are only recognised, not evaluated, but for one thing: an integer
    of more than 128 bits or a float beyond the doubles is a literal that no
    reader can take. -/

namespace FaultPages.Toml

-- ── Numbers ──────────────────────────────────────────────────────────────────────

/-- Digits with single underscores between them. -/
def isDigitRun (isDigit : Char → Bool) : Text → Bool
  | [] => false
  | [c] => isDigit c
  | c :: '_' :: rest => isDigit c && isDigitRun isDigit rest
  | c :: rest => isDigit c && isDigitRun isDigit rest

/-- A text without underscores. -/
def dropUnderscores (t : Text) : Text := t.filter (· != '_')

/-- A text without a sign at its start, and whether that was a minus sign. -/
def unsigned : Text → Bool × Text
  | '+' :: rest => (false, rest)
  | '-' :: rest => (true, rest)
  | t => (false, t)

/-- A decimal number without sign and without zeros in front. -/
def isDecimal (t : Text) : Bool :=
  isDigitRun Char.isDigit t && (t.length == 1 || t.head? != some '0')

/-- Whether an integer has at most 128 bits. -/
def fitsInteger (negative : Bool) (n : Nat) : Bool :=
  if negative then n ≤ 1 <<< 127 else n < 1 <<< 128

/-- Whether a literal is an integer, and then whether it fits. -/
def integer? (t : Text) : Option Bool :=
  let based (base : Nat) (digits : Text) : Option Bool :=
    let isDigit (c : Char) : Bool :=
      match Text.hexValue? c with
      | some d => d < base
      | none => false
    if isDigitRun isDigit digits then
      (Text.ofDigitsIn? base (dropUnderscores digits)).map (fitsInteger false)
    else none
  match t with
  | '0' :: 'x' :: digits => based 16 digits
  | '0' :: 'o' :: digits => based 8 digits
  | '0' :: 'b' :: digits => based 2 digits
  | _ =>
    let (negative, digits) := unsigned t
    if isDecimal digits then
      some (fitsInteger negative (Text.ofDigits (dropUnderscores digits)))
    else none

/-- The parts of a float: the digits before the point, those after it, and the
    exponent, each as far as it is there. -/
def floatParts (t : Text) : Text × Option Text × Option Text :=
  let isMark (c : Char) : Bool := c == 'e' || c == 'E'
  let mantissa := t.takeWhile fun c => !isMark c
  let power := match t.dropWhile fun c => !isMark c with
    | [] => none
    | _ :: rest => some rest
  let (whole, fraction) := Text.cutAt '.' mantissa
  (whole, fraction, power)

/-- Whether a literal is a float, and then whether it fits. -/
def float? (t : Text) : Option Bool :=
  let (_, digits) := unsigned t
  if digits = "inf".toList ∨ digits = "nan".toList then some true
  else
    let (whole, fraction, power) := floatParts digits
    let isRun (part : Option Text) : Bool := part.all (isDigitRun Char.isDigit)
    let isPower (part : Option Text) : Bool :=
      part.all fun p => isDigitRun Char.isDigit (unsigned p).2
    if isDecimal whole && isRun fraction && isPower power && (fraction.isSome || power.isSome) then
      let after := dropUnderscores (fraction.getD [])
      let m := Text.ofDigits (dropUnderscores whole ++ after)
      let (negative, exponent) := unsigned (power.getD [])
      let n : Int := Text.ofDigits (dropUnderscores exponent)
      let scale := (if negative then -n else n) - after.length
      some (Double.nearest? m (Text.decimal m).length scale).isSome
    else none

/-- Whether a literal is a number, and then whether it fits. -/
def number? (t : Text) : Option Bool :=
  match integer? t with
  | some fits => some fits
  | none => float? t

-- ── Dates and times ──────────────────────────────────────────────────────────────

/-- A number of exactly `width` digits at the start of a text. -/
def fixedDigits? (width : Nat) (t : Text) : Option (Nat × Text) :=
  let digits := t.take width
  if digits.length = width && digits.all Char.isDigit then
    some (Text.ofDigits digits, t.drop width)
  else none

/-- The days of a month. -/
def daysOf (year month : Nat) : Nat :=
  if month = 2 then
    if (year % 4 = 0 ∧ year % 100 ≠ 0) ∨ year % 400 = 0 then 29 else 28
  else if month = 4 ∨ month = 6 ∨ month = 9 ∨ month = 11 then 30
  else 31

/-- A date at the start of a text: what follows it. -/
def afterDate? (t : Text) : Option Text := do
  let (year, t) ← fixedDigits? 4 t
  let (month, t) ← match t with
    | '-' :: rest => fixedDigits? 2 rest
    | _ => none
  let (day, t) ← match t with
    | '-' :: rest => fixedDigits? 2 rest
    | _ => none
  if 1 ≤ month ∧ month ≤ 12 ∧ 1 ≤ day ∧ day ≤ daysOf year month then some t else none

/-- A time at the start of a text: what follows it.  Seconds may be left out. -/
def afterTime? (t : Text) : Option Text := do
  let (hour, t) ← fixedDigits? 2 t
  let (minute, t) ← match t with
    | ':' :: rest => fixedDigits? 2 rest
    | _ => none
  if 24 ≤ hour ∨ 60 ≤ minute then none
  else
    match t with
    | ':' :: rest =>
      let (second, t) ← fixedDigits? 2 rest
      if 60 < second then none
      else
        match t with
        | '.' :: rest =>
          if (rest.head?.map Char.isDigit).getD false then some (rest.dropWhile Char.isDigit)
          else none
        | _ => some t
    | _ => some t

/-- Whether a text is nothing or an offset from UTC. -/
def isOffset (t : Text) : Bool :=
  match t with
  | [] => true
  | ['Z'] => true
  | ['z'] => true
  | sign :: rest =>
    if sign = '+' ∨ sign = '-' then
      match fixedDigits? 2 rest with
      | some (hour, ':' :: rest) =>
        match fixedDigits? 2 rest with
        | some (minute, []) => hour < 24 && minute < 60
        | _ => false
      | _ => false
    else false

/-- Whether a literal is a date, a time, or both. -/
def isMoment (t : Text) : Bool :=
  match afterDate? t with
  | some [] => true
  | some (mark :: rest) =>
    (mark == 'T' || mark == 't' || mark == ' ') && (afterTime? rest).any isOffset
  | none => afterTime? t == some []

end FaultPages.Toml
