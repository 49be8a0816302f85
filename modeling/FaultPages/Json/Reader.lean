import FaultPages.Json.Value

/-! # Reading JSON text

    A recursive reader over the characters.  Every step consumes at least one
    character, so the length of the text is fuel enough.  An integer literal
    that fits sixty-four bits, signed or not, is an integer; every other number
    is the nearest double, and so is a negative zero. -/

namespace FaultPages.Json

/-- Blanks between the tokens of a JSON text. -/
def skipBlanks (t : Text) : Text :=
  t.dropWhile fun c => c == ' ' || c == '\n' || c == '\r' || c == '\t'

-- ── Strings ──────────────────────────────────────────────────────────────────────

/-- Four hexadecimal digits. -/
def hexQuad? : Text → Option (Nat × Text)
  | a :: b :: c :: d :: rest => (Text.ofDigitsIn? 16 [a, b, c, d]).map fun n => (n, rest)
  | _ => none

/-- The rest of a string after its opening quote: the text up to the closing
    quote, and what follows it. -/
def stringBody : Nat → Text → Option (Text × Text)
  | 0, _ => none
  | _ + 1, [] => none
  | _ + 1, '"' :: rest => some ([], rest)
  | fuel + 1, '\\' :: 'u' :: rest => do
    let (unit, rest) ← hexQuad? rest
    if 0xD800 ≤ unit ∧ unit < 0xDC00 then
      match rest with
      | '\\' :: 'u' :: rest =>
        let (low, rest) ← hexQuad? rest
        if 0xDC00 ≤ low ∧ low < 0xE000 then
          let (text, rest) ← stringBody fuel rest
          some (Char.ofNat (0x10000 + (unit - 0xD800) * 0x400 + (low - 0xDC00)) :: text, rest)
        else none
      | _ => none
    else if 0xDC00 ≤ unit ∧ unit < 0xE000 then none
    else
      let (text, rest) ← stringBody fuel rest
      some (Char.ofNat unit :: text, rest)
  | fuel + 1, '\\' :: c :: rest => do
    let char ←
      if c = '"' ∨ c = '\\' ∨ c = '/' then some c
      else if c = 'b' then some (Char.ofNat 8)
      else if c = 'f' then some (Char.ofNat 12)
      else if c = 'n' then some '\n'
      else if c = 'r' then some '\r'
      else if c = 't' then some '\t'
      else none
    let (text, rest) ← stringBody fuel rest
    some (char :: text, rest)
  | fuel + 1, c :: rest =>
    if c.toNat < 32 ∨ c = '\\' then none
    else (stringBody fuel rest).map fun (text, rest) => (c :: text, rest)

-- ── Numbers ──────────────────────────────────────────────────────────────────────

/-- The number that a literal writes: its sign, the digits before and after the
    point, and the exponent; `plain` says that there was neither point nor
    exponent. -/
def numberOf? (negative plain : Bool) (whole fraction : Text) (power : Int) : Option Number :=
  let m := Text.ofDigits (whole ++ fraction)
  if plain && !negative && m < 1 <<< 64 then some (.integer m)
  else if plain && negative && 0 < m && m ≤ 1 <<< 63 then some (.integer (-(m : Int)))
  else
    (Double.nearest? m (Text.decimal m).length (power - fraction.length)).map fun x =>
      .double (if negative then x.negate else x)

/-- The exponent of a number, if one follows. -/
def exponent? (t : Text) : Option (Option Int × Text) :=
  match t with
  | c :: rest =>
    if c = 'e' ∨ c = 'E' then
      let (negative, rest) := match rest with
        | '-' :: rest => (true, rest)
        | '+' :: rest => (false, rest)
        | _ => (false, rest)
      let digits := rest.takeWhile Char.isDigit
      if digits = [] then none
      else
        let n : Int := Text.ofDigits digits
        some (some (if negative then -n else n), rest.dropWhile Char.isDigit)
    else some (none, t)
  | [] => some (none, t)

/-- A number literal. -/
def number? (t : Text) : Option (Number × Text) := do
  let (negative, t) := match t with
    | '-' :: rest => (true, rest)
    | _ => (false, t)
  let whole := t.takeWhile Char.isDigit
  let t := t.dropWhile Char.isDigit
  if whole = [] ∨ (whole.length > 1 ∧ whole.head? = some '0') then none
  else
    let (fraction?, t) ← match t with
      | '.' :: rest =>
        let digits := rest.takeWhile Char.isDigit
        if digits = [] then none else some (some digits, rest.dropWhile Char.isDigit)
      | _ => some (none, t)
    let (power?, t) ← exponent? t
    let n ← numberOf? negative (fraction?.isNone && power?.isNone) whole (fraction?.getD [])
      (power?.getD 0)
    some (n, t)

-- ── Values ───────────────────────────────────────────────────────────────────────

/-- A word that stands for a value. -/
def word? (t : Text) : Option (Value × Text) :=
  if "null".toList.isPrefixOf t then some (.null, t.drop 4)
  else if "true".toList.isPrefixOf t then some (.bool true, t.drop 4)
  else if "false".toList.isPrefixOf t then some (.bool false, t.drop 5)
  else none

mutual

/-- A value at the start of a text, and what follows it. -/
def value? : Nat → Text → Option (Value × Text)
  | 0, _ => none
  | fuel + 1, t =>
    match skipBlanks t with
    | '"' :: rest => (stringBody rest.length.succ rest).map fun (text, rest) => (.string text, rest)
    | '[' :: rest =>
      match skipBlanks rest with
      | ']' :: rest => some (.array [], rest)
      | _ => (items? fuel rest).map fun (items, rest) => (.array items, rest)
    | '{' :: rest =>
      match skipBlanks rest with
      | '}' :: rest => some (.object [], rest)
      | _ => (fields? fuel rest).map fun (fields, rest) => (.object (Fields.ofList fields), rest)
    | c :: rest =>
      if c = '-' ∨ c.isDigit then (number? (c :: rest)).map fun (n, rest) => (.number n, rest)
      else word? (c :: rest)
    | [] => none

/-- The items of an array, up to and with its closing bracket. -/
def items? : Nat → Text → Option (List Value × Text)
  | 0, _ => none
  | fuel + 1, t => do
    let (item, rest) ← value? fuel t
    match skipBlanks rest with
    | ']' :: rest => some ([item], rest)
    | ',' :: rest =>
      let (items, rest) ← items? fuel rest
      some (item :: items, rest)
    | _ => none

/-- The fields of an object as they are written, up to and with its closing
    brace. -/
def fields? : Nat → Text → Option (List (Text × Value) × Text)
  | 0, _ => none
  | fuel + 1, t =>
    match skipBlanks t with
    | '"' :: rest => do
      let (name, rest) ← stringBody rest.length.succ rest
      match skipBlanks rest with
      | ':' :: rest =>
        let (value, rest) ← value? fuel rest
        match skipBlanks rest with
        | '}' :: rest => some ([(name, value)], rest)
        | ',' :: rest =>
          let (fields, rest) ← fields? fuel rest
          some ((name, value) :: fields, rest)
        | _ => none
      | _ => none
    | _ => none

end

/-- The value that a JSON text writes, if it is one. -/
def parse? (t : Text) : Option Value :=
  match value? (2 * t.length + 2) t with
  | some (value, rest) => if skipBlanks rest = [] then some value else none
  | none => none

end FaultPages.Json
