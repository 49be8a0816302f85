/-! # Text — code points, and the bytes they stand for

    A text is the list of its code points.  Positions in messages count UTF-8
    bytes, so every text has a byte length and a list of bytes.  The rest of
    this module is the small vocabulary the readers and printers share: cutting
    at a separator, finding a needle, and numbers in decimal digits. -/

namespace FaultPages

/-- A text, as the list of its code points. -/
abbrev Text := List Char

namespace Text

-- ── Bytes ────────────────────────────────────────────────────────────────────────

/-- The number of UTF-8 bytes of a text. -/
def byteLength : Text → Nat
  | [] => 0
  | c :: t => c.utf8Size + byteLength t

/-- The UTF-8 bytes of a text. -/
def utf8 (t : Text) : List UInt8 := t.flatMap String.utf8EncodeChar

@[simp] theorem byteLength_nil : byteLength [] = 0 := rfl

@[simp] theorem byteLength_cons (c : Char) (t : Text) :
    byteLength (c :: t) = c.utf8Size + byteLength t := rfl

@[simp] theorem byteLength_append (s t : Text) :
    byteLength (s ++ t) = byteLength s + byteLength t := by
  induction s with
  | nil => simp
  | cons c s ih => rw [List.cons_append, byteLength_cons, ih, byteLength_cons, Nat.add_assoc]

-- ── Cutting ──────────────────────────────────────────────────────────────────────

/-- Cut a text at the first place where `needle` stands: what comes before it,
    and the text from it on. -/
def cutBefore (needle : Text) : Text → Option (Text × Text)
  | [] => if needle = [] then some ([], []) else none
  | c :: t =>
    if needle.isPrefixOf (c :: t) then some ([], c :: t)
    else (cutBefore needle t).map fun (before, rest) => (c :: before, rest)

/-- Both parts of a cut together are the text that was cut. -/
theorem cutBefore_append {needle t before rest : Text}
    (h : cutBefore needle t = some (before, rest)) : before ++ rest = t := by
  induction t generalizing before with
  | nil =>
    simp only [cutBefore] at h
    split at h <;> simp_all
  | cons c t ih =>
    simp only [cutBefore] at h
    split at h
    · simp_all
    · obtain ⟨⟨b, r⟩, hb, he⟩ := Option.map_eq_some_iff.mp h
      simp only [Prod.mk.injEq] at he
      obtain ⟨rfl, rfl⟩ := he
      simp [ih hb]

/-- The second part of a cut begins with the needle. -/
theorem needle_of_cutBefore {needle t before rest : Text}
    (h : cutBefore needle t = some (before, rest)) : needle <+: rest := by
  induction t generalizing before with
  | nil =>
    simp only [cutBefore] at h
    split at h <;> simp_all
  | cons c t ih =>
    simp only [cutBefore] at h
    split at h
    · rename_i hp
      simp only [Option.some.injEq, Prod.mk.injEq] at h
      obtain ⟨rfl, rfl⟩ := h
      exact List.isPrefixOf_iff_prefix.mp hp
    · obtain ⟨⟨b, r⟩, hb, he⟩ := Option.map_eq_some_iff.mp h
      simp only [Prod.mk.injEq] at he
      obtain ⟨rfl, rfl⟩ := he
      exact ih hb

/-- The pieces of a text between the occurrences of a separator.  There is one
    more piece than there are separators. -/
def splitOn (separator : Char) : Text → List Text
  | [] => [[]]
  | c :: t =>
    if c = separator then [] :: splitOn separator t
    else
      match splitOn separator t with
      | [] => [[c]]
      | piece :: pieces => (c :: piece) :: pieces

/-- Cut a text at the first occurrence of a character, which belongs to neither
    part.  Without one, all of it is the first part. -/
def cutAt (separator : Char) (t : Text) : Text × Option Text :=
  match t.dropWhile (· != separator) with
  | [] => (t, none)
  | _ :: rest => (t.takeWhile (· != separator), some rest)

/-- A text without the given characters at its end. -/
def trimEndOf (c : Char) (t : Text) : Text := (t.reverse.dropWhile (· == c)).reverse

-- ── Letters and digits ───────────────────────────────────────────────────────────

/-- ASCII letters in lower case, all else as it is. -/
def lower (t : Text) : Text := t.map Char.toLower

/-- Equality that takes no notice of the case of ASCII letters. -/
def equalsIgnoringCase (s t : Text) : Bool := lower s == lower t

/-- The decimal digits of a number, without leading zeros. -/
def decimal (n : Nat) : Text := Nat.toDigits 10 n

/-- The number that a list of decimal digits writes. -/
def ofDigits (digits : Text) : Nat :=
  digits.foldl (fun n c => 10 * n + (c.toNat - '0'.toNat)) 0

/-- The decimal digits of a number, with zeros in front up to a given width. -/
def decimalPadded (width n : Nat) : Text :=
  List.replicate (width - (decimal n).length) '0' ++ decimal n

/-- The text of an integer: a minus sign where it is negative, then digits. -/
def ofInt (i : Int) : Text :=
  if i < 0 then '-' :: decimal i.natAbs else decimal i.natAbs

/-- The value of a hexadecimal digit. -/
def hexValue? (c : Char) : Option Nat :=
  if c.isDigit then some (c.toNat - '0'.toNat)
  else if 'a' ≤ c ∧ c ≤ 'f' then some (c.toNat - 'a'.toNat + 10)
  else if 'A' ≤ c ∧ c ≤ 'F' then some (c.toNat - 'A'.toNat + 10)
  else none

/-- The number that a list of digits writes in a base up to sixteen; nothing if
    one of them is no digit of that base. -/
def ofDigitsIn? (base : Nat) (digits : Text) : Option Nat :=
  digits.foldlM (fun n c =>
    match hexValue? c with
    | some d => if d < base then some (base * n + d) else none
    | none => none) 0

/-- The least number that a position in memory cannot hold. -/
def indexBound : Nat := 1 <<< 64

/-- A sum of positions as a position: from `indexBound` on it starts again at zero.  No text
    is so long that a position within it would. -/
def wrapIndex (t : Text) (n : Nat) : Nat := if n ≤ byteLength t then n else n % indexBound

theorem wrapIndex_of_le {t : Text} {n : Nat} (h : n ≤ byteLength t) : wrapIndex t n = n := if_pos h

theorem wrapIndex_of_lt {t : Text} {n : Nat} (h : n < indexBound) : wrapIndex t n = n := by
  rw [wrapIndex, Nat.mod_eq_of_lt h, ite_self]

/-- A position as it is written for a list: an optional plus sign, then digits
    of a number below `indexBound`. -/
def index? (t : Text) : Option Nat :=
  let digits := match t with
    | '+' :: rest => rest
    | _ => t
  if digits = [] || !digits.all Char.isDigit then none
  else
    let n := ofDigits digits
    if n < indexBound then some n else none

end Text

end FaultPages
