import FaultPages.Text.Basic

/-! # UTF-8 — bytes back into text

    `decode` reads bytes from the left.  Each step is a code point, or a
    sequence that begins none and is as long as a valid sequence could have
    gone on for (at least one byte).  The strict reader refuses such a
    sequence, and the lenient one puts U+FFFD in its place. -/

namespace FaultPages.Text.Utf8

/-- What a first byte announces: how many bytes follow, the bounds of the first
    of them, and the bits that the first byte contributes.  The bounds exclude
    overlong forms, surrogates and values above U+10FFFF. -/
def announced? (b : Nat) : Option (Nat × Nat × Nat × Nat) :=
  if b < 0x80 then some (0, 0x80, 0xBF, b)
  else if b < 0xC2 then none
  else if b < 0xE0 then some (1, 0x80, 0xBF, b - 0xC0)
  else if b = 0xE0 then some (2, 0xA0, 0xBF, 0)
  else if b = 0xED then some (2, 0x80, 0x9F, 0xD)
  else if b < 0xF0 then some (2, 0x80, 0xBF, b - 0xE0)
  else if b = 0xF0 then some (3, 0x90, 0xBF, 0)
  else if b < 0xF4 then some (3, 0x80, 0xBF, b - 0xF0)
  else if b = 0xF4 then some (3, 0x80, 0x8F, 4)
  else none

/-- Read up to `n` following bytes, the first between `low` and `high`: how many
    were there, and the value if all were. -/
def following : Nat → Nat → Nat → Nat → List UInt8 → Nat × Option Nat
  | 0, _, _, value, _ => (0, some value)
  | _ + 1, _, _, _, [] => (0, none)
  | n + 1, low, high, value, b :: bytes =>
    if low ≤ b.toNat ∧ b.toNat ≤ high then
      let (taken, result) := following n 0x80 0xBF (64 * value + (b.toNat - 0x80)) bytes
      (taken + 1, result)
    else (0, none)

/-- The code points of a list of bytes, with nothing for each sequence that
    begins none. -/
def decode : List UInt8 → List (Option Char)
  | [] => []
  | b :: bytes =>
    match announced? b.toNat with
    | none => none :: decode bytes
    | some (n, low, high, value) =>
      let (taken, result) := following n low high value bytes
      result.map Char.ofNat :: decode (bytes.drop taken)
termination_by bytes => bytes.length
decreasing_by all_goals simp [List.length_drop]; try omega

/-- The text of a list of bytes, if it is UTF-8. -/
def ofBytes? (bytes : List UInt8) : Option Text := (decode bytes).mapM id

/-- The text of a list of bytes, with U+FFFD for what is not UTF-8. -/
def ofBytesLossy (bytes : List UInt8) : Text :=
  (decode bytes).map fun c => c.getD (Char.ofNat 0xFFFD)

end FaultPages.Text.Utf8
