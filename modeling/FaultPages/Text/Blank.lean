import FaultPages.Text.Basic

/-! # Blank characters — what is trimmed around an expression

    Blank means the Unicode property White_Space, twenty-five code points.
    Core's `Char.isWhitespace` knows four of them. -/

namespace FaultPages.Text

/-- The code points with the property White_Space, as inclusive ranges. -/
def blankRanges : List (Nat × Nat) :=
  [(0x9, 0xD), (0x20, 0x20), (0x85, 0x85), (0xA0, 0xA0), (0x1680, 0x1680), (0x2000, 0x200A),
   (0x2028, 0x2029), (0x202F, 0x202F), (0x205F, 0x205F), (0x3000, 0x3000)]

/-- Whether a code point lies in one of the ranges. -/
def inRanges (ranges : List (Nat × Nat)) (c : Char) : Bool :=
  ranges.any fun (low, high) => low ≤ c.toNat && c.toNat ≤ high

/-- Whether a character is blank. -/
def isBlank (c : Char) : Bool := inRanges blankRanges c

/-- A text without blank characters at its start. -/
def trimStart (t : Text) : Text := t.dropWhile isBlank

/-- A text without blank characters at its end. -/
def trimEnd (t : Text) : Text := (t.reverse.dropWhile isBlank).reverse

/-- A text without blank characters at either end. -/
def trim (t : Text) : Text := trimEnd (trimStart t)

/-- Trimming makes no text longer. -/
theorem trim_length_le (t : Text) : (trim t).length ≤ t.length := by
  have h₁ := (List.dropWhile_sublist (l := (trimStart t).reverse) isBlank).length_le
  have h₂ := (List.dropWhile_sublist (l := t) isBlank).length_le
  simp only [trim, trimEnd, trimStart, List.length_reverse] at h₁ h₂ ⊢
  omega

example : (blankRanges.map fun (low, high) => high - low + 1).sum = 25 := by decide

end FaultPages.Text
