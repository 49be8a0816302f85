import FaultPages.Text.Basic

/-! # Digits — numbers written in decimal and read back

    `decimal` writes a number without leading zeros and `ofDigits` reads any
    digits, so reading undoes writing (`ofDigits_decimal`).  A position is read
    back where it is below the bound of positions (`index?_decimal`). -/

namespace FaultPages.Text

theorem decimal_ne_nil (n : Nat) : decimal n ≠ [] := Nat.toDigits_ne_nil

theorem isDigit_of_mem_decimal {n : Nat} {c : Char} (h : c ∈ decimal n) : c.isDigit = true :=
  Nat.isDigit_of_mem_toDigits (by decide) (by decide) h

/-- No character but a digit stands in a number. -/
theorem not_mem_decimal {c : Char} (h : c.isDigit = false) (n : Nat) : c ∉ decimal n := by
  intro hmem
  cases h.symm.trans (isDigit_of_mem_decimal hmem)

/-- A number is read from its digits. -/
theorem ofDigits_decimal (n : Nat) : ofDigits (decimal n) = n := by
  show List.foldl _ 0 _ = n
  rw [← Nat.ofDigitChars_eq_foldl]
  exact Nat.ofDigitChars_ten_toDigits

/-- A position is read from its digits. -/
theorem index?_decimal {i : Nat} (h : i < indexBound) : index? (decimal i) = some i := by
  have hplus : ∀ rest, decimal i ≠ '+' :: rest := by
    intro rest hrest
    exact absurd (hrest ▸ List.mem_cons_self) (not_mem_decimal (c := '+') (by decide) i)
  have hall : (decimal i).all Char.isDigit = true :=
    List.all_eq_true.mpr fun c hc => isDigit_of_mem_decimal hc
  rw [index?]
  · simp [hall, decimal_ne_nil, ofDigits_decimal, h]
  · exact hplus

end FaultPages.Text
