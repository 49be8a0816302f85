import FaultPages.Json.Compact
import FaultPages.Toml.Strings

/-! # Spelling — strings between double quotes

    A character may stand between double quotes for itself, by a letter after a backslash, or
    by its code point (`Spells`); which of these a writer takes is left open, and may change
    from place to place.  Whatever it takes, the reader gives back the string
    (`string?_spelt`).  Every string has a spelling (`spelt_escaped`). -/

namespace FaultPages.Toml

variable {c letter mark : Char} {digits piece s t : Text}

-- ── Characters ───────────────────────────────────────────────────────────────────

/-- The marks that code points follow, each with its number of digits. -/
def codeMarks : List (Char × Nat) := [('x', 2), ('u', 4), ('U', 8)]

/-- The ways in which a character may stand between double quotes. -/
inductive Spells (c : Char) : Text → Prop where
  /-- For itself. -/
  | plain (hplain : isPlain c = true) (hquote : c ≠ '"') (hescape : c ≠ '\\') : Spells c [c]
  /-- By a letter. -/
  | letter {letter : Char} (h : escapeLetter? letter = some c) : Spells c ['\\', letter]
  /-- By its code point. -/
  | code {mark : Char} {digits : Text} (hmark : (mark, digits.length) ∈ codeMarks)
      (h : codePoint? digits = some c) : Spells c ('\\' :: mark :: digits)

theorem escape?_letter (h : escapeLetter? letter = some c) (rest : Text) :
    escape? (letter :: rest) = some (c, rest) := by
  have hmarks : letter ≠ 'x' ∧ letter ≠ 'u' ∧ letter ≠ 'U' := by
    refine ⟨?_, ?_, ?_⟩ <;> rintro rfl <;> cases h
  unfold escape?
  split <;> simp_all

theorem escape?_code (hmark : (mark, digits.length) ∈ codeMarks)
    (h : codePoint? digits = some c) (rest : Text) :
    escape? (mark :: (digits ++ rest)) = some (c, rest) := by
  simp only [codeMarks, List.mem_cons, Prod.mk.injEq, List.not_mem_nil, or_false] at hmark
  rcases hmark with ⟨rfl, hlen⟩ | ⟨rfl, hlen⟩ | ⟨rfl, hlen⟩
  · match digits, hlen with
    | [_, _], _ => simp [escape?, h]
  · match digits, hlen with
    | [_, _, _, _], _ => simp [escape?, h]
  · match digits, hlen with
    | [_, _, _, _, _, _, _, _], _ => simp [escape?, h]

/-- After a backslash the reader goes by the escape that it finds. -/
theorem basicString_escape {after : Text} (h : escape? t = some (c, after)) :
    basicString ('\\' :: t) = (basicString after).map fun (s, rest) => (c :: s, rest) := by
  rw [basicString, if_neg (by decide), if_pos rfl]
  split
  next he =>
    rw [h] at he
    cases he
    rfl
  next he =>
    rw [h] at he
    cases he

/-- One character is read, however it is spelt. -/
theorem basicString_spells (h : Spells c piece) (t : Text) :
    basicString (piece ++ t) = (basicString t).map fun (s, rest) => (c :: s, rest) := by
  cases h with
  | plain hplain hquote hescape =>
      rw [List.singleton_append, basicString, if_neg hquote, if_neg hescape, if_pos hplain]
  | letter h => exact basicString_escape (escape?_letter h t)
  | code hmark h => exact basicString_escape (escape?_code hmark h t)

/-- No spelling starts with the quote that would end the string. -/
theorem Spells.exists_cons (h : Spells c piece) :
    ∃ first more, piece = first :: more ∧ first ≠ '"' := by
  cases h with
  | plain _ hquote _ => exact ⟨_, _, rfl, hquote⟩
  | letter _ => exact ⟨_, _, rfl, by decide⟩
  | code _ _ => exact ⟨_, _, rfl, by decide⟩

-- ── Strings ──────────────────────────────────────────────────────────────────────

/-- The ways in which a string may stand between double quotes. -/
inductive Spelt : Text → Text → Prop where
  | nil : Spelt [] []
  | cons {c : Char} {s piece t : Text} (hc : Spells c piece) (hs : Spelt s t) :
      Spelt (c :: s) (piece ++ t)

theorem basicString_spelt (h : Spelt s t) (rest : Text) :
    basicString (t ++ '"' :: rest) = some (s, rest) := by
  induction h with
  | nil => rw [List.nil_append, basicString, if_pos rfl]
  | cons hc _ ih =>
      rw [List.append_assoc, basicString_spells hc, ih]
      rfl

/-- **A string is read back from any of its spellings.**  What follows must not be a quote,
    as three of them in a row open a string over several lines. -/
theorem string?_spelt (h : Spelt s t) {rest : Text} (hrest : rest.head? ≠ some '"') :
    string? ('"' :: (t ++ '"' :: rest)) = some (s, rest) := by
  rw [← basicString_spelt h rest]
  cases h with
  | nil =>
      unfold string?
      split <;> simp_all
  | cons hc _ =>
      obtain ⟨first, more, rfl, hfirst⟩ := hc.exists_cons
      unfold string?
      split <;> simp_all

-- ── One spelling of every string ─────────────────────────────────────────────────

/-- A character as short as it may stand between double quotes.  The escapes are those of
    JSON, but for one control character that JSON lets stand for itself. -/
def escapedChar (c : Char) : Text :=
  if c.toNat = 127 then "\\u007f".toList else Json.quotedChar c

theorem codePoint?_control : ∀ n < 32,
    codePoint? ['0', '0', Json.hexDigit (n / 16), Json.hexDigit (n % 16)]
      = some (Char.ofNat n) := by
  decide

/-- An escape for a number is one for the character that has it. -/
theorem eq_some_of_toNat {n : Nat} {found : Option Char} (h : found = some (Char.ofNat n))
    (hn : c.toNat = n) : found = some c := by
  rw [h, ← hn, Char.ofNat_toNat]

theorem spells_escapedChar (c : Char) : Spells c (escapedChar c) := by
  unfold escapedChar
  split
  next h => exact .code (.tail _ (.head _)) (eq_some_of_toNat rfl h)
  unfold Json.quotedChar
  -- One case for each branch of the writer, in its order.
  split
  next h => exact .letter (congrArg some h.symm)
  split
  next h => exact .letter (congrArg some h.symm)
  split
  next h => exact .letter (congrArg some h.symm)
  split
  next h => exact .letter (congrArg some h.symm)
  split
  next h => exact .letter (congrArg some h.symm)
  split
  next h => exact .letter (eq_some_of_toNat rfl h)
  split
  next h => exact .letter (eq_some_of_toNat rfl h)
  split
  next h => exact .code (.tail _ (.head _)) (eq_some_of_toNat (codePoint?_control _ h) rfl)
  next hdelete hquote hescape _ _ _ _ _ hcontrol =>
    refine .plain ?_ hquote hescape
    simp only [isPlain, Bool.or_eq_true, Bool.and_eq_true, decide_eq_true_eq, bne_iff_ne]
    exact .inr ⟨by omega, hdelete⟩

theorem spelt_escaped (s : Text) : Spelt s (s.flatMap escapedChar) := by
  induction s with
  | nil => exact .nil
  | cons c s ih => exact .cons (spells_escapedChar c) ih

/-- A way to write every string. -/
structure Spelling where
  write : Text → Text
  spelt : ∀ s, Spelt s (write s)

instance : Inhabited Spelling := ⟨⟨List.flatMap escapedChar, spelt_escaped⟩⟩

end FaultPages.Toml
