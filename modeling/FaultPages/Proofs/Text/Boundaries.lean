import FaultPages.Proofs.Text.Bytes

/-! # Boundaries — byte offsets that do not split a character

    Bytes can be taken from any offset, but a piece of text only between two boundaries
    of characters.  An offset is a boundary if a character begins there or the text ends
    there, which its byte tells (`IsBoundary`), and then whole characters stand before it
    (`isBoundary_iff`).

    `between?` takes a piece of text by its byte offsets and fails, with a `Slip`, where
    there is none.  `between?_eq_ok` says what it takes: whole characters, with whole
    characters before and behind them. -/

namespace FaultPages

/-- What can be wrong with an offset, or with a depth that is counted. -/
inductive Slip where
  /-- It lies behind the end of the text, or before the offset that it has to follow. -/
  | beyond
  /-- It lies within a character. -/
  | split
  /-- It would be less than nothing. -/
  | underflow
  deriving DecidableEq, Repr

namespace Text

variable {t front rest s : Text} {p start stop : Nat}

-- ── Boundaries ───────────────────────────────────────────────────────────────────

/-- A character begins at the offset, or the text ends there. -/
def IsBoundary (t : Text) (p : Nat) : Prop :=
  p = byteLength t ∨ ∃ b, (utf8 t)[p]? = some b ∧ b.IsUTF8FirstByte

/-- Only the first byte of a character is one that begins a character. -/
private theorem eq_zero_of_isUTF8FirstByte {c : Char} {b : UInt8} (hp : p < c.utf8Size)
    (hb : (utf8 (c :: t))[p]? = some b) (hfirst : b.IsUTF8FirstByte) : p = 0 := by
  have hlt : p < (String.utf8EncodeChar c).length := by rwa [String.length_utf8EncodeChar]
  rw [utf8_cons, List.getElem?_append_left hlt, List.getElem?_eq_getElem hlt] at hb
  rw [← Option.some.inj hb] at hfirst
  exact UInt8.isUTF8FirstByte_getElem_utf8EncodeChar.mp hfirst

/-- Before a boundary stand whole characters. -/
theorem isBoundary_iff :
    IsBoundary t p ↔ ∃ front rest, t = front ++ rest ∧ byteLength front = p := by
  constructor
  · rintro (rfl | ⟨b, hb, hfirst⟩)
    · exact ⟨t, [], (List.append_nil t).symm, rfl⟩
    · induction t generalizing p with
      | nil => cases hb
      | cons c t ih =>
          by_cases hp : p < c.utf8Size
          · obtain rfl := eq_zero_of_isUTF8FirstByte hp hb hfirst
            exact ⟨[], c :: t, rfl, rfl⟩
          · obtain ⟨k, rfl⟩ := Nat.exists_eq_add_of_le (Nat.le_of_not_lt hp)
            rw [utf8_cons, ← String.length_utf8EncodeChar, ← List.getElem?_drop,
              List.drop_left] at hb
            obtain ⟨front, rest, rfl, rfl⟩ := ih hb
            exact ⟨c :: front, rest, rfl, rfl⟩
  · rintro ⟨front, rest, rfl, rfl⟩
    cases rest with
    | nil => exact .inl (by rw [List.append_nil])
    | cons c rest =>
        right
        have hpos : 0 < (String.utf8EncodeChar c).length := by
          rw [String.length_utf8EncodeChar]
          exact c.utf8Size_pos
        refine ⟨(String.utf8EncodeChar c).get ⟨0, hpos⟩, ?_,
          UInt8.isUTF8FirstByte_getElem_utf8EncodeChar.mpr rfl⟩
        rw [utf8_append, utf8_cons, List.getElem?_append_right (Nat.le_of_eq (length_utf8 front)),
          length_utf8, Nat.sub_self, List.getElem?_append_left hpos]
        exact List.getElem?_eq_getElem hpos

-- ── Pieces of a text ─────────────────────────────────────────────────────────────

/-- A text cut in two at a byte offset. -/
def splitAt? : Text → Nat → Except Slip (Text × Text)
  | t, 0 => .ok ([], t)
  | [], _ + 1 => .error .beyond
  | c :: t, p + 1 =>
    if p + 1 < c.utf8Size then .error .split
    else (splitAt? t (p + 1 - c.utf8Size)).map fun parts => (c :: parts.1, parts.2)

/-- The text from one byte offset up to another one. -/
def between? (t : Text) (start stop : Nat) : Except Slip Text :=
  if start ≤ stop then
    (splitAt? t stop).bind fun parts => (splitAt? parts.1 start).map Prod.snd
  else .error .beyond

theorem splitAt?_append (front rest : Text) :
    splitAt? (front ++ rest) (byteLength front) = .ok (front, rest) := by
  induction front with
  | nil =>
      cases rest with
      | nil => rfl
      | cons c rest => rfl
  | cons c front ih =>
      have hpos := c.utf8Size_pos
      obtain ⟨k, hk⟩ : ∃ k, byteLength (c :: front) = k + 1 :=
        Nat.exists_eq_add_one.mpr (byteLength_pos (List.cons_ne_nil c front))
      have hlen := hk
      rw [byteLength_cons] at hlen
      have hbehind : k + 1 - c.utf8Size = byteLength front := by omega
      rw [hk, List.cons_append, splitAt?, if_neg (by omega), hbehind, ih]
      rfl

theorem splitAt?_eq_ok :
    splitAt? t p = .ok (front, rest) ↔ t = front ++ rest ∧ byteLength front = p := by
  constructor
  · intro h
    induction t generalizing p front with
    | nil =>
        cases p with
        | zero =>
            cases h
            exact ⟨rfl, rfl⟩
        | succ p => cases h
    | cons c t ih =>
        cases p with
        | zero =>
            cases h
            exact ⟨rfl, rfl⟩
        | succ p =>
            rw [splitAt?] at h
            split at h
            · cases h
            · cases hparts : splitAt? t (p + 1 - c.utf8Size) with
              | error slip =>
                  rw [hparts] at h
                  cases h
              | ok parts =>
                  rw [hparts] at h
                  cases h
                  obtain ⟨rfl, hlen⟩ := ih hparts
                  refine ⟨rfl, ?_⟩
                  rw [byteLength_cons, hlen]
                  omega
  · rintro ⟨rfl, rfl⟩
    exact splitAt?_append front rest

/-- A piece that is taken stands between its offsets. -/
theorem between?_eq_ok :
    between? t start stop = .ok s ↔ ∃ front rest, t = front ++ (s ++ rest) ∧
      byteLength front = start ∧ start + byteLength s = stop := by
  constructor
  · intro h
    rw [between?] at h
    split at h
    · cases hstop : splitAt? t stop with
      | error slip =>
          rw [hstop] at h
          cases h
      | ok parts =>
          rw [hstop] at h
          obtain ⟨rfl, rfl⟩ := splitAt?_eq_ok.mp hstop
          cases hstart : splitAt? parts.1 start with
          | error slip =>
              simp only [Except.bind, hstart] at h
              cases h
          | ok inner =>
              simp only [Except.bind, hstart] at h
              cases h
              obtain ⟨hfront, rfl⟩ := splitAt?_eq_ok.mp hstart
              refine ⟨inner.1, parts.2, ?_, rfl, ?_⟩
              · rw [← List.append_assoc, ← hfront]
              · rw [hfront, byteLength_append]
    · cases h
  · rintro ⟨front, rest, rfl, rfl, rfl⟩
    rw [between?, if_pos (Nat.le_add_right _ _), ← List.append_assoc, ← byteLength_append,
      splitAt?_append]
    simp only [Except.bind, splitAt?_append]
    rfl

/-- The rest of a text from a boundary on. -/
theorem between?_rest (front rest : Text) :
    between? (front ++ rest) (byteLength front) (byteLength (front ++ rest)) = .ok rest :=
  between?_eq_ok.mpr ⟨front, [], by rw [List.append_nil], rfl, (byteLength_append ..).symm⟩

end Text

end FaultPages
