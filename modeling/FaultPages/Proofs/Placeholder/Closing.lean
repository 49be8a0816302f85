import FaultPages.Placeholder.Closing
import FaultPages.Proofs.Text.Bytes

/-! # Closing — the search over bytes and the search over characters

    `closingIndex` walks over elements one by one and knows no characters.  Over
    the bytes of a text it still finds what it finds over the characters
    (`closingIndex_utf8`): a delimiter is found where a character begins, and it
    is skipped up to where one ends.  So `findEnd` answers with the byte at which
    `cutAtClosing` cuts (`findEnd_append`).  An opening within the text fits behind its
    start, so the bound on positions matters for no search that a scan makes. -/

namespace FaultPages

section Walk

variable {α : Type} [BEq α] {opener closing : List α} {depth skip : Nat} {x : α} {xs ys : List α}

-- ── The walk ─────────────────────────────────────────────────────────────────────

theorem closingIndex_succ :
    closingIndex opener closing depth (skip + 1) (x :: xs)
      = (closingIndex opener closing depth skip xs).map (· + 1) := by
  cases depth with
  | zero => rfl
  | succ depth => rfl

theorem closingIndex_zero :
    closingIndex opener closing depth 0 (x :: xs)
      = if closing.isPrefixOf (x :: xs) then
          match depth with
          | 0 => some 0
          | depth + 1 => (closingIndex opener closing depth (closing.length - 1) xs).map (· + 1)
        else if opener.isPrefixOf (x :: xs) then
          (closingIndex opener closing (depth + 1) (opener.length - 1) xs).map (· + 1)
        else (closingIndex opener closing depth 0 xs).map (· + 1) := by
  cases depth with
  | zero => rfl
  | succ depth => rfl

/-- An index behind one element more. -/
private theorem map_add_map_succ (n : Nat) (found : Option Nat) :
    (found.map (n + ·)).map (· + 1) = found.map (n + 1 + ·) := by
  rw [Option.map_map]
  exact congrArg (Option.map · found) (funext fun k => Nat.add_right_comm n k 1)

theorem closingIndex_skip :
    closingIndex opener closing depth (xs.length + skip) (xs ++ ys)
      = (closingIndex opener closing depth skip ys).map (xs.length + ·) := by
  induction xs with
  | nil => simp
  | cons x xs ih =>
      rw [List.length_cons, Nat.add_right_comm, List.cons_append, closingIndex_succ,
        ih, map_add_map_succ]

/-- Elements at which neither delimiter stands are walked over. -/
theorem closingIndex_pass (h : ∀ k < xs.length, closing.isPrefixOf ((xs ++ ys).drop k) = false ∧
      opener.isPrefixOf ((xs ++ ys).drop k) = false) :
    closingIndex opener closing depth 0 (xs ++ ys)
      = (closingIndex opener closing depth 0 ys).map (xs.length + ·) := by
  induction xs with
  | nil => simp
  | cons x xs ih =>
      obtain ⟨hclosing, hopener⟩ := h 0 (by simp)
      rw [List.drop_zero, List.cons_append] at hclosing hopener
      rw [List.cons_append, closingIndex_zero, if_neg (by rw [hclosing]; exact Bool.false_ne_true),
        if_neg (by rw [hopener]; exact Bool.false_ne_true),
        ih fun k hk => h (k + 1) (Nat.succ_lt_succ hk), map_add_map_succ, List.length_cons]

/-- A delimiter is skipped, and then what follows it is walked over. -/
theorem closingIndex_behind {needle : List α} (hne : needle ≠ []) :
    (closingIndex opener closing depth (needle.length - 1) ((needle ++ ys).drop 1)).map (· + 1)
      = (closingIndex opener closing depth 0 ys).map (needle.length + ·) := by
  obtain ⟨first, needle, rfl⟩ := List.exists_cons_of_ne_nil hne
  rw [List.cons_append, List.drop_one, List.tail_cons, List.length_cons, Nat.add_sub_cancel]
  have hskip : closingIndex opener closing depth needle.length (needle ++ ys)
      = (closingIndex opener closing depth 0 ys).map (needle.length + ·) := by
    rw [← closingIndex_skip, Nat.add_zero]
  rw [hskip, map_add_map_succ]

end Walk

-- ── Bytes ────────────────────────────────────────────────────────────────────────

section Bytes

open Text

variable {opener closing : Text}

/-- The rest of a character is walked over, and then what follows it is. -/
private theorem closingIndex_utf8_pass (hopener : opener ≠ []) (hclosing : closing ≠ [])
    {depth : Nat} {c : Char} {t : Text} {b : UInt8} {bytes : List UInt8}
    (hc : String.utf8EncodeChar c = b :: bytes) :
    closingIndex (utf8 opener) (utf8 closing) depth 0 (bytes ++ utf8 t)
      = (closingIndex (utf8 opener) (utf8 closing) depth 0 (utf8 t)).map (bytes.length + ·) := by
  have hlen : c.utf8Size = bytes.length + 1 := by
    rw [← String.length_utf8EncodeChar, hc, List.length_cons]
  have hdrop : ∀ k, (bytes ++ utf8 t).drop k = (utf8 (c :: t)).drop (k + 1) := by
    intro k
    rw [utf8_cons, hc, List.cons_append, List.drop_succ_cons]
  refine closingIndex_pass fun k hk => ?_
  rw [hdrop]
  exact ⟨isPrefixOf_drop_inside hclosing (Nat.succ_pos k) (by omega),
    isPrefixOf_drop_inside hopener (Nat.succ_pos k) (by omega)⟩

/-- What is left to skip of a delimiter after the first byte of its first
    character. -/
private theorem byteLength_of_isPrefixOf {needle t : Text} {c : Char} {bytes : List UInt8}
    (hne : needle ≠ []) (hlen : c.utf8Size = bytes.length + 1)
    (h : needle.isPrefixOf (c :: t) = true) :
    (utf8 needle).length - 1 = bytes.length + byteLength (t.take (needle.length - 1)) := by
  obtain ⟨rest, hrest⟩ := List.isPrefixOf_iff_prefix.mp h
  obtain ⟨first, needle, rfl⟩ := List.exists_cons_of_ne_nil hne
  rw [List.cons_append, List.cons.injEq] at hrest
  obtain ⟨rfl, rfl⟩ := hrest
  rw [length_utf8, byteLength_cons, List.length_cons, Nat.add_sub_cancel, List.take_left, hlen]
  omega

/-- The search over bytes is the search over characters. -/
theorem closingIndex_utf8 (hopener : opener ≠ []) (hclosing : closing ≠ []) (depth skip : Nat)
    (t : Text) :
    closingIndex (utf8 opener) (utf8 closing) depth (byteLength (t.take skip)) (utf8 t)
      = (closingIndex opener closing depth skip t).map fun n => byteLength (t.take n) := by
  induction t generalizing depth skip with
  | nil =>
      cases skip with
      | zero => rfl
      | succ skip => rfl
  | cons c t ih =>
      -- what is found behind the first character is found that much later
      have hshift : ∀ found : Option Nat,
          (found.map fun n => byteLength (t.take n)).map (c.utf8Size + ·)
            = (found.map (· + 1)).map fun n => byteLength ((c :: t).take n) := by
        intro found
        rw [Option.map_map, Option.map_map]
        rfl
      obtain ⟨b, bytes, hc⟩ := List.exists_cons_of_ne_nil
        (show String.utf8EncodeChar c ≠ [] from String.utf8EncodeChar_ne_nil)
      have hlen : c.utf8Size = bytes.length + 1 := by
        rw [← String.length_utf8EncodeChar, hc, List.length_cons]
      have hsucc : ∀ found : Option Nat,
          (found.map (bytes.length + ·)).map (· + 1) = found.map (c.utf8Size + ·) := by
        intro found
        rw [hlen, map_add_map_succ]
      cases skip with
      | succ skip =>
          rw [List.take_succ_cons, byteLength_cons, utf8_cons, ← String.length_utf8EncodeChar,
            closingIndex_skip, ih, String.length_utf8EncodeChar, hshift, closingIndex_succ]
      | zero =>
          have hbytes : utf8 (c :: t) = b :: (bytes ++ utf8 t) := by
            rw [utf8_cons, hc, List.cons_append]
          -- a delimiter at the first character is skipped up to its end
          have hdelim : ∀ (depth : Nat) {needle : Text}, needle ≠ [] →
              needle.isPrefixOf (c :: t) = true →
              (closingIndex (utf8 opener) (utf8 closing) depth ((utf8 needle).length - 1)
                (bytes ++ utf8 t)).map (· + 1)
                = ((closingIndex opener closing depth (needle.length - 1) t).map (· + 1)).map
                  fun n => byteLength ((c :: t).take n) := by
            intro depth needle hne h
            rw [byteLength_of_isPrefixOf hne hlen h, closingIndex_skip, ih, hsucc, hshift]
          rw [List.take_zero, byteLength_nil, hbytes, closingIndex_zero, ← hbytes,
            utf8_isPrefixOf, utf8_isPrefixOf, closingIndex_zero]
          by_cases hclose : closing.isPrefixOf (c :: t) = true
          · rw [if_pos hclose, if_pos hclose]
            cases depth with
            | zero => rfl
            | succ depth => exact hdelim depth hclosing hclose
          · rw [if_neg hclose, if_neg hclose]
            by_cases hopen : opener.isPrefixOf (c :: t) = true
            · rw [if_pos hopen, if_pos hopen]
              exact hdelim (depth + 1) hopener hopen
            · rw [if_neg hopen, if_neg hopen, closingIndex_utf8_pass hopener hclosing hc, hsucc,
                ← hshift, ← ih depth 0, List.take_zero, byteLength_nil]

namespace Delimiters

variable {d : Delimiters}

/-- What is found behind a front is where the text behind it is cut. -/
theorem closingFrom_append (front body : Text) :
    d.closingFrom (front ++ body) (byteLength front)
      = (closingIndex d.nestingOpener d.closing 0 0 body).map fun n =>
          byteLength front + byteLength (body.take n) := by
  have hsame := closingIndex_utf8 d.nestingOpener_ne d.closing_ne 0 0 body
  rw [List.take_zero, byteLength_nil] at hsame
  rw [closingFrom, utf8_append, ← length_utf8, List.drop_left, hsame, Option.map_map]
  rfl

/-- Nothing of what stands in front matters for what is found. -/
theorem closingFrom_shift (front t : Text) (body : Nat) :
    d.closingFrom (front ++ t) (byteLength front + body)
      = (d.closingFrom t body).map (byteLength front + ·) := by
  rw [closingFrom, closingFrom, utf8_append, ← List.drop_drop, ← length_utf8 front, List.drop_left,
    Option.map_map]
  exact congrArg (Option.map · _) (funext fun n => Nat.add_assoc _ body n)

/-- The closing delimiter stands within the text, and not in front of where it is
    looked for. -/
theorem closingFrom_spec {t : Text} {body e : Nat} (h : d.closingFrom t body = some e) :
    body ≤ e ∧ e < byteLength t ∧ utf8 d.closing <+: (utf8 t).drop e := by
  obtain ⟨n, hn, rfl⟩ := Option.map_eq_some_iff.mp h
  obtain ⟨hlt, hstarts⟩ := closingIndex_spec hn
  rw [List.length_drop, length_utf8] at hlt
  rw [List.drop_drop] at hstarts
  exact ⟨Nat.le_add_right body n, by omega, hstarts⟩

-- ── The end for a start ──────────────────────────────────────────────────────────

variable {t : Text} {start e : Nat}

theorem findEnd_of_le (h : start + byteLength d.opening ≤ byteLength t) :
    d.findEnd t start = d.closingFrom t (start + byteLength d.opening) := by
  rw [findEnd, wrapIndex_of_le h]

/-- Where something is found behind the opening, the opening fits. -/
theorem findEnd_of_closingFrom (h : d.closingFrom t (start + byteLength d.opening) = some e) :
    d.findEnd t start = some e := by
  obtain ⟨hle, hlt, -⟩ := closingFrom_spec h
  rw [findEnd_of_le (Nat.le_trans hle (Nat.le_of_lt hlt)), h]

/-- The end that is found for an opening is where the text behind it is cut. -/
theorem findEnd_append (front body : Text) :
    d.findEnd (front ++ d.opening ++ body) (byteLength front)
      = (closingIndex d.nestingOpener d.closing 0 0 body).map fun n =>
          byteLength front + byteLength d.opening + byteLength (body.take n) := by
  have hfits : byteLength front + byteLength d.opening
      ≤ byteLength (front ++ d.opening ++ body) := by
    rw [byteLength_append, byteLength_append]
    exact Nat.le_add_right ..
  rw [findEnd_of_le hfits, ← byteLength_append, closingFrom_append]

/-- An opening that occurs in a text fits. -/
theorem findEnd_of_mem_offsets (h : start ∈ offsets d.opening t) :
    d.findEnd t start = d.closingFrom t (start + byteLength d.opening) :=
  findEnd_of_le (le_of_mem_offsets d.opening_ne h)

end Delimiters

end Bytes

end FaultPages
