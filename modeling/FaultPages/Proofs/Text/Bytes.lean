import FaultPages.Text.Basic
import Mathlib.Data.List.Basic

/-! # Bytes — a text and its UTF-8 bytes, position by position

    The bytes of a character cannot be mistaken for those of another one
    (`utf8EncodeChar_append`), so a text begins with another one if its bytes do
    (`utf8_isPrefixOf`).  No text begins in the middle of a character
    (`isPrefixOf_drop_inside`).  So the bytes of a text show its occurrences in
    another one, and nothing else (`offsets_cons`). -/

namespace FaultPages.Text

-- ── Bytes of a text ──────────────────────────────────────────────────────────────

@[simp] theorem utf8_nil : utf8 [] = [] := rfl

theorem utf8_cons (c : Char) (t : Text) : utf8 (c :: t) = String.utf8EncodeChar c ++ utf8 t := rfl

@[simp] theorem utf8_append (s t : Text) : utf8 (s ++ t) = utf8 s ++ utf8 t :=
  List.flatMap_append

@[simp] theorem length_utf8 (t : Text) : (utf8 t).length = byteLength t := by
  induction t with
  | nil => rfl
  | cons c t ih =>
      rw [utf8_cons, List.length_append, String.length_utf8EncodeChar, ih, byteLength_cons]

/-- A character of one byte is that byte. -/
theorem utf8_singleton {c : Char} (h : c.utf8Size = 1) : utf8 [c] = [c.toUInt8] := by
  rw [utf8_cons, String.utf8EncodeChar_eq_singleton h]
  rfl

theorem byteLength_pos {t : Text} (h : t ≠ []) : 0 < byteLength t := by
  cases t with
  | nil => exact absurd rfl h
  | cons c t =>
      have := c.utf8Size_pos
      rw [byteLength_cons]
      omega

/-- The bytes of a character tell where they end and which one it is. -/
theorem utf8EncodeChar_append {c c' : Char} {xs ys : List UInt8}
    (h : String.utf8EncodeChar c ++ xs = String.utf8EncodeChar c' ++ ys) : c = c' ∧ xs = ys := by
  have hread := congrArg (fun bytes => ByteArray.utf8DecodeChar? (List.toByteArray bytes) 0) h
  simp only [List.toByteArray_append, ByteArray.utf8DecodeChar?_utf8EncodeChar_append,
    Option.some.injEq] at hread
  obtain rfl := hread
  exact ⟨rfl, List.append_cancel_left h⟩

/-- A text begins with another one as its bytes do. -/
theorem utf8_prefix_utf8 {s t : Text} : utf8 s <+: utf8 t ↔ s <+: t := by
  constructor
  · intro h
    induction s generalizing t with
    | nil => exact List.nil_prefix
    | cons c s ih =>
        obtain ⟨rest, hrest⟩ := h
        rw [utf8_cons, List.append_assoc] at hrest
        cases t with
        | nil =>
            have hlen := congrArg List.length hrest
            have := c.utf8Size_pos
            simp only [List.length_append, String.length_utf8EncodeChar, utf8_nil,
              List.length_nil] at hlen
            omega
        | cons c' t =>
            rw [utf8_cons] at hrest
            obtain ⟨rfl, htail⟩ := utf8EncodeChar_append hrest
            exact List.cons_prefix_cons.mpr ⟨rfl, ih ⟨rest, htail⟩⟩
  · rintro ⟨rest, rfl⟩
    exact ⟨utf8 rest, (utf8_append s rest).symm⟩

/-- A text is given by its bytes. -/
theorem utf8_injective : Function.Injective utf8 := by
  intro s t h
  have hst : s <+: t := utf8_prefix_utf8.mp (h ▸ List.prefix_rfl)
  have hts : t <+: s := utf8_prefix_utf8.mp (h ▸ List.prefix_rfl)
  exact hst.eq_of_length (Nat.le_antisymm hst.length_le hts.length_le)

theorem utf8_isPrefixOf (s t : Text) : (utf8 s).isPrefixOf (utf8 t) = s.isPrefixOf t := by
  rw [Bool.eq_iff_iff, List.isPrefixOf_iff_prefix, List.isPrefixOf_iff_prefix]
  exact utf8_prefix_utf8

/-- No text begins in the middle of a character. -/
theorem isPrefixOf_drop_inside {needle t : Text} {c : Char} {k : Nat} (hne : needle ≠ [])
    (hpos : 0 < k) (hk : k < c.utf8Size) :
    (utf8 needle).isPrefixOf ((utf8 (c :: t)).drop k) = false := by
  rw [Bool.eq_false_iff]
  intro hstarts
  obtain ⟨rest, hrest⟩ := List.isPrefixOf_iff_prefix.mp hstarts
  obtain ⟨first, needle, rfl⟩ := List.exists_cons_of_ne_nil hne
  have hlen : k < (String.utf8EncodeChar c).length := by rwa [String.length_utf8EncodeChar]
  have hfirst : 0 < (String.utf8EncodeChar first).length := by
    rw [String.length_utf8EncodeChar]
    exact first.utf8Size_pos
  rw [utf8_cons, utf8_cons, List.append_assoc,
    List.drop_append_of_le_length (Nat.le_of_lt hlen)] at hrest
  have hbyte := congrArg (fun bytes : List UInt8 => bytes[0]?) hrest
  simp only [List.getElem?_append_left hfirst, List.getElem?_eq_getElem hfirst,
    List.getElem?_append_left (show 0 < ((String.utf8EncodeChar c).drop k).length by
      rw [List.length_drop]; omega), List.getElem?_drop, Nat.add_zero,
    List.getElem?_eq_getElem hlen, Option.some.injEq] at hbyte
  have hzero : k = 0 := UInt8.isUTF8FirstByte_getElem_utf8EncodeChar.mp
    (hbyte ▸ UInt8.isUTF8FirstByte_getElem_utf8EncodeChar.mpr rfl)
  omega

-- ── Offsets behind a front ───────────────────────────────────────────────────────

/-- Offsets behind two fronts are offsets behind both together. -/
theorem map_add_map_add (a b : Nat) (ps : List Nat) :
    (ps.map (b + ·)).map (a + ·) = ps.map (a + b + ·) := by
  rw [List.map_map]
  exact congrArg (List.map · ps) (funext fun p => (Nat.add_assoc a b p).symm)

-- ── Occurrences ──────────────────────────────────────────────────────────────────

/-- The byte offsets at which a text stands in another one. -/
def offsets (needle t : Text) : List Nat :=
  (List.range (byteLength t)).filter fun p => (utf8 needle).isPrefixOf ((utf8 t).drop p)

/-- The occurrences in a text are the one at its start, if it begins so, and
    those behind its first character. -/
theorem offsets_cons {needle : Text} (hne : needle ≠ []) (c : Char) (t : Text) :
    offsets needle (c :: t)
      = (if needle.isPrefixOf (c :: t) then [0] else [])
        ++ (offsets needle t).map (c.utf8Size + ·) := by
  have hstart : (List.range c.utf8Size).filter
      (fun p => (utf8 needle).isPrefixOf ((utf8 (c :: t)).drop p))
        = if needle.isPrefixOf (c :: t) then [0] else [] := by
    obtain ⟨k, hk⟩ : ∃ k, c.utf8Size = k + 1 := Nat.exists_eq_add_one.mpr c.utf8Size_pos
    have hinside : ((List.range k).map Nat.succ).filter
        (fun p => (utf8 needle).isPrefixOf ((utf8 (c :: t)).drop p)) = [] := by
      rw [List.filter_eq_nil_iff]
      intro p hp
      obtain ⟨q, hq, rfl⟩ := List.mem_map.mp hp
      have hlt := List.mem_range.mp hq
      rw [isPrefixOf_drop_inside hne (Nat.succ_pos q) (by omega)]
      exact Bool.false_ne_true
    rw [hk, List.range_succ_eq_map, List.filter_cons, hinside, List.drop_zero, utf8_isPrefixOf]
  have hbehind : ((List.range (byteLength t)).map (c.utf8Size + ·)).filter
      (fun p => (utf8 needle).isPrefixOf ((utf8 (c :: t)).drop p))
        = (offsets needle t).map (c.utf8Size + ·) := by
    rw [List.filter_map, offsets]
    refine congrArg (List.map _) (List.filter_congr fun p _ => ?_)
    show (utf8 needle).isPrefixOf ((utf8 (c :: t)).drop (c.utf8Size + p)) = _
    rw [utf8_cons, ← List.drop_drop, ← String.length_utf8EncodeChar, List.drop_left]
  rw [offsets, byteLength_cons, List.range_add, List.filter_append, hstart, hbehind]

/-- The text stands at an offset if it follows that many bytes. -/
theorem mem_offsets {needle : Text} (hne : needle ≠ []) {t : Text} {p : Nat} :
    p ∈ offsets needle t ↔ ∃ before behind, t = before ++ needle ++ behind ∧ p = byteLength before := by
  induction t generalizing p with
  | nil =>
      constructor
      · intro h
        exact absurd h List.not_mem_nil
      · rintro ⟨before, behind, h, -⟩
        have hnil := (List.append_eq_nil_iff.mp (List.append_eq_nil_iff.mp h.symm).1).2
        exact absurd hnil hne
  | cons c t ih =>
      rw [offsets_cons hne, List.mem_append, List.mem_map]
      constructor
      · rintro (hstart | ⟨q, hq, rfl⟩)
        · split at hstart
          · rename_i hstarts
            obtain ⟨behind, hbehind⟩ := List.isPrefixOf_iff_prefix.mp hstarts
            exact ⟨[], behind, hbehind.symm, List.mem_singleton.mp hstart⟩
          · exact absurd hstart List.not_mem_nil
        · obtain ⟨before, behind, rfl, rfl⟩ := ih.mp hq
          exact ⟨c :: before, behind, rfl, rfl⟩
      · rintro ⟨before, behind, h, rfl⟩
        cases before with
        | nil =>
            left
            have hstarts : needle.isPrefixOf (c :: t) = true :=
              List.isPrefixOf_iff_prefix.mpr ⟨behind, h.symm⟩
            rw [if_pos hstarts]
            exact List.mem_singleton.mpr rfl
        | cons c' before =>
            obtain ⟨rfl, rfl⟩ := List.cons.inj h
            exact .inr ⟨byteLength before, ih.mpr ⟨before, behind, rfl, rfl⟩, rfl⟩

/-- A text that occurs ends within the other one. -/
theorem le_of_mem_offsets {needle : Text} (hne : needle ≠ []) {t : Text} {p : Nat}
    (h : p ∈ offsets needle t) : p + byteLength needle ≤ byteLength t := by
  obtain ⟨before, behind, rfl, rfl⟩ := (mem_offsets hne).mp h
  rw [byteLength_append, byteLength_append]
  exact Nat.le_add_right ..

/-- A text that cannot be cut has no occurrence. -/
theorem offsets_of_cutBefore_eq_none {needle : Text} (hne : needle ≠ []) {t : Text}
    (h : cutBefore needle t = none) : offsets needle t = [] := by
  induction t with
  | nil => rfl
  | cons c t ih =>
      rw [cutBefore] at h
      split at h
      · cases h
      · rename_i hstarts
        rw [offsets_cons hne, if_neg hstarts, ih (Option.map_eq_none_iff.mp h)]
        rfl

/-- All occurrences stand behind the cut. -/
theorem offsets_of_cutBefore_eq_some {needle : Text} (hne : needle ≠ []) {t before rest : Text}
    (h : cutBefore needle t = some (before, rest)) :
    offsets needle t = (offsets needle rest).map (byteLength before + ·) := by
  induction t generalizing before with
  | nil =>
      rw [cutBefore, if_neg hne] at h
      cases h
  | cons c t ih =>
      rw [cutBefore] at h
      split at h
      · obtain ⟨rfl, rfl⟩ := Prod.mk.inj (Option.some.inj h)
        simp
      · rename_i hstarts
        obtain ⟨⟨front, rest⟩, hcut, hparts⟩ := Option.map_eq_some_iff.mp h
        obtain ⟨rfl, rfl⟩ := Prod.mk.inj hparts
        rw [offsets_cons hne, if_neg hstarts, ih hcut, List.nil_append, map_add_map_add,
          byteLength_cons]

theorem offsets_append_self {needle : Text} (hne : needle ≠ []) (t : Text) :
    ∃ more, offsets needle (needle ++ t) = 0 :: more := by
  obtain ⟨c, rest, rfl⟩ := List.exists_cons_of_ne_nil hne
  rw [List.cons_append, offsets_cons hne,
    if_pos (List.isPrefixOf_iff_prefix.mpr ⟨t, List.cons_append ..⟩)]
  exact ⟨_, rfl⟩

/-- A character that the needle does not have separates the occurrences. -/
theorem offsets_append_cons {needle : Text} (hne : needle ≠ []) {c : Char} (hc : c ∉ needle)
    (s t : Text) :
    offsets needle (s ++ c :: t)
      = offsets needle s ++ (offsets needle t).map (byteLength s + c.utf8Size + ·) := by
  induction s with
  | nil =>
      have hstarts : ¬ needle.isPrefixOf (c :: t) = true := by
        intro h
        obtain ⟨first, needle, rfl⟩ := List.exists_cons_of_ne_nil hne
        obtain ⟨behind, hbehind⟩ := List.isPrefixOf_iff_prefix.mp h
        obtain ⟨rfl, -⟩ := List.cons.inj hbehind
        exact hc (List.mem_cons_self ..)
      rw [List.nil_append, offsets_cons hne, if_neg hstarts, byteLength_nil, Nat.zero_add]
      rfl
  | cons x s ih =>
      have hstarts : needle.isPrefixOf (x :: s ++ c :: t) = needle.isPrefixOf (x :: s) := by
        rw [Bool.eq_iff_iff, List.isPrefixOf_iff_prefix, List.isPrefixOf_iff_prefix]
        constructor
        · intro h
          rcases List.prefix_or_prefix_of_prefix h (List.prefix_append (x :: s) (c :: t)) with
            hinside | ⟨behind, rfl⟩
          · exact hinside
          · rcases List.prefix_cons_iff.mp ((List.prefix_append_right_inj _).mp h) with
              rfl | ⟨behind, rfl, -⟩
            · exact ⟨[], by rw [List.append_nil, List.append_nil]⟩
            · exact absurd (List.mem_append_right _ (List.mem_cons_self ..)) hc
        · intro h
          exact h.trans (List.prefix_append ..)
      rw [List.cons_append, offsets_cons hne, ih, offsets_cons hne, ← List.cons_append, hstarts,
        List.map_append, map_add_map_add, List.append_assoc, byteLength_cons, Nat.add_assoc]

/-- Where a text is cut does not depend on what follows the needle. -/
theorem cutBefore_append_congr {needle before x : Text} (y : Text)
    (h : cutBefore needle (before ++ needle ++ x) = some (before, needle ++ x)) :
    cutBefore needle (before ++ needle ++ y) = some (before, needle ++ y) := by
  induction before with
  | nil =>
      rw [List.nil_append]
      cases hall : needle ++ y with
      | nil => rw [cutBefore, if_pos (List.append_eq_nil_iff.mp hall).1]
      | cons c t =>
          rw [cutBefore, if_pos (List.isPrefixOf_iff_prefix.mpr ⟨y, hall⟩)]
  | cons c before ih =>
      -- the needle at the front would fit before what follows
      have hstarts : ∀ z, needle.isPrefixOf (c :: (before ++ needle ++ z))
          = needle.isPrefixOf (c :: (before ++ needle)) := by
        intro z
        rw [Bool.eq_iff_iff, List.isPrefixOf_iff_prefix, List.isPrefixOf_iff_prefix]
        constructor
        · intro hz
          refine List.prefix_of_prefix_length_le hz ⟨z, rfl⟩ ?_
          rw [List.length_cons, List.length_append]
          omega
        · rintro ⟨behind, hbehind⟩
          refine ⟨behind ++ z, ?_⟩
          rw [← List.append_assoc, hbehind]
          rfl
      rw [List.cons_append, List.cons_append, cutBefore] at h ⊢
      rw [hstarts] at h ⊢
      split at h
      · exact absurd (Prod.mk.inj (Option.some.inj h)).1 (List.cons_ne_nil c before).symm
      · rename_i hno
        rw [if_neg hno]
        obtain ⟨⟨front, rest⟩, hcut, hparts⟩ := Option.map_eq_some_iff.mp h
        obtain ⟨hfront, rfl⟩ := Prod.mk.inj hparts
        obtain rfl := (List.cons.inj hfront).2
        rw [ih hcut]
        rfl

/-- Before the cut there is nothing to cut at. -/
theorem cutBefore_before {needle before rest : Text} (hne : needle ≠ [])
    (h : cutBefore needle (before ++ rest) = some (before, rest)) :
    cutBefore needle before = none := by
  induction before with
  | nil => rw [cutBefore, if_neg hne]
  | cons c before ih =>
      rw [List.cons_append, cutBefore] at h
      split at h
      · exact absurd (Prod.mk.inj (Option.some.inj h)).1 (List.cons_ne_nil c before).symm
      · rename_i hno
        obtain ⟨⟨front, rest'⟩, hcut, hparts⟩ := Option.map_eq_some_iff.mp h
        obtain ⟨hfront, rfl⟩ := Prod.mk.inj hparts
        obtain rfl := (List.cons.inj hfront).2
        rw [cutBefore, if_neg, ih hcut, Option.map_none]
        intro hstarts
        exact hno (List.isPrefixOf_iff_prefix.mpr
          ((List.isPrefixOf_iff_prefix.mp hstarts).trans ⟨rest', List.cons_append ..⟩))

-- ── Slices ───────────────────────────────────────────────────────────────────────

/-- The bytes of a text from one offset up to another one. -/
def slice (t : Text) (start stop : Nat) : List UInt8 := ((utf8 t).take stop).drop start

theorem slice_append_left {front t : Text} {i j : Nat} :
    slice (front ++ t) (byteLength front + i) (byteLength front + j) = slice t i j := by
  rw [slice, utf8_append, ← length_utf8, List.take_length_add_append, List.drop_length_add_append,
    slice]

theorem slice_append_right {t behind : Text} {i j : Nat} (h : j ≤ byteLength t) :
    slice (t ++ behind) i j = slice t i j := by
  rw [slice, utf8_append, List.take_append_of_le_length (by rwa [length_utf8]), slice]

theorem slice_zero (t : Text) : slice t 0 (byteLength t) = utf8 t := by
  rw [slice, ← length_utf8, List.take_length, List.drop_zero]

end FaultPages.Text
