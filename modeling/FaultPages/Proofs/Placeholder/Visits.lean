import FaultPages.Proofs.Placeholder.Balance
import FaultPages.Proofs.Placeholder.Spans
import Mathlib.Data.List.Find
import Mathlib.Data.List.TakeWhile

/-! # Visits — the openings of a text and the placeholders that a scan visits

    The openings are looked for in the whole text, and `findEnd` says of each
    where it ends, without any recursion.  For brackets (`Brackets`) this agrees
    with where the scan goes.  An end that is found in a part is found in the
    whole (`closingFrom_append_right`), and what opens within a placeholder closes
    within it (`isSome_findEnd_inside`).

    A standard opening overlaps with no other one and with no closing brace.  So
    the openings of a text are those of its pieces (`offsets_of_some`), and a scan
    visits all of them up to the first one that is never closed (`scan_visits`). -/

namespace FaultPages.Delimiters

open Text

variable {d : Delimiters} {t : Text} {token : Token}

-- ── Brackets ─────────────────────────────────────────────────────────────────────

/-- Delimiters that nest by single ASCII brackets. -/
structure Brackets (d : Delimiters) (o c : Char) : Prop where
  nestingOpener_eq : d.nestingOpener = [o]
  closing_eq : d.closing = [c]
  opening_eq : ∃ front, d.opening = front ++ [o]
  ne : o ≠ c
  opener_size : o.utf8Size = 1
  closing_size : c.utf8Size = 1

theorem brackets_standard : Brackets .standard '\x7b' '\x7d' where
  nestingOpener_eq := by decide
  closing_eq := rfl
  opening_eq := ⟨['$'], rfl⟩
  ne := by decide
  opener_size := by decide
  closing_size := by decide

variable {o c : Char} {p e : Nat}

/-- Either bracket is one byte, and not that of the other one. -/
theorem Brackets.bytes (h : Brackets d o c) :
    utf8 d.nestingOpener = [o.toUInt8] ∧ utf8 d.closing = [c.toUInt8] ∧
      o.toUInt8 ≠ c.toUInt8 := by
  have hopen : utf8 d.nestingOpener = [o.toUInt8] := by
    rw [h.nestingOpener_eq, utf8_singleton h.opener_size]
  have hclose : utf8 d.closing = [c.toUInt8] := by
    rw [h.closing_eq, utf8_singleton h.closing_size]
  refine ⟨hopen, hclose, fun heq => h.ne ?_⟩
  rw [heq, ← hclose, h.nestingOpener_eq, h.closing_eq] at hopen
  exact (utf8EncodeChar_append hopen).1

/-- What a placeholder holds is balanced. -/
theorem Brackets.balanced (h : Brackets d o c) (found : d.firstToken? t = some token) :
    Balanced o c 0 token.raw := by
  have hclose := (firstToken?_eq_some.mp found).2
  rw [h.nestingOpener_eq, h.closing_eq] at hclose
  obtain ⟨inner, rest, hparts, hlen, hinner⟩ := (closingIndex_eq_some h.ne).mp hclose
  rw [(List.append_inj hparts hlen).1]
  exact hinner

/-- An end that is found stays where it is when more text follows. -/
theorem closingFrom_append_right (h : Brackets d o c) (behind : Text)
    (hend : d.closingFrom t p = some e) : d.closingFrom (t ++ behind) p = some e := by
  obtain ⟨hopen, hclose, hne⟩ := h.bytes
  rw [closingFrom, hopen, hclose] at hend ⊢
  obtain ⟨n, hn, rfl⟩ := Option.map_eq_some_iff.mp hend
  rw [utf8_append, List.drop_append, closingIndex_append hne hn]
  rfl

/-- What opens within a balanced text closes within it. -/
theorem isSome_findEnd_of_balanced (h : Brackets d o c) (hbalanced : Balanced o c 0 t)
    (hp : p ∈ offsets d.opening t) : (d.findEnd t p).isSome := by
  obtain ⟨before, behind, ht, rfl⟩ := (mem_offsets d.opening_ne).mp hp
  obtain ⟨front, hfront⟩ := h.opening_eq
  have hopener : t = (before ++ front) ++ o :: behind := by
    rw [ht, hfront]
    simp
  rw [hopener] at hbalanced
  rw [ht, findEnd_append, Option.isSome_map, h.nestingOpener_eq, h.closing_eq]
  exact hbalanced.isSome_closingIndex h.ne

/-- What opens within a placeholder closes within it. -/
theorem isSome_findEnd_inside (h : Brackets d o c) (found : d.firstToken? t = some token)
    (hp : p ∈ offsets d.opening token.raw) : (d.findEnd token.raw p).isSome :=
  isSome_findEnd_of_balanced h (h.balanced found) hp

/-- The first placeholder stays the first one whatever follows it. -/
theorem firstToken?_congr (h : Brackets d o c) (found : d.firstToken? t = some token)
    (rest : Text) :
    d.firstToken? (token.before ++ d.opening ++ (token.raw ++ (d.closing ++ rest)))
      = some { token with rest := rest } := by
  have hcut := (firstToken?_eq_some.mp found).1
  refine firstToken?_eq_some.mpr ⟨?_, ?_⟩
  · rw [firstToken?_parts found] at hcut
    exact cutBefore_append_congr _ hcut
  · rw [h.nestingOpener_eq, h.closing_eq]
    exact (closingIndex_eq_some h.ne).mpr ⟨token.raw, rest, rfl, rfl, h.balanced found⟩

/-- What is found behind a placeholder is found in the text behind it. -/
theorem closingFrom_rest (found : d.firstToken? t = some token) (p : Nat) :
    d.closingFrom t (d.restStart token + p)
      = (d.closingFrom token.rest p).map (d.restStart token + ·) := by
  have hparts : t = token.before ++ d.opening ++ token.raw ++ d.closing ++ token.rest := by
    rw [firstToken?_parts found]
    simp
  have hlen : d.restStart token
      = byteLength (token.before ++ d.opening ++ token.raw ++ d.closing) := by
    simp only [restStart, rawStop, rawStart, byteLength_append]
  rw [hlen, ← closingFrom_shift, ← hparts]

theorem closingFrom_raw (h : Brackets d o c) (found : d.firstToken? t = some token)
    (hend : d.closingFrom token.raw p = some e) :
    d.closingFrom t (d.rawStart token + p) = some (d.rawStart token + e) := by
  have hlen : d.rawStart token = byteLength (token.before ++ d.opening) :=
    (byteLength_append ..).symm
  rw [firstToken?_parts found, hlen, closingFrom_shift, closingFrom_append_right h _ hend]
  rfl

theorem closingFrom_before (found : d.firstToken? t = some token) :
    d.closingFrom t (d.rawStart token) = some (d.rawStop token) := by
  rw [firstToken?_parts found, rawStart, ← byteLength_append, closingFrom_append,
    (firstToken?_eq_some.mp found).2, Option.map_some, List.take_left, byteLength_append]
  rfl

theorem findEnd_before (found : d.firstToken? t = some token) :
    d.findEnd t (byteLength token.before) = some (d.rawStop token) :=
  findEnd_of_closingFrom (closingFrom_before found)

/-- The end of each visited placeholder is found for its opening in the whole
    text. -/
theorem findEnd_of_mem_visits (h : Brackets d o c) {s : Span} (hs : s ∈ d.visits t) :
    d.findEnd t s.start = some s.stop := by
  refine findEnd_of_closingFrom ?_
  induction t using token_induction d generalizing s with
  | plain t found =>
      rw [visits_of_none found] at hs
      exact absurd hs List.not_mem_nil
  | token t token found ihraw ihrest =>
      rw [visits_of_some found] at hs
      rcases List.mem_append.mp hs with hraw | hrest
      · obtain ⟨s, hin, rfl⟩ := List.mem_map.mp hraw
        show d.closingFrom t (d.rawStart token + s.start + byteLength d.opening) = _
        rw [Nat.add_assoc]
        exact closingFrom_raw h found (ihraw hin)
      · rcases List.mem_cons.mp hrest with rfl | hrest
        · exact closingFrom_before found
        · obtain ⟨s, hin, rfl⟩ := List.mem_map.mp hrest
          show d.closingFrom t (d.restStart token + s.start + byteLength d.opening) = _
          rw [Nat.add_assoc, closingFrom_rest found, ihrest hin]
          rfl

/-- The end of an opening behind a placeholder is found in the text behind it. -/
theorem findEnd_rest (found : d.firstToken? t = some token)
    (hp : p ∈ offsets d.opening token.rest) :
    d.findEnd t (d.restStart token + p)
      = (d.findEnd token.rest p).map (d.restStart token + ·) := by
  have hfits : d.restStart token + p + byteLength d.opening ≤ byteLength t := by
    rw [byteLength_of_some found, Nat.add_assoc]
    exact Nat.add_le_add_left (le_of_mem_offsets d.opening_ne hp) _
  rw [findEnd_of_le hfits, Nat.add_assoc, closingFrom_rest found, findEnd_of_mem_offsets hp]

-- ── Openings ─────────────────────────────────────────────────────────────────────

/-- The openings of a text up to the first one that is never closed. -/
def closedOpenings (d : Delimiters) (t : Text) : List Nat :=
  (offsets d.opening t).takeWhile fun p => (d.findEnd t p).isSome

/-- The first opening of a text that is never closed. -/
def unclosed? (d : Delimiters) (t : Text) : Option Nat :=
  (offsets d.opening t).find? fun p => (d.findEnd t p).isNone

/-- Only the members of a list matter for an initial part of it. -/
private theorem takeWhile_congr {α : Type} {p q : α → Bool} {xs : List α}
    (h : ∀ x ∈ xs, p x = q x) : xs.takeWhile p = xs.takeWhile q := by
  induction xs with
  | nil => rfl
  | cons x xs ih =>
      rw [List.takeWhile_cons, List.takeWhile_cons, h x (List.mem_cons_self ..),
        ih fun y hy => h y (List.mem_cons_of_mem x hy)]

/-- All openings of a balanced text are closed. -/
theorem closedOpenings_of_balanced (h : Brackets d o c) (hbalanced : Balanced o c 0 t) :
    d.closedOpenings t = offsets d.opening t := by
  rw [closedOpenings, List.takeWhile_eq_self_iff]
  exact fun p hp => isSome_findEnd_of_balanced h hbalanced hp

/-- A text without a first placeholder has no opening, or one that is never
    closed before all others. -/
theorem offsets_of_none (found : d.firstToken? t = none) :
    offsets d.opening t = [] ∨
      ∃ before tail more, t = before ++ tail ∧ cutBefore d.opening before = none ∧
        offsets d.opening t = byteLength before :: more ∧
        d.findEnd t (byteLength before) = none := by
  rcases firstToken?_eq_none.mp found with hcut | ⟨before, body, hcut, hopen⟩
  · exact .inl (offsets_of_cutBefore_eq_none d.opening_ne hcut)
  · have hparts := cutBefore_append hcut
    obtain ⟨more, hmore⟩ := offsets_append_self d.opening_ne body
    refine .inr ⟨before, d.opening ++ body, more.map (byteLength before + ·), hparts.symm, ?_,
      ?_, ?_⟩
    · rw [← hparts] at hcut
      exact cutBefore_before d.opening_ne hcut
    · rw [offsets_of_cutBefore_eq_some d.opening_ne hcut, hmore]
      rfl
    · rw [← hparts, ← List.append_assoc, findEnd_append, hopen]
      rfl

theorem closedOpenings_of_none (found : d.firstToken? t = none) : d.closedOpenings t = [] := by
  rcases offsets_of_none found with h | ⟨before, tail, more, -, -, h, hopen⟩
  · rw [closedOpenings, h]
    rfl
  · rw [closedOpenings, h, List.takeWhile_cons_of_neg]
    rw [hopen]
    exact Bool.false_ne_true

-- ── The standard delimiters ──────────────────────────────────────────────────────

/-- A standard opening overlaps with no other one. -/
theorem offsets_opening_append (t : Text) :
    offsets standard.opening (standard.opening ++ t)
      = 0 :: (offsets standard.opening t).map (byteLength standard.opening + ·) := by
  have hne := standard.opening_ne
  show offsets standard.opening ('$' :: '\x7b' :: t) = _
  have hdollar : standard.opening.isPrefixOf ('$' :: '\x7b' :: t) = true :=
    List.isPrefixOf_iff_prefix.mpr ⟨t, rfl⟩
  have hbrace : ¬ standard.opening.isPrefixOf ('\x7b' :: t) = true := by
    rw [List.isPrefixOf_iff_prefix]
    rintro ⟨behind, hbehind⟩
    exact absurd (List.cons.inj hbehind).1 (by decide)
  rw [offsets_cons hne, offsets_cons hne, if_pos hdollar, if_neg hbrace, List.nil_append,
    map_add_map_add]
  rfl

/-- The openings of a text are that of its first placeholder, those inside it and
    those behind it. -/
theorem offsets_of_some (found : standard.firstToken? t = some token) :
    offsets standard.opening t = byteLength token.before ::
      ((offsets standard.opening token.raw).map (standard.rawStart token + ·) ++
        (offsets standard.opening token.rest).map (standard.restStart token + ·)) := by
  have hne := standard.opening_ne
  rw [offsets_of_cutBefore_eq_some hne (firstToken?_eq_some.mp found).1, offsets_opening_append,
    show standard.closing ++ token.rest = '\x7d' :: token.rest from rfl,
    offsets_append_cons hne (by decide), List.map_cons, List.map_append, List.map_append,
    map_add_map_add, map_add_map_add, map_add_map_add, Nat.add_zero]
  simp only [restStart, rawStop, rawStart, Nat.add_assoc]
  rfl

/-- The end of an opening inside a placeholder is found. -/
theorem isSome_findEnd_raw (found : standard.firstToken? t = some token)
    (hp : p ∈ offsets standard.opening token.raw) :
    (standard.findEnd t (standard.rawStart token + p)).isSome := by
  obtain ⟨e, he⟩ := Option.isSome_iff_exists.mp
    (isSome_findEnd_inside brackets_standard found hp)
  rw [findEnd_of_mem_offsets hp] at he
  have hwhole := closingFrom_raw brackets_standard found he
  rw [← Nat.add_assoc] at hwhole
  rw [findEnd_of_closingFrom hwhole, Option.isSome_some]

/-- All openings inside a placeholder are closed. -/
theorem closedOpenings_raw (found : standard.firstToken? t = some token) :
    standard.closedOpenings token.raw = offsets standard.opening token.raw :=
  closedOpenings_of_balanced brackets_standard (brackets_standard.balanced found)

theorem closedOpenings_of_some (found : standard.firstToken? t = some token) :
    standard.closedOpenings t = byteLength token.before ::
      ((standard.closedOpenings token.raw).map (standard.rawStart token + ·) ++
        (standard.closedOpenings token.rest).map (standard.restStart token + ·)) := by
  have hinside : ∀ q ∈ (offsets standard.opening token.raw).map (standard.rawStart token + ·),
      (standard.findEnd t q).isSome := by
    intro q hq
    obtain ⟨p, hp, rfl⟩ := List.mem_map.mp hq
    exact isSome_findEnd_raw found hp
  have hbehind : ((offsets standard.opening token.rest).map
        (standard.restStart token + ·)).takeWhile (fun p => (standard.findEnd t p).isSome)
      = (standard.closedOpenings token.rest).map (standard.restStart token + ·) := by
    rw [List.takeWhile_map, closedOpenings]
    refine congrArg (List.map _) (takeWhile_congr fun p hp => ?_)
    show (standard.findEnd t (standard.restStart token + p)).isSome = _
    rw [findEnd_rest found hp, Option.isSome_map]
  rw [closedOpenings_raw found, closedOpenings, offsets_of_some found,
    List.takeWhile_cons_of_pos (by rw [findEnd_before found]; rfl),
    List.takeWhile_append_of_pos hinside, hbehind]

/-- The first opening that is never closed stands behind all placeholders. -/
theorem unclosed?_of_some (found : standard.firstToken? t = some token) :
    standard.unclosed? t
      = (standard.unclosed? token.rest).map (standard.restStart token + ·) := by
  have hinside : ((offsets standard.opening token.raw).map (standard.rawStart token + ·)).find?
      (fun p => (standard.findEnd t p).isNone) = none := by
    rw [List.find?_eq_none]
    intro q hq
    obtain ⟨p, hp, rfl⟩ := List.mem_map.mp hq
    rw [← Option.not_isSome, isSome_findEnd_raw found hp]
    exact Bool.false_ne_true
  have hbefore : ¬ (standard.findEnd t (byteLength token.before)).isNone = true := by
    rw [findEnd_before found]
    exact Bool.false_ne_true
  rw [unclosed?, offsets_of_some found,
    List.find?_cons_of_neg (p := fun p => (standard.findEnd t p).isNone) hbefore,
    List.find?_append, hinside, Option.none_or, List.find?_map, unclosed?]
  refine congrArg (Option.map _) (List.find?_congr fun p hp => ?_)
  show (standard.findEnd t (standard.restStart token + p)).isNone = _
  rw [findEnd_rest found hp, Option.isNone_map]

/-- The placeholders that are visited open where the closed openings are. -/
theorem perm_closedOpenings (t : Text) :
    ((standard.visits t).map Span.start).Perm (standard.closedOpenings t) := by
  induction t using token_induction standard with
  | plain t found =>
      rw [visits_of_none found, closedOpenings_of_none found]
      exact .nil
  | token t token found ihraw ihrest =>
      have hshift : ∀ n spans, (List.map (Span.shift n) spans).map Span.start
          = (spans.map Span.start).map (n + ·) := by
        intro n spans
        rw [List.map_map, List.map_map]
        rfl
      rw [visits_of_some found, closedOpenings_of_some found, List.map_append, List.map_cons,
        hshift, hshift]
      exact List.perm_middle.trans (.cons _ ((ihraw.map _).append (ihrest.map _)))

/-- From the first opening on that is never closed, the text is kept as it is. -/
theorem scan_of_unclosed? {m : Type → Type} [Monad m] [LawfulMonad m]
    (resolve : Placeholder → m (Option Text)) (h : standard.unclosed? t = some p) :
    ∃ front tail, t = front ++ tail ∧ byteLength front = p ∧
      standard.scan resolve t = (· ++ tail) <$> standard.scan resolve front := by
  induction t using token_induction standard generalizing p with
  | plain t found =>
      rcases offsets_of_none found with hnone | ⟨before, tail, more, ht, hcut, hsome, hopen⟩
      · rw [unclosed?, hnone] at h
        cases h
      · rw [unclosed?, hsome, List.find?_cons_of_pos (by rw [hopen]; rfl)] at h
        obtain rfl := Option.some.inj h
        have hbefore : standard.firstToken? before = none :=
          firstToken?_eq_none.mpr (.inl hcut)
        refine ⟨before, tail, ht, rfl, ?_⟩
        rw [scan_of_none found, scan_of_none hbefore, map_pure, ht]
  | token t token found ihraw ihrest =>
      rw [unclosed?_of_some found] at h
      obtain ⟨q, hq, rfl⟩ := Option.map_eq_some_iff.mp h
      obtain ⟨front, tail, hrest, rfl, hscan⟩ := ihrest hq
      refine ⟨token.before ++ standard.opening ++ (token.raw ++ (standard.closing ++ front)), tail,
        ?_, ?_, ?_⟩
      · rw [firstToken?_parts found, hrest]
        simp only [List.append_assoc]
      · simp only [restStart, rawStop, rawStart, byteLength_append, Nat.add_assoc]
      · rw [scan_of_some found, scan_of_some (firstToken?_congr brackets_standard found front),
          hscan]
        simp

/-- **The scan visits exactly the closed placeholders, once each**, in the order
    of their ends, up to the first one that is never closed.  The text is kept
    from that one on. -/
theorem scan_visits (t : Text) :
    ∃ spans : List Span,
      (spans.map Span.start).Perm (standard.closedOpenings t) ∧
      (∀ s ∈ spans, standard.findEnd t s.start = some s.stop) ∧
      (spans.Pairwise fun s s' => s.stop < s'.stop) ∧
      ∀ (m : Type → Type) [Monad m] [LawfulMonad m] (resolve : Placeholder → m (Option Text)),
        Prod.fst <$> standard.scanRecorded resolve t = standard.scan resolve t ∧
        Ensures (standard.scanRecorded resolve t) (fun r =>
          r.2.map (fun a => utf8 a.raw) = spans.map fun s => slice t (s.start + 2) s.stop) ∧
        ∀ p, standard.unclosed? t = some p → ∃ front tail,
          t = front ++ tail ∧ byteLength front = p ∧
            standard.scan resolve t = (· ++ tail) <$> standard.scan resolve front := by
  refine ⟨standard.visits t, perm_closedOpenings t,
    fun s hs => findEnd_of_mem_visits brackets_standard hs, pairwise_visits standard t, ?_⟩
  intro m _ _ resolve
  refine ⟨fst_scanRecorded, (ensures_map_raw standard resolve t).mono fun r hr => ?_,
    fun p hp => scan_of_unclosed? resolve hp⟩
  rw [show (fun a : Answered => utf8 a.raw) = utf8 ∘ Answered.raw from rfl, ← List.map_map, hr]
  exact (map_slice_visits standard t).symm

example : standard.closedOpenings "$\x7ba$\x7bb\x7d\x7d$\x7b$\x7bc\x7d".toList = [0, 3] := by decide

end FaultPages.Delimiters
