import FaultPages.Proofs.Placeholder.Visits
import FaultPages.Proofs.Text.Boundaries

/-! # Indices — the search and the scan by byte indices

    The search for an end and the scan of a text can be told by indices into one text:
    an index moves on by a byte, by a delimiter or to the end of a placeholder, and what
    is looked at or handed out is taken from between two of them.  Told so, each of these
    steps can go wrong: an index can leave the text, a piece of text can begin or end
    within a character, and the depth can be lowered below zero.

    None of this happens.  The search by indices gives what `findEnd` gives, from every
    start (`searchEnd_eq`), and the scan by indices what `scan` gives, for every resolver
    (`run_scanFrom`). -/

namespace FaultPages.Delimiters

open Text

-- ── The search for an end ────────────────────────────────────────────────────────

/-- An index that does not leave the text. -/
def within? (t : Text) (index : Nat) : Except Slip Unit :=
  if index ≤ byteLength t then .ok () else .error .beyond

/-- One level less. -/
def lowered? : Nat → Except Slip Nat
  | 0 => .error .underflow
  | depth + 1 => .ok depth

/-- The index of the delimiter that closes depth zero, from an index and a depth on. -/
def searchEnd (d : Delimiters) (t : Text) (index depth : Nat) : Except Slip (Option Nat) :=
  if _more : index < byteLength t then do
    within? t index
    let rest := (utf8 t).drop index
    if (utf8 d.closing).isPrefixOf rest then
      if depth = 0 then pure (some index)
      else do
        let depth ← lowered? depth
        within? t (index + byteLength d.closing)
        searchEnd d t (index + byteLength d.closing) depth
    else if (utf8 d.nestingOpener).isPrefixOf rest then do
      within? t (index + byteLength d.nestingOpener)
      searchEnd d t (index + byteLength d.nestingOpener) (depth + 1)
    else do
      within? t (index + 1)
      searchEnd d t (index + 1) depth
  else pure none
termination_by byteLength t - index
decreasing_by
  · have := byteLength_pos d.closing_ne
    omega
  · have := byteLength_pos d.nestingOpener_ne
    omega
  · omega

variable {d : Delimiters} {t : Text} {index depth start stop : Nat}

theorem within?_of_le (h : index ≤ byteLength t) : within? t index = .ok () := if_pos h

/-- A delimiter that stands at an index ends within the text. -/
private theorem exists_of_isPrefixOf {needle : Text} (hlt : index < byteLength t)
    (h : (utf8 needle).isPrefixOf ((utf8 t).drop index) = true) :
    index + byteLength needle ≤ byteLength t ∧
      (utf8 t).drop index = utf8 needle ++ (utf8 t).drop (index + byteLength needle) := by
  obtain ⟨rest, hrest⟩ := List.isPrefixOf_iff_prefix.mp h
  refine ⟨?_, ?_⟩
  · have hlen := congrArg List.length hrest
    simp only [List.length_append, List.length_drop, length_utf8] at hlen
    omega
  · rw [← List.drop_drop, ← hrest, ← length_utf8 needle, List.drop_left]

/-- **The search by indices finds the end**, and no step of it goes wrong. -/
theorem searchEnd_eq (index depth : Nat) :
    d.searchEnd t index depth
      = .ok ((closingIndex (utf8 d.nestingOpener) (utf8 d.closing) depth 0
          ((utf8 t).drop index)).map (index + ·)) := by
  rw [searchEnd]
  by_cases hlt : index < byteLength t
  · rw [dif_pos hlt, within?_of_le (Nat.le_of_lt hlt)]
    obtain ⟨b, bytes, hbytes⟩ : ∃ b bytes, (utf8 t).drop index = b :: bytes :=
      List.exists_cons_of_ne_nil fun hnil => by
        have := List.drop_eq_nil_iff.mp hnil
        rw [length_utf8] at this
        omega
    -- the search goes on behind a delimiter, with another depth
    have hbehind : ∀ {needle : Text} {depth : Nat}, needle ≠ [] →
        (utf8 needle).isPrefixOf ((utf8 t).drop index) = true →
        (within? t (index + byteLength needle) >>= fun _ =>
          d.searchEnd t (index + byteLength needle) depth)
          = .ok (((closingIndex (utf8 d.nestingOpener) (utf8 d.closing) depth
              ((utf8 needle).length - 1) bytes).map (· + 1)).map (index + ·)) := by
      intro needle depth hne hstarts
      obtain ⟨hle, hdrop⟩ := exists_of_isPrefixOf hlt hstarts
      have := byteLength_pos hne
      have htail : bytes = (utf8 needle ++ (utf8 t).drop (index + byteLength needle)).drop 1 := by
        rw [← hdrop, hbytes]
        rfl
      have hne' : utf8 needle ≠ [] := fun hnil => by
        rw [← length_utf8, hnil] at this
        exact absurd this (Nat.lt_irrefl 0)
      rw [within?_of_le hle, htail, closingIndex_behind hne', length_utf8, Option.map_map]
      refine (searchEnd_eq (index + byteLength needle) depth).trans ?_
      refine congrArg (fun f => Except.ok (Option.map f _)) (funext fun n => ?_)
      exact Nat.add_assoc index _ n
    show (if (utf8 d.closing).isPrefixOf ((utf8 t).drop index) then _ else _) = _
    rw [hbytes, closingIndex_zero, ← hbytes]
    by_cases hclosing : (utf8 d.closing).isPrefixOf ((utf8 t).drop index) = true
    · rw [if_pos hclosing, if_pos hclosing]
      cases depth with
      | zero => rfl
      | succ depth =>
          rw [if_neg (Nat.succ_ne_zero depth)]
          exact hbehind d.closing_ne hclosing
    · rw [if_neg hclosing, if_neg hclosing]
      by_cases hopener : (utf8 d.nestingOpener).isPrefixOf ((utf8 t).drop index) = true
      · rw [if_pos hopener, if_pos hopener]
        exact hbehind d.nestingOpener_ne hopener
      · rw [if_neg hopener, if_neg hopener, within?_of_le hlt]
        have hdrop : bytes = (utf8 t).drop (index + 1) := by
          rw [← List.drop_drop, hbytes]
          rfl
        rw [hdrop, Option.map_map]
        refine (searchEnd_eq (index + 1) depth).trans ?_
        refine congrArg (fun f => Except.ok (Option.map f _)) (funext fun n => ?_)
        exact Nat.add_right_comm index 1 n
  · rw [dif_neg hlt, List.drop_eq_nil_of_le (by rw [length_utf8]; omega)]
    rfl
termination_by byteLength t - index

/-- The end that is found for a start, by indices. -/
def endFrom (d : Delimiters) (t : Text) (start : Nat) : Except Slip (Option Nat) :=
  d.searchEnd t (wrapIndex t (start + byteLength d.opening)) 0

theorem endFrom_eq : d.endFrom t start = .ok (d.findEnd t start) := searchEnd_eq _ _

/-- Where an end is found, the closing delimiter stands, and whole characters around it. -/
theorem findEnd_spec (h : d.findEnd t start = some stop) :
    (start + byteLength d.opening < indexBound → start + byteLength d.opening ≤ stop) ∧
      stop + byteLength d.closing ≤ byteLength t ∧
      stop ∈ offsets d.closing t ∧ IsBoundary t stop ∧
      IsBoundary t (stop + byteLength d.closing) := by
  obtain ⟨hle, hlt, hstarts⟩ := closingFrom_spec h
  have hmem : stop ∈ offsets d.closing t :=
    List.mem_filter.mpr ⟨List.mem_range.mpr hlt, List.isPrefixOf_iff_prefix.mpr hstarts⟩
  obtain ⟨before, behind, ht, hbefore⟩ := (mem_offsets d.closing_ne).mp hmem
  refine ⟨fun hfits => ?_, le_of_mem_offsets d.closing_ne hmem, hmem, ?_, ?_⟩
  · rwa [wrapIndex_of_lt hfits] at hle
  · exact isBoundary_iff.mpr ⟨before, d.closing ++ behind, by rw [ht, List.append_assoc],
      hbefore.symm⟩
  · exact isBoundary_iff.mpr ⟨before ++ d.closing, behind, ht, by
      rw [byteLength_append, hbefore]⟩

-- ── The scan ─────────────────────────────────────────────────────────────────────

variable {m : Type → Type} [Monad m]

/-- Rebuild a text from a cursor on, as `scan` does.  What is looked at, kept and handed to
    the resolver are pieces of the text between indices. -/
def scanFrom (d : Delimiters) (resolve : Placeholder → m (Option Text)) (t : Text)
    (cursor : Nat) : ExceptT Slip m Text := do
  let rest ← between? t cursor (byteLength t)
  match (offsets d.opening rest).head? with
  | none => pure rest
  | some offset =>
    match ← d.endFrom t (cursor + offset) with
    | none => pure rest
    | some stop =>
      let before ← between? t cursor (cursor + offset)
      match _raw : between? t (cursor + offset + byteLength d.opening) stop with
      | .error slip => throw slip
      | .ok raw =>
        let inner ← scanFrom d resolve raw 0
        let value ← resolve ⟨raw, inner⟩
        let behind ← scanFrom d resolve t (stop + byteLength d.closing)
        pure (before ++ value.getD [] ++ behind)
termination_by (byteLength t, byteLength t - cursor)
decreasing_by
  · have hopening := byteLength_pos d.opening_ne
    obtain ⟨front, behind, ht, hfront, hstop⟩ := between?_eq_ok.mp _raw
    have hlen := congrArg byteLength ht
    simp only [byteLength_append] at hlen
    exact Prod.Lex.left _ _ (by omega)
  · have hopening := byteLength_pos d.opening_ne
    obtain ⟨front, behind, ht, hfront, hstop⟩ := between?_eq_ok.mp _raw
    have hlen := congrArg byteLength ht
    simp only [byteLength_append] at hlen
    exact Prod.Lex.right _ (by omega)

variable {resolve : Placeholder → m (Option Text)} {token : Token}

/-- A piece that is taken is handed on. -/
private theorem lift_ok_bind [LawfulMonad m] {α β : Type} (a : α) (f : α → ExceptT Slip m β) :
    (liftM (Except.ok a : Except Slip α) >>= f : ExceptT Slip m β) = f a := by
  show (pure a >>= f : ExceptT Slip m β) = f a
  rw [pure_bind]

/-- Where nothing goes wrong, a computation goes on with its results. -/
private theorem run_bind_of_ok [LawfulMonad m] {α β : Type} {x : ExceptT Slip m α} {y : m α}
    (h : x.run = Except.ok <$> y) (f : α → ExceptT Slip m β) :
    (x >>= f).run = y >>= fun a => (f a).run := by
  rw [ExceptT.run_bind, h, bind_map_left]

private theorem run_liftM_resolve (p : Placeholder) :
    (liftM (resolve p) : ExceptT Slip m (Option Text)).run = Except.ok <$> resolve p := rfl

/-- The first offset is where the text is cut. -/
private theorem head?_offsets (found : d.firstToken? t = some token) :
    (offsets d.opening t).head? = some (byteLength token.before) := by
  obtain ⟨more, hmore⟩ := offsets_append_self d.opening_ne
    (token.raw ++ (d.closing ++ token.rest))
  rw [offsets_of_cutBefore_eq_some d.opening_ne (firstToken?_eq_some.mp found).1, hmore]
  rfl

/-- Where the scan goes on from a cursor, its placeholder is the first one of what follows. -/
private theorem scanFrom_of_some [LawfulMonad m] (front : Text)
    (found : d.firstToken? t = some token) :
    d.scanFrom resolve (front ++ t) (byteLength front) = (do
      let inner ← d.scanFrom resolve token.raw 0
      let value ← resolve ⟨token.raw, inner⟩
      let behind ← d.scanFrom resolve (front ++ t) (byteLength front + d.restStart token)
      pure (token.before ++ value.getD [] ++ behind)) := by
  have ht := firstToken?_parts found
  have hend : d.endFrom (front ++ t) (byteLength front + byteLength token.before)
      = .ok (some (byteLength front + d.rawStop token)) := by
    have hclosing := closingFrom_shift (d := d) front t (d.rawStart token)
    rw [closingFrom_before found, rawStart, ← Nat.add_assoc] at hclosing
    rw [endFrom_eq, findEnd_of_closingFrom hclosing]
  have hbefore : between? (front ++ t) (byteLength front)
      (byteLength front + byteLength token.before) = .ok token.before := by
    refine between?_eq_ok.mpr ⟨front, d.opening ++ (token.raw ++ (d.closing ++ token.rest)),
      ?_, rfl, rfl⟩
    rw [← List.append_assoc token.before, ← ht]
  have hraw : between? (front ++ t) (byteLength front + byteLength token.before
      + byteLength d.opening) (byteLength front + d.rawStop token) = .ok token.raw := by
    refine between?_eq_ok.mpr ⟨front ++ token.before ++ d.opening, d.closing ++ token.rest,
      ?_, ?_, ?_⟩
    · rw [List.append_assoc, List.append_assoc, ← List.append_assoc token.before, ← ht]
    · rw [byteLength_append, byteLength_append]
    · rw [rawStop, rawStart, Nat.add_assoc, Nat.add_assoc, Nat.add_assoc]
  rw [scanFrom, between?_rest, lift_ok_bind, head?_offsets found]
  dsimp only
  rw [hend, lift_ok_bind]
  dsimp only
  rw [hbefore, lift_ok_bind]
  split
  · rename_i slip hslip
    cases hslip.symm.trans hraw
  · rename_i raw hraw'
    obtain rfl := Except.ok.inj (hraw'.symm.trans hraw)
    rw [restStart, Nat.add_assoc]

/-- **The scan by indices rebuilds what `scan` does**, with the same effects, and no step of
    it goes wrong. -/
theorem run_scanFrom [LawfulMonad m] (front t : Text) :
    (d.scanFrom resolve (front ++ t) (byteLength front)).run = Except.ok <$> d.scan resolve t := by
  induction t using token_induction d generalizing front with
  | plain t found =>
      rw [scanFrom, between?_rest, lift_ok_bind, scan_of_none found]
      rcases firstToken?_eq_none.mp found with hcut | ⟨before, body, hcut, hopen⟩
      · rw [offsets_of_cutBefore_eq_none d.opening_ne hcut]
        simp
      · obtain ⟨more, hmore⟩ := offsets_append_self d.opening_ne body
        have hhead : (offsets d.opening t).head? = some (byteLength before) := by
          rw [offsets_of_cutBefore_eq_some d.opening_ne hcut, hmore]
          rfl
        have hend : d.endFrom (front ++ t) (byteLength front + byteLength before) = .ok none := by
          rw [endFrom_eq, ← cutBefore_append hcut, ← List.append_assoc, ← List.append_assoc,
            ← byteLength_append, findEnd_append, hopen]
          rfl
        rw [hhead]
        dsimp only
        rw [hend, lift_ok_bind]
        simp
  | token t token found ihraw ihrest =>
      have hinner : (d.scanFrom resolve token.raw 0).run
          = Except.ok <$> d.scan resolve token.raw := ihraw []
      have hrest : (d.scanFrom resolve (front ++ t) (byteLength front + d.restStart token)).run
          = Except.ok <$> d.scan resolve token.rest := by
        have hbehind := ihrest
          (front ++ (token.before ++ d.opening ++ (token.raw ++ d.closing)))
        have hfront : front ++ (token.before ++ d.opening ++ (token.raw ++ d.closing)) ++ token.rest
            = front ++ t := by
          simp only [firstToken?_parts found, List.append_assoc]
        have hlen : byteLength (front ++ (token.before ++ d.opening ++ (token.raw ++ d.closing)))
            = byteLength front + d.restStart token := by
          simp only [byteLength_append, restStart, rawStop, rawStart, Nat.add_assoc]
        rwa [hfront, hlen] at hbehind
      rw [scanFrom_of_some front found, scan_of_some found, run_bind_of_ok hinner, map_bind]
      refine bind_congr fun inner => ?_
      rw [run_bind_of_ok (run_liftM_resolve _), map_bind]
      refine bind_congr fun value => ?_
      rw [run_bind_of_ok hrest, map_bind]
      refine bind_congr fun behind => ?_
      rw [map_pure]
      rfl

end FaultPages.Delimiters
