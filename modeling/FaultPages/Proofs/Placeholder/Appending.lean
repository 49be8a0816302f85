import FaultPages.Proofs.Placeholder.Visits

/-! # Appending — a text scanned piece by piece

    A scan of two texts together is a scan of the first one and then of the second
    (`scan_append`), where all that opens in the first one closes in it
    (`unclosed?`) and the two make no opening where they meet (`Apart`).  Both are needed:
    an opening that is never closed takes all that follows with it, and a dollar sign
    before a brace opens what neither text opened.

    The induction is along the placeholders of the first text.  A placeholder is the first
    one whatever follows it (`firstToken?_append_of_some`), and behind the last one the
    first text holds no opening, so the next placeholder is that of the second text
    (`firstToken?_append_of_none`).  Plain text in front of a template is a case of it. -/

namespace FaultPages.Delimiters

open Text

variable {a b t front : Text} {token : Token}

/-- Two texts that make no standard opening where they meet. -/
def Apart (a b : Text) : Prop := ¬ (a.getLast? = some '$' ∧ b.head? = some '\x7b')

/-- Where two texts meet matters only the end of the first one. -/
theorem Apart.of_append (h : Apart (front ++ a) b) : Apart a b := by
  rintro ⟨hlast, hhead⟩
  refine h ⟨?_, hhead⟩
  rw [List.getLast?_append, hlast]
  rfl

-- ── No opening in the first text ─────────────────────────────────────────────────

/-- A text that opens nothing only moves where the next one is cut. -/
theorem cutBefore_append_of_apart (ha : cutBefore standard.opening a = none) (hseam : Apart a b) :
    cutBefore standard.opening (a ++ b)
      = (cutBefore standard.opening b).map fun cut => (a ++ cut.1, cut.2) := by
  induction a with
  | nil =>
      cases hcut : cutBefore standard.opening b with
      | none => rw [List.nil_append, hcut, Option.map_none]
      | some cut => rw [List.nil_append, hcut, Option.map_some, List.nil_append]
  | cons c a ih =>
      rw [cutBefore] at ha
      split at ha
      · cases ha
      · rename_i hstarts
        -- an opening at `c` would have its brace in `a` or in `b`
        have hboth : ¬ standard.opening.isPrefixOf (c :: (a ++ b)) = true := by
          intro h
          obtain ⟨behind, hbehind⟩ := List.isPrefixOf_iff_prefix.mp h
          obtain ⟨rfl, hbrace⟩ := List.cons.inj hbehind
          cases a with
          | nil => exact hseam ⟨rfl, by rw [← List.nil_append b, ← hbrace]; rfl⟩
          | cons x a =>
              obtain ⟨rfl, -⟩ := List.cons.inj hbrace
              exact hstarts (List.isPrefixOf_iff_prefix.mpr ⟨a, rfl⟩)
        have hbehind : Apart a b := Apart.of_append (show Apart ([c] ++ a) b from hseam)
        rw [List.cons_append, cutBefore, if_neg hboth, ih (Option.map_eq_none_iff.mp ha) hbehind,
          Option.map_map]
        rfl

/-- Without a placeholder and without an opening that is never closed, nothing opens. -/
theorem cutBefore_eq_none (found : standard.firstToken? t = none)
    (hclosed : standard.unclosed? t = none) : cutBefore standard.opening t = none := by
  rcases firstToken?_eq_none.mp found with hcut | ⟨before, body, hcut, -⟩
  · exact hcut
  · have hne := standard.opening_ne
    obtain ⟨more, hmore⟩ := offsets_append_self hne body
    rcases offsets_of_none found with hnone | ⟨front, tail, rest, -, -, hsome, hopen⟩
    · rw [offsets_of_cutBefore_eq_some hne hcut, hmore] at hnone
      cases hnone
    · rw [unclosed?, hsome, List.find?_cons_of_pos (by rw [hopen]; rfl)] at hclosed
      cases hclosed

/-- Behind a text that holds no placeholder, the first one is that of the next text. -/
theorem firstToken?_append_of_none (found : standard.firstToken? a = none)
    (hclosed : standard.unclosed? a = none) (hseam : Apart a b) :
    standard.firstToken? (a ++ b)
      = (standard.firstToken? b).map fun token => { token with before := a ++ token.before } := by
  rw [firstToken?, firstToken?, cutBefore_append_of_apart (cutBefore_eq_none found hclosed) hseam]
  cases cutBefore standard.opening b with
  | none => rfl
  | some cut =>
      simp only [Option.map_some, Option.map_map]
      rfl

-- ── A placeholder in the first text ──────────────────────────────────────────────

/-- The first placeholder stays the first one when more follows. -/
theorem firstToken?_append_of_some (found : standard.firstToken? a = some token) (b : Text) :
    standard.firstToken? (a ++ b) = some { token with rest := token.rest ++ b } := by
  rw [← firstToken?_congr brackets_standard found (token.rest ++ b)]
  refine congrArg standard.firstToken? ?_
  conv_lhs => rw [firstToken?_parts found]
  simp only [List.append_assoc]

/-- What follows the first placeholder leaves nothing open where the whole text does not. -/
theorem unclosed?_rest (found : standard.firstToken? a = some token)
    (hclosed : standard.unclosed? a = none) : standard.unclosed? token.rest = none := by
  rw [unclosed?_of_some found] at hclosed
  exact Option.map_eq_none_iff.mp hclosed

/-- The end of a text is that of what follows its first placeholder. -/
theorem Apart.rest (found : standard.firstToken? a = some token) (hseam : Apart a b) :
    Apart token.rest b := by
  rw [← firstToken?_append found] at hseam
  exact hseam.of_append

-- ── Both texts ───────────────────────────────────────────────────────────────────

/-- The placeholders of two texts together are those of the first one and then those of the
    second. -/
theorem raws_append (hclosed : standard.unclosed? a = none) (hseam : Apart a b) :
    standard.raws (a ++ b) = standard.raws a ++ standard.raws b := by
  induction a using token_induction standard with
  | plain a found =>
      have hfirst := firstToken?_append_of_none found hclosed hseam
      rw [raws_of_none found, List.nil_append]
      cases hb : standard.firstToken? b with
      | none =>
          rw [hb] at hfirst
          rw [raws_of_none hfirst, raws_of_none hb]
      | some token =>
          rw [hb] at hfirst
          rw [raws_of_some hfirst, raws_of_some hb]
  | token a token found ihraw ihrest =>
      rw [raws_of_some (firstToken?_append_of_some found b), raws_of_some found,
        ihrest (unclosed?_rest found hclosed) (hseam.rest found), List.append_assoc,
        List.cons_append]

/-- **A scan goes piece by piece.**  Two texts are rebuilt together as they are one after the
    other, with all effects in the same order. -/
theorem scan_append {m : Type → Type} [Monad m] [LawfulMonad m]
    (resolve : Placeholder → m (Option Text)) (hclosed : standard.unclosed? a = none)
    (hseam : Apart a b) :
    standard.scan resolve (a ++ b) = (do
      let first ← standard.scan resolve a
      let second ← standard.scan resolve b
      pure (first ++ second)) := by
  induction a using token_induction standard with
  | plain a found =>
      have hfirst := firstToken?_append_of_none found hclosed hseam
      rw [scan_of_none found, pure_bind]
      cases hb : standard.firstToken? b with
      | none =>
          rw [hb] at hfirst
          rw [scan_of_none hfirst, scan_of_none hb, pure_bind]
      | some token =>
          rw [hb] at hfirst
          rw [scan_of_some hfirst, scan_of_some hb]
          simp only [bind_assoc, pure_bind, List.append_assoc]
  | token a token found ihraw ihrest =>
      rw [scan_of_some (firstToken?_append_of_some found b), scan_of_some found,
        ihrest (unclosed?_rest found hclosed) (hseam.rest found)]
      simp only [bind_assoc, pure_bind, List.append_assoc]

-- ── Plain text ───────────────────────────────────────────────────────────────────

/-- Plain text holds no opening. -/
theorem cutBefore_of_plain (h : '$' ∉ t) : cutBefore standard.opening t = none := by
  cases hcut : cutBefore standard.opening t with
  | none => rfl
  | some cut =>
      obtain ⟨body, hbody⟩ := needle_of_cutBefore hcut
      refine absurd ?_ h
      rw [← cutBefore_append hcut, ← hbody]
      exact List.mem_append_right _ (List.mem_append_left _ (by decide))

theorem raws_of_plain (h : '$' ∉ t) : standard.raws t = [] :=
  raws_of_none (firstToken?_eq_none.mpr (.inl (cutBefore_of_plain h)))

/-- Plain text in front holds no placeholder. -/
theorem raws_append_of_plain (h : '$' ∉ front) (t : Text) :
    standard.raws (front ++ t) = standard.raws t := by
  have hclosed : standard.unclosed? front = none := by
    rw [unclosed?, offsets_of_cutBefore_eq_none standard.opening_ne (cutBefore_of_plain h)]
    rfl
  have hseam : Apart front t := fun hmeet => h (List.mem_of_getLast? hmeet.1)
  rw [raws_append hclosed hseam, raws_of_plain h, List.nil_append]

/-- A balanced text between delimiters is visited before what follows it. -/
theorem raws_wrap_append {inner : Text} (hinner : Balanced '\x7b' '\x7d' 0 inner) (t : Text) :
    standard.raws (standard.wrap inner ++ t)
      = standard.raws inner ++ inner :: standard.raws t := by
  have found : standard.firstToken? (standard.wrap inner ++ t) = some ⟨[], inner, t⟩ := by
    refine firstToken?_eq_some.mpr ⟨?_, ?_⟩
    · rw [wrap, List.append_assoc, List.append_assoc]
      rfl
    · exact (closingIndex_eq_some (by decide)).mpr ⟨inner, t, rfl, rfl, hinner⟩
  exact raws_of_some found

end FaultPages.Delimiters
