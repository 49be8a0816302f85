import FaultPages.Proofs.Path.Places
import Mathlib

/-! # Positions — where in an expression a fault is found

    A reader comes only to places of the text that it reads (`Place.In`), so the offset
    that a fault names is that of what it complains about: each cause points into the
    text (`PathFault.PointsInto`).  That passes from step to step, and through nested
    placeholders, whose faults quote what the placeholder holds (`parse_points`).

    What is read is the trimmed expression, and what is quoted is the expression as it
    is written.  So an offset counts from the first character that is not blank, and
    not from the start of the quotation (`parse_error_points`). -/

namespace FaultPages

open Text

variable {t : Text}

-- ── What stands at an offset ─────────────────────────────────────────────────────

/-- Where something stands does not change with what is put around the text, except for
    the length of what is put in front. -/
theorem Text.mem_offsets_of_append (front behind : Text) {needle : Text} {p : Nat}
    (hne : needle ≠ []) (h : p ∈ offsets needle t) :
    byteLength front + p ∈ offsets needle (front ++ (t ++ behind)) := by
  obtain ⟨before, after, rfl, rfl⟩ := (mem_offsets hne).mp h
  refine (mem_offsets hne).mpr ⟨front ++ before, after ++ behind, ?_, (byteLength_append ..).symm⟩
  simp only [List.append_assoc]

/-- An offset in a trimmed text counts from the first character that is not blank. -/
theorem Text.mem_offsets_of_trim {needle : Text} {p : Nat} (hne : needle ≠ [])
    (h : p ∈ offsets needle (trim t)) :
    byteLength (t.takeWhile isBlank) + p ∈ offsets needle t := by
  obtain ⟨behind, hbehind⟩ : trim t <+: trimStart t := by
    rw [← List.reverse_suffix, trim, trimEnd, List.reverse_reverse]
    exact List.dropWhile_suffix _
  have hsplit : t.takeWhile isBlank ++ (trim t ++ behind) = t := by
    rw [hbehind]
    exact List.takeWhile_append_dropWhile
  have hmem := mem_offsets_of_append (t.takeWhile isBlank) behind hne h
  rwa [hsplit] at hmem

/-- What a cause names stands in the text, at the offset it gives.  A segment is empty
    before a dot or at the end. -/
def PathFault.PointsInto (t : Text) : PathFault → Prop
  | .emptySegment offset => offset ∈ offsets ['.'] t ∨ offset = byteLength t
  | .unexpected c offset => offset ∈ offsets [c] t
  | .partNested offset | .unclosedNested offset | .emptyNested offset =>
    offset ∈ offsets Delimiters.standard.opening t
  | .unclosedKey bracket | .unclosedBracket bracket => bracket ∈ offsets ['['] t
  | .emptyBrackets offset => offset ∈ offsets [']'] t
  | .leadingDigit name => name <:+: t
  | .indexRange digits => digits <:+: t

namespace Parts

open Delimiters

variable {p : Place} {fault : PathFault}

theorem Place.In.mem_offsets {needle : Text} (hp : p.In t) (hne : needle ≠ [])
    (h : needle <+: p.rest) : p.offset ∈ offsets needle t := by
  obtain ⟨front, ht, hoffset⟩ := hp
  obtain ⟨behind, hbehind⟩ := h
  refine (Text.mem_offsets hne).mpr ⟨front, behind, ?_, hoffset.symm⟩
  rw [ht, ← hbehind, List.append_assoc]

/-- A character stands where it is the next one. -/
theorem Place.In.mem_offsets_head {c : Char} {rest : Text} (hp : p.In t) (h : p.rest = c :: rest) :
    p.offset ∈ offsets [c] t :=
  hp.mem_offsets (List.cons_ne_nil c []) (h ▸ ⟨rest, rfl⟩)

theorem Place.In.isInfix {s : Text} (hp : p.In t) (h : s <+: p.rest) : s <:+: t := by
  obtain ⟨front, ht, -⟩ := hp
  exact h.isInfix.trans (ht ▸ (List.suffix_append front p.rest).isInfix)

theorem Place.In.offset_eq (hp : p.In t) (h : p.rest = []) : p.offset = byteLength t := by
  obtain ⟨front, ht, hoffset⟩ := hp
  rw [ht, h, List.append_nil, hoffset]

-- ── Steps ────────────────────────────────────────────────────────────────────────

theorem nested_points (hp : p.In t) (hopen : standard.opening <+: p.rest)
    (h : nested standard p = .error fault) : fault.PointsInto t := by
  rw [nested] at h
  split at h
  · cases h
    exact hp.mem_offsets standard.opening_ne hopen
  · cases h

theorem member_points (hp : p.In t) (h : member standard p = .error fault) :
    fault.PointsInto t := by
  rw [member] at h
  split at h
  · rename_i hopen
    exact nested_points hp (List.isPrefixOf_iff_prefix.mp hopen) h
  · dsimp only at h
    split at h
    · -- no name stands here
      split at h
      · rename_i hrest
        cases h
        exact .inr (hp.offset_eq hrest)
      · rename_i c rest hrest
        cases h
        have hmem := hp.mem_offsets_head hrest
        split
        · rename_i hdot
          subst hdot
          exact .inl hmem
        · exact hmem
    · rename_i c rest hname
      split at h
      · cases h
        exact hp.isInfix (takeName_spec standard p.rest).1
      · split at h
        · rename_i hopen
          cases h
          exact (hp.skip _).mem_offsets standard.opening_ne (List.isPrefixOf_iff_prefix.mp hopen)
        · cases h

theorem bracketed_points {bracket : Nat} (hp : p.In t) (hbracket : bracket ∈ offsets ['['] t)
    (h : bracketed standard bracket p = .error fault) : fault.PointsInto t := by
  rw [bracketed] at h
  split at h
  · cases h
    exact hbracket
  · rename_i c rest hrest
    dsimp only at h
    split at h
    · split at h
      · cases h
      · cases h
        exact hbracket
    · split at h
      · split at h
        · cases h
        · cases h
          exact hp.isInfix (List.takeWhile_prefix _)
      · split at h
        · rename_i hopen
          exact nested_points hp (List.isPrefixOf_iff_prefix.mp hopen) h
        · split at h
          · rename_i hclose
            subst hclose
            cases h
            exact hp.mem_offsets_head hrest
          · cases h
            exact hp.mem_offsets_head hrest

theorem closeBracket_points {bracket : Nat} (hp : p.In t) (hbracket : bracket ∈ offsets ['['] t)
    (h : closeBracket bracket p = .error fault) : fault.PointsInto t := by
  rw [closeBracket] at h
  split at h
  · cases h
    exact hbracket
  · rename_i c rest hrest
    split at h
    · cases h
    · cases h
      exact hp.skipBlanks.mem_offsets_head hrest

-- ── Reading to the end ───────────────────────────────────────────────────────────

/-- The fault that ends the reading points into the text. -/
theorem read_points {expecting : Expecting} (hp : p.In t)
    (h : (read standard expecting p).fault = some fault) : fault.PointsInto t := by
  fun_induction read standard expecting p with
  | case1 expecting p hexpecting first hread =>
      cases h
      exact member_points hp hread
  | case2 expecting p hexpecting part after hread ih =>
      have hstep := member_in hp
      rw [hread] at hstep
      exact ih hstep.2 h
  | case3 => cases h
  | case4 expecting p hexpecting body hbody first hread =>
      cases h
      exact bracketed_points (hp.skip 1).skipBlanks (hp.mem_offsets_head hbody) hread
  | case5 expecting p hexpecting body hbody part inside hread first hclose =>
      cases h
      have hstep := bracketed_in (hp.skip 1).skipBlanks p.offset
      rw [hread] at hstep
      exact closeBracket_points hstep.2 (hp.mem_offsets_head hbody) hclose
  | case6 expecting p hexpecting body hbody part inside hread after hclose ih =>
      have hstep := bracketed_in (hp.skip 1).skipBlanks p.offset
      rw [hread] at hstep
      exact ih ((closeBracket_in hstep.2).1 after hclose) h
  | case7 expecting p hexpecting hbody =>
      cases h
      -- the place behind the dot is the end
      have hend : (p.skip 1).offset = p.offset + 1 := by
        rw [Place.skip, hbody]
        rfl
      rw [← hend]
      exact .inr ((hp.skip 1).offset_eq (by rw [Place.skip, hbody]; rfl))
  | case8 expecting p hexpecting tail hne hbody ih => exact ih (hp.skip 1) h
  | case9 expecting p hexpecting c rest hbracket hdot hdots hbody =>
      cases h
      split
      · rename_i hopen
        exact hp.mem_offsets standard.opening_ne (List.isPrefixOf_iff_prefix.mp hopen)
      · exact hp.mem_offsets_head hbody

theorem ofText_points (h : (ofText standard t).fault = some fault) : fault.PointsInto t := by
  rw [ofText] at h
  split at h
  · cases h
  · exact read_points ⟨[], rfl, rfl⟩ h

end Parts

namespace Path

open Delimiters

variable {fault : ExpressionFault}

/-- A text that is quoted for another one: that text itself, or what one of its nested
    placeholders holds, at any depth. -/
inductive Quotes : Text → Text → Prop where
  | whole (t : Text) : Quotes t t
  | inside {t inner quoted : Text} {offset : Nat}
      (part : .nested offset inner ∈ (Parts.ofText standard (trim t)).parts)
      (quotes : Quotes inner quoted) : Quotes t quoted

/-- Every fault points into the text that it quotes, without the blanks around it. -/
theorem parse_points {t : Text} {fault : ExpressionFault} (h : parse standard t = .error fault) :
    Quotes t fault.expression ∧ fault.cause.PointsInto (trim fault.expression) := by
  rw [parse_eq] at h
  cases hparts : (Parts.ofText standard (trim t)).parts.mapM (segment? standard t) with
  | ok path =>
      rw [hparts] at h
      cases hfault : (Parts.ofText standard (trim t)).fault with
      | none =>
          rw [hfault] at h
          cases h
      | some cause =>
          rw [hfault] at h
          cases h
          exact ⟨.whole t, Parts.ofText_points hfault⟩
  | error fault' =>
      rw [hparts] at h
      cases h
      obtain ⟨before, part, after, hsplit, -, hpart⟩ := mapM_eq_error_iff.mp hparts
      have hmem : part ∈ (Parts.ofText standard (trim t)).parts := by simp [hsplit]
      cases part with
      | property name => cases hpart
      | index position => cases hpart
      | nested offset inner =>
          rw [segment?] at hpart
          cases hinner : parse standard inner with
          | error fault'' =>
              rw [hinner] at hpart
              cases hpart
              -- `parse` goes on with what the placeholder holds, which is shorter
              have hlt := Parts.raw_length_lt hmem
              have hle := trim_length_le t
              obtain ⟨hquotes, hpoints⟩ := parse_points hinner
              exact ⟨.inside hmem hquotes, hpoints⟩
          | ok path =>
              rw [hinner] at hpart
              cases path with
              | cons first rest => cases hpart
              | nil =>
                  cases hpart
                  obtain ⟨front, behind, hplace, rfl, -⟩ :=
                    (Parts.ofText_in (trim t)).stands _ hmem
                  refine ⟨.whole t, (mem_offsets standard.opening_ne).mpr
                    ⟨front, inner ++ standard.closing ++ behind, ?_, rfl⟩⟩
                  rw [hplace, wrap]
                  simp only [List.append_assoc]
termination_by t.length

/-- **A position in a fault counts from the first character of the quoted expression that
    is not blank.**  There stands the character that is unexpected, the bracket or quoted
    key that is not closed, or the placeholder that is only a part of a segment. -/
theorem parse_error_points (h : parse standard t = .error fault) :
    Quotes t fault.expression ∧
      (∀ c p, fault.cause = .unexpected c p →
        byteLength (fault.expression.takeWhile isBlank) + p ∈ offsets [c] fault.expression) ∧
      (∀ p, fault.cause = .unclosedBracket p ∨ fault.cause = .unclosedKey p →
        byteLength (fault.expression.takeWhile isBlank) + p ∈ offsets ['['] fault.expression) ∧
      ∀ p, fault.cause = .partNested p →
        byteLength (fault.expression.takeWhile isBlank) + p
          ∈ offsets standard.opening fault.expression := by
  obtain ⟨hquotes, hpoints⟩ := parse_points h
  refine ⟨hquotes, fun c p hcause => ?_, fun p hcause => ?_, fun p hcause => ?_⟩
  · rw [hcause] at hpoints
    exact mem_offsets_of_trim (List.cons_ne_nil c []) hpoints
  · refine mem_offsets_of_trim (List.cons_ne_nil '[' []) ?_
    rcases hcause with hcause | hcause
    · rwa [hcause] at hpoints
    · rwa [hcause] at hpoints
  · rw [hcause] at hpoints
    exact mem_offsets_of_trim standard.opening_ne hpoints

/-- A fault within a nested placeholder that begins with a blank: the sign that is
    unexpected stands behind the blank and six bytes more of what is quoted. -/
theorem parse_error_points_nested :
    parse standard "['é'][$\x7b ['ü']-\x7d]".toList
        = .error ⟨" ['ü']-".toList, .unexpected '-' 6⟩ ∧
      1 + 6 ∈ offsets ['-'] " ['ü']-".toList := by
  have h : parse standard "['é'][$\x7b ['ü']-\x7d]".toList
      = .error ⟨" ['ü']-".toList, .unexpected '-' 6⟩ := by cbv
  exact ⟨h, (parse_error_points h).2.1 '-' 6 rfl⟩

/-- An offset does not point into the quoted expression itself where that begins with a
    blank: the sign that is unexpected "at position 5" stands at byte 6 of the quotation. -/
theorem unexpected_misses_quoted :
    parse standard " ['k']-".toList = .error ⟨" ['k']-".toList, .unexpected '-' 5⟩ ∧
      5 ∉ offsets ['-'] " ['k']-".toList ∧ 6 ∈ offsets ['-'] " ['k']-".toList := by
  refine ⟨?_, by decide, by decide⟩
  cbv

end Path

end FaultPages
