import FaultPages.Proofs.Placeholder.Visits

/-! # Inner placeholders — what is visited within a placeholder

    What a placeholder holds is scanned before the placeholder itself is visited,
    so its own raw texts come first (`mem_before_of_raws_eq`).  Between brackets it
    is balanced (`Brackets.balanced_of_mem_raws`).  In a balanced text everything
    closes that opens, so whatever stands there between the standard delimiters and
    is balanced itself is visited (`mem_raws_of_balanced`): it is enough to look at
    one place of the text, not at the way of the scan to it. -/

namespace FaultPages.Delimiters

open Text

variable {d : Delimiters} {t raw inner : Text} {o c : Char}

/-- The raw texts of what a placeholder holds come before that of the placeholder. -/
theorem mem_before_of_raws_eq {before after : List Text}
    (h : d.raws t = before ++ raw :: after) (hinner : inner ∈ d.raws raw) : inner ∈ before := by
  induction t using token_induction d generalizing before after with
  | plain t found =>
      rw [raws_of_none found] at h
      exact absurd h.symm
        (List.append_ne_nil_of_right_ne_nil before (List.cons_ne_nil raw after))
  | token t token found ihraw ihrest =>
      rw [raws_of_some found] at h
      rcases List.append_eq_append_iff.mp h with ⟨more, rfl, hmore⟩ | ⟨more, hraws, hmore⟩
      · cases more with
        | nil =>
            obtain ⟨rfl, -⟩ := List.cons.inj hmore
            exact List.mem_append.mpr (.inl hinner)
        | cons first more =>
            obtain ⟨-, hrest⟩ := List.cons.inj hmore
            exact List.mem_append.mpr (.inr (List.mem_cons_of_mem _ (ihrest hrest)))
      · cases more with
        | nil =>
            obtain ⟨rfl, -⟩ := List.cons.inj hmore
            rwa [hraws, List.append_nil] at hinner
        | cons first more =>
            obtain ⟨rfl, -⟩ := List.cons.inj hmore
            exact ihraw hraws

/-- What is visited within a placeholder is visited with it. -/
theorem raws_subset (hraw : raw ∈ d.raws t) : d.raws raw ⊆ d.raws t := by
  intro inner hinner
  obtain ⟨before, after, h⟩ := List.append_of_mem hraw
  rw [h]
  exact List.mem_append.mpr (.inl (mem_before_of_raws_eq h hinner))

/-- What stands between brackets is balanced. -/
theorem Brackets.balanced_of_mem_raws (h : Brackets d o c) (hraw : raw ∈ d.raws t) :
    Balanced o c 0 raw := by
  induction t using token_induction d with
  | plain t found =>
      rw [raws_of_none found] at hraw
      exact absurd hraw List.not_mem_nil
  | token t token found ihraw ihrest =>
      rw [raws_of_some found] at hraw
      rcases List.mem_append.mp hraw with hraw | hraw
      · exact ihraw hraw
      · rcases List.mem_cons.mp hraw with rfl | hraw
        · exact h.balanced found
        · exact ihrest hraw

/-- **A balanced text between the standard delimiters is visited**, wherever it stands in
    a balanced text. -/
theorem mem_raws_of_balanced {front behind : Text} (ht : Balanced '\x7b' '\x7d' 0 t)
    (hinner : Balanced '\x7b' '\x7d' 0 inner)
    (hplace : t = front ++ (standard.wrap inner ++ behind)) : inner ∈ standard.raws t := by
  have hbody : t = front ++ standard.opening ++ (inner ++ '\x7d' :: behind) := by
    rw [hplace, wrap]
    simp [standard]
  have hend : standard.findEnd t (byteLength front)
      = some (byteLength front + byteLength standard.opening + byteLength inner) := by
    rw [hbody, findEnd_append, show closingIndex standard.nestingOpener standard.closing 0 0
      (inner ++ '\x7d' :: behind) = some inner.length from
        (closingIndex_eq_some (by decide)).mpr ⟨inner, behind, rfl, rfl, hinner⟩,
      Option.map_some, List.take_left]
  have hopen : byteLength front ∈ (standard.visits t).map Span.start := by
    rw [(perm_closedOpenings t).mem_iff, closedOpenings_of_balanced brackets_standard ht]
    exact (mem_offsets standard.opening_ne).mpr ⟨front, _, hbody, rfl⟩
  obtain ⟨s, hs, hstart⟩ := List.mem_map.mp hopen
  have hstop := findEnd_of_mem_visits brackets_standard hs
  rw [hstart, hend, Option.some.injEq] at hstop
  have hslice : slice t (s.start + byteLength standard.opening) s.stop = utf8 inner := by
    have hfront : byteLength front + byteLength standard.opening
        = byteLength (front ++ standard.opening) := (byteLength_append ..).symm
    rw [hstart, ← hstop, hbody, hfront]
    calc slice (front ++ standard.opening ++ (inner ++ '\x7d' :: behind))
          (byteLength (front ++ standard.opening) + 0)
          (byteLength (front ++ standard.opening) + byteLength inner)
        = slice (inner ++ '\x7d' :: behind) 0 (byteLength inner) := slice_append_left
      _ = slice inner 0 (byteLength inner) := slice_append_right (Nat.le_refl _)
      _ = utf8 inner := slice_zero inner
  have hmem : utf8 inner ∈ (standard.raws t).map utf8 := by
    rw [← map_slice_visits, ← hslice]
    exact List.mem_map_of_mem hs
  exact (List.mem_map_of_injective utf8_injective).mp hmem

end FaultPages.Delimiters
