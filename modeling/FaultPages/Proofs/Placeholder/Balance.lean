import FaultPages.Proofs.Placeholder.Closing

/-! # Balance — the search for single delimiters as a count

    Where both delimiters are single elements, nothing is ever skipped and the
    depth is what is open.  So the search stops before the closing delimiter that
    leaves a balanced text behind it (`closingIndex_eq_some`), it stops wherever
    more is closed than opened (`isSome_closingIndex`), and what opens within a
    balanced text closes within it (`Balanced.isSome_closingIndex`). -/

namespace FaultPages

variable {α : Type} [BEq α] {o c : α} {depth n : Nat} {xs ys : List α}

-- ── Balance ──────────────────────────────────────────────────────────────────────

/-- What closes an opening level and all that it opens, `depth` levels deep: no
    initial part closes more than is open, and the whole closes all. -/
structure Balanced (o c : α) (depth : Nat) (xs : List α) : Prop where
  initial : ∀ ys, ys <+: xs → ys.count c ≤ depth + ys.count o
  whole : xs.count c = depth + xs.count o

theorem balanced_nil : Balanced o c depth [] ↔ depth = 0 := by
  constructor
  · intro h
    have := h.whole
    simp only [List.count_nil] at this
    omega
  · rintro rfl
    refine ⟨fun ys hys => ?_, rfl⟩
    rw [List.prefix_nil.mp hys]
    exact Nat.le_refl _

/-- What holds no delimiter is balanced. -/
theorem balanced_of_not_mem [LawfulBEq α] (ho : o ∉ xs) (hc : c ∉ xs) : Balanced o c 0 xs where
  initial ys hys := by
    rw [List.count_eq_zero.mpr fun hmem => hc (hys.subset hmem)]
    exact Nat.zero_le _
  whole := by rw [List.count_eq_zero.mpr hc, List.count_eq_zero.mpr ho]

/-- A level of balance with another element in front.  `up` and `down` tell what
    the element adds to either count. -/
private theorem balanced_cons {x : α} {depth' : Nat} (up down : Nat)
    (hup : ∀ ys : List α, (x :: ys).count o = ys.count o + up)
    (hdown : ∀ ys : List α, (x :: ys).count c = ys.count c + down)
    (hdepth : depth + up = depth' + down) :
    Balanced o c depth (x :: xs) ↔ Balanced o c depth' xs := by
  constructor
  · intro h
    constructor
    · intro ys hys
      have := h.initial (x :: ys) (List.cons_prefix_cons.mpr ⟨rfl, hys⟩)
      rw [hup, hdown] at this
      omega
    · have := h.whole
      rw [hup, hdown] at this
      omega
  · intro h
    constructor
    · intro ys hys
      rcases List.prefix_cons_iff.mp hys with rfl | ⟨zs, rfl, hzs⟩
      · simp
      · have := h.initial zs hzs
        rw [hup, hdown]
        omega
    · have := h.whole
      rw [hup, hdown]
      omega

/-- A text stays balanced without pieces at its ends that hold no delimiter. -/
theorem Balanced.of_append {front behind : List α} (h : Balanced o c depth (front ++ (xs ++ behind)))
    (hfront : front.count o = 0 ∧ front.count c = 0)
    (hbehind : behind.count o = 0 ∧ behind.count c = 0) : Balanced o c depth xs := by
  constructor
  · intro ys hys
    have := h.initial (front ++ ys)
      ((List.prefix_append_right_inj front).mpr (hys.trans (List.prefix_append xs behind)))
    simp only [List.count_append] at this
    omega
  · have := h.whole
    simp only [List.count_append] at this
    omega

/-- Texts that close what is open add up. -/
theorem Balanced.append {more : Nat} (hxs : Balanced o c depth xs) (hys : Balanced o c more ys) :
    Balanced o c (depth + more) (xs ++ ys) := by
  constructor
  · intro zs hzs
    rcases List.prefix_or_prefix_of_prefix hzs (List.prefix_append xs ys) with
      hinside | ⟨behind, rfl⟩
    · have := hxs.initial zs hinside
      omega
    · have hbehind := hys.initial behind ((List.prefix_append_right_inj xs).mp hzs)
      have hwhole := hxs.whole
      simp only [List.count_append]
      omega
  · have hfirst := hxs.whole
    have hsecond := hys.whole
    simp only [List.count_append]
    omega

variable [LawfulBEq α]

theorem balanced_cons_closing (hne : o ≠ c) :
    Balanced o c (depth + 1) (c :: xs) ↔ Balanced o c depth xs :=
  balanced_cons 0 1 (fun _ => List.count_cons_of_ne hne.symm)
    (fun _ => List.count_cons_self) rfl

theorem balanced_cons_opener (hne : o ≠ c) :
    Balanced o c depth (o :: xs) ↔ Balanced o c (depth + 1) xs :=
  balanced_cons 1 0 (fun _ => List.count_cons_self)
    (fun _ => List.count_cons_of_ne hne) rfl

theorem balanced_cons_other {x : α} (ho : x ≠ o) (hc : x ≠ c) :
    Balanced o c depth (x :: xs) ↔ Balanced o c depth xs :=
  balanced_cons 0 0 (fun _ => List.count_cons_of_ne ho)
    (fun _ => List.count_cons_of_ne hc) rfl

-- ── The search ───────────────────────────────────────────────────────────────────

private theorem isPrefixOf_singleton {y x : α} : [y].isPrefixOf (x :: xs) = true ↔ x = y := by
  rw [List.isPrefixOf_cons_cons, List.isPrefixOf_nil_left, Bool.and_true, beq_iff_eq]
  exact eq_comm

theorem closingIndex_closing_zero : closingIndex [o] [c] 0 0 (c :: xs) = some 0 := by
  rw [closingIndex_zero, if_pos (isPrefixOf_singleton.mpr rfl)]

theorem closingIndex_closing_succ :
    closingIndex [o] [c] (depth + 1) 0 (c :: xs)
      = (closingIndex [o] [c] depth 0 xs).map (· + 1) := by
  rw [closingIndex_zero, if_pos (isPrefixOf_singleton.mpr rfl)]
  rfl

theorem closingIndex_opener (hne : o ≠ c) :
    closingIndex [o] [c] depth 0 (o :: xs)
      = (closingIndex [o] [c] (depth + 1) 0 xs).map (· + 1) := by
  rw [closingIndex_zero, if_neg (mt isPrefixOf_singleton.mp hne),
    if_pos (isPrefixOf_singleton.mpr rfl)]
  rfl

theorem closingIndex_other {x : α} (ho : x ≠ o) (hc : x ≠ c) :
    closingIndex [o] [c] depth 0 (x :: xs)
      = (closingIndex [o] [c] depth 0 xs).map (· + 1) := by
  rw [closingIndex_zero, if_neg (mt isPrefixOf_singleton.mp hc),
    if_neg (mt isPrefixOf_singleton.mp ho)]

/-- **The search finds the balanced text**, and nothing else. -/
theorem closingIndex_eq_some (hne : o ≠ c) :
    closingIndex [o] [c] depth 0 xs = some n ↔
      ∃ inner rest, xs = inner ++ c :: rest ∧ n = inner.length ∧ Balanced o c depth inner := by
  induction xs generalizing depth n with
  | nil => simp [closingIndex]
  | cons x xs ih =>
      -- an element that only changes the depth
      have hstep : ∀ {depth' : Nat},
          (∀ inner : List α, Balanced o c depth (x :: inner) ↔ Balanced o c depth' inner) →
          ¬ (x = c ∧ depth = 0) →
          ((closingIndex [o] [c] depth' 0 xs).map (· + 1) = some n ↔
            ∃ inner rest, x :: xs = inner ++ c :: rest ∧ n = inner.length ∧
              Balanced o c depth inner) := by
        intro depth' hbalanced hstop
        rw [Option.map_eq_some_iff]
        constructor
        · rintro ⟨k, hk, rfl⟩
          obtain ⟨inner, rest, rfl, rfl, hinner⟩ := ih.mp hk
          exact ⟨x :: inner, rest, rfl, rfl, (hbalanced inner).mpr hinner⟩
        · rintro ⟨inner, rest, hxs, rfl, hinner⟩
          cases inner with
          | nil => exact absurd ⟨(List.cons.inj hxs).1, balanced_nil.mp hinner⟩ hstop
          | cons y inner =>
              obtain ⟨rfl, rfl⟩ := List.cons.inj hxs
              exact ⟨inner.length, ih.mpr ⟨inner, rest, rfl, rfl, (hbalanced inner).mp hinner⟩, rfl⟩
      by_cases hc : x = c
      · subst hc
        cases depth with
        | zero =>
            rw [closingIndex_closing_zero]
            constructor
            · rintro ⟨rfl⟩
              exact ⟨[], xs, rfl, rfl, balanced_nil.mpr rfl⟩
            · rintro ⟨inner, rest, hxs, rfl, hinner⟩
              cases inner with
              | nil => rfl
              | cons y inner =>
                  obtain ⟨rfl, -⟩ := List.cons.inj hxs
                  have := hinner.initial [x] ⟨inner, rfl⟩
                  simp [hne.symm] at this
        | succ depth =>
            rw [closingIndex_closing_succ]
            exact hstep (fun inner => balanced_cons_closing hne)
              (fun h => absurd h.2 (Nat.succ_ne_zero depth))
      · by_cases ho : x = o
        · subst ho
          rw [closingIndex_opener hne]
          exact hstep (fun inner => balanced_cons_opener hne) (fun h => hc h.1)
        · rw [closingIndex_other ho hc]
          exact hstep (fun inner => balanced_cons_other ho hc) (fun h => hc h.1)

/-- The search stops wherever more is closed than opened. -/
theorem isSome_closingIndex (hne : o ≠ c) (h : depth + xs.count o < xs.count c) :
    (closingIndex [o] [c] depth 0 xs).isSome := by
  induction xs generalizing depth with
  | nil => exact absurd h (Nat.not_lt_zero _)
  | cons x xs ih =>
      by_cases hc : x = c
      · subst hc
        rw [List.count_cons_self, List.count_cons_of_ne hne.symm] at h
        cases depth with
        | zero => rw [closingIndex_closing_zero, Option.isSome_some]
        | succ depth =>
            rw [closingIndex_closing_succ, Option.isSome_map]
            exact ih (by omega)
      · rw [List.count_cons_of_ne hc] at h
        by_cases ho : x = o
        · subst ho
          rw [List.count_cons_self] at h
          rw [closingIndex_opener hne, Option.isSome_map]
          exact ih (by omega)
        · rw [List.count_cons_of_ne ho] at h
          rw [closingIndex_other ho hc, Option.isSome_map]
          exact ih h

/-- What is found stays found when more follows. -/
theorem closingIndex_append (hne : o ≠ c) (h : closingIndex [o] [c] depth 0 xs = some n) :
    closingIndex [o] [c] depth 0 (xs ++ ys) = some n := by
  obtain ⟨inner, rest, rfl, hn, hinner⟩ := (closingIndex_eq_some hne).mp h
  refine (closingIndex_eq_some hne).mpr ⟨inner, rest ++ ys, ?_, hn, hinner⟩
  rw [List.append_assoc, List.cons_append]

/-- Whatever opens within a balanced text closes within it. -/
theorem Balanced.isSome_closingIndex (hne : o ≠ c) (h : Balanced o c depth (xs ++ o :: ys)) :
    (closingIndex [o] [c] 0 0 ys).isSome := by
  have hinitial := h.initial xs ⟨o :: ys, rfl⟩
  have hwhole := h.whole
  simp only [List.count_append, List.count_cons_self, List.count_cons_of_ne hne] at hwhole
  exact FaultPages.isSome_closingIndex hne (by omega)

end FaultPages
