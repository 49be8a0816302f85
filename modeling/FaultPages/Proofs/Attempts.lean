import Mathlib.Data.List.Forall2

/-! # Attempts — loops in which a step can fail

    A loop over a list succeeds if each step does (`mapM_eq_ok_iff`), and fails as
    the first step does that fails (`mapM_eq_error_iff`).  Which one that is does
    not depend on the repetitions in the list, so a loop that skips these fails in
    the same way (`mapM_eraseDups_eq_error_iff`). -/

namespace FaultPages

variable {α β ε : Type}

/-- Two attempts after each other succeed if both do. -/
theorem bind_eq_ok_iff {x : Except ε α} {f : α → Except ε β} {b : β} :
    (x >>= f) = .ok b ↔ ∃ a, x = .ok a ∧ f a = .ok b := by
  cases x with
  | error e =>
      constructor
      · intro h
        cases h
      · rintro ⟨a, h, -⟩
        cases h
  | ok a =>
      constructor
      · intro h
        exact ⟨a, rfl, h⟩
      · rintro ⟨a', h, hb⟩
        cases h
        exact hb

/-- A loop over a list succeeds if each step does. -/
theorem mapM_eq_ok_iff {f : α → Except ε β} {xs : List α} {ys : List β} :
    xs.mapM f = .ok ys ↔ List.Forall₂ (fun x y => f x = .ok y) xs ys := by
  induction xs generalizing ys with
  | nil =>
      constructor
      · intro h
        cases h
        exact .nil
      · intro h
        cases h
        rfl
  | cons x xs ih =>
      rw [List.mapM_cons]
      constructor
      · intro h
        cases hx : f x with
        | error e =>
            rw [hx] at h
            cases h
        | ok y =>
            cases hxs : xs.mapM f with
            | error e =>
                rw [hx, hxs] at h
                cases h
            | ok ys' =>
                rw [hx, hxs] at h
                cases h
                exact .cons hx (ih.mp hxs)
      · intro h
        cases h with
        | cons hx hxs =>
            rw [hx, ih.mpr hxs]
            rfl

/-- Each step of a loop that succeeds gives one of its results. -/
theorem exists_of_mapM_eq_ok {f : α → Except ε β} {xs : List α} {ys : List β}
    (h : xs.mapM f = .ok ys) : ∀ x ∈ xs, ∃ y ∈ ys, f x = .ok y := by
  have hsteps := mapM_eq_ok_iff.mp h
  clear h
  induction hsteps with
  | nil =>
      intro x hx
      cases hx
  | @cons x y xs ys hy hrest ih =>
      intro z hz
      rcases List.mem_cons.mp hz with rfl | hz
      · exact ⟨y, List.mem_cons_self, hy⟩
      · obtain ⟨w, hw, hf⟩ := ih z hz
        exact ⟨w, List.mem_cons_of_mem _ hw, hf⟩

/-- A loop fails in its first step that does not succeed. -/
theorem mapM_eq_error_iff_find? {f : α → Except ε β} {xs : List α} {e : ε} :
    xs.mapM f = .error e ↔ ∃ x, xs.find? (fun x => !(f x).isOk) = some x ∧ f x = .error e := by
  induction xs with
  | nil =>
      constructor
      · intro h
        cases h
      · rintro ⟨x, hx, -⟩
        cases hx
  | cons x xs ih =>
      rw [List.mapM_cons]
      cases hx : f x with
      | error e' =>
          rw [List.find?_cons_of_pos (by rw [hx]; rfl)]
          constructor
          · intro h
            cases h
            exact ⟨x, rfl, hx⟩
          · rintro ⟨y, hy, hf⟩
            obtain rfl : x = y := Option.some.inj hy
            cases hx.symm.trans hf
            rfl
      | ok y =>
          rw [List.find?_cons_of_neg (by rw [hx]; exact Bool.false_ne_true), ← ih]
          cases xs.mapM f with
          | error e' =>
              constructor
              · intro h
                cases h
                rfl
              · intro h
                cases h
                rfl
          | ok ys =>
              constructor
              · intro h
                cases h
              · intro h
                cases h

/-- A loop fails as the first step does that fails. -/
theorem mapM_eq_error_iff {f : α → Except ε β} {xs : List α} {e : ε} :
    xs.mapM f = .error e ↔ ∃ before x after, xs = before ++ x :: after ∧
      (∀ y ∈ before, ∃ b, f y = .ok b) ∧ f x = .error e := by
  rw [mapM_eq_error_iff_find?]
  constructor
  · rintro ⟨x, hfind, hx⟩
    obtain ⟨-, before, after, hxs, hbefore⟩ := List.find?_eq_some_iff_append.mp hfind
    refine ⟨before, x, after, hxs, fun y hy => ?_, hx⟩
    cases hok : f y with
    | error e' =>
        have := hbefore y hy
        rw [hok] at this
        cases this
    | ok b => exact ⟨b, rfl⟩
  · rintro ⟨before, x, after, hxs, hbefore, hx⟩
    refine ⟨x, List.find?_eq_some_iff_append.mpr ⟨by rw [hx]; rfl, before, after, hxs,
      fun y hy => ?_⟩, hx⟩
    obtain ⟨b, hb⟩ := hbefore y hy
    rw [hb]
    rfl

/-- Some step of a loop fails if the loop does. -/
theorem exists_mapM_eq_error_iff {f : α → Except ε β} {xs : List α} :
    (∃ e, xs.mapM f = .error e) ↔ ∃ x ∈ xs, ∃ e, f x = .error e := by
  constructor
  · rintro ⟨e, h⟩
    obtain ⟨before, x, after, rfl, -, hx⟩ := mapM_eq_error_iff.mp h
    exact ⟨x, by simp, e, hx⟩
  · rintro ⟨x, hmem, e, hx⟩
    cases h : xs.mapM f with
    | error e' => exact ⟨e', rfl⟩
    | ok ys =>
        obtain ⟨y, -, hy⟩ := exists_of_mapM_eq_ok h x hmem
        rw [hx] at hy
        cases hy

-- ── Repetitions ──────────────────────────────────────────────────────────────────

/-- Repetitions do not change what is found first. -/
theorem find?_eraseDups [BEq α] [LawfulBEq α] (p : α → Bool) (xs : List α) :
    xs.eraseDups.find? p = xs.find? p := by
  match xs with
  | [] => rfl
  | x :: xs =>
      rw [List.eraseDups_cons]
      cases hx : p x with
      | true => rw [List.find?_cons_of_pos hx, List.find?_cons_of_pos hx]
      | false =>
          have hneg : ¬ p x = true := by rw [hx]; exact Bool.false_ne_true
          rw [List.find?_cons_of_neg hneg, List.find?_cons_of_neg hneg, find?_eraseDups,
            List.find?_filter]
          -- what is left out equals `x`, which was not looked for
          refine congrArg (List.find? · xs) (funext fun y => ?_)
          by_cases hy : y = x
          · simp [hy, hx]
          · simp [hy]
termination_by xs.length
decreasing_by exact Nat.lt_succ_of_le (List.length_filter_le _ _)

/-- Without repetitions, nothing stands twice in a list. -/
theorem nodup_eraseDups [BEq α] [LawfulBEq α] (xs : List α) : xs.eraseDups.Nodup := by
  match xs with
  | [] => exact List.nodup_nil
  | x :: xs =>
      rw [List.eraseDups_cons, List.nodup_cons]
      refine ⟨fun hx => ?_, nodup_eraseDups _⟩
      have hfilter := (List.mem_filter.mp (List.mem_eraseDups.mp hx)).2
      simp at hfilter
termination_by xs.length
decreasing_by exact Nat.lt_succ_of_le (List.length_filter_le _ _)

/-- A loop that skips repetitions fails as the whole loop does. -/
theorem mapM_eraseDups_eq_error_iff [BEq α] [LawfulBEq α] {f : α → Except ε β} {xs : List α}
    {e : ε} : xs.eraseDups.mapM f = .error e ↔ xs.mapM f = .error e := by
  rw [mapM_eq_error_iff_find?, mapM_eq_error_iff_find?, find?_eraseDups]

end FaultPages
