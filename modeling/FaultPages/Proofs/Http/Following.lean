import FaultPages.Http.Lookup
import FaultPages.Proofs.Http.Pattern
import Mathlib.Data.List.Pairwise

/-! # Following — a path is found under its own pattern

    A path is followed through all patterns at once.  Where these stand side by side
    (`Apart`), a path that is the text of one of them is found there
    (`follow_of_pieces`): no pattern has a colon or a star as a character, so at a wild
    piece of its own pattern a path leaves all literal ones behind.  Each step keeps the
    patterns apart (`Apart.after`), and that carries the induction on the path.

    In turn, a path that is found follows the pattern piece by piece (`follows_of_follow`),
    whatever the lookup went through before. -/

namespace FaultPages.Http

-- ── Patterns ─────────────────────────────────────────────────────────────────────

namespace Pattern

variable {p q : Pattern} {t : Text}

/-- A text that follows a pattern: a parameter takes a segment to its end, and the rest
    of the path takes what is left. -/
inductive Follows : Pattern → Text → Prop where
  | nil : Follows [] []
  | char (c : Char) {p : Pattern} {t : Text} (rest : Follows p t) : Follows (.char c :: p) (c :: t)
  | param {s : Text} {p : Pattern} {t : Text} (segment : '/' ∉ s)
      (stop : t = [] ∨ t.head? = some '/') (rest : Follows p t) : Follows (.param :: p) (s ++ t)
  | rest (t : Text) : Follows [.rest] t

/-- A parameter takes one character more. -/
theorem Follows.param_cons {c : Char} (hc : c ≠ '/') (h : Follows (.param :: p) t) :
    Follows (.param :: p) (c :: t) := by
  cases h with
  | @param s _ t segment stop rest =>
      exact .param (s := c :: s) (List.not_mem_cons_of_ne_of_not_mem (Ne.symm hc) segment) stop rest

/-- A parameter that is followed by a slash may be empty. -/
theorem Follows.param_slash (h : Follows p t) :
    Follows (.param :: .char '/' :: p) ('/' :: t) :=
  .param (s := []) List.not_mem_nil (.inr rfl) (.char '/' h)

/-- Clashing does not depend on the order. -/
theorem clashes_comm (p q : Pattern) : clashes p q = clashes q p := by
  induction p generalizing q with
  | nil =>
      cases q with
      | nil => rfl
      | cons b q => simp [clashes]
  | cons a p ih =>
      cases q with
      | nil => simp [clashes]
      | cons b q =>
          have hrest : clashes p q = clashes q p := ih q
          cases a <;> cases b <;> simp only [clashes, hrest] <;> rw [BEq.comm]

/-- Every pattern clashes with itself. -/
theorem clashes_self (p : Pattern) : clashes p p = true := by
  induction p with
  | nil => rfl
  | cons a p ih =>
      have hcons : clashes (a :: p) (a :: p) = (a == a && clashes p p) := by cases a <;> rfl
      rw [hcons, ih, beq_self_eq_true, Bool.and_true]

/-- What is read as pieces has no wild character among them. -/
theorem not_isWild_of_pieces? {inName : Option Bool} (h : pieces? inName t = some p) :
    ∀ c, .char c ∈ p → isWild c = false := by
  induction t generalizing inName p with
  | nil =>
      intro c hc
      rw [pieces?] at h
      split at h
      · cases h
      · cases h
        cases hc
  | cons d t ih =>
      intro c hc
      cases inName with
      | some named =>
          rw [pieces?] at h
          split at h
          · cases h
          · split at h
            · split at h
              · obtain ⟨q, hq, rfl⟩ := Option.map_eq_some_iff.mp h
                rcases List.mem_cons.mp hc with hd | hc
                · rename_i hwild _ _
                  rw [Piece.char.inj hd]
                  exact Bool.eq_false_iff.mpr hwild
                · exact ih hq c hc
              · cases h
            · exact ih h c hc
      | none =>
          rw [pieces?] at h
          split at h
          · obtain ⟨q, hq, rfl⟩ := Option.map_eq_some_iff.mp h
            rcases List.mem_cons.mp hc with hd | hc
            · cases hd
            · exact ih hq c hc
          · split at h
            · split at h
              · cases h
              · cases h
                rcases List.mem_singleton.mp hc with ⟨⟩
            · obtain ⟨q, hq, rfl⟩ := Option.map_eq_some_iff.mp h
              rcases List.mem_cons.mp hc with hd | hc
              · rename_i hcolon hstar
                rw [Piece.char.inj hd, isWild, beq_false_of_ne hcolon, beq_false_of_ne hstar]
                rfl
              · exact ih hq c hc

/-- Without a star, no piece takes the rest of the path. -/
theorem rest_not_mem_of_pieces? {inName : Option Bool} (hstar : '*' ∉ t)
    (h : pieces? inName t = some p) : .rest ∉ p := by
  induction t generalizing inName p with
  | nil =>
      rw [pieces?] at h
      split at h
      · cases h
      · cases h
        exact List.not_mem_nil
  | cons c t ih =>
      rw [List.mem_cons, not_or] at hstar
      have hcons : ∀ {inName : Option Bool} {piece : Piece}, piece ≠ .rest →
          (pieces? inName t).map (piece :: ·) = some p → .rest ∉ p := by
        intro inName piece hpiece hmap
        obtain ⟨q, hq, rfl⟩ := Option.map_eq_some_iff.mp hmap
        exact List.not_mem_cons_of_ne_of_not_mem (Ne.symm hpiece) (ih hstar.2 hq)
      cases inName with
      | some named =>
          rw [pieces?] at h
          split at h
          · cases h
          · split at h
            · split at h
              · exact hcons Piece.noConfusion h
              · cases h
            · exact ih hstar.2 h
      | none =>
          rw [pieces?, if_neg (Ne.symm hstar.1)] at h
          split at h
          · exact hcons Piece.noConfusion h
          · exact hcons Piece.noConfusion h

/-- Without the rest of the path, a text has as many slashes as the pattern. -/
theorem Follows.count_eq (h : Follows p t) (hrest : .rest ∉ p) :
    t.count '/' = p.count (.char '/') := by
  induction h with
  | nil => rfl
  | char c rest ih =>
      rw [List.mem_cons, not_or] at hrest
      rw [List.count_cons, List.count_cons, ih hrest.2]
      simp
  | param segment stop rest ih =>
      rw [List.mem_cons, not_or] at hrest
      rw [List.count_append, List.count_eq_zero.mpr segment, ih hrest.2, Nat.zero_add,
        List.count_cons_of_ne (by decide)]
  | rest t => exact absurd List.mem_cons_self hrest

/-- A text ends as a pattern that ends with a character. -/
theorem Follows.getLast?_eq {c : Char} (h : Follows p t) (hlast : p.getLast? = some (.char c)) :
    t.getLast? = some c := by
  induction h with
  | nil => cases hlast
  | @char d p t rest ih =>
      cases p with
      | nil =>
          cases rest
          cases hlast
          rfl
      | cons a p =>
          rw [List.getLast?_cons_cons] at hlast
          have ht := ih hlast
          cases t with
          | nil => cases ht
          | cons e t =>
              rw [List.getLast?_cons_cons]
              exact ht
  | @param s p t segment stop rest ih =>
      cases p with
      | nil => cases hlast
      | cons a p =>
          rw [List.getLast?_cons_cons] at hlast
          have ht := ih hlast
          rw [List.getLast?_append, ht]
          rfl
  | rest t => cases hlast

/-- What follows a pattern of characters and then another one begins with the characters. -/
theorem Follows.of_literal_append {s : Text} (h : Follows (s.map .char ++ p) t) :
    ∃ rest, t = s ++ rest ∧ Follows p rest := by
  induction s generalizing t with
  | nil => exact ⟨t, rfl, h⟩
  | cons c s ih =>
      cases h with
      | char c hrest =>
          obtain ⟨rest, rfl, hp⟩ := ih hrest
          exact ⟨rest, rfl, hp⟩

/-- Only one text follows a pattern of characters. -/
theorem Follows.eq_of_literal {s : Text} (h : Follows (s.map .char) t) : t = s := by
  rw [← List.append_nil (s.map Piece.char)] at h
  obtain ⟨rest, rfl, hnil⟩ := h.of_literal_append
  cases hnil
  exact List.append_nil s

end Pattern

-- ── Patterns side by side ────────────────────────────────────────────────────────

namespace Patterns

open Pattern

variable {α : Type} {patterns : Patterns α} {p : Pattern} {v : α} {piece : Piece}

/-- Patterns that can stand side by side, without a wild character as a piece. -/
structure Apart (patterns : Patterns α) : Prop where
  pairwise : (patterns.map Prod.fst).Pairwise fun p q => clashes p q = false
  plain : ∀ entry ∈ patterns, ∀ c, .char c ∈ entry.1 → isWild c = false

theorem mem_after_of_mem (h : (piece :: p, v) ∈ patterns) : (p, v) ∈ patterns.after piece := by
  induction patterns with
  | nil => cases h
  | cons entry patterns ih =>
      obtain ⟨q, w⟩ := entry
      rcases List.mem_cons.mp h with heq | hmem
      · cases heq
        rw [after, if_pos rfl]
        exact List.mem_cons_self
      · cases q with
        | nil => exact ih hmem
        | cons a q =>
            rw [after]
            split
            · exact List.mem_cons_of_mem _ (ih hmem)
            · exact ih hmem

/-- Patterns stay apart behind a piece. -/
theorem Apart.after (h : patterns.Apart) (piece : Piece) : (patterns.after piece).Apart := by
  refine ⟨?_, ?_⟩
  · have hpairwise := h.pairwise
    clear h
    induction patterns with
    | nil => exact .nil
    | cons entry patterns ih =>
        obtain ⟨q, w⟩ := entry
        obtain ⟨hfirst, hrest⟩ := List.pairwise_cons.mp hpairwise
        cases q with
        | nil => exact ih hrest
        | cons a q =>
            rw [Patterns.after]
            split
            · rename_i ha
              refine List.pairwise_cons.mpr ⟨?_, ih hrest⟩
              intro r hr
              obtain ⟨⟨_, u⟩, hu, rfl⟩ := List.mem_map.mp hr
              have hclash := hfirst _ (List.mem_map_of_mem (mem_of_mem_after hu))
              rw [ha] at hclash
              have hbehind : ∀ r, clashes ([piece] ++ q) ([piece] ++ r) = clashes q r :=
                fun r => clashes_append
              exact (hbehind _).symm.trans hclash
            · exact ih hrest
  · intro entry hentry c hc
    exact h.plain _ (mem_of_mem_after hentry) c (List.mem_cons_of_mem _ hc)

/-- Of patterns that clash, only one is there. -/
theorem Apart.eq_of_clashes (h : patterns.Apart) {q : Pattern} {w : α} (hp : (p, v) ∈ patterns)
    (hq : (q, w) ∈ patterns) (hclash : clashes p q = true) : (p, v) = (q, w) := by
  by_contra hne
  have hsymm : Std.Symm fun a b : Pattern × α => clashes a.1 b.1 = false :=
    ⟨fun a b hab => (clashes_comm b.1 a.1).trans hab⟩
  rw [(List.pairwise_map.mp h.pairwise).forall hp hq hne] at hclash
  cases hclash

/-- What ends here is found. -/
theorem Apart.here? (h : patterns.Apart) (hmem : ([], v) ∈ patterns) :
    patterns.here? = some v := by
  cases hhere : patterns.here? with
  | some w =>
      obtain rfl : w = v := congrArg Prod.snd (h.eq_of_clashes (mem_of_here? hhere) hmem rfl)
      rfl
  | none =>
      exfalso
      clear h
      induction patterns with
      | nil => cases hmem
      | cons entry patterns ih =>
          obtain ⟨q, w⟩ := entry
          cases q with
          | nil => cases hhere
          | cons a q =>
              rcases List.mem_cons.mp hmem with heq | hmem
              · cases heq
              · exact ih hmem hhere

/-- No pattern goes on with a wild character. -/
theorem Apart.after_wild (h : patterns.Apart) {c : Char} (hc : isWild c = true) :
    patterns.after (.char c) = [] := by
  rw [List.eq_nil_iff_forall_not_mem]
  intro entry hentry
  have hplain := h.plain _ (mem_of_mem_after hentry) c List.mem_cons_self
  rw [hc] at hplain
  cases hplain

/-- Where one pattern goes on with a wild piece, patterns part. -/
theorem isFork_of_mem (hmem : (p, v) ∈ patterns) (hlead : leadByte? p = none) :
    patterns.isFork = true := by
  cases patterns with
  | nil => cases hmem
  | cons first patterns =>
      rw [isFork, Bool.or_eq_true]
      cases hfirst : leadByte? first.1 with
      | none => exact .inl rfl
      | some byte =>
          refine .inr (List.any_eq_true.mpr ⟨(p, v), ?_, ?_⟩)
          · rcases List.mem_cons.mp hmem with heq | hmem
            · rw [← heq, hlead] at hfirst
              cases hfirst
            · exact hmem
          · show (leadByte? p != some byte) = true
            rw [hlead]
            rfl

/-- **What is found is followed.**  Within a parameter, the path goes on with what is left
    of the segment. -/
theorem follows_of_follow {t : Text} {passed : Passed}
    (h : patterns.follow passed t = .found v) :
    ∃ p, (p, v) ∈ patterns ∧ Follows (if passed = .param then .param :: p else p) t := by
  induction t generalizing passed patterns with
  | nil =>
      simp only [follow] at h
      split at h
      · rename_i w hhere
        cases h
        refine ⟨[], mem_of_here? hhere, ?_⟩
        split
        · exact .param (s := []) List.not_mem_nil (.inl rfl) .nil
        · exact .nil
      · split at h <;> cases h
  | cons c t ih =>
      have hliteral : ∀ {passing : Passed}, passing ≠ .param →
          (patterns.after (.char c)).follow passing t = .found v →
          ∃ p, (.char c :: p, v) ∈ patterns ∧ Follows p t := by
        intro passing hpassing hfound
        obtain ⟨p, hp, hfollows⟩ := ih hfound
        rw [if_neg hpassing] at hfollows
        exact ⟨p, mem_of_mem_after hp, hfollows⟩
      simp only [follow] at h
      split at h
      · -- within a parameter
        rename_i hpassed
        simp only [if_pos hpassed]
        split at h
        · rename_i hslash
          obtain ⟨p, hp, hfollows⟩ := hliteral (by decide) h
          rw [hslash] at hp ⊢
          exact ⟨_, hp, hfollows.param_slash⟩
        · rename_i hslash
          obtain ⟨p, hp, hfollows⟩ := ih h
          rw [if_pos rfl] at hfollows
          exact ⟨p, hp, hfollows.param_cons hslash⟩
      · rename_i hpassed
        simp only [if_neg hpassed]
        split at h
        · -- where patterns part
          split at h
          · rename_i habsent
            split at h
            · split at h
              · rename_i w hw
                cases h
                exact ⟨_, mem_of_mem_after (mem_of_here? hw), .rest _⟩
              · split at h <;> cases h
            · split at h
              · rename_i hslash
                obtain ⟨p, hp, hfollows⟩ := ih h
                rw [if_neg (by decide)] at hfollows
                rw [hslash]
                exact ⟨_, mem_of_mem_after (mem_of_mem_after hp), hfollows.param_slash⟩
              · rename_i hslash
                obtain ⟨p, hp, hfollows⟩ := ih h
                rw [if_pos rfl] at hfollows
                exact ⟨_, mem_of_mem_after hp, hfollows.param_cons hslash⟩
          · split at h
            · cases h
            · obtain ⟨p, hp, hfollows⟩ := hliteral (by split <;> decide) h
              exact ⟨_, hp, .char c hfollows⟩
        · obtain ⟨p, hp, hfollows⟩ := hliteral (by decide) h
          exact ⟨_, hp, .char c hfollows⟩

/-- What is found behind a character is found before it, wherever patterns part. -/
theorem follow_cons {t : Text} {c : Char} {passed : Passed} (hpassed : passed ≠ .param)
    (h : ∀ passing : Passed, passing ≠ .param →
      (patterns.after (.char c)).follow passing t = .found v) :
    patterns.follow passed (c :: t) = .found v := by
  have hsome : (patterns.after (.char c)).isEmpty = false := by
    obtain ⟨p, hp, -⟩ := follows_of_follow (h .literal (by decide))
    exact List.isEmpty_eq_false_iff_exists_mem.mpr ⟨_, hp⟩
  have hpassing : (if c = '/' then Passed.slash else .literal) ≠ .param := by
    split <;> decide
  rw [follow, if_neg hpassed]
  split
  · simp only [hsome, h _ hpassing]
    rfl
  · exact h .literal (by decide)

/-- **A path is found under its own pattern.** -/
theorem follow_of_pieces {t : Text} {inName : Option Bool} {passed : Passed}
    (hpassed : passed = .param ↔ inName.isSome = true) (h : patterns.Apart)
    (hpieces : pieces? inName t = some p) (hmem : (p, v) ∈ patterns) :
    patterns.follow passed t = .found v := by
  induction t generalizing inName passed patterns p with
  | nil =>
      rw [pieces?] at hpieces
      split at hpieces
      · cases hpieces
      · cases hpieces
        rw [follow, h.here? hmem]
  | cons c t ih =>
      cases inName with
      | some named =>
          -- within a parameter, whose name the path takes
          rw [follow, if_pos (hpassed.mpr rfl)]
          rw [pieces?] at hpieces
          split at hpieces
          · cases hpieces
          · split at hpieces
            · rename_i hslash
              rw [if_pos hslash]
              split at hpieces
              · obtain ⟨q, hq, rfl⟩ := Option.map_eq_some_iff.mp hpieces
                have hslashed : Passed.slash = .param ↔ (none : Option Bool).isSome = true := by
                  simp
                exact ih hslashed (h.after _) hq (mem_after_of_mem hmem)
              · cases hpieces
            · rename_i hslash
              rw [if_neg hslash]
              exact ih (by simp) h hpieces hmem
      | none =>
          have hne : passed ≠ .param := by
            intro heq
            cases hpassed.mp heq
          rw [pieces?] at hpieces
          split at hpieces
          · -- a parameter: no literal pattern goes on with a colon
            rename_i hcolon
            obtain ⟨q, hq, rfl⟩ := Option.map_eq_some_iff.mp hpieces
            have hparams : (q, v) ∈ patterns.after .param := mem_after_of_mem hmem
            have hsome : (patterns.after .param).isEmpty = false :=
              List.isEmpty_eq_false_iff_exists_mem.mpr ⟨_, hparams⟩
            rw [follow, if_neg hne, if_pos (isFork_of_mem hmem rfl)]
            subst hcolon
            simp only [h.after_wild (show isWild ':' = true from rfl), hsome, List.isEmpty_nil]
            exact ih (by simp) (h.after _) hq hparams
          · split at hpieces
            · -- the rest of the path: no other pattern has a parameter here
              rename_i hstar
              subst hstar
              split at hpieces
              · cases hpieces
              · cases hpieces
                have hrest : ([], v) ∈ patterns.after .rest := mem_after_of_mem hmem
                have hnone : (patterns.after .param).isEmpty = true := by
                  by_contra hsome
                  obtain ⟨⟨q, w⟩, hq⟩ :=
                    List.isEmpty_eq_false_iff_exists_mem.mp (Bool.eq_false_iff.mpr hsome)
                  cases h.eq_of_clashes hmem (mem_of_mem_after hq) rfl
                rw [follow, if_neg hne, if_pos (isFork_of_mem hmem rfl)]
                simp only [h.after_wild (show isWild '*' = true from rfl), hnone, List.isEmpty_nil,
                  (h.after _).here? hrest]
                rfl
            · -- a character, with which the literal patterns go on
              obtain ⟨q, hq, rfl⟩ := Option.map_eq_some_iff.mp hpieces
              refine follow_cons hne fun passing hpassing => ?_
              have hnone : passing = .param ↔ (none : Option Bool).isSome = true := by
                simpa using hpassing
              exact ih hnone (h.after _) hq (mem_after_of_mem hmem)

/-- A path follows its own pattern. -/
theorem follows_of_pieces? {t : Text} (h : pieces? none t = some p) : Follows p t := by
  have hapart : Apart [(p, ())] := by
    refine ⟨List.pairwise_singleton _ _, ?_⟩
    intro entry hentry
    rw [List.mem_singleton.mp hentry]
    exact not_isWild_of_pieces? h
  have hfound : follow .literal [(p, ())] t = .found () :=
    follow_of_pieces (by decide) hapart h List.mem_cons_self
  obtain ⟨q, hq, hfollows⟩ := follows_of_follow hfound
  cases List.mem_singleton.mp hq
  exact hfollows

end Patterns

end FaultPages.Http
