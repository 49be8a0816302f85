import FaultPages.Text.Escape
import Mathlib.Data.List.TakeWhile

/-! # Entities — what an escaped text is made of

    Escaping writes each character by `entity`, from the first special one on and
    before it alike (`text_escapeHtml`).  So an escaped text has no angle bracket
    and no quote, and each of its ampersands begins an entity.  One pass from the
    left reads each entity where it was written (`unescape_entity_append`), so
    nothing is lost by escaping. -/

namespace FaultPages.Text

/-- The entities that stand for special characters. -/
def entities : List Text :=
  ["&amp;".toList, "&lt;".toList, "&gt;".toList, "&quot;".toList, "&#39;".toList]

/-- Whether a character can open or close a tag or a quoted attribute. -/
def delimitsMarkup (c : Char) : Bool := c == '<' || c == '>' || c == '"' || c == '\''

/-- The special characters are five. -/
theorem isMarkup_iff_mem {c : Char} : isMarkup c = true ↔ c ∈ "&<>\"'".toList := by
  simp [isMarkup, or_assoc]

/-- A character that is not special is written as it is. -/
theorem entity_of_not_isMarkup {c : Char} (h : isMarkup c = false) : entity c = [c] := by
  simp only [isMarkup, Bool.or_eq_false_iff, beq_eq_false_iff_ne] at h
  obtain ⟨⟨⟨⟨hamp, hlt⟩, hgt⟩, hquot⟩, hapos⟩ := h
  rw [entity, if_neg hamp, if_neg hlt, if_neg hgt, if_neg hquot, if_neg hapos]

/-- A special character is written as an entity, which has one ampersand and
    begins with it. -/
theorem entity_of_isMarkup {c : Char} (h : isMarkup c = true) :
    entity c ∈ entities ∧ ∃ name, entity c = '&' :: name ∧ '&' ∉ name ∧
      name.filter delimitsMarkup = [] := by
  simp only [isMarkup, Bool.or_eq_true, beq_iff_eq] at h
  rcases h with (((rfl | rfl) | rfl) | rfl) | rfl
  all_goals exact ⟨by decide, _, rfl, by decide, by decide⟩

/-- A text without special characters is written as it is. -/
theorem flatMap_entity_of_plain {t : Text} (h : ∀ c ∈ t, isMarkup c = false) :
    t.flatMap entity = t := by
  induction t with
  | nil => rfl
  | cons c rest ih =>
      rw [List.flatMap_cons, entity_of_not_isMarkup (h c (by simp)),
        ih (fun x hx => h x (List.mem_cons_of_mem _ hx))]
      rfl

/-- Escaping writes every character by `entity`. -/
theorem text_escapeHtml (t : Text) : (escapeHtml t).text = t.flatMap entity := by
  have hparts : t.takeWhile (fun c => !isMarkup c) ++ t.dropWhile (fun c => !isMarkup c) = t :=
    List.takeWhile_append_dropWhile
  have hhead : (t.takeWhile fun c => !isMarkup c).flatMap entity
      = t.takeWhile fun c => !isMarkup c :=
    flatMap_entity_of_plain fun c hc => by
      simpa using List.all_eq_true.mp List.all_takeWhile c hc
  have hall : t.flatMap entity = t.takeWhile (fun c => !isMarkup c)
      ++ (t.dropWhile fun c => !isMarkup c).flatMap entity := by
    calc t.flatMap entity
        = (t.takeWhile (fun c => !isMarkup c)
            ++ t.dropWhile (fun c => !isMarkup c)).flatMap entity := by rw [hparts]
      _ = _ := by rw [List.flatMap_append, hhead]
  rw [escapeHtml, hall]
  split
  · rename_i hdrop
    rw [hdrop, List.append_nil] at hparts
    rw [hdrop, hparts]
    exact (List.append_nil t).symm
  · rfl

/-- An escaped text has no character that delimits markup. -/
theorem filter_text_escapeHtml (t : Text) :
    (escapeHtml t).text.filter delimitsMarkup = [] := by
  rw [text_escapeHtml]
  induction t with
  | nil => rfl
  | cons c rest ih =>
      rw [List.flatMap_cons, List.filter_append, ih, List.append_nil]
      cases hc : isMarkup c with
      | true =>
          obtain ⟨-, name, he, -, hname⟩ := entity_of_isMarkup hc
          rw [he, List.filter_cons_of_neg (by decide), hname]
      | false =>
          rw [entity_of_not_isMarkup hc]
          simp_all [isMarkup, delimitsMarkup]

/-- Each ampersand of an escaped text begins an entity. -/
theorem entity_of_ampersand {t before after : Text}
    (h : (escapeHtml t).text = before ++ '&' :: after) :
    ∃ e ∈ entities, e <+: '&' :: after := by
  rw [text_escapeHtml] at h
  induction t generalizing before with
  | nil => simp at h
  | cons c rest ih =>
      rw [List.flatMap_cons] at h
      rcases List.append_eq_append_iff.mp h with ⟨more, hbefore, hrest⟩ | ⟨inside, hc, hamp⟩
      · exact ih hrest
      · cases inside with
        | nil => exact ih (show _ = [] ++ '&' :: after from hamp.symm)
        | cons x name =>
            obtain ⟨rfl, -⟩ := List.cons.inj hamp
            cases hmark : isMarkup c with
            | true =>
                obtain ⟨hmem, tail, he, htail, -⟩ := entity_of_isMarkup hmark
                -- the only ampersand of an entity is its first character
                cases before with
                | nil => exact ⟨entity c, hmem, by rw [hc, hamp]; exact List.prefix_append _ _⟩
                | cons y before =>
                    obtain ⟨-, rfl⟩ := List.cons.inj (he.symm.trans hc)
                    exact absurd (by simp) htail
            | false =>
                rw [entity_of_not_isMarkup hmark] at hc
                obtain rfl : '&' = c := by
                  have hmem : '&' ∈ [c] := hc ▸ (by simp)
                  simpa using hmem
                exact absurd hmark (by decide)

-- ── Reading entities ─────────────────────────────────────────────────────────────

/-- A written character is read as itself, whatever follows it. -/
theorem unescape_entity_append (c : Char) (rest : Text) :
    unescape (entity c ++ rest) = c :: unescape rest := by
  cases hc : isMarkup c with
  | true =>
      simp only [isMarkup, Bool.or_eq_true, beq_iff_eq] at hc
      rcases hc with (((rfl | rfl) | rfl) | rfl) | rfl
      all_goals rfl
  | false =>
      -- an ampersand is special, and nothing else begins an entity
      have hamp : c ≠ '&' := by
        rintro rfl
        cases hc
      rw [entity_of_not_isMarkup hc, List.singleton_append, unescape]
      all_goals
        intro more h
        exact absurd h hamp

/-- **Escaping is undone by one pass**, be there entities in the text or not. -/
theorem unescape_escapeHtml (t : Text) : unescape (escapeHtml t).text = t := by
  rw [text_escapeHtml]
  induction t with
  | nil => rfl
  | cons c t ih => rw [List.flatMap_cons, unescape_entity_append, ih]

-- ── Texts that are left as they are ──────────────────────────────────────────────

theorem length_entity_pos (c : Char) : 0 < (entity c).length := by
  cases hc : isMarkup c with
  | true =>
      obtain ⟨-, name, he, -⟩ := entity_of_isMarkup hc
      rw [he]
      exact Nat.succ_pos _
  | false =>
      rw [entity_of_not_isMarkup hc]
      exact Nat.one_pos

/-- An entity is longer than the character that it stands for. -/
theorem one_lt_length_entity {c : Char} (h : isMarkup c = true) : 1 < (entity c).length := by
  have hall : ∀ e ∈ entities, 1 < e.length := by decide
  exact hall _ (entity_of_isMarkup h).1

theorem length_le_flatMap_entity (t : Text) : t.length ≤ (t.flatMap entity).length := by
  induction t with
  | nil => exact Nat.le_refl 0
  | cons c t ih =>
      have hpos := length_entity_pos c
      rw [List.flatMap_cons, List.length_append, List.length_cons]
      omega

/-- Escaping leaves a text as it is exactly if the text has no special characters. -/
theorem text_escapeHtml_eq_self_iff {t : Text} :
    (escapeHtml t).text = t ↔ ∀ c ∈ t, isMarkup c = false := by
  rw [text_escapeHtml]
  refine ⟨fun h => ?_, flatMap_entity_of_plain⟩
  induction t with
  | nil => exact fun c hc => absurd hc List.not_mem_nil
  | cons c t ih =>
      rw [List.flatMap_cons] at h
      cases hc : isMarkup c with
      | true =>
          have hlen := congrArg List.length h
          have hentity := one_lt_length_entity hc
          have hrest := length_le_flatMap_entity t
          rw [List.length_append, List.length_cons] at hlen
          omega
      | false =>
          rw [entity_of_not_isMarkup hc] at h
          exact List.forall_mem_cons.mpr ⟨hc, ih (List.cons.inj h).2⟩

/-- A text is handed back untouched if it has no special characters, and only then. -/
theorem isUntouched_escapeHtml_iff {t : Text} :
    (escapeHtml t).isUntouched = true ↔ ∀ c ∈ t, isMarkup c = false := by
  have hdrop : t.dropWhile (fun c => !isMarkup c) = [] ↔ ∀ c ∈ t, isMarkup c = false := by
    rw [List.dropWhile_eq_nil_iff]
    simp only [Bool.not_eq_true']
  rw [← hdrop, escapeHtml]
  split
  · rename_i hnil
    exact iff_of_true rfl hnil
  · rename_i hne
    exact iff_of_false Bool.false_ne_true hne

end FaultPages.Text
