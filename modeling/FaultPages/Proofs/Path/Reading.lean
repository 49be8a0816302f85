import FaultPages.Proofs.Path.Grammar
import FaultPages.Proofs.Text.Cutting

/-! # Reading — what each step of a reader takes off a text

    For each step there is the text that it takes, whatever stands behind it
    (`nested_append`, `member_name`, `bracketed_quoted`, `bracketed_index`,
    `closeBracket_append`), and the other way around what stood at a place where
    the step succeeded (`nested_eq_ok`, `member_eq_ok`, `bracketed_eq_ok`,
    `closeBracket_eq_ok`).  `read` is opened by one equation for each way it can
    go on. -/

namespace FaultPages.Parts

open Delimiters

variable {p after : Place} {part : Part} {inner rest : Text}

-- ── Places ───────────────────────────────────────────────────────────────────────

/-- Skipping what stands at a place leads to what stands behind it. -/
theorem Place.skip_append (offset : Nat) (t rest : Text) :
    Place.skip ⟨offset, t ++ rest⟩ t.length = ⟨offset + Text.byteLength t, rest⟩ := by
  rw [Place.skip, List.take_left, List.drop_left]

/-- Blanks are skipped up to something else. -/
theorem Place.skipBlanks_append {blanks : Text} (hblanks : ∀ c ∈ blanks, Text.isBlank c = true)
    (hrest : ∀ c ∈ rest.head?, Text.isBlank c = false) (offset : Nat) :
    Place.skipBlanks ⟨offset, blanks ++ rest⟩ = ⟨offset + Text.byteLength blanks, rest⟩ := by
  rw [Place.skipBlanks, Text.takeWhile_append hblanks hrest, Place.skip_append]

/-- What is skipped are blanks. -/
theorem Place.rest_eq_skipBlanks (p : Place) :
    ∃ blanks, (∀ c ∈ blanks, Text.isBlank c = true) ∧ p.rest = blanks ++ p.skipBlanks.rest := by
  obtain ⟨offset, all⟩ := p
  obtain ⟨blanks, rest, rfl, hblanks, hrest⟩ := Text.exists_takeWhile Text.isBlank all
  refine ⟨blanks, hblanks, ?_⟩
  rw [Place.skipBlanks_append hblanks hrest]

-- ── Nested placeholders ──────────────────────────────────────────────────────────

/-- A nested placeholder is taken up to its end. -/
theorem nested_append (h : Balanced '\x7b' '\x7d' 0 inner) (offset : Nat) (rest : Text) :
    nested standard ⟨offset, '$' :: '\x7b' :: (inner ++ ['\x7d']) ++ rest⟩
      = .ok (.nested offset inner,
        ⟨offset + Text.byteLength ('$' :: '\x7b' :: (inner ++ ['\x7d'])), rest⟩) := by
  have hclose : closingIndex standard.nestingOpener standard.closing 0 0
      (inner ++ '\x7d' :: rest) = some inner.length :=
    (closingIndex_eq_some (by decide)).mpr ⟨inner, rest, rfl, rfl, h⟩
  have hbody : ('$' :: '\x7b' :: (inner ++ ['\x7d']) ++ rest).drop standard.opening.length
      = inner ++ '\x7d' :: rest := by
    simp [standard]
  have hlen : standard.opening.length + inner.length + standard.closing.length
      = ('$' :: '\x7b' :: (inner ++ ['\x7d'])).length := by
    simp only [standard, List.length_cons, List.length_append, List.length_nil]
    omega
  rw [nested]
  simp only [hbody, hclose, List.take_left, hlen, Place.skip_append]

/-- What is taken as a nested placeholder is one. -/
theorem nested_eq_ok (h : nested standard p = .ok (part, after))
    (hopen : standard.opening.isPrefixOf p.rest = true) :
    ∃ inner, Balanced '\x7b' '\x7d' 0 inner ∧ part = .nested p.offset inner ∧
      p.rest = '$' :: '\x7b' :: (inner ++ ['\x7d']) ++ after.rest := by
  obtain ⟨offset, all⟩ := p
  obtain ⟨body, rfl⟩ := List.isPrefixOf_iff_prefix.mp hopen
  cases hclose : closingIndex standard.nestingOpener standard.closing 0 0 body with
  | none =>
      rw [nested] at h
      simp only [List.drop_left, hclose] at h
      cases h
  | some n =>
      obtain ⟨inner, rest, rfl, rfl, hinner⟩ := (closingIndex_eq_some (by decide)).mp hclose
      have hall : standard.opening ++ (inner ++ '\x7d' :: rest)
          = '$' :: '\x7b' :: (inner ++ ['\x7d']) ++ rest := by
        simp [standard]
      rw [hall, nested_append hinner] at h
      obtain ⟨rfl, rfl⟩ := Prod.mk.inj (Except.ok.inj h)
      exact ⟨inner, hinner, rfl, hall⟩

-- ── Names ────────────────────────────────────────────────────────────────────────

/-- What may stand behind a name: nothing, a dot or a bracket. -/
def EndsName (t : Text) : Prop := t = [] ∨ t.head? = some '.' ∨ t.head? = some '['

/-- A name is taken as a whole.  A dollar sign in it opens no placeholder, since no
    brace can follow. -/
theorem takeName_append {name : Text} (hname : ∀ c ∈ name, isNameChar c = true)
    (hrest : EndsName rest) : takeName standard (name ++ rest) = name := by
  induction name with
  | nil =>
      rcases hrest with rfl | hdot | hbracket
      · rfl
      · obtain ⟨rest, rfl⟩ := List.head?_eq_some_iff.mp hdot
        rfl
      · obtain ⟨rest, rfl⟩ := List.head?_eq_some_iff.mp hbracket
        rfl
  | cons c name ih =>
      have hbrace : (name ++ rest).head? ≠ some '\x7b' := by
        intro hx
        cases name with
        | nil =>
            rcases hrest with rfl | hdot | hbracket
            · cases hx
            · cases hdot.symm.trans hx
            · cases hbracket.symm.trans hx
        | cons y name =>
            obtain rfl := Option.some.inj hx
            exact absurd (hname '\x7b' (by simp)) (by decide)
      have hopen : standard.opening.isPrefixOf (c :: (name ++ rest)) = false := by
        rw [Bool.eq_false_iff]
        intro h
        obtain ⟨more, hmore⟩ := List.isPrefixOf_iff_prefix.mp h
        obtain ⟨-, htail⟩ := List.cons.inj hmore
        exact hbrace (by rw [← htail]; rfl)
      rw [List.cons_append, takeName, hname c (by simp), hopen,
        ih fun x hx => hname x (List.mem_cons_of_mem _ hx)]
      rfl

/-- What is taken as a name stands at the start of the text and is of the
    characters of names. -/
theorem takeName_spec (d : Delimiters) (t : Text) :
    takeName d t <+: t ∧ ∀ c ∈ takeName d t, isNameChar c = true := by
  induction t with
  | nil => exact ⟨List.nil_prefix, fun c hc => absurd hc List.not_mem_nil⟩
  | cons c t ih =>
      rw [takeName]
      split
      · rename_i hc
        refine ⟨List.cons_prefix_cons.mpr ⟨rfl, ih.1⟩, fun x hx => ?_⟩
        rcases List.mem_cons.mp hx with rfl | hx
        · exact (Bool.and_eq_true_iff.mp hc).1
        · exact ih.2 x hx
      · exact ⟨List.nil_prefix, fun c hc => absurd hc List.not_mem_nil⟩

/-- A name is taken up to its end. -/
theorem member_name {name : Text} (h : IsName name) (hrest : EndsName rest) (offset : Nat) :
    member standard ⟨offset, name ++ rest⟩
      = .ok (.property name, ⟨offset + Text.byteLength name, rest⟩) := by
  obtain ⟨c, more, rfl⟩ := List.exists_cons_of_ne_nil h.ne_nil
  have htake : takeName standard (c :: more ++ rest) = c :: more := takeName_append h.chars hrest
  have hopen : ¬ standard.opening.isPrefixOf (c :: more ++ rest) = true := by
    intro hopen
    rw [List.cons_append] at htake hopen
    rw [takeName, hopen, Bool.not_true, Bool.and_false] at htake
    cases htake
  have hbehind : ¬ standard.opening.isPrefixOf rest = true := by
    intro hopen
    obtain ⟨more, rfl⟩ := List.isPrefixOf_iff_prefix.mp hopen
    rcases hrest with h | h | h <;> cases h
  have hdigit : ¬ c.isDigit = true := by
    rw [h.first c rfl]
    exact Bool.false_ne_true
  rw [member, if_neg hopen]
  simp only [htake, Place.skip_append, if_neg hdigit, if_neg hbehind]

/-- What is taken as a member is a nested placeholder or a name. -/
theorem member_eq_ok (h : member standard p = .ok (part, after)) :
    (nested standard p = .ok (part, after) ∧ standard.opening.isPrefixOf p.rest = true) ∨
      ∃ name, IsName name ∧ part = .property name ∧ p.rest = name ++ after.rest := by
  rw [member] at h
  split at h
  · rename_i hopen
    exact .inl ⟨h, hopen⟩
  · right
    obtain ⟨⟨behind, hbehind⟩, hchars⟩ := takeName_spec standard p.rest
    obtain ⟨offset, all⟩ := p
    generalize takeName standard all = name at h hbehind hchars
    obtain rfl : name ++ behind = all := hbehind
    simp only [Place.skip_append] at h
    cases name with
    | nil =>
        simp only at h
        split at h <;> cases h
    | cons c more =>
        simp only at h
        split at h
        · cases h
        · rename_i hdigit
          split at h
          · cases h
          · obtain ⟨rfl, rfl⟩ := Prod.mk.inj (Except.ok.inj h)
            refine ⟨c :: more, ⟨List.cons_ne_nil c more, hchars, ?_⟩, rfl, rfl⟩
            rintro x ⟨⟩
            exact Bool.eq_false_iff.mpr hdigit

-- ── Keys ─────────────────────────────────────────────────────────────────────────

/-- No digit is blank. -/
theorem isBlank_of_isDigit {c : Char} (h : c.isDigit = true) : Text.isBlank c = false := by
  simp only [Char.isDigit, Bool.and_eq_true, decide_eq_true_eq] at h
  have hlow : 48 ≤ c.toNat := UInt32.le_iff_toNat_le.mp h.1
  have hhigh : c.toNat ≤ 57 := UInt32.le_iff_toNat_le.mp h.2
  simp only [Text.isBlank, Text.inRanges, Text.blankRanges, List.any_cons, List.any_nil,
    Bool.or_false, Bool.or_eq_false_iff, Bool.and_eq_false_iff, decide_eq_false_iff_not]
  omega

/-- A quoted name is taken up to the quote that ends it. -/
theorem bracketed_quoted {quote : Char} {name : Text} (hquote : quote = '\'' ∨ quote = '"')
    (hfree : quote ∉ name) (bracket offset : Nat) (rest : Text) :
    bracketed standard bracket ⟨offset, quote :: (name ++ [quote]) ++ rest⟩
      = .ok (.property name,
        ⟨offset + Text.byteLength (quote :: (name ++ [quote])), rest⟩) := by
  have htake : (name ++ quote :: rest).takeWhile (· != quote) = name := by
    refine Text.takeWhile_append (Text.all_ne_of_not_mem hfree) ?_
    rintro c ⟨⟩
    exact bne_self_eq_false quote
  have hlen : name.length < (name ++ quote :: rest).length := by simp
  have hskip : name.length + 2 = (quote :: (name ++ [quote])).length := by simp
  have hall : quote :: (name ++ [quote]) ++ rest = quote :: (name ++ quote :: rest) := by simp
  rw [bracketed]
  simp only [hall]
  rw [if_pos hquote]
  simp only [htake, if_pos hlen]
  rw [← hall, hskip, Place.skip_append]

/-- The digits of a position are taken up to the last one. -/
theorem bracketed_index {digits : Text} (hne : digits ≠ [])
    (hdigits : ∀ c ∈ digits, c.isDigit = true) (hbound : Text.ofDigits digits < Text.indexBound)
    (hrest : ∀ c ∈ rest.head?, c.isDigit = false) (bracket offset : Nat) :
    bracketed standard bracket ⟨offset, digits ++ rest⟩
      = .ok (.index (Text.ofDigits digits), ⟨offset + Text.byteLength digits, rest⟩) := by
  obtain ⟨c, more, rfl⟩ := List.exists_cons_of_ne_nil hne
  have hc : c.isDigit = true := hdigits c (by simp)
  have hquote : ¬ (c = '\'' ∨ c = '"') := by
    rintro (rfl | rfl)
    · exact absurd hc (by decide)
    · exact absurd hc (by decide)
  have htake : (c :: more ++ rest).takeWhile Char.isDigit = c :: more :=
    Text.takeWhile_append hdigits hrest
  rw [bracketed]
  simp only [List.cons_append]
  rw [if_neg hquote, if_pos hc, ← List.cons_append]
  simp only [htake, if_pos hbound]
  rw [Place.skip_append]

/-- A nested placeholder in brackets is taken like any other one. -/
theorem bracketed_nested (bracket : Nat) (hopen : standard.opening.isPrefixOf p.rest = true) :
    bracketed standard bracket p = nested standard p := by
  obtain ⟨offset, all⟩ := p
  obtain ⟨body, rfl⟩ := List.isPrefixOf_iff_prefix.mp hopen
  rfl

/-- What is taken in brackets is a nested placeholder, a quoted name or the digits
    of a position. -/
theorem bracketed_eq_ok {bracket : Nat} (h : bracketed standard bracket p = .ok (part, after)) :
    (nested standard p = .ok (part, after) ∧ standard.opening.isPrefixOf p.rest = true) ∨
      (∃ quote name, (quote = '\'' ∨ quote = '"') ∧ quote ∉ name ∧ part = .property name ∧
        p.rest = quote :: (name ++ [quote]) ++ after.rest) ∨
      ∃ digits, digits ≠ [] ∧ (∀ c ∈ digits, c.isDigit = true) ∧
        Text.ofDigits digits < Text.indexBound ∧ part = .index (Text.ofDigits digits) ∧
        p.rest = digits ++ after.rest := by
  obtain ⟨offset, all⟩ := p
  cases all with
  | nil => cases h
  | cons c all =>
      by_cases hquote : c = '\'' ∨ c = '"'
      · obtain ⟨name, rest, rfl, hname, hrest⟩ := Text.exists_takeWhile (· != c) all
        have hfree : c ∉ name := fun hc => by simpa using hname c hc
        cases rest with
        | nil =>
            have htake := Text.takeWhile_append hname hrest
            rw [List.append_nil] at h htake
            rw [bracketed] at h
            simp only [if_pos hquote, htake, if_neg (Nat.lt_irrefl _)] at h
            cases h
        | cons quote rest =>
            obtain rfl : quote = c := by simpa using hrest quote rfl
            have hall : quote :: (name ++ quote :: rest) = quote :: (name ++ [quote]) ++ rest := by
              simp
            rw [hall, bracketed_quoted hquote hfree] at h
            obtain ⟨rfl, rfl⟩ := Prod.mk.inj (Except.ok.inj h)
            exact .inr (.inl ⟨quote, name, hquote, hfree, rfl, hall⟩)
      · by_cases hdigit : c.isDigit = true
        · obtain ⟨digits, rest, hall, hdigits, hrest⟩ :=
            Text.exists_takeWhile Char.isDigit (c :: all)
          have htake := Text.takeWhile_append hdigits hrest
          rw [← hall] at htake
          have hne : digits ≠ [] := by
            rintro rfl
            rw [List.takeWhile_cons_of_pos hdigit] at htake
            cases htake
          by_cases hbound : Text.ofDigits digits < Text.indexBound
          · rw [hall, bracketed_index hne hdigits hbound hrest] at h
            obtain ⟨rfl, rfl⟩ := Prod.mk.inj (Except.ok.inj h)
            exact .inr (.inr ⟨digits, hne, hdigits, hbound, rfl, hall⟩)
          · rw [bracketed] at h
            simp only [if_neg hquote, if_pos hdigit, htake, if_neg hbound] at h
            cases h
        · rw [bracketed] at h
          simp only [if_neg hquote, if_neg hdigit] at h
          split at h
          · rename_i hopen
            exact .inl ⟨h, hopen⟩
          · split at h <;> cases h

/-- A closing bracket is taken with the blanks before it. -/
theorem closeBracket_append {blanks : Text} (hblanks : ∀ c ∈ blanks, Text.isBlank c = true)
    (bracket offset : Nat) (rest : Text) :
    ∃ offset', closeBracket bracket ⟨offset, blanks ++ ']' :: rest⟩ = .ok ⟨offset', rest⟩ := by
  have hskip : Place.skipBlanks ⟨offset, blanks ++ ']' :: rest⟩ = _ :=
    Place.skipBlanks_append hblanks (by rintro c ⟨⟩; decide) offset
  refine ⟨offset + Text.byteLength blanks + Text.byteLength [']'], ?_⟩
  rw [closeBracket]
  simp only [hskip, if_true]
  exact congrArg Except.ok (Place.skip_append _ [']'] rest)

/-- Where a closing bracket is taken, there is one behind blanks. -/
theorem closeBracket_eq_ok {bracket : Nat} (h : closeBracket bracket p = .ok after) :
    ∃ blanks, (∀ c ∈ blanks, Text.isBlank c = true) ∧ p.rest = blanks ++ ']' :: after.rest := by
  obtain ⟨blanks, hblanks, hrest⟩ := p.rest_eq_skipBlanks
  refine ⟨blanks, hblanks, ?_⟩
  rw [closeBracket] at h
  generalize p.skipBlanks = q at h hrest
  obtain ⟨offset, all⟩ := q
  cases all with
  | nil => cases h
  | cons c all =>
      simp only at h
      split at h
      · rename_i hc
        cases h
        rw [hrest, hc]
        rfl
      · cases h

-- ── Reading to the end ───────────────────────────────────────────────────────────

/-- Where a bracket, a dot or the end is looked for, no member is read. -/
private theorem not_member {expecting : Expecting} {t : Text} (hexpecting : expecting ≠ .member)
    (hhead : expecting = .head → t.head? = some '[') :
    ¬ (expecting = .member ∨ (expecting = .head ∧ t.head? ≠ some '[')) := by
  rintro (h | ⟨h, hne⟩)
  · exact hexpecting h
  · exact hne (hhead h)

theorem read_of_member {expecting : Expecting} (h : member standard p = .ok (part, after))
    (hexpecting : expecting = .member ∨ (expecting = .head ∧ p.rest.head? ≠ some '[')) :
    read standard expecting p = (read standard .more after).cons part := by
  rw [read, if_pos hexpecting]
  split
  · rename_i fault hfault
    cases hfault.symm.trans h
  · rename_i other after' hother
    obtain ⟨rfl, rfl⟩ := Prod.mk.inj (Except.ok.inj (hother.symm.trans h))
    rfl

/-- Where a path or a member has to begin, there must be something. -/
theorem read_start_nil {expecting : Expecting} (h : expecting ≠ .more) (offset : Nat) :
    read standard expecting ⟨offset, []⟩ = failed (.emptySegment offset) := by
  have hexpecting : expecting = .member ∨
      (expecting = .head ∧ ([] : Text).head? ≠ some '[') := by
    cases expecting with
    | head => exact .inr ⟨rfl, by decide⟩
    | member => exact .inl rfl
    | more => exact absurd rfl h
  rw [read, if_pos hexpecting]
  split
  · rename_i fault hfault
    cases hfault
    rfl
  · rename_i hread
    cases hread

theorem read_of_bracket {expecting : Expecting} {offset : Nat} {body : Text} {inside : Place}
    (hpart : bracketed standard offset (Place.skip ⟨offset, '[' :: body⟩ 1).skipBlanks
      = .ok (part, inside))
    (hclose : closeBracket offset inside = .ok after) (hexpecting : expecting ≠ .member) :
    read standard expecting ⟨offset, '[' :: body⟩ = (read standard .more after).cons part := by
  rw [read, if_neg (not_member hexpecting fun _ => rfl)]
  split
  · rename_i h
    cases h
  · split
    · rename_i fault hfault
      cases hfault.symm.trans hpart
    · rename_i other inside' hother
      obtain ⟨rfl, rfl⟩ := Prod.mk.inj (Except.ok.inj (hother.symm.trans hpart))
      split
      · rename_i fault hfault
        cases hfault.symm.trans hclose
      · rename_i after' hafter
        obtain rfl := Except.ok.inj (hafter.symm.trans hclose)
        rfl
  · rename_i h
    cases h
  · rename_i h
    cases h
  · rename_i hbracket _ _ hrest
    exact absurd (List.cons.inj hrest).1.symm hbracket

theorem read_of_dot {t : Text} (ht : t ≠ []) (offset : Nat) :
    read standard .more ⟨offset, '.' :: t⟩
      = read standard .member (Place.skip ⟨offset, '.' :: t⟩ 1) := by
  rw [read, if_neg (not_member (by decide) fun h => by cases h)]
  split
  · rename_i h
    cases h
  · rename_i h
    cases h
  · rename_i h
    exact absurd (List.cons.inj h).2 ht
  · rfl
  · rename_i _ _ hdot hrest
    exact absurd (List.cons.inj hrest).1.symm hdot

theorem read_nil (offset : Nat) : read standard .more ⟨offset, []⟩ = ⟨[], none⟩ := by
  rw [read, if_neg (not_member (by decide) fun h => by cases h)]

end FaultPages.Parts
