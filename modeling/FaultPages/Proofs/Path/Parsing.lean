import FaultPages.Proofs.Path.Reading
import FaultPages.Proofs.Path.Segments

/-! # Parsing — the paths that are read are those of the grammar

    Towards the grammar (`derives_parse`), the parts that a reader cut off are
    put together to a derivation: what it expects at a place names the symbol of
    what is left (`Expecting.Derives`, `derives_read`).  Nested texts are shorter,
    so the induction is on the length.

    From the grammar (`completes`), the induction is on the derivation.  For each
    symbol, `Completes` says how a text of it is read wherever it stands; what may
    follow it is part of that, since a name ends where no character of a name
    follows, and a position where no digit does. -/

namespace FaultPages

-- ── What is read is derived ──────────────────────────────────────────────────────

/-- A part and the segment that the grammar gives it. -/
abbrev Part.Means : Part → Segment → Prop :=
  Part.Reads fun raw path => Derives .path (Text.trim raw) path

/-- What a text derives where something is expected. -/
def Parts.Expecting.Derives : Parts.Expecting → Text → List Segment → Prop
  | .head, t, path => ∃ front behind p q, FaultPages.Derives .head front p ∧
      FaultPages.Derives .tail behind q ∧ t = front ++ behind ∧ path = p ++ q
  | .member, t, path => FaultPages.Derives .tail ('.' :: t) path
  | .more, t, path => ∃ front behind p q, FaultPages.Derives .brackets front p ∧
      FaultPages.Derives .tail behind q ∧ t = front ++ behind ∧ path = p ++ q

namespace Parts

open Delimiters

section Soundness

variable {p after : Place} {part : Part} {segment : Segment}

theorem derives_nested (h : nested standard p = .ok (part, after))
    (hopen : standard.opening.isPrefixOf p.rest = true) (hmeans : part.Means segment) :
    ∃ t, p.rest = t ++ after.rest ∧ Derives .nested t [segment] := by
  obtain ⟨inner, hbalanced, rfl, hrest⟩ := nested_eq_ok h hopen
  cases hmeans with
  | nested hinside hne => exact ⟨_, hrest, .nested hbalanced hinside hne⟩

theorem derives_member (h : member standard p = .ok (part, after)) (hmeans : part.Means segment) :
    ∃ t, p.rest = t ++ after.rest ∧ Derives .member t [segment] := by
  rcases member_eq_ok h with ⟨hnested, hopen⟩ | ⟨name, hname, rfl, hrest⟩
  · obtain ⟨t, hrest, ht⟩ := derives_nested hnested hopen hmeans
    exact ⟨t, hrest, .nestedMember ht⟩
  · cases hmeans
    exact ⟨name, hrest, .name hname⟩

theorem derives_key {bracket : Nat} (h : bracketed standard bracket p = .ok (part, after))
    (hmeans : part.Means segment) :
    ∃ t, p.rest = t ++ after.rest ∧ Derives .key t [segment] := by
  rcases bracketed_eq_ok h with ⟨hnested, hopen⟩ | ⟨quote, name, hquote, hfree, rfl, hrest⟩ |
    ⟨digits, hne, hdigits, hbound, rfl, hrest⟩
  · obtain ⟨t, hrest, ht⟩ := derives_nested hnested hopen hmeans
    exact ⟨t, hrest, .nestedKey ht⟩
  · cases hmeans
    exact ⟨_, hrest, .quoted hquote hfree⟩
  · cases hmeans
    exact ⟨digits, hrest, .index hne hdigits hbound⟩

theorem derives_bracket {bracket : Nat} {body : Text} {inside : Place} (hbody : p.rest = '[' :: body)
    (hpart : bracketed standard bracket (p.skip 1).skipBlanks = .ok (part, inside))
    (hclose : closeBracket bracket inside = .ok after) (hmeans : part.Means segment) :
    ∃ t, p.rest = t ++ after.rest ∧ Derives .bracket t [segment] := by
  obtain ⟨before, hbefore, hskip⟩ := (p.skip 1).rest_eq_skipBlanks
  obtain ⟨t, hkey, ht⟩ := derives_key hpart hmeans
  obtain ⟨behind, hbehind, hinside⟩ := closeBracket_eq_ok hclose
  have hrest : (p.skip 1).rest = body := by
    show p.rest.drop 1 = body
    rw [hbody]
    rfl
  refine ⟨_, ?_, .bracket hbefore ht hbehind⟩
  rw [hbody, ← hrest, hskip, hkey, hinside]
  simp

/-- Parts that a reader cuts off without a fault make up a derivation. -/
theorem derives_read {expecting : Expecting} {path : List Segment}
    (hfault : (read standard expecting p).fault = none)
    (hparts : List.Forall₂ Part.Means (read standard expecting p).parts path) :
    expecting.Derives p.rest path := by
  fun_induction read standard expecting p generalizing path with
  | case1 => cases hfault
  | case2 expecting p hexpecting part after hread ih =>
      cases hparts with
      | cons hmeans hrest =>
          obtain ⟨t, hp, ht⟩ := derives_member hread hmeans
          obtain ⟨front, behind, q, r, hfront, hbehind, hafter, rfl⟩ := ih hfault hrest
          rw [hp, hafter]
          rcases hexpecting with rfl | ⟨rfl, -⟩
          · exact .tail ht hfront hbehind
          · exact ⟨t ++ front, behind, _ :: q, r, .memberFirst ht hfront, hbehind,
              (List.append_assoc ..).symm, rfl⟩
  | case3 expecting p hexpecting hrest =>
      cases hparts
      cases expecting with
      | head => exact absurd (.inr ⟨rfl, by simp [hrest]⟩) hexpecting
      | member => exact absurd (.inl rfl) hexpecting
      | more =>
          rw [hrest]
          exact ⟨[], [], [], [], .noBrackets, .noTail, rfl, rfl⟩
  | case4 => cases hfault
  | case5 => cases hfault
  | case6 expecting p hexpecting body hbody part inside hread after hclose ih =>
      cases hparts with
      | cons hmeans hrest =>
          obtain ⟨t, hp, ht⟩ := derives_bracket hbody hread hclose hmeans
          obtain ⟨front, behind, q, r, hfront, hbehind, hafter, rfl⟩ := ih hfault hrest
          rw [hp, hafter]
          cases expecting with
          | head => exact ⟨t ++ front, behind, _ :: q, r, .bracketFirst ht hfront, hbehind,
              (List.append_assoc ..).symm, rfl⟩
          | member => exact absurd (.inl rfl) hexpecting
          | more => exact ⟨t ++ front, behind, _ :: q, r, .brackets ht hfront, hbehind,
              (List.append_assoc ..).symm, rfl⟩
  | case7 => cases hfault
  | case8 expecting p hexpecting tail hne hbody ih =>
      have htail := ih hfault hparts
      have hrest : (p.skip 1).rest = tail := by
        show p.rest.drop 1 = tail
        rw [hbody]
        rfl
      rw [hrest] at htail
      rw [hbody]
      cases expecting with
      | head => exact absurd (.inr ⟨rfl, by simp [hbody]⟩) hexpecting
      | member => exact absurd (.inl rfl) hexpecting
      | more => exact ⟨[], '.' :: tail, [], path, .noBrackets, htail, rfl, rfl⟩
  | case9 => cases hfault

end Soundness

end Parts

/-- What is read is derived. -/
theorem Path.derives_parse {source : Text} {path : Path} (h : parse .standard source = .ok path) :
    Derives .path (Text.trim source) path := by
  obtain ⟨hfault, hparts⟩ := parse_eq_ok_iff.mp h
  have hmeans : List.Forall₂ Part.Means (Parts.ofText .standard (Text.trim source)).parts path := by
    refine Part.Reads.forall₂_of_mem (fun offset raw hraw path hread => ?_) hparts
    have hlt := Parts.raw_length_lt hraw
    have hle := Text.trim_length_le source
    exact derives_parse hread
  rw [Parts.ofText] at hfault hmeans
  split at hfault
  · rename_i hblank
    rw [if_pos hblank] at hmeans
    cases hmeans
    rw [hblank]
    exact .empty
  · rename_i hblank
    rw [if_neg hblank] at hmeans
    obtain ⟨front, behind, p, q, hfront, hbehind, ht, rfl⟩ := Parts.derives_read hfault hmeans
    rw [show Text.trim source = _ from ht]
    exact .path hfront hbehind
termination_by source.length

-- ── What is derived is read ──────────────────────────────────────────────────────

/-- A part and the segment that it is read as. -/
abbrev Part.Parses : Part → Segment → Prop :=
  Part.Reads fun raw path => Path.parse .standard raw = .ok path

namespace Parts

open Delimiters

/-- Parts behind others. -/
def behind (front : List Part) (p : Parts) : Parts := ⟨front ++ p.parts, p.fault⟩

/-- How a text of a symbol is read: as a whole, whatever may follow it, and as the
    segments that it stands for. -/
def Completes : Symbol → Text → List Segment → Prop
  | .path, t, path => ∀ source, Text.trim source = t → Path.parse standard source = .ok path
  | .head, t, path => ∀ offset rest, EndsName rest →
      ∃ offset' parts, List.Forall₂ Part.Parses parts path ∧
        read standard .head ⟨offset, t ++ rest⟩ = (read standard .more ⟨offset', rest⟩).behind parts
  | .tail, t, path => ∀ offset, ∃ parts, List.Forall₂ Part.Parses parts path ∧
      read standard .more ⟨offset, t⟩ = ⟨parts, none⟩
  | .brackets, t, path => ∀ offset rest,
      ∃ offset' parts, List.Forall₂ Part.Parses parts path ∧
        read standard .more ⟨offset, t ++ rest⟩ = (read standard .more ⟨offset', rest⟩).behind parts
  | .member, t, path => ∀ offset rest, EndsName rest →
      ∃ offset' part, List.Forall₂ Part.Parses [part] path ∧
        member standard ⟨offset, t ++ rest⟩ = .ok (part, ⟨offset', rest⟩)
  | .bracket, t, path => ∀ expecting offset rest, expecting ≠ .member →
      ∃ offset' part, List.Forall₂ Part.Parses [part] path ∧
        read standard expecting ⟨offset, t ++ rest⟩
          = (read standard .more ⟨offset', rest⟩).cons part
  | .key, t, path => ∀ bracket offset rest, (∀ c ∈ rest.head?, c.isDigit = false) →
      ∃ offset' part, List.Forall₂ Part.Parses [part] path ∧
        bracketed standard bracket ⟨offset, t ++ rest⟩ = .ok (part, ⟨offset', rest⟩)
  | .nested, t, path => ∀ offset rest,
      ∃ offset' part, List.Forall₂ Part.Parses [part] path ∧
        standard.opening.isPrefixOf (t ++ rest) = true ∧
        nested standard ⟨offset, t ++ rest⟩ = .ok (part, ⟨offset', rest⟩)

variable {t u rest : Text} {path more : List Segment}

/-- A member is read with the brackets behind it. -/
theorem Completes.member_brackets (hmember : Completes .member t path)
    (hbrackets : Completes .brackets u more) {expecting : Expecting} (hexpecting : expecting ≠ .more)
    (offset : Nat) (hends : EndsName (u ++ rest)) :
    ∃ offset' parts, List.Forall₂ Part.Parses parts (path ++ more) ∧
      read standard expecting ⟨offset, t ++ (u ++ rest)⟩
        = (read standard .more ⟨offset', rest⟩).behind parts := by
  obtain ⟨offset₁, part, hpart, hread⟩ := hmember offset (u ++ rest) hends
  obtain ⟨offset₂, parts, hparts, hmore⟩ := hbrackets offset₁ rest
  have hhead : (t ++ (u ++ rest)).head? ≠ some '[' := by
    intro h
    obtain ⟨body, hbody⟩ := List.head?_eq_some_iff.mp h
    rw [hbody] at hread
    cases hread
  have hstart : expecting = .member ∨
      (expecting = .head ∧ (t ++ (u ++ rest)).head? ≠ some '[') := by
    cases expecting with
    | head => exact .inr ⟨rfl, hhead⟩
    | member => exact .inl rfl
    | more => exact absurd rfl hexpecting
  refine ⟨offset₂, [part] ++ parts, List.rel_append hpart hparts, ?_⟩
  rw [read_of_member hread hstart, hmore]
  rfl

/-- A bracket is read with those behind it. -/
theorem Completes.bracket_brackets (hbracket : Completes .bracket t path)
    (hbrackets : Completes .brackets u more) {expecting : Expecting}
    (hexpecting : expecting ≠ .member) (offset : Nat) (rest : Text) :
    ∃ offset' parts, List.Forall₂ Part.Parses parts (path ++ more) ∧
      read standard expecting ⟨offset, t ++ (u ++ rest)⟩
        = (read standard .more ⟨offset', rest⟩).behind parts := by
  obtain ⟨offset₁, part, hpart, hread⟩ := hbracket expecting offset (u ++ rest) hexpecting
  obtain ⟨offset₂, parts, hparts, hmore⟩ := hbrackets offset₁ rest
  refine ⟨offset₂, [part] ++ parts, List.rel_append hpart hparts, ?_⟩
  rw [hread, hmore]
  rfl

/-- Brackets end a name. -/
theorem endsName_append (hu : Derives .brackets u path) (hrest : EndsName rest) :
    EndsName (u ++ rest) := by
  rcases hu.head?_of_brackets with rfl | hu
  · exact hrest
  · obtain ⟨body, rfl⟩ := List.head?_eq_some_iff.mp hu
    exact .inr (.inr rfl)

/-- A tail ends a name. -/
theorem endsName_of_tail (h : Derives .tail t path) : EndsName t := by
  rcases h.head?_of_tail with rfl | h
  · exact .inl rfl
  · exact .inr (.inl h)

/-- A key begins with no blank. -/
theorem isBlank_head_of_key (h : Derives .key t path) (rest : Text) :
    ∀ c ∈ (t ++ rest).head?, Text.isBlank c = false := by
  cases h with
  | quoted hquote hfree =>
      rintro c ⟨⟩
      rcases hquote with rfl | rfl
      · decide
      · decide
  | index hne hdigits hbound =>
      obtain ⟨d, more, rfl⟩ := List.exists_cons_of_ne_nil hne
      rintro c ⟨⟩
      exact isBlank_of_isDigit (hdigits d (by simp))
  | nestedKey nested =>
      cases nested
      rintro c ⟨⟩
      decide

/-- What closes a bracket begins with no digit. -/
theorem isDigit_head_of_blanks {blanks : Text} (hblanks : ∀ c ∈ blanks, Text.isBlank c = true)
    (rest : Text) : ∀ c ∈ (blanks ++ ']' :: rest).head?, c.isDigit = false := by
  intro c hc
  cases blanks with
  | nil =>
      cases hc
      decide
  | cons b blanks =>
      cases hc
      rw [Bool.eq_false_iff]
      intro hdigit
      cases (isBlank_of_isDigit hdigit).symm.trans (hblanks c (by simp))

/-- A key is read with the brackets around it. -/
theorem Completes.bracket {before behind : Text} (hbefore : ∀ c ∈ before, Text.isBlank c = true)
    (hkey : Derives .key t path) (ihkey : Completes .key t path)
    (hbehind : ∀ c ∈ behind, Text.isBlank c = true) :
    Completes .bracket ('[' :: (before ++ (t ++ (behind ++ [']'])))) path := by
  intro expecting offset rest hexpecting
  obtain ⟨offset₁, part, hpart, hread⟩ :=
    ihkey offset _ (behind ++ ']' :: rest) (isDigit_head_of_blanks hbehind rest)
  obtain ⟨offset₂, hclose⟩ := closeBracket_append hbehind offset offset₁ rest
  have hskip : (Place.skip ⟨offset, '[' :: (before ++ (t ++ (behind ++ ']' :: rest)))⟩ 1).skipBlanks
      = _ :=
    Place.skipBlanks_append hbefore (isBlank_head_of_key hkey _) _
  rw [← hskip] at hread
  refine ⟨offset₂, part, hpart, ?_⟩
  rw [← read_of_bracket hread hclose hexpecting]
  simp

/-- What is derived is read. -/
theorem completes {symbol : Symbol} (h : Derives symbol t path) : Completes symbol t path := by
  induction h with
  | empty =>
      intro source hsource
      rw [Path.parse_eq_ok_iff, hsource]
      exact ⟨rfl, .nil⟩
  | @path t u p q head tail ihhead ihtail =>
      intro source hsource
      obtain ⟨offset, parts, hparts, hread⟩ := ihhead 0 u (endsName_of_tail tail)
      obtain ⟨parts', hparts', hmore⟩ := ihtail offset
      rw [hmore] at hread
      have hne : t ++ u ≠ [] := by
        intro hnil
        rw [hnil, read_start_nil (by decide)] at hread
        cases congrArg Parts.fault hread
      rw [Path.parse_eq_ok_iff, hsource, ofText, if_neg hne, hread]
      exact ⟨rfl, List.rel_append hparts hparts'⟩
  | memberFirst member brackets ihmember ihbrackets =>
      intro offset rest hrest
      rw [List.append_assoc]
      exact ihmember.member_brackets ihbrackets (by decide) offset (endsName_append brackets hrest)
  | bracketFirst bracket brackets ihbracket ihbrackets =>
      intro offset rest hrest
      rw [List.append_assoc]
      exact ihbracket.bracket_brackets ihbrackets (by decide) offset rest
  | noTail =>
      intro offset
      exact ⟨[], .nil, read_nil offset⟩
  | @tail t u v p q r member brackets tail ihmember ihbrackets ihtail =>
      intro offset
      have hends := endsName_append brackets (endsName_of_tail tail)
      obtain ⟨offset', parts, hparts, hread⟩ := ihmember.member_brackets ihbrackets
        (show Expecting.member ≠ .more by decide) (offset + Text.byteLength ['.']) hends
      obtain ⟨parts', hparts', hmore⟩ := ihtail offset'
      rw [hmore] at hread
      have hne : t ++ (u ++ v) ≠ [] := by
        intro hnil
        rw [hnil, read_start_nil (by decide)] at hread
        cases congrArg Parts.fault hread
      refine ⟨parts ++ parts', ?_, ?_⟩
      · rw [← List.append_assoc]
        exact List.rel_append hparts hparts'
      · rw [read_of_dot hne]
        exact hread
  | noBrackets =>
      intro offset rest
      exact ⟨offset, [], .nil, rfl⟩
  | brackets bracket brackets ihbracket ihbrackets =>
      intro offset rest
      rw [List.append_assoc]
      exact ihbracket.bracket_brackets ihbrackets (by decide) offset rest
  | name hname =>
      intro offset rest hrest
      exact ⟨_, _, .cons (.property _) .nil, member_name hname hrest offset⟩
  | nestedMember nested ihnested =>
      intro offset rest _
      obtain ⟨offset', part, hpart, hopen, hread⟩ := ihnested offset rest
      refine ⟨offset', part, hpart, ?_⟩
      rw [member, if_pos hopen]
      exact hread
  | bracket hbefore key hbehind ihkey => exact ihkey.bracket hbefore key hbehind
  | quoted hquote hfree =>
      intro bracket offset rest _
      exact ⟨_, _, .cons (.property _) .nil, bracketed_quoted hquote hfree bracket offset rest⟩
  | index hne hdigits hbound =>
      intro bracket offset rest hrest
      exact ⟨_, _, .cons (.index _) .nil, bracketed_index hne hdigits hbound hrest bracket offset⟩
  | nestedKey nested ihnested =>
      intro bracket offset rest _
      obtain ⟨offset', part, hpart, hopen, hread⟩ := ihnested offset rest
      exact ⟨offset', part, hpart, (bracketed_nested bracket hopen).trans hread⟩
  | nested hbalanced inside hne ihinside =>
      intro offset rest
      exact ⟨_, _, .cons (.nested (ihinside _ rfl) hne) .nil, rfl,
        nested_append hbalanced offset rest⟩

end Parts

/-- A name without blanks around it is read as itself. -/
theorem Path.parse_name {name : Text} (h : IsName name) (htrim : Text.trim name = name) :
    parse .standard name = .ok [.property name] := by
  have hderives : Derives .path ((name ++ []) ++ []) (([.property name] ++ []) ++ []) :=
    .path (.memberFirst (.name h) .noBrackets) .noTail
  simp only [List.append_nil] at hderives
  exact Parts.completes hderives name htrim

-- ── The two together ─────────────────────────────────────────────────────────────

/-- **The texts that are read are those of the grammar**, blanks around them aside, and
    each is read as the segments that its derivation lists.  Every other text is a fault,
    and only the blank ones are the empty path. -/
theorem Path.parse_iff_derives (source : Text) :
    (∀ path, parse .standard source = .ok path ↔ Derives .path (Text.trim source) path) ∧
      ((∃ fault, parse .standard source = .error fault) ↔
        ¬ ∃ path, Derives .path (Text.trim source) path) ∧
      (parse .standard source = .ok [] ↔ Text.trim source = []) := by
  have hpath : ∀ path, parse .standard source = .ok path ↔ Derives .path (Text.trim source) path :=
    fun path => ⟨derives_parse, fun h => Parts.completes h source rfl⟩
  refine ⟨hpath, ?_, fun h => ((hpath []).mp h).eq_nil_of_path, fun h => ?_⟩
  · constructor
    · rintro ⟨fault, hfault⟩ ⟨path, hderives⟩
      cases hfault.symm.trans ((hpath path).mpr hderives)
    · intro hnone
      cases hparse : parse .standard source with
      | error fault => exact ⟨fault, rfl⟩
      | ok path => exact absurd ⟨path, (hpath path).mp hparse⟩ hnone
  · rw [hpath, h]
    exact .empty

end FaultPages
