import FaultPages.Proofs.Path.Parsing
import FaultPages.Proofs.Text.Digits

/-! # Printing — every path written in brackets, and read back

    `print` writes each segment in brackets: a name between quotes, a position in
    digits, a nested path between the standard delimiters.  Nothing is left to
    dots, so any name can be written that does not hold both quotes.

    The written form is derived from the grammar (`derives_print`), and what is
    derived is read.  The one production that asks for more than the shape of
    the text is that of nested placeholders: what they hold has to be balanced, and
    it is if no name in it has a brace (`balanced_print`). -/

namespace FaultPages

open Delimiters

-- ── The written form ─────────────────────────────────────────────────────────────

/-- The quote around a name: a single one, unless the name holds one. -/
def quoteFor (name : Text) : Char := if name.contains '\'' then '"' else '\''

mutual

/-- What a segment is written as between its brackets. -/
def Segment.printKey : Segment → Text
  | .property name => quoteFor name :: (name ++ [quoteFor name])
  | .index i => Text.decimal i
  | .nested path => standard.wrap (Path.print path)

/-- The written form of a path. -/
def Path.print : List Segment → Text
  | [] => []
  | segment :: path => '[' :: (segment.printKey ++ [']']) ++ Path.print path

end

mutual

/-- Whether no name in a segment, at any depth, holds a brace. -/
def Segment.isBraceless : Segment → Bool
  | .property name => !name.contains '\x7b' && !name.contains '\x7d'
  | .index _ => true
  | .nested path => Path.isBraceless path

def Path.isBraceless : List Segment → Bool
  | [] => true
  | segment :: path => segment.isBraceless && Path.isBraceless path

end

mutual

/-- Whether a segment has a written form: at any depth no name holds both quotes,
    positions are in bounds, and nested paths are not empty.  A nested path has no
    name with a brace. -/
def Segment.isWritable : Segment → Bool
  | .property name => !(name.contains '\'' && name.contains '"')
  | .index i => i < Text.indexBound
  | .nested path => !path.isEmpty && Path.isBraceless path && Path.isWritable path

def Path.isWritable : List Segment → Bool
  | [] => true
  | segment :: path => segment.isWritable && Path.isWritable path

end

-- ── Nested paths are written balanced ────────────────────────────────────────────

/-- A name is written between quotes of one kind. -/
theorem quoteFor_eq (name : Text) : quoteFor name = '\'' ∨ quoteFor name = '"' := by
  rw [quoteFor]
  split
  · exact .inr rfl
  · exact .inl rfl

/-- A placeholder around a balanced text is balanced. -/
theorem balanced_wrap {inner : Text} (h : Balanced '\x7b' '\x7d' 0 inner) :
    Balanced '\x7b' '\x7d' 0 (standard.wrap inner) := by
  have hclosing : Balanced '\x7b' '\x7d' 1 ['\x7d'] :=
    (balanced_cons_closing (by decide)).mpr (balanced_nil.mpr rfl)
  show Balanced '\x7b' '\x7d' 0 ('$' :: '\x7b' :: (inner ++ ['\x7d']))
  rw [balanced_cons_other (by decide) (by decide), balanced_cons_opener (by decide)]
  simpa using h.append hclosing

mutual

theorem Segment.balanced_printKey (segment : Segment) (h : segment.isBraceless = true) :
    Balanced '\x7b' '\x7d' 0 segment.printKey := by
  cases segment with
  | property name =>
      obtain ⟨hopener, hclosing⟩ : '\x7b' ∉ name ∧ '\x7d' ∉ name := by
        simpa [Segment.isBraceless] using h
      have hfree : ∀ c, c ∉ name → c ≠ '\'' → c ≠ '"' → c ∉ (Segment.property name).printKey := by
        intro c hname hsingle hdouble
        rw [Segment.printKey]
        rcases quoteFor_eq name with hquote | hquote
        · simp [hquote, hname, hsingle]
        · simp [hquote, hname, hdouble]
      exact balanced_of_not_mem (hfree _ hopener (by decide) (by decide))
        (hfree _ hclosing (by decide) (by decide))
  | index i =>
      exact balanced_of_not_mem (Text.not_mem_decimal (by decide) i)
        (Text.not_mem_decimal (by decide) i)
  | nested path => exact balanced_wrap (Path.balanced_print path h)

/-- Without a brace in a name, the only braces are those around nested paths. -/
theorem Path.balanced_print (path : List Segment) (h : Path.isBraceless path = true) :
    Balanced '\x7b' '\x7d' 0 (Path.print path) := by
  cases path with
  | nil => exact balanced_nil.mpr rfl
  | cons segment path =>
      obtain ⟨hfirst, hrest⟩ := Bool.and_eq_true_iff.mp h
      have hkey := segment.balanced_printKey hfirst
      have hbracket : Balanced '\x7b' '\x7d' 0 ('[' :: (segment.printKey ++ [']'])) :=
        (balanced_cons_other (by decide) (by decide)).mpr
          (hkey.append (balanced_of_not_mem (by decide) (by decide)))
      exact hbracket.append (Path.balanced_print path hrest)

end

-- ── The written form is derived ──────────────────────────────────────────────────

/-- A written path ends with a bracket. -/
theorem Path.getLast?_print (path : Path) : ∀ c ∈ (print path).getLast?, c = ']' := by
  induction path with
  | nil =>
      intro c hc
      cases hc
  | cons segment path ih =>
      intro c hc
      rw [print, List.getLast?_append] at hc
      rcases Option.or_eq_some_iff.mp hc with hrest | ⟨-, hfirst⟩
      · exact ih c hrest
      · rw [← List.cons_append, List.getLast?_append] at hfirst
        cases hfirst
        rfl

/-- A written path has brackets at both ends, so there is nothing to trim. -/
theorem Path.trim_print (path : Path) : Text.trim (print path) = print path := by
  refine Text.trim_eq_self ?_ fun c hc => ?_
  · cases path with
    | nil =>
        intro c hc
        cases hc
    | cons segment path =>
        rintro c ⟨⟩
        decide
  · rw [getLast?_print path c hc]
    decide

/-- Brackets are a path of their own. -/
theorem Derives.path_of_brackets {t : Text} {p : List Segment} (h : Derives .brackets t p) :
    Derives .path t p := by
  cases h with
  | noBrackets => exact .empty
  | @brackets t u p q bracket more =>
      have hpath : Derives .path ((t ++ u) ++ []) ((p ++ q) ++ []) :=
        .path (.bracketFirst bracket more) .noTail
      simpa using hpath

/-- A name is written between quotes that it does not hold. -/
theorem quoteFor_not_mem {name : Text} (h : (Segment.property name).isWritable = true) :
    quoteFor name ∉ name := by
  rw [Segment.isWritable, Bool.not_eq_true'] at h
  rw [quoteFor]
  split
  · rename_i hquote
    rw [hquote, Bool.true_and] at h
    intro hmem
    cases h.symm.trans (List.contains_iff_mem.mpr hmem)
  · rename_i hquote
    exact fun hmem => hquote (List.contains_iff_mem.mpr hmem)

mutual

theorem Segment.derives_printKey (segment : Segment) (h : segment.isWritable = true) :
    Derives .key segment.printKey [segment] := by
  cases segment with
  | property name =>
      exact .quoted (quoteFor_eq name) (quoteFor_not_mem h)
  | index i =>
      have hindex : Derives .key (Text.decimal i) [.index (Text.ofDigits (Text.decimal i))] :=
        .index (Text.decimal_ne_nil i) (fun c hc => Text.isDigit_of_mem_decimal hc)
          (by rw [Text.ofDigits_decimal]; exact of_decide_eq_true h)
      rwa [Text.ofDigits_decimal] at hindex
  | nested path =>
      obtain ⟨houter, hwritable⟩ := Bool.and_eq_true_iff.mp h
      obtain ⟨hne, hbraceless⟩ := Bool.and_eq_true_iff.mp houter
      -- quotes do not hide a brace from the search for the end, so the names must have none
      have hinside : Derives .path (Text.trim (Path.print path)) path := by
        rw [Path.trim_print]
        exact (Path.derives_print path hwritable).path_of_brackets
      exact .nestedKey (.nested (Path.balanced_print path hbraceless) hinside (by simpa using hne))

/-- A written path is derived as brackets. -/
theorem Path.derives_print (path : List Segment) (h : Path.isWritable path = true) :
    Derives .brackets (Path.print path) path := by
  cases path with
  | nil => exact .noBrackets
  | cons segment path =>
      obtain ⟨hfirst, hrest⟩ := Bool.and_eq_true_iff.mp h
      have hbracket :
          Derives .bracket ('[' :: ([] ++ (segment.printKey ++ ([] ++ [']'])))) [segment] :=
        .bracket (fun c hc => absurd hc List.not_mem_nil) (segment.derives_printKey hfirst)
          (fun c hc => absurd hc List.not_mem_nil)
      exact .brackets hbracket (Path.derives_print path hrest)

end

-- ── Reading what is written ──────────────────────────────────────────────────────

/-- **Every path can be written and read back**, whatever its names hold: brackets, dots,
    blanks and one of the quotes anywhere, and braces where it is not nested. -/
theorem Path.parse_print (path : Path) (h : Path.isWritable path = true) :
    parse .standard (print path) = .ok path :=
  Parts.completes (derives_print path h).path_of_brackets (print path) (trim_print path)

/-- The last position there is, a name with a quote, a bracket and a brace, and a path in a
    path that is nested in a third one. -/
theorem Path.parse_print_nested :
    let path : Path := [.index 18446744073709551615, .property "it's \x7b[x]".toList,
      .nested [.property " . ".toList, .nested [.property [], .index 0]]]
    let written : Text :=
      "[18446744073709551615][\"it's \x7b[x]\"][$\x7b[' . '][$\x7b[''][0]\x7d]\x7d]".toList
    isWritable path = true ∧ parse .standard written = .ok path := by
  intro path written
  have hwritable : isWritable path = true := by decide
  have hprint : print path = written := by decide
  rw [← hprint]
  exact ⟨hwritable, parse_print path hwritable⟩

end FaultPages
