import FaultPages.Path.Parser
import FaultPages.Proofs.Placeholder.Balance

/-! # The grammar of paths — which texts are expressions, and of which paths

    An expression without blanks around it is derived from `Symbol.path`.  The
    productions follow the written form and know nothing of how it is read:

        path    →  nothing  |  head tail
        head    →  member brackets  |  bracket brackets
        tail    →  nothing  |  '.' member brackets tail
        brackets → nothing  |  bracket brackets
        member  →  a name   |  nested
        bracket →  '[' blanks key blanks ']'
        key     →  a quoted text  |  the digits of a position  |  nested
        nested  →  the standard delimiters around a balanced text, which without
                   the blanks around it is a path that is not empty

    A derivation carries the segments that its text stands for, from left to
    right. -/

namespace FaultPages

/-- What a piece of an expression can be. -/
inductive Symbol where
  | path
  | head
  | tail
  | brackets
  | member
  | bracket
  | key
  | nested
  deriving DecidableEq, Repr

/-- A name: letters, digits, low lines and dollar signs, of which the first is no
    ASCII digit. -/
structure IsName (t : Text) : Prop where
  ne_nil : t ≠ []
  chars : ∀ c ∈ t, Parts.isNameChar c = true
  first : ∀ c ∈ t.head?, c.isDigit = false

/-- Whether a text is a name can be read off its characters. -/
instance (t : Text) : Decidable (IsName t) :=
  decidable_of_iff (t ≠ [] ∧ t.all Parts.isNameChar = true ∧
      t.head?.all (fun c => !c.isDigit) = true) <| by
    rw [List.all_eq_true, Option.all_eq_true]
    simp only [Bool.not_eq_true']
    exact ⟨fun ⟨hne, hchars, hfirst⟩ => ⟨hne, hchars, hfirst⟩,
      fun ⟨hne, hchars, hfirst⟩ => ⟨hne, hchars, hfirst⟩⟩

/-- A text that a symbol derives, with the segments that it stands for. -/
inductive Derives : Symbol → Text → List Segment → Prop where
  | empty : Derives .path [] []
  | path {t u : Text} {p q : List Segment} (head : Derives .head t p) (tail : Derives .tail u q) :
      Derives .path (t ++ u) (p ++ q)
  | memberFirst {t u : Text} {p q : List Segment} (member : Derives .member t p)
      (brackets : Derives .brackets u q) : Derives .head (t ++ u) (p ++ q)
  | bracketFirst {t u : Text} {p q : List Segment} (bracket : Derives .bracket t p)
      (brackets : Derives .brackets u q) : Derives .head (t ++ u) (p ++ q)
  | noTail : Derives .tail [] []
  | tail {t u v : Text} {p q r : List Segment} (member : Derives .member t p)
      (brackets : Derives .brackets u q) (tail : Derives .tail v r) :
      Derives .tail ('.' :: (t ++ (u ++ v))) (p ++ (q ++ r))
  | noBrackets : Derives .brackets [] []
  | brackets {t u : Text} {p q : List Segment} (bracket : Derives .bracket t p)
      (more : Derives .brackets u q) : Derives .brackets (t ++ u) (p ++ q)
  | name {t : Text} (name : IsName t) : Derives .member t [.property t]
  | nestedMember {t : Text} {p : List Segment} (nested : Derives .nested t p) :
      Derives .member t p
  | bracket {s t u : Text} {p : List Segment} (before : ∀ c ∈ s, Text.isBlank c = true)
      (key : Derives .key t p) (behind : ∀ c ∈ u, Text.isBlank c = true) :
      Derives .bracket ('[' :: (s ++ (t ++ (u ++ [']'])))) p
  | quoted {quote : Char} {t : Text} (quote_eq : quote = '\'' ∨ quote = '"') (free : quote ∉ t) :
      Derives .key (quote :: (t ++ [quote])) [.property t]
  | index {digits : Text} (ne_nil : digits ≠ []) (all : ∀ c ∈ digits, c.isDigit = true)
      (bounded : Text.ofDigits digits < Text.indexBound) :
      Derives .key digits [.index (Text.ofDigits digits)]
  | nestedKey {t : Text} {p : List Segment} (nested : Derives .nested t p) : Derives .key t p
  | nested {inner : Text} {path : Path} (balanced : Balanced '\x7b' '\x7d' 0 inner)
      (inside : Derives .path (Text.trim inner) path) (ne_nil : path ≠ []) :
      Derives .nested ('$' :: '\x7b' :: (inner ++ ['\x7d'])) [.nested path]

namespace Derives

variable {t : Text} {p : List Segment}

/-- Brackets begin with one. -/
theorem head?_of_brackets (h : Derives .brackets t p) : t = [] ∨ t.head? = some '[' := by
  cases h with
  | noBrackets => exact .inl rfl
  | brackets bracket more =>
      cases bracket with
      | bracket before key behind => exact .inr rfl

/-- A tail begins with a dot. -/
theorem head?_of_tail (h : Derives .tail t p) : t = [] ∨ t.head? = some '.' := by
  cases h with
  | noTail => exact .inl rfl
  | tail member brackets tail => exact .inr rfl

/-- A member, a bracket and what they hold stand for one segment. -/
theorem length_eq_one {symbol : Symbol} (h : Derives symbol t p)
    (hsymbol : symbol ∈ [.member, .bracket, .key, .nested]) : p.length = 1 := by
  induction h with
  | empty => exact absurd hsymbol (by decide)
  | path => exact absurd hsymbol (by decide)
  | memberFirst => exact absurd hsymbol (by decide)
  | bracketFirst => exact absurd hsymbol (by decide)
  | noTail => exact absurd hsymbol (by decide)
  | tail => exact absurd hsymbol (by decide)
  | noBrackets => exact absurd hsymbol (by decide)
  | brackets => exact absurd hsymbol (by decide)
  | name => rfl
  | nestedMember nested ih => exact ih (by decide)
  | bracket before key behind ih => exact ih (by decide)
  | quoted => rfl
  | index => rfl
  | nestedKey nested ih => exact ih (by decide)
  | nested => rfl

theorem ne_nil_of_head (h : Derives .head t p) : p ≠ [] := by
  cases h with
  | memberFirst member brackets =>
      exact List.append_ne_nil_of_left_ne_nil
        (List.ne_nil_of_length_eq_add_one (member.length_eq_one (by decide))) _
  | bracketFirst bracket brackets =>
      exact List.append_ne_nil_of_left_ne_nil
        (List.ne_nil_of_length_eq_add_one (bracket.length_eq_one (by decide))) _

/-- Only the empty text stands for the empty path. -/
theorem eq_nil_of_path (h : Derives .path t []) : t = [] := by
  generalize hp : ([] : List Segment) = p at h
  cases h with
  | empty => rfl
  | path head tail => exact absurd (List.append_eq_nil_iff.mp hp.symm).1 head.ne_nil_of_head

end Derives

end FaultPages
