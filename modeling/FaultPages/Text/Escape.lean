import FaultPages.Text.Basic

/-! # HTML escaping — values that cannot become markup

    Five characters are written as entities: `&`, `<`, `>`, and the two
    quotes.  A text without any of them is handed back as it is, and otherwise
    only the part from the first of them on is written anew.  `unescape` is one
    pass in the other direction. -/

namespace FaultPages.Text

/-- Whether a character has to be written as an entity. -/
def isMarkup (c : Char) : Bool :=
  c == '&' || c == '<' || c == '>' || c == '"' || c == '\''

/-- How one character is written in HTML text or in a quoted attribute. -/
def entity (c : Char) : Text :=
  if c = '&' then "&amp;".toList
  else if c = '<' then "&lt;".toList
  else if c = '>' then "&gt;".toList
  else if c = '"' then "&quot;".toList
  else if c = '\'' then "&#39;".toList
  else [c]

/-- The outcome of escaping: the very text that came in, or one newly
    written. -/
inductive Escaped where
  | untouched (text : Text)
  | escaped (text : Text)
  deriving DecidableEq, Repr

/-- The escaped text, however it came about. -/
def Escaped.text : Escaped → Text
  | .untouched t => t
  | .escaped t => t

/-- Whether nothing had to be written anew. -/
def Escaped.isUntouched : Escaped → Bool
  | .untouched _ => true
  | .escaped _ => false

/-- Escape a text.  The part before the first special character is kept, and
    each character from there on is written by `entity`. -/
def escapeHtml (t : Text) : Escaped :=
  match t.dropWhile (fun c => !isMarkup c) with
  | [] => .untouched t
  | tail => .escaped (t.takeWhile (fun c => !isMarkup c) ++ tail.flatMap entity)

/-- One pass from the left that puts a character for each of the five
    entities. -/
def unescape : Text → Text
  | '&' :: 'a' :: 'm' :: 'p' :: ';' :: rest => '&' :: unescape rest
  | '&' :: 'l' :: 't' :: ';' :: rest => '<' :: unescape rest
  | '&' :: 'g' :: 't' :: ';' :: rest => '>' :: unescape rest
  | '&' :: 'q' :: 'u' :: 'o' :: 't' :: ';' :: rest => '"' :: unescape rest
  | '&' :: '#' :: '3' :: '9' :: ';' :: rest => '\'' :: unescape rest
  | c :: rest => c :: unescape rest
  | [] => []

end FaultPages.Text
