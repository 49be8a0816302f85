import FaultPages.Text.Basic

/-! # TOML strings — four kinds of quotes

    Each reader gets the text after the opening quotes and gives the string and
    the text after the closing ones. -/

namespace FaultPages.Toml

/-- Whether a character may stand for itself in a string or a comment: a tab,
    or anything but a control character. -/
def isPlain (c : Char) : Bool := c == '\t' || (32 ≤ c.toNat && c.toNat != 127)

-- ── Escapes ──────────────────────────────────────────────────────────────────────

/-- The character that a letter stands for after a backslash. -/
def escapeLetter? (c : Char) : Option Char :=
  if c = 'b' then some (Char.ofNat 8)
  else if c = 't' then some '\t'
  else if c = 'n' then some '\n'
  else if c = 'f' then some (Char.ofNat 12)
  else if c = 'r' then some '\r'
  else if c = 'e' then some (Char.ofNat 27)
  else if c = '"' then some '"'
  else if c = '\\' then some '\\'
  else none

/-- The character of a code point in hexadecimal digits, if there is one. -/
def codePoint? (digits : Text) : Option Char :=
  (Text.ofDigitsIn? 16 digits).bind fun n =>
    if n < 0xD800 ∨ (0xDFFF < n ∧ n < 0x110000) then some (Char.ofNat n) else none

/-- The escape after a backslash, and the text after it. -/
def escape? : Text → Option (Char × Text)
  | 'x' :: a :: b :: rest => (codePoint? [a, b]).map fun c => (c, rest)
  | 'u' :: a :: b :: c :: d :: rest => (codePoint? [a, b, c, d]).map fun x => (x, rest)
  | 'U' :: a :: b :: c :: d :: e :: f :: g :: h :: rest =>
    (codePoint? [a, b, c, d, e, f, g, h]).map fun x => (x, rest)
  | c :: rest => (escapeLetter? c).map fun x => (x, rest)
  | [] => none

/-- An escape takes up some of the text. -/
theorem escape?_length {t rest : Text} {c : Char} (h : escape? t = some (c, rest)) :
    rest.length < t.length := by
  unfold escape? at h
  split at h
  all_goals first
    | (simp only [Option.map_eq_some_iff, Prod.mk.injEq] at h
       obtain ⟨_, _, _, rfl⟩ := h
       simp only [List.length_cons]
       omega)
    | simp at h

-- ── Strings on one line ──────────────────────────────────────────────────────────

/-- A string in double quotes. -/
def basicString (t : Text) : Option (Text × Text) :=
  match t with
  | [] => none
  | c :: rest =>
    if c = '"' then some ([], rest)
    else if c = '\\' then
      match _escape : escape? rest with
      | some (x, after) => (basicString after).map fun (s, rest) => (x :: s, rest)
      | none => none
    else if isPlain c then (basicString rest).map fun (s, rest) => (c :: s, rest)
    else none
termination_by t.length
decreasing_by
  · have := escape?_length _escape
    simp only [List.length_cons]
    omega
  · simp

/-- A string in single quotes, in which nothing is escaped. -/
def literalString : Text → Option (Text × Text)
  | [] => none
  | c :: rest =>
    if c = '\'' then some ([], rest)
    else if isPlain c then (literalString rest).map fun (s, rest) => (c :: s, rest)
    else none

-- ── Strings over several lines ───────────────────────────────────────────────────

/-- The text after a line break, if one stands at the start. -/
def afterBreak? : Text → Option Text
  | '\n' :: rest => some rest
  | '\r' :: '\n' :: rest => some rest
  | _ => none

/-- Three quotes and up to two more that belong to the string: those two, and
    the text after all of them. -/
def closingQuotes? (q : Char) (t : Text) : Option (Text × Text) :=
  let run := (t.takeWhile (· == q)).length
  if run < 3 then none
  else
    let inside := min (run - 3) 2
    some (List.replicate inside q, t.drop (inside + 3))

/-- Whether only blanks stand before the next line break. -/
def endsLine (t : Text) : Bool :=
  (afterBreak? (t.dropWhile fun c => c == ' ' || c == '\t')).isSome

/-- A string in three double quotes.  `joining` says that a backslash at the end
    of a line was met, after which blanks and line breaks are left out. -/
def longBasicString (joining : Bool) (t : Text) : Option (Text × Text) :=
  match t with
  | [] => none
  | c :: rest =>
    if joining && (c == ' ' || c == '\t' || c == '\n') then longBasicString true rest
    else if c = '\r' then
      if rest.head? = some '\n' then
        if joining then longBasicString true rest
        else (longBasicString false rest).map fun (s, rest) => (c :: s, rest)
      else none
    else if c = '"' then
      match closingQuotes? '"' (c :: rest) with
      | some result => some result
      | none => (longBasicString false rest).map fun (s, rest) => (c :: s, rest)
    else if c = '\\' then
      if endsLine rest then longBasicString true rest
      else
        match _escape : escape? rest with
        | some (x, after) => (longBasicString false after).map fun (s, rest) => (x :: s, rest)
        | none => none
    else if isPlain c || c == '\n' then
      (longBasicString false rest).map fun (s, rest) => (c :: s, rest)
    else none
termination_by t.length
decreasing_by
  all_goals first
    | (simp only [List.length_cons]
       omega)
    | (have hlen := escape?_length _escape
       simp only [List.length_cons]
       omega)

/-- A string in three single quotes. -/
def longLiteralString : Text → Option (Text × Text)
  | [] => none
  | c :: rest =>
    if c = '\'' then
      match closingQuotes? '\'' (c :: rest) with
      | some result => some result
      | none => (longLiteralString rest).map fun (s, rest) => (c :: s, rest)
    else if c = '\r' then
      if rest.head? = some '\n' then (longLiteralString rest).map fun (s, rest) => (c :: s, rest)
      else none
    else if isPlain c || c == '\n' then
      (longLiteralString rest).map fun (s, rest) => (c :: s, rest)
    else none

/-- A text without the line break at its start. -/
def skipBreak (t : Text) : Text := (afterBreak? t).getD t

/-- Any string, from its opening quotes on. -/
def string? : Text → Option (Text × Text)
  | '"' :: '"' :: '"' :: rest => longBasicString false (skipBreak rest)
  | '"' :: rest => basicString rest
  | '\'' :: '\'' :: '\'' :: rest => longLiteralString (skipBreak rest)
  | '\'' :: rest => literalString rest
  | _ => none

end FaultPages.Toml
