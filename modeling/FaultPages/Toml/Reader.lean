import FaultPages.Toml.Literal
import FaultPages.Toml.Strings
import FaultPages.Toml.Value

/-! # Reading TOML

    A document is a list of lines that open tables or give values.  Each step of
    the reader checks that it leaves less than it got, which is what makes the
    recursion end.  Only that a text is refused matters here, not why. -/

namespace FaultPages.Toml

-- ── Blanks and comments ──────────────────────────────────────────────────────────

/-- Blanks within a line. -/
def skipSpaces (t : Text) : Text := t.dropWhile fun c => c == ' ' || c == '\t'

/-- Blanks, line breaks and comments, as they may stand between the parts of an
    array or an inline table.  Nothing if a comment holds a control character. -/
def skipFiller (inComment : Bool) : Text → Option Text
  | [] => some []
  | c :: rest =>
    if c = '\n' then skipFiller false rest
    else if c = '\r' then
      if rest.head? = some '\n' then skipFiller false rest else none
    else if inComment then
      if isPlain c then skipFiller true rest else none
    else if c = ' ' ∨ c = '\t' then skipFiller false rest
    else if c = '#' then skipFiller true rest
    else some (c :: rest)

/-- A comment up to the end of its line. -/
def skipComment : Text → Option Text
  | [] => some []
  | c :: rest =>
    if c = '\n' then some rest
    else if c = '\r' then
      if rest.head? = some '\n' then some rest.tail else none
    else if isPlain c then skipComment rest
    else none

/-- The end of a line, perhaps with a comment before it. -/
def endOfLine (t : Text) : Option Text :=
  match skipSpaces t with
  | [] => some []
  | '#' :: rest => skipComment rest
  | rest => afterBreak? rest

-- ── Keys ─────────────────────────────────────────────────────────────────────────

/-- Whether a character may stand in a key without quotes. -/
def isBareKeyChar (c : Char) : Bool := c.isAlphanum || c == '-' || c == '_'

/-- One part of a key. -/
def keyPart? (t : Text) : Option (Text × Text) :=
  match t with
  | '"' :: rest => basicString rest
  | '\'' :: rest => literalString rest
  | _ =>
    let name := t.takeWhile isBareKeyChar
    if name = [] then none else some (name, t.drop name.length)

/-- The parts of a key between dots, and the text after it and after blanks. -/
def keyParts? (t : Text) : Option (List Text × Text) :=
  match keyPart? t with
  | none => none
  | some (part, rest) =>
    match skipSpaces rest with
    | '.' :: more =>
      let next := skipSpaces more
      if next.length < t.length then (keyParts? next).map fun (parts, rest) => (part :: parts, rest)
      else none
    | rest => some ([part], rest)
termination_by t.length

/-- How deep tables and arrays may be nested, be it by a key or by brackets. -/
def depthLimit : Nat := 80

/-- A key, and the text after it and after blanks. -/
def key? (t : Text) : Option (List Text × Text) :=
  (keyParts? t).filter fun (parts, _) => parts.length ≤ depthLimit

-- ── Values ───────────────────────────────────────────────────────────────────────

/-- A word, number or date without quotes, and the text after it.  A time may
    follow a date after a space. -/
def bareToken (t : Text) : Text × Text :=
  let isTokenChar (c : Char) : Bool := isBareKeyChar c || c == '+' || c == '.' || c == ':'
  let token := t.takeWhile isTokenChar
  match afterDate? token, t.drop token.length with
  | some [], ' ' :: c :: rest =>
    if c.isDigit then
      let time := (c :: rest).takeWhile isTokenChar
      (token ++ ' ' :: time, (c :: rest).drop time.length)
    else (token, ' ' :: c :: rest)
  | _, rest => (token, rest)

/-- A truth value, a number or a date. -/
def bareValue? (t : Text) : Option (Value × Text) :=
  let (token, rest) := bareToken t
  if token = "true".toList then some (.boolean true, rest)
  else if token = "false".toList then some (.boolean false, rest)
  else if isMoment token then some (.moment, rest)
  else (number? token).map fun fits => (.number fits, rest)

mutual

/-- A value within `depth` more levels of nesting. -/
def value? : (fuel depth : Nat) → Text → Option (Value × Text)
  | 0, _, _ => none
  | fuel + 1, depth, t =>
    match t with
    | '"' :: _ => (string? t).map fun (s, rest) => (.string s, rest)
    | '\'' :: _ => (string? t).map fun (s, rest) => (.string s, rest)
    | '[' :: rest =>
      match depth with
      | 0 => none
      | depth + 1 => (items? fuel depth rest).map fun (items, rest) => (.array items, rest)
    | '\x7b' :: rest =>
      match depth with
      | 0 => none
      | depth + 1 =>
        (entries? fuel depth [] rest).map fun (entries, rest) => (.table .inline entries, rest)
    | _ => bareValue? t

/-- The items of an array up to and with its closing bracket. -/
def items? : (fuel depth : Nat) → Text → Option (List Value × Text)
  | 0, _, _ => none
  | fuel + 1, depth, t => do
    match ← skipFiller false t with
    | ']' :: rest => some ([], rest)
    | t =>
      let (item, rest) ← value? fuel depth t
      match ← skipFiller false rest with
      | ']' :: rest => some ([item], rest)
      | ',' :: rest =>
        let (items, rest) ← items? fuel depth rest
        some (item :: items, rest)
      | _ => none

/-- The entries of an inline table up to and with its closing brace, after those
    that were read already. -/
def entries? : (fuel depth : Nat) → Entries → Text → Option (Entries × Text)
  | 0, _, _, _ => none
  | fuel + 1, depth, entries, t => do
    match ← skipFiller false t with
    | '\x7d' :: rest => some (entries, rest)
    | t =>
      let (path, rest) ← key? t
      match ← skipFiller false rest with
      | '=' :: rest =>
        let (value, rest) ← value? fuel depth (← skipFiller false rest)
        let entries ← assign path value entries
        match ← skipFiller false rest with
        | '\x7d' :: rest => some (entries, rest)
        | ',' :: rest => entries? fuel depth entries rest
        | _ => none
      | _ => none

end

-- ── Lines ────────────────────────────────────────────────────────────────────────

/-- A document as far as it is read: the root table, and the table that values
    are put into. -/
structure Document where
  root : Entries
  current : List Text
  deriving Repr

/-- A line that gives a value. -/
def assignment (doc : Document) (t : Text) : Option (Document × Text) := do
  match ← key? t with
  | (path, '=' :: rest) =>
    let (value, rest) ← value? (2 * t.length + 2) depthLimit (skipSpaces rest)
    let root ← extend doc.current (assign path value) doc.root
    some ({ doc with root := root }, rest)
  | _ => none

/-- A header between brackets, single or double. -/
def header (doc : Document) (isElement : Bool) (t : Text) : Option (Document × Text) := do
  let (path, rest) ← key? (skipSpaces t)
  let opened := if isElement then openElement path doc.root else openTable path doc.root
  match isElement, rest with
  | true, ']' :: ']' :: rest => opened.map fun root => (⟨root, path⟩, rest)
  | false, ']' :: rest => opened.map fun root => (⟨root, path⟩, rest)
  | _, _ => none

/-- One line without its end: a header, a value, or nothing. -/
def line (doc : Document) (t : Text) : Option (Document × Text) :=
  match skipSpaces t with
  | '[' :: '[' :: rest => header doc true rest
  | '[' :: rest => header doc false rest
  | t =>
    match t with
    | [] => some (doc, t)
    | c :: _ => if c = '#' ∨ c = '\n' ∨ c = '\r' then some (doc, t) else assignment doc t

/-- The lines of a document. -/
def lines (doc : Document) (t : Text) : Option Document :=
  match line doc t with
  | none => none
  | some (doc, rest) =>
    match endOfLine rest with
    | none => none
    | some [] => some doc
    | some rest => if rest.length < t.length then lines doc rest else none
termination_by t.length

/-- The root table of a text.  A byte order mark may stand at its start. -/
def parse? (t : Text) : Option Entries :=
  let t := match t with
    | c :: rest => if c.toNat = 0xFEFF then rest else t
    | [] => t
  (lines ⟨[], []⟩ t).map Document.root

end FaultPages.Toml
