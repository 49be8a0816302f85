import FaultPages.Text.Basic

/-! # URIs — what a request asks for

    A URI is a path with an optional query, perhaps after a scheme and an
    authority, or an authority alone.  A fragment is read and dropped.  Which
    characters are allowed differs between path, query and authority, and the
    first two take every character above ASCII.  No part takes a control
    character of ASCII. -/

namespace FaultPages.Http

/-- A URI by its parts.  An authority alone has an empty path. -/
structure Uri where
  scheme : Option Text
  authority : Option Text
  path : Text
  query : Option Text
  deriving DecidableEq, Repr

namespace Uri

/-- The greatest length of a URI, in bytes. -/
def lengthLimit : Nat := 65534

/-- The greatest length of a scheme. -/
def schemeLimit : Nat := 64

-- ── Characters ───────────────────────────────────────────────────────────────────

/-- Whether a character may stand in a path. -/
def isPathChar (c : Char) : Bool :=
  let n := c.toNat
  n == 0x21 || (0x24 ≤ n && n ≤ 0x3B) || n == 0x3D || (0x40 ≤ n && n ≤ 0x5F) ||
    (0x61 ≤ n && n ≤ 0x7E) || 0x80 ≤ n || c == '"'

/-- Whether a character may stand in a query. -/
def isQueryChar (c : Char) : Bool :=
  let n := c.toNat
  n == 0x21 || (0x24 ≤ n && n ≤ 0x3B) || n == 0x3D || (0x3F ≤ n && n ≤ 0x7E) || 0x80 ≤ n

/-- Whether a character may stand in a scheme. -/
def isSchemeChar (c : Char) : Bool := c.isAlphanum || "+-.~".toList.contains c

/-- Whether a character may stand in an authority. -/
def isAuthorityChar (c : Char) : Bool :=
  c.isAlphanum || "!$&'()*+,-.:;=@[]_~".toList.contains c

/-- A path with an optional query, without its fragment. -/
def pathAndQuery? (t : Text) : Option (Text × Option Text) :=
  let t := (Text.cutAt '#' t).1
  let (path, query) := Text.cutAt '?' t
  if path.all isPathChar && query.all (·.all isQueryChar) then some (path, query) else none

-- ── Authorities ──────────────────────────────────────────────────────────────────

/-- How far an authority was read: the colons, brackets and percent signs that
    count, and whether the last character was an at sign. -/
structure AuthorityState where
  colons : Nat := 0
  opened : Bool := false
  closed : Bool := false
  percent : Bool := false
  atSign : Bool := false

/-- Read one character of an authority.  What stands before an at sign or within
    brackets is counted on its own. -/
def AuthorityState.step (s : AuthorityState) (c : Char) : Option AuthorityState :=
  let s := { s with atSign := false }
  if c = ':' then if 8 ≤ s.colons then none else some { s with colons := s.colons + 1 }
  else if c = '[' then if s.percent || s.opened then none else some { s with opened := true }
  else if c = ']' then
    if !s.opened || s.closed then none
    else some { s with closed := true, colons := 0, percent := false }
  else if c = '@' then some { s with colons := 0, percent := false, atSign := true }
  else if c = '%' then some { s with percent := true }
  else if isAuthorityChar c then some s
  else none

/-- Whether a text is an authority. -/
def isAuthority (t : Text) : Bool :=
  match t.foldlM AuthorityState.step {} with
  | none => false
  | some s => s.opened == s.closed && s.colons ≤ 1 && !s.atSign && !s.percent

/-- An authority at the start of a text, and what follows it. -/
def authority? (t : Text) : Option (Text × Text) :=
  let isEnd (c : Char) : Bool := c == '/' || c == '?' || c == '#'
  let authority := t.takeWhile fun c => !isEnd c
  if isAuthority authority then some (authority, t.drop authority.length) else none

-- ── Whole URIs ───────────────────────────────────────────────────────────────────

/-- What a text begins with, as far as schemes go. -/
inductive SchemeStart where
  | absent
  | tooLong
  | found (scheme rest : Text)

/-- The scheme at the start of a text, if there is one.  The two usual ones are
    written in lower case. -/
def schemeStart (t : Text) : SchemeStart :=
  let scheme := t.takeWhile isSchemeChar
  match t.drop scheme.length with
  | ':' :: '/' :: '/' :: rest =>
    if schemeLimit < scheme.length then .tooLong
    else
      let small := Text.lower scheme
      .found (if small = "http".toList ∨ small = "https".toList then small else scheme) rest
  | _ => .absent

/-- The URI that a text writes. -/
def parse? (t : Text) : Option Uri :=
  if t = [] ∨ lengthLimit < Text.byteLength t then none
  else if t = ['*'] then some ⟨none, none, t, none⟩
  else if t.head? = some '/' then
    (pathAndQuery? t).map fun (path, query) => ⟨none, none, path, query⟩
  else
    match schemeStart t with
    | .tooLong => none
    | .absent =>
      match authority? t with
      | some (authority, []) => some ⟨none, some authority, [], none⟩
      | _ => none
    | .found scheme rest =>
      match authority? rest with
      | some (a :: authority, rest) =>
        (pathAndQuery? rest).map fun (path, query) =>
          ⟨some scheme, some (a :: authority), if path = [] then ['/'] else path, query⟩
      | _ => none

/-- The text of a URI. -/
def text (u : Uri) : Text :=
  (match u.scheme with
    | some scheme => scheme ++ [':', '/', '/']
    | none => []) ++ u.authority.getD [] ++ u.path ++
  match u.query with
  | some query => '?' :: query
  | none => []

-- ── Paths below a base ───────────────────────────────────────────────────────────

/-- How much of a path a base with parameters takes up, segment by segment and
    with the slash that follows; nothing if they do not match. -/
def matchedLength? : List Text → List Text → Option Nat
  | [], [] => some 0
  | _ :: _, [] => some 1
  | [], _ :: _ => none
  | segment :: path, part :: parts =>
    if part.head? = some ':' ∨ part = segment then
      (matchedLength? path parts).map (segment.length + 1 + ·)
    else if part = [] then some 1
    else none

/-- The URI below a path that it starts with; nothing if it does not start with
    it. -/
def below? (base : Text) (u : Uri) : Option Uri :=
  (matchedLength? (Text.splitOn '/' u.path).tail (Text.splitOn '/' base).tail).map fun n =>
    let rest := u.path.drop n
    { u with path := if rest.head? = some '/' then rest else '/' :: rest }

end Uri

end FaultPages.Http
