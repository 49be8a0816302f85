import FaultPages.Text.Basic

/-! # Addresses — IP addresses as they are written

    An IPv4 address is four decimal numbers without leading zeros.  An IPv6
    address is eight groups of up to four hexadecimal digits, of which one run
    may be left out; its last two groups may be an IPv4 address.  It is written
    back in lower case with the first longest run of zeros left out. -/

namespace FaultPages

/-- An IP address. -/
inductive IpAddress where
  | v4 (octets : List Nat)
  | v6 (groups : List Nat)
  deriving DecidableEq, Repr

namespace IpAddress

-- ── Reading ──────────────────────────────────────────────────────────────────────

/-- One number of an IPv4 address. -/
def octet? (t : Text) : Option Nat :=
  if t = [] ∨ 3 < t.length ∨ !t.all Char.isDigit then none
  else if 1 < t.length ∧ t.head? = some '0' then none
  else if Text.ofDigits t ≤ 255 then some (Text.ofDigits t) else none

/-- The octets of an IPv4 address. -/
def octets? (t : Text) : Option (List Nat) :=
  match Text.splitOn '.' t with
  | [a, b, c, d] => [a, b, c, d].mapM octet?
  | _ => none

/-- One group of an IPv6 address. -/
def group? (t : Text) : Option Nat :=
  if t = [] ∨ 4 < t.length then none else Text.ofDigitsIn? 16 t

/-- The groups between colons, of which the last may be an IPv4 address that
    counts for two. -/
def groupList? : List Text → Option (List Nat)
  | [] => some []
  | [last] =>
    match group? last with
    | some g => some [g]
    | none => (octets? last).map fun
      | [a, b, c, d] => [256 * a + b, 256 * c + d]
      | _ => []
  | t :: rest => do
    let g ← group? t
    let gs ← groupList? rest
    some (g :: gs)

/-- The groups of a text without a gap; an empty text has none. -/
def groups? (t : Text) : Option (List Nat) :=
  if t = [] then some [] else groupList? (Text.splitOn ':' t)

/-- The text before the first double colon, and the text after it. -/
def cutAtGap : Text → Option (Text × Text)
  | ':' :: ':' :: rest => some ([], rest)
  | c :: rest => (cutAtGap rest).map fun (before, after) => (c :: before, after)
  | [] => none

/-- The groups of an IPv6 address.  A gap stands for at least one group, and an
    IPv4 address does not stand before it. -/
def groupsOfText? (t : Text) : Option (List Nat) :=
  match cutAtGap t with
  | none => (groups? t).bind fun gs => if gs.length = 8 then some gs else none
  | some (before, after) => do
    let front ← groups? before
    let back ← groups? after
    if before.contains '.' || 7 < front.length + back.length then none
    else some (front ++ List.replicate (8 - front.length - back.length) 0 ++ back)

/-- The address that a text writes. -/
def parse? (t : Text) : Option IpAddress :=
  match octets? t with
  | some octets => some (.v4 octets)
  | none => (groupsOfText? t).map .v6

-- ── Writing ──────────────────────────────────────────────────────────────────────

/-- The length of the run of zeros at the start of a list. -/
def zeroRun (groups : List Nat) : Nat := (groups.takeWhile (· == 0)).length

/-- The start and the length of the first longest run of zeros, where `start` is
    the place of the list's first group. -/
def longestZeroRun (start : Nat) : List Nat → Nat × Nat
  | [] => (start, 0)
  | g :: rest =>
    let here := zeroRun (g :: rest)
    let later := longestZeroRun (start + 1) rest
    if later.2 ≤ here then (start, here) else later

/-- Texts with a separator between them. -/
def joined (separator : Text) : List Text → Text
  | [] => []
  | [t] => t
  | t :: rest => t ++ separator ++ joined separator rest

/-- The text of octets. -/
def octetsText (octets : List Nat) : Text := joined ['.'] (octets.map Text.decimal)

/-- The text of groups. -/
def groupsText (groups : List Nat) : Text := joined [':'] (groups.map (Nat.toDigits 16))

/-- The text of an address.  One that stands for an IPv4 address shows it. -/
def text : IpAddress → Text
  | .v4 octets => octetsText octets
  | .v6 [0, 0, 0, 0, 0, 0xFFFF, g, h] =>
    "::ffff:".toList ++ octetsText [g / 256, g % 256, h / 256, h % 256]
  | .v6 groups =>
    let (start, length) := longestZeroRun 0 groups
    if 1 < length then
      groupsText (groups.take start) ++ [':', ':'] ++ groupsText (groups.drop (start + length))
    else groupsText groups

/-- The text of an address with a port. -/
def withPort (a : IpAddress) (port : Nat) : Text :=
  let host := match a with
    | .v4 _ => a.text
    | .v6 _ => '[' :: a.text ++ [']']
  host ++ ':' :: Text.decimal port

end IpAddress

end FaultPages
