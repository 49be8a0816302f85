import FaultPages.Text.Utf8

/-! # Query strings — pairs of names and values

    Pairs stand between ampersands, a name before the first equals sign.  A plus
    sign is a space, a percent sign with two hexadecimal digits is a byte, and
    what is not UTF-8 is replaced. -/

namespace FaultPages.Http.Query

/-- The bytes that a part of a query stands for. -/
def bytes : Text → List UInt8
  | [] => []
  | '%' :: a :: b :: rest =>
    match Text.ofDigitsIn? 16 [a, b] with
    | some n => n.toUInt8 :: bytes rest
    | none => 0x25 :: bytes (a :: b :: rest)
  | '+' :: rest => 0x20 :: bytes rest
  | c :: rest => String.utf8EncodeChar c ++ bytes rest

/-- The text that a part of a query stands for. -/
def decode (t : Text) : Text := Text.Utf8.ofBytesLossy (bytes t)

/-- The pairs of a query.  Empty ones are passed over. -/
def pairs (t : Text) : List (Text × Text) :=
  ((Text.splitOn '&' t).filter (· != [])).map fun pair =>
    let (name, value) := Text.cutAt '=' pair
    (decode name, decode (value.getD []))

/-- A field that stands in a query more than once. -/
structure Repeated where
  field : Text
  deriving DecidableEq, Repr

/-- The message of a repeated field. -/
def Repeated.message (r : Repeated) : Text :=
  "Failed to deserialize query string: duplicate field `".toList ++ r.field ++ ['\x60']

/-- The value of a field that may stand in a query once. -/
def field? (name : Text) (query : Option Text) : Except Repeated (Option Text) :=
  match (pairs (query.getD [])).filter fun (n, _) => n == name with
  | [] => .ok none
  | [(_, value)] => .ok (some value)
  | _ => .error ⟨name⟩

end FaultPages.Http.Query
