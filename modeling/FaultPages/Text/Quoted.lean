import FaultPages.Text.Printable

/-! # Quoted names — a text as it is shown in a message

    The text stands between double quotes.  Quotes and backslashes are escaped
    by a backslash, the usual control characters by their letters, and every
    other character that is not printable by its code point. -/

namespace FaultPages.Text

/-- The code point of a character in hexadecimal, between braces. -/
def codePointEscape (c : Char) : Text :=
  ['\\', 'u', '\x7b'] ++ Nat.toDigits 16 c.toNat ++ ['\x7d']

/-- One character of a quoted name. -/
def shownChar (c : Char) : Text :=
  if c.toNat = 0 then ['\\', '0']
  else if c = '\t' then ['\\', 't']
  else if c = '\n' then ['\\', 'n']
  else if c = '\r' then ['\\', 'r']
  else if c = '"' then ['\\', '"']
  else if c = '\\' then ['\\', '\\']
  else if isPrintable c then [c]
  else codePointEscape c

/-- A name between quotes. -/
def shown (t : Text) : Text := '"' :: t.flatMap shownChar ++ ['"']

end FaultPages.Text
