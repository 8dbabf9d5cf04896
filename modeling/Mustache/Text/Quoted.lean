import Mustache.Text.Printable
/-!
The quoted form of a text, for inspection: between double quotes, with escapes for the quote, the
backslash, common controls and every character that is not printable.
-/
namespace Mustache.Text

/-- A character as it stands between quotes. -/
def quotedChar (c : Char) : List Char :=
  if c = '\"' then ['\\', '\"']
  else if c = '\\' then ['\\', '\\']
  else if c = '\n' then ['\\', 'n']
  else if c = '\r' then ['\\', 'r']
  else if c = '\t' then ['\\', 't']
  else if c = Char.ofNat 0 then ['\\', '0']
  else if isPrintable c then [c]
  else ['\\', 'u', '\x7b'] ++ Nat.toDigits 16 c.toNat ++ ['\x7d']

/-- A text between quotes. -/
def quoted (s : String) : String :=
  String.ofList ('\"' :: s.toList.flatMap quotedChar ++ ['\"'])

end Mustache.Text
