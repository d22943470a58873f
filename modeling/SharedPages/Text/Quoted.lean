import SharedPages.Text.Printable

/-! # Quoted texts

A text between double quotes, in which quotes, backslashes and characters without a shape of their
own are escaped.  Where a message shows a value that somebody gave, it quotes it. -/

namespace SharedPages.Text

/-- How a quoted text shows a character. -/
def escape (c : Char) : List Char :=
  if c = '"' then ['\\', '"']
  else if c = '\\' then ['\\', '\\']
  else if c = '\n' then ['\\', 'n']
  else if c = '\r' then ['\\', 'r']
  else if c = '\t' then ['\\', 't']
  else if c.toNat = 0 then ['\\', '0']
  else if isPrintable c then [c]
  else '\\' :: 'u' :: '\x7b' :: Nat.toDigits 16 c.toNat ++ ['\x7d']

/-- The text between double quotes, with escapes. -/
def quote (s : String) : String := String.ofList ('"' :: s.toList.flatMap escape ++ ['"'])

end SharedPages.Text
