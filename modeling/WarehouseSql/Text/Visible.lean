import WarehouseSql.Text.CaseTable
import WarehouseSql.Text.HiddenTable

/-!
Text shown inside a message: in double quotes, with escapes for quotes, backslashes, line ends and every character
that would not be seen.
-/

namespace WarehouseSql.Text

/-- The code point of a character in braces, in lower-case hexadecimal digits. -/
def codePointEscape (c : Char) : List Char := ['\\', 'u', '\x7b'] ++ Nat.toDigits 16 c.toNat ++ ['\x7d']

def showChar (c : Char) : List Char :=
  if c = '\x00' then ['\\', '0']
  else if c = '\t' then ['\\', 't']
  else if c = '\r' then ['\\', 'r']
  else if c = '\n' then ['\\', 'n']
  else if c = '\\' ∨ c = '"' then ['\\', c]
  else if c.toNat < 0x20 ∨ c.toNat = 0x7f then codePointEscape c
  else if c.toNat < 0x80 then [c]
  else if inRanges hiddenRanges c.toNat then codePointEscape c
  else [c]

def shown (s : String) : String := String.ofList ('"' :: s.toList.flatMap showChar ++ ['"'])

end WarehouseSql.Text
