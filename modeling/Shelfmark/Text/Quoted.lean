import Shelfmark.Character.Visible
import Shelfmark.Text.Basic

/-!
# Text - Quoted values

A message that names a bad value writes it between quotation marks, so that
its ends and every character that cannot be seen are plain to the reader.
Marks that would attach themselves to the character in front count among the
characters that cannot be seen.
-/

namespace Shelfmark
namespace Text

/-- A character inside quotation marks: the mark itself, the escape sign and the common
control characters have short forms, other invisible characters are written by number. -/
def quotedChar (c : Char) : Text :=
  if c = '"' then ['\\', '"']
  else if c = '\\' then ['\\', '\\']
  else if c = '\n' then ['\\', 'n']
  else if c = '\t' then ['\\', 't']
  else if c = '\r' then ['\\', 'r']
  else if c = '\x00' then ['\\', '0']
  else if Character.isVisible c then [c]
  else ['\\', 'u', '\x7b'] ++ Nat.toDigits 16 c.toNat ++ ['\x7d']

/-- A text between quotation marks. -/
def quoted (s : Text) : Text :=
  ['"'] ++ s.flatMap quotedChar ++ ['"']

end Text
end Shelfmark
