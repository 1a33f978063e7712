import Shelfmark.Text.Basic

/-!
# Documents - Writing JSON

A report is written as JSON with one member or item to a line, indented by two
spaces for each level; an empty list stays on its line.  Quotation marks,
backslashes and control characters are escaped, everything else is written as
it is.
-/

namespace Shelfmark
namespace Document
namespace Json

/-- A value to be written; the members of an object keep their order. -/
inductive Value where
  /-- A quoted text. -/
  | text (value : Text)
  /-- A list. -/
  | list (items : List Value)
  /-- Names with values. -/
  | object (members : List (String × Value))
  deriving Repr

/-- A member of an object that is left out if there is no value. -/
def member? (name : String) (value : Option Text) : List (String × Value) :=
  (value.map fun text => (name, Value.text text)).toList

/-! ## Quoted texts -/

/-- A character inside quotation marks. -/
def escaped (c : Char) : Text :=
  match c with
  | '"' => ['\\', '"']
  | '\\' => ['\\', '\\']
  | '\x08' => ['\\', 'b']
  | '\x0c' => ['\\', 'f']
  | '\n' => ['\\', 'n']
  | '\r' => ['\\', 'r']
  | '\t' => ['\\', 't']
  | c =>
    if c.toNat < 0x20 then ['\\', 'u'] ++ Text.padZeros 4 (Nat.toDigits 16 c.toNat) else [c]

/-- A text between quotation marks. -/
def quoted (s : Text) : Text :=
  '"' :: s.flatMap escaped ++ ['"']

/-! ## Layout -/

/-- A new line indented to a level. -/
def newLine (level : Nat) : Text :=
  '\n' :: List.replicate (2 * level) ' '

mutual

/-- A value whose first line is indented to a level already. -/
def Value.render (level : Nat) : Value → Text
  | .text value => quoted value
  | .list [] => ['[', ']']
  | .list (item :: items) =>
    '[' :: newLine (level + 1) ++ item.render (level + 1) ++ renderItems level items ++ [']']
  | .object [] => ['\x7b', '\x7d']
  | .object ((name, value) :: members) =>
    '\x7b' :: newLine (level + 1) ++ quoted name.toList ++ [':', ' '] ++
      value.render (level + 1) ++ renderMembers level members ++ ['\x7d']

/-- The items behind the first, and the line of the closing bracket. -/
def renderItems (level : Nat) : List Value → Text
  | [] => newLine level
  | item :: items =>
    ',' :: newLine (level + 1) ++ item.render (level + 1) ++ renderItems level items

/-- The members behind the first, and the line of the closing brace. -/
def renderMembers (level : Nat) : List (String × Value) → Text
  | [] => newLine level
  | (name, value) :: members =>
    ',' :: newLine (level + 1) ++ quoted name.toList ++ [':', ' '] ++
      value.render (level + 1) ++ renderMembers level members

end

/-- The text of a value, laid out over several lines. -/
def Value.pretty (value : Value) : Text :=
  value.render 0

end Json
end Document
end Shelfmark
