import Shelfmark.Character.Range

/-!
# Characters - White space

The characters with the Unicode property White_Space: the tab and line
controls, the space, the no-break and typographic spaces, and the line and
paragraph separators.  The zero-width space and the file separators are not
among them.
-/

namespace Shelfmark
namespace Character

/-- The code points with the property White_Space. -/
def blankRanges : List (Nat × Nat) :=
  [(0x09, 0x0D), (0x20, 0x20), (0x85, 0x85), (0xA0, 0xA0), (0x1680, 0x1680),
   (0x2000, 0x200A), (0x2028, 0x2029), (0x202F, 0x202F), (0x205F, 0x205F),
   (0x3000, 0x3000)]

/-- A white-space character. -/
def isBlank (c : Char) : Bool :=
  inRanges blankRanges c.toNat

end Character
end Shelfmark
