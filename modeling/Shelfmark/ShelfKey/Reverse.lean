import Shelfmark.Character.Case
import Shelfmark.Character.Latin
import Shelfmark.Character.Letter
import Shelfmark.Text.Basic

/-!
# Shelf keys - Reverse keys

To browse backwards a catalogue sorts on keys that ascend where the shelf keys
descend.  Letters and digits are exchanged along the row `0-9A-Z`, so that `0`
becomes `Z` and `A` becomes `P`; punctuation, which sorts first in a shelf key,
becomes the last of all characters, and so does the padding behind the key.
-/

namespace Shelfmark
namespace ShelfKey

/-- Sorts before everything in a forward key. -/
def sortFirst : Char := '\x00'

/-- Sorts after everything in a forward key. -/
def sortLast : Char := Char.ofNat 0x10FFFF

/-- Reverse keys are padded to this many characters. -/
def reverseLength : Nat := 75

/-- The row of digits and capitals along which characters are exchanged. -/
def row : List Char :=
  "0123456789ABCDEFGHIJKLMNOPQRSTUVWXYZ".toList

/-- The character that stands as far from the end of the row as `c` does from its front. -/
def exchange? (c : Char) : Option Char :=
  (row.zip row.reverse).lookup c

/-- The punctuation that sorts after the letters in a forward key. -/
def latePunctuation : List Char :=
  ['\x7b', '|', '\x7d', '~']

/-- The counterpart of a character in a reverse key.  Small letters count as capitals and
letters with diacritics as the plain ones; a letter without a plain form and a combining mark
come first. -/
def reverseChar (c : Char) : Char :=
  let c := Character.simpleUpper c
  if Character.isCombining c then sortFirst
  else if Character.isAlphanumeric c then
    ((exchange? c).or ((Character.latinBase? c).bind exchange?)).getD sortFirst
  else if latePunctuation.contains c then sortFirst
  else sortLast

/-- The reverse key of a shelf key. -/
def reverse (key : Text) : Text :=
  key.map reverseChar ++ List.replicate (reverseLength - key.length) sortLast

end ShelfKey
end Shelfmark
