import Shelfmark.Document.Node
import Shelfmark.Number.Numeral

/-!
# Documents - Reading JSON

The reader accepts exactly the JSON texts: one value with white space around
it.  A quoted text may spell a character beyond the basic plane as a pair of
surrogates; a surrogate on its own makes the text unreadable, but not the
document, since the value may belong to a key that nobody asks for.

Only a number without sign, fraction and exponent that fits into 64 bits can
be read as a count.
-/

namespace Shelfmark
namespace Document
namespace Json

/-! ## Lexical elements -/

/-- Whether a character may stand between the elements of a document. -/
def isGap (c : Char) : Bool :=
  c == ' ' || c == '\t' || c == '\n' || c == '\r'

/-- Drops the gap at the front. -/
def skipGap (s : Text) : Text :=
  s.dropWhile isGap

/-- The value of a hexadecimal digit. -/
def hexDigit? (c : Char) : Option Nat :=
  if c.isDigit then some (c.toNat - '0'.toNat)
  else if 'a' ≤ c ∧ c ≤ 'f' then some (c.toNat - 'a'.toNat + 10)
  else if 'A' ≤ c ∧ c ≤ 'F' then some (c.toNat - 'A'.toNat + 10)
  else none

/-- The value of a row of hexadecimal digits. -/
def hexValue? (digits : Text) : Option Nat :=
  digits.foldlM (fun value digit => (hexDigit? digit).map (16 * value + ·)) 0

/-- The character that an escape letter stands for. -/
def escape? : Char → Option Char
  | '"' => some '"'
  | '\\' => some '\\'
  | '/' => some '/'
  | 'b' => some '\x08'
  | 'f' => some '\x0c'
  | 'n' => some '\n'
  | 'r' => some '\r'
  | 't' => some '\t'
  | _ => none

/-- The code units of a quoted text behind its opening quotation mark, and what follows the
closing one.  A control character has to be escaped. -/
def codeUnits? : Text → Option (List Nat × Text)
  | [] => none
  | '"' :: s => some ([], s)
  | '\\' :: 'u' :: a :: b :: c :: d :: s => do
    let unit ← hexValue? [a, b, c, d]
    let (units, rest) ← codeUnits? s
    return (unit :: units, rest)
  | '\\' :: e :: s => do
    let char ← escape? e
    let (units, rest) ← codeUnits? s
    return (char.toNat :: units, rest)
  | c :: s =>
    if c.toNat < 0x20 then none
    else do
      let (units, rest) ← codeUnits? s
      return (c.toNat :: units, rest)

/-- Whether a code unit is the first half of a pair. -/
def isHighSurrogate (unit : Nat) : Bool :=
  0xD800 ≤ unit && unit ≤ 0xDBFF

/-- Whether a code unit is the second half of a pair. -/
def isLowSurrogate (unit : Nat) : Bool :=
  0xDC00 ≤ unit && unit ≤ 0xDFFF

/-- The character of a surrogate pair. -/
def pairedChar (high low : Nat) : Char :=
  Char.ofNat (0x10000 + (high - 0xD800) * 0x400 + (low - 0xDC00))

/-- The text of a row of code units; a surrogate without its other half has none. -/
def ofCodeUnits? : List Nat → Option Text
  | [] => some []
  | unit :: units =>
    if isHighSurrogate unit then
      match units with
      | [] => none
      | low :: rest =>
        if isLowSurrogate low then (ofCodeUnits? rest).map (pairedChar unit low :: ·) else none
    else if isLowSurrogate unit then none
    else (ofCodeUnits? units).map (Char.ofNat unit :: ·)

/-- The digits at the front, at least one. -/
def digits? (s : Text) : Option (Text × Text) :=
  let digits := s.takeWhile Char.isDigit
  if digits.isEmpty then none else some (digits, s.drop digits.length)

/-- The whole part of a number: a zero alone, or digits that do not begin with one. -/
def wholePart? : Text → Option (Text × Text)
  | '0' :: s => some (['0'], s)
  | s => digits? s

/-- Skips a fraction, if there is one; the flag says whether there was. -/
def skipFraction? : Text → Option (Bool × Text)
  | '.' :: s => (digits? s).map fun parts => (true, parts.2)
  | s => some (false, s)

/-- Skips an exponent, if there is one; the flag says whether there was. -/
def skipExponent? : Text → Option (Bool × Text)
  | [] => some (false, [])
  | e :: s =>
    if e = 'e' ∨ e = 'E' then
      (digits? (Number.cutSign s).2).map fun parts => (true, parts.2)
    else some (false, e :: s)

/-- The greatest count. -/
def greatestCount : Nat := Nat.pow 2 64 - 1

/-- A number as a scalar, and what follows it. -/
def number? (s : Text) : Option (Scalar × Text) := do
  let negative := s.head? == some '-'
  let (whole, s) ← wholePart? (Text.dropFirst '-' s)
  let (hasFraction, s) ← skipFraction? s
  let (hasExponent, s) ← skipExponent? s
  let value := Number.ofDigits whole
  let isCount := !(negative || hasFraction || hasExponent) && decide (value ≤ greatestCount)
  return ({ count := if isCount then some value else none }, s)

/-- A scalar at the front of a text, and what follows it. -/
def scalar? : Text → Option (Scalar × Text)
  | 'n' :: 'u' :: 'l' :: 'l' :: s => some ({ isAbsent := true }, s)
  | 't' :: 'r' :: 'u' :: 'e' :: s => some ({ flag := some true }, s)
  | 'f' :: 'a' :: 'l' :: 's' :: 'e' :: s => some ({ flag := some false }, s)
  | '"' :: s => (codeUnits? s).map fun parts => ({ text := ofCodeUnits? parts.1 }, parts.2)
  | s => number? s

/-! ## Values -/

mutual

/-- A value at the front of a text without gap, and what follows it; `depth` bounds the steps. -/
def value? : Nat → Text → Option (Node × Text)
  | 0, _ => none
  | depth + 1, '[' :: s =>
    match skipGap s with
    | ']' :: rest => some (.sequence [], rest)
    | s => (items? depth s).map fun parts => (.sequence parts.1, parts.2)
  | depth + 1, '\x7b' :: s =>
    match skipGap s with
    | '\x7d' :: rest => some (.mapping [], rest)
    | s => (members? depth s).map fun parts => (.mapping parts.1, parts.2)
  | _ + 1, s => (scalar? s).map fun parts => (.scalar parts.1, parts.2)

/-- The values up to a closing bracket, at least one, with commas between them. -/
def items? : Nat → Text → Option (List Node × Text)
  | 0, _ => none
  | depth + 1, s =>
    match value? depth s with
    | none => none
    | some (item, s) =>
      match skipGap s with
      | ']' :: rest => some ([item], rest)
      | ',' :: s => (items? depth (skipGap s)).map fun parts => (item :: parts.1, parts.2)
      | _ => none

/-- The keys and values up to a closing brace, at least one pair, with commas between them. -/
def members? : Nat → Text → Option (List (Node × Node) × Text)
  | 0, _ => none
  | depth + 1, '"' :: s =>
    match codeUnits? s with
    | none => none
    | some (units, s) =>
      let key : Node := .scalar { text := ofCodeUnits? units }
      match skipGap s with
      | ':' :: s =>
        match value? depth (skipGap s) with
        | none => none
        | some (value, s) =>
          match skipGap s with
          | '\x7d' :: rest => some ([(key, value)], rest)
          | ',' :: s =>
            (members? depth (skipGap s)).map fun parts => ((key, value) :: parts.1, parts.2)
          | _ => none
      | _ => none
  | _ + 1, _ => none

end

/-- The tree of a JSON text. -/
def read? (s : Text) : Option Node :=
  match value? (s.length + 1) (skipGap s) with
  | some (node, rest) => if (skipGap rest).isEmpty then some node else none
  | none => none

end Json
end Document
end Shelfmark
