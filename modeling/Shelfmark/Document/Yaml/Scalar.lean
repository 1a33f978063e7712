import Shelfmark.Document.Json.Reader
import Shelfmark.Document.Yaml.Source

/-!
# Documents - YAML scalars

A scalar may run over several lines.  A line break inside it becomes a space,
and of several breaks in a row the first is dropped; blanks around the breaks
do not count.

The last section says what a plain scalar may stand for: its own text, a truth
value, a number in one of four bases, or nothing at all.
-/

namespace Shelfmark
namespace Document
namespace Yaml

/-! ## Gaps -/

/-- The white space between two words of a scalar. -/
structure Gap where
  /-- The spaces and tabs on the line, as long as no break has been seen. -/
  spaces : Text := []
  /-- The line breaks. -/
  breaks : Text := []
  /-- Whether a break came first that was escaped. -/
  isEscaped : Bool := false

/-- Whether the gap goes over the end of a line. -/
def Gap.hasBreak (gap : Gap) : Bool :=
  gap.isEscaped || !gap.breaks.isEmpty

/-- Whether there is no gap. -/
def Gap.isEmpty (gap : Gap) : Bool :=
  gap.spaces.isEmpty && !gap.hasBreak

/-- Adds white space to a gap; behind a break only further breaks count. -/
def Gap.add (gap : Gap) (c : Char) : Gap :=
  if isBreak c then { gap with spaces := [], breaks := gap.breaks ++ [c] }
  else if gap.hasBreak then gap
  else { gap with spaces := gap.spaces ++ [c] }

/-- What a gap contributes to the text of the scalar. -/
def Gap.text (gap : Gap) : Text :=
  if gap.isEscaped then gap.breaks
  else
    match gap.breaks with
    | [] => gap.spaces
    | ['\n'] => [' ']
    | '\n' :: more => more
    | breaks => breaks

/-! ## Plain scalars -/

/-- The characters that structure a flow collection. -/
def isFlowMark (c : Char) : Bool :=
  c == ',' || c == '[' || c == ']' || c == '\x7b' || c == '\x7d'

/-- Whether a plain scalar ends in front of a character that follows its last word directly. -/
def endsPlain (inFlow : Bool) (c : Char) (rest : Source) : Bool :=
  (c == ':' && rest.atBlank) || (inFlow && isFlowMark c)

/-- Whether a plain scalar ends in front of a character that follows a gap. -/
def endsPlainBehindGap (inFlow : Bool) (indent : Nat) (gap : Gap) (source : Source) : Bool :=
  match source with
  | [] => true
  | c :: _ =>
    !gap.isEmpty &&
      ((gap.hasBreak && !inFlow && decide (c.column < indent)) ||
        source.atDocumentMarker || c.char == '#')

/-- Reads a plain scalar: its text, what follows it, and whether a line ended behind it.  A
tab may not take part in the indentation, and in a flow collection a colon may not touch a
flow mark. -/
def plain? (inFlow : Bool) (indent : Nat) (gap : Gap) : Source → Option (Text × Source × Bool)
  | [] => some ([], [], gap.hasBreak)
  | c :: rest =>
    if isBreak c.char then plain? inFlow indent (gap.add c.char) rest
    else if isSpace c.char then
      if gap.hasBreak && decide (c.column < indent) && c.char == '\t' then none
      else plain? inFlow indent (gap.add c.char) rest
    else if endsPlainBehindGap inFlow indent gap (c :: rest) || endsPlain inFlow c.char rest then
      some ([], c :: rest, gap.hasBreak)
    else if inFlow && c.char == ':' &&
        (rest.head?.any fun next => isFlowMark next.char || next.char == '?') then none
    else
      match plain? inFlow indent {} rest with
      | none => none
      | some (text, rest, endsLine) => some (gap.text ++ c.char :: text, rest, endsLine)

/-! ## Quoted scalars -/

/-- Reads a scalar behind its opening apostrophe: its text and what follows it.  Two
apostrophes stand for one. -/
def single? (gap : Gap) : Source → Option (Text × Source)
  | [] => none
  | [c] => if c.char == '\'' then some (gap.text, []) else none
  | c :: d :: rest =>
    if isBreak c.char || isSpace c.char then single? (gap.add c.char) (d :: rest)
    else if Source.atDocumentMarker (c :: d :: rest) then none
    else if c.char == '\'' then
      if d.char == '\'' then
        (single? {} rest).map fun parts => (gap.text ++ '\'' :: parts.1, parts.2)
      else some (gap.text, d :: rest)
    else (single? {} (d :: rest)).map fun parts => (gap.text ++ c.char :: parts.1, parts.2)

/-- The character that an escape letter stands for. -/
def escape? : Char → Option Char
  | '0' => some '\x00'
  | 'a' => some '\x07'
  | 'b' => some '\x08'
  | 't' => some '\t'
  | '\t' => some '\t'
  | 'n' => some '\n'
  | 'v' => some '\x0b'
  | 'f' => some '\x0c'
  | 'r' => some '\r'
  | 'e' => some '\x1b'
  | ' ' => some ' '
  | '"' => some '"'
  | '/' => some '/'
  | '\\' => some '\\'
  | 'N' => some '\u0085'
  | '_' => some '\u00A0'
  | 'L' => some '\u2028'
  | 'P' => some '\u2029'
  | _ => none

/-- The number of hexadecimal digits that an escape letter asks for. -/
def escapeLength? : Char → Option Nat
  | 'x' => some 2
  | 'u' => some 4
  | 'U' => some 8
  | _ => none

/-- The character with the number that some hexadecimal digits denote. -/
def charOfDigits? (length : Nat) (source : Source) : Option Char :=
  let digits := (source.take length).map Located.char
  if digits.length < length then none
  else
    (Json.hexValue? digits).bind fun n =>
      if n.isValidChar then some (Char.ofNat n) else none

/-- Reads a scalar behind its opening quotation mark: its text and what follows it; `steps`
bounds the characters read. -/
def double? : Nat → Gap → Source → Option (Text × Source)
  | 0, _, _ => none
  | _, _, [] => none
  | steps + 1, gap, c :: rest =>
    let continue? (char : Char) (rest : Source) : Option (Text × Source) :=
      (double? steps {} rest).map fun parts => (gap.text ++ char :: parts.1, parts.2)
    if isBreak c.char || isSpace c.char then double? steps (gap.add c.char) rest
    else if Source.atDocumentMarker (c :: rest) then none
    else if c.char == '"' then some (gap.text, rest)
    else if c.char != '\\' then continue? c.char rest
    else
      match rest with
      | [] => none
      | e :: rest =>
        if isBreak e.char then
          (double? steps { isEscaped := true } rest).map fun parts =>
            (gap.text ++ parts.1, parts.2)
        else
          match escapeLength? e.char with
          | some length =>
            (charOfDigits? length rest).bind fun char => continue? char (rest.drop length)
          | none => (escape? e.char).bind fun char => continue? char rest

/-! ## The meaning of plain scalars -/

/-- The spellings of nothing. -/
def nullWords : List String := ["null", "Null", "NULL", "~"]

/-- The spellings of the two truth values. -/
def flagWords : List (String × Bool) :=
  [("true", true), ("True", true), ("TRUE", true),
   ("false", false), ("False", false), ("FALSE", false)]

/-- The value of a digit in a base up to sixteen. -/
def digitIn? (base : Nat) (c : Char) : Option Nat :=
  (Json.hexDigit? c).bind fun digit => if digit < base then some digit else none

/-- The value of a row of digits in a base, if it fits into 64 bits. -/
def countIn? (base : Nat) (digits : Text) : Option Nat :=
  if digits.isEmpty then none
  else
    (digits.foldlM (fun value c => (digitIn? base c).map (base * value + ·)) 0).bind fun value =>
      if value ≤ Json.greatestCount then some value else none

/-- The number that a plain scalar denotes: after an optional plus sign a mark for the base
and digits, or decimal digits.  A decimal number of several digits does not begin with a
zero. -/
def plainCount? (s : Text) : Option Nat :=
  let digits := Text.dropFirst '+' s
  let marked : Option Nat :=
    match digits with
    | '0' :: 'x' :: rest => countIn? 16 rest
    | '0' :: 'o' :: rest => countIn? 8 rest
    | '0' :: 'b' :: rest => countIn? 2 rest
    | _ => none
  let isPadded := decide (1 < digits.length) && digits.head? == some '0'
  marked.or (if isPadded then none else countIn? 10 digits)

/-- What a plain scalar can be read as. -/
def plainScalar (s : Text) : Scalar where
  text := some s
  flag := (flagWords.find? fun word => word.1.toList == s).map Prod.snd
  count := plainCount? s
  isAbsent := s.isEmpty || nullWords.any fun word => word.toList == s
  isBlank := s.isEmpty

/-- What a quoted scalar can be read as: nothing but its text. -/
def quotedScalar (s : Text) : Scalar where
  text := some s

end Yaml
end Document
end Shelfmark
