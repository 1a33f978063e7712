import Shelfmark.Document.Yaml.Scalar

/-!
# Documents - YAML tokens

A YAML text is first cut into tokens.  Indentation becomes brackets here: a
block collection is opened where its first item or key stands further to the
right than everything around it, and closed where a line begins further to the
left.

Whether something is a key shows only at the colon behind it.  Each place where
a key may begin is therefore remembered until a colon turns it into one; it has
to stand on the same line and not too far away.
-/

namespace Shelfmark
namespace Document
namespace Yaml

/-- What a YAML text is made of. -/
inductive Token where
  /-- Begins a document explicitly. -/
  | documentStart
  /-- Ends a document explicitly. -/
  | documentEnd
  /-- Opens a block sequence. -/
  | openSequence
  /-- Opens a block mapping. -/
  | openMapping
  /-- Closes a block collection. -/
  | close
  /-- Begins an item of a block sequence. -/
  | item
  /-- Begins a key. -/
  | key
  /-- Begins a value. -/
  | value
  /-- Opens a flow sequence. -/
  | openFlowSequence
  /-- Closes a flow sequence. -/
  | closeFlowSequence
  /-- Opens a flow mapping. -/
  | openFlowMapping
  /-- Closes a flow mapping. -/
  | closeFlowMapping
  /-- Divides the items of a flow collection. -/
  | comma
  /-- A scalar. -/
  | scalar (value : Scalar)
  deriving Repr, DecidableEq

/-! ## State -/

/-- A place where a key may have begun. -/
structure KeyPlace where
  /-- Where it is in the text. -/
  place : Located
  /-- The number of tokens in front of it. -/
  position : Nat
  /-- Whether nothing but a key can stand there. -/
  isRequired : Bool

/-- What has been read. -/
structure Progress where
  /-- The tokens so far, the last one first. -/
  tokens : List Token := []
  /-- The columns of the open block collections, the innermost first. -/
  indents : List Nat := []
  /-- For the block level and each open flow collection, the innermost first, the place where
  a key may have begun. -/
  keys : List (Option KeyPlace) := [none]
  /-- Whether a key may begin here. -/
  keyAllowed : Bool := true

namespace Progress

/-- Whether a flow collection is open. -/
def inFlow (p : Progress) : Bool :=
  decide (1 < p.keys.length)

/-- Appends a token. -/
def push (p : Progress) (token : Token) : Progress :=
  { p with tokens := token :: p.tokens }

/-- Inserts tokens in front of the one with a given position. -/
def insertAt (p : Progress) (position : Nat) (inserted : List Token) : Progress :=
  let later := p.tokens.length - position
  { p with tokens := p.tokens.take later ++ inserted.reverse ++ p.tokens.drop later }

/-- The column that a continued scalar may not be left of. -/
def scalarIndent (p : Progress) : Nat :=
  match p.indents with
  | [] => 0
  | indent :: _ => indent + 1

/-- Whether a block collection can be opened at a column. -/
def opensAt (p : Progress) (column : Nat) : Bool :=
  !p.inFlow &&
    match p.indents with
    | [] => true
    | indent :: _ => decide (indent < column)

/-- Opens a block collection at a column, unless one is open there or a flow collection is;
its token comes in front of the one with a given position. -/
def openAt (p : Progress) (column position : Nat) (token : Token) : Progress :=
  if p.opensAt column then
    { p.insertAt position [token] with indents := column :: p.indents }
  else p

/-- Closes the block collections that begin right of a column. -/
def closeTo (p : Progress) (column : Nat) : Progress :=
  if p.inFlow then p
  else
    let closed := p.indents.takeWhile (column < ·)
    { p with
      tokens := closed.map (fun _ => .close) ++ p.tokens
      indents := p.indents.drop closed.length }

/-- Closes all block collections. -/
def closeAll (p : Progress) : Progress :=
  if p.inFlow then p
  else { p with tokens := p.indents.map (fun _ => .close) ++ p.tokens, indents := [] }

/-! ## Keys -/

/-- The greatest number of bytes from the beginning of a key to the colon. -/
def longestKey : Nat := 1024

/-- Whether a remembered place is too far away for a colon at `c`. -/
def isStale (c : Located) (key : KeyPlace) : Bool :=
  decide (key.place.line < c.line) || decide (key.place.offset + longestKey < c.offset)

/-- Forgets the places that are too far away; one where nothing but a key can stand is an
error. -/
def forgetStale? (p : Progress) (c : Located) : Option Progress :=
  if p.keys.any (·.any fun key => isStale c key && key.isRequired) then none
  else some { p with keys := p.keys.map (·.filter (!isStale c ·)) }

/-- Forgets the place on the innermost level; one where nothing but a key can stand is an
error. -/
def forgetKey? (p : Progress) : Option Progress :=
  match p.keys with
  | some key :: outer => if key.isRequired then none else some { p with keys := none :: outer }
  | _ => some p

/-- Remembers that a key may begin at `c`, if one is allowed there. -/
def rememberKey? (p : Progress) (c : Located) : Option Progress :=
  if p.keyAllowed then
    p.forgetKey?.map fun p =>
      let isRequired := !p.inFlow && p.indents.head? == some c.column
      { p with keys := some ⟨c, p.tokens.length, isRequired⟩ :: p.keys.drop 1 }
  else some p

end Progress

/-! ## White space -/

/-- Skips white space, comments and order marks in front of a token.  In a block a new line
allows a key, and a tab may not stand where one is allowed. -/
def skipBlanks (inFlow keyAllowed inComment : Bool) : Source → Bool × Source
  | [] => (keyAllowed, [])
  | c :: rest =>
    if isBreak c.char then skipBlanks inFlow (keyAllowed || !inFlow) false rest
    else if inComment || isOrderMark c || c.char == ' ' ||
        (c.char == '\t' && (inFlow || !keyAllowed)) then
      skipBlanks inFlow keyAllowed inComment rest
    else if c.char == '#' then skipBlanks inFlow keyAllowed true rest
    else (keyAllowed, c :: rest)

/-! ## Tokens -/

/-- Reads a line that separates documents. -/
def documentMarker? (p : Progress) (token : Token) : Option Progress :=
  p.closeAll.forgetKey?.map fun p => { p.push token with keyAllowed := false }

/-- Reads the opening bracket of a flow collection. -/
def openFlow? (p : Progress) (c : Located) (token : Token) : Option Progress :=
  (p.rememberKey? c).map fun p =>
    { p.push token with keys := none :: p.keys, keyAllowed := true }

/-- Reads the closing bracket of a flow collection. -/
def closeFlow? (p : Progress) (token : Token) : Option Progress :=
  p.forgetKey?.map fun p =>
    { p.push token with
      keys := if p.inFlow then p.keys.drop 1 else p.keys
      keyAllowed := false }

/-- Reads a comma. -/
def comma? (p : Progress) : Option Progress :=
  p.forgetKey?.map fun p => { p.push .comma with keyAllowed := true }

/-- Reads the hyphen of an item. -/
def item? (p : Progress) (c : Located) : Option Progress :=
  if !p.inFlow && !p.keyAllowed then none
  else
    (p.openAt c.column p.tokens.length .openSequence).forgetKey?.map fun p =>
      { p.push .item with keyAllowed := true }

/-- Reads the question mark of a key. -/
def key? (p : Progress) (c : Located) : Option Progress :=
  if !p.inFlow && !p.keyAllowed then none
  else
    (p.openAt c.column p.tokens.length .openMapping).forgetKey?.map fun p =>
      { p.push .key with keyAllowed := !p.inFlow }

/-- Reads the colon of a value.  If a key may have begun on its level, it did. -/
def value? (p : Progress) (c : Located) : Option Progress :=
  match p.keys with
  | some key :: outer =>
    let p := (p.insertAt key.position [.key]).openAt key.place.column key.position .openMapping
    some { p.push .value with keys := none :: outer, keyAllowed := false }
  | _ =>
    if !p.inFlow && !p.keyAllowed then none
    else
      let p := p.openAt c.column p.tokens.length .openMapping
      some { p.push .value with keyAllowed := !p.inFlow }

/-- Whether a plain scalar can begin with a character. -/
def startsPlain (inFlow : Bool) (c : Char) (rest : Source) : Bool :=
  if c == '-' then !(rest.head?.any fun next => isSpace next.char)
  else if c == '?' || c == ':' then !inFlow && !rest.atBlank
  else !(isSpace c || isFlowMark c ||
    ['#', '&', '*', '!', '|', '>', '\'', '"', '%', '@', '\x60'].contains c)

/-- Reads one token that begins with the character `c`.  Anchors, aliases, tags, directives
and block scalars are refused. -/
def token? (p : Progress) (c : Located) (rest : Source) : Option (Progress × Source) :=
  let source : Source := c :: rest
  if source.atDocumentMarker then
    (documentMarker? p (if c.char == '-' then .documentStart else .documentEnd)).map
      (·, rest.drop 2)
  else if c.char == '[' then (openFlow? p c .openFlowSequence).map (·, rest)
  else if c.char == '\x7b' then (openFlow? p c .openFlowMapping).map (·, rest)
  else if c.char == ']' then (closeFlow? p .closeFlowSequence).map (·, rest)
  else if c.char == '\x7d' then (closeFlow? p .closeFlowMapping).map (·, rest)
  else if c.char == ',' then (comma? p).map (·, rest)
  else if c.char == '-' && rest.atBlank then (item? p c).map (·, rest)
  else if c.char == '?' && (p.inFlow || rest.atBlank) then (key? p c).map (·, rest)
  else if c.char == ':' && (p.inFlow || rest.atBlank) then (value? p c).map (·, rest)
  else if c.char == '\'' then do
    let p ← p.rememberKey? c
    let (text, rest) ← single? {} rest
    return ({ p.push (.scalar (quotedScalar text)) with keyAllowed := false }, rest)
  else if c.char == '"' then do
    let p ← p.rememberKey? c
    let (text, rest) ← double? (rest.length + 1) {} rest
    return ({ p.push (.scalar (quotedScalar text)) with keyAllowed := false }, rest)
  else if startsPlain p.inFlow c.char rest then do
    let p ← p.rememberKey? c
    let (text, rest, endsLine) ← plain? p.inFlow p.scalarIndent {} source
    return ({ p.push (.scalar (plainScalar text)) with keyAllowed := endsLine }, rest)
  else none

/-- Reads tokens to the end of the text; `steps` bounds their number. -/
def tokensFrom? : Nat → Progress → Source → Option (List Token)
  | 0, _, _ => none
  | steps + 1, p, source =>
    let (keyAllowed, source) := skipBlanks p.inFlow p.keyAllowed false source
    let p := { p with keyAllowed := keyAllowed }
    match source with
    | [] => p.closeAll.forgetKey?.map fun p => p.tokens.reverse
    | c :: rest =>
      (p.forgetStale? c).bind fun p =>
        (token? (p.closeTo c.column) c rest).bind fun (p, rest) => tokensFrom? steps p rest

/-- The tokens of a text. -/
def tokens? (s : Text) : Option (List Token) :=
  (source? s).bind fun source => tokensFrom? (source.length + 1) {} source

end Yaml
end Document
end Shelfmark
