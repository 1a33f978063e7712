import Shelfmark.Document.Yaml.Token

/-!
# Documents - Reading YAML

The tokens of a YAML text form a tree.  A value that is missing, be it behind a
hyphen or behind a colon, is the empty plain scalar; so is an empty document.
A text with more than one document is refused.
-/

namespace Shelfmark
namespace Document
namespace Yaml

/-- The value where none is written. -/
def missing : Node :=
  .scalar (plainScalar [])

/-- Whether a key or value of a mapping ends before it has begun. -/
def endsMember : List Token → Bool
  | [] | .key :: _ | .value :: _ | .close :: _ => true
  | _ => false

/-- Whether an item of a sequence ends before it has begun. -/
def endsItem : List Token → Bool
  | [] | .item :: _ | .close :: _ => true
  | _ => false

/-- Whether a part of a flow collection ends before it has begun. -/
def endsFlowPart : List Token → Bool
  | [] | .comma :: _ | .value :: _ | .closeFlowSequence :: _ | .closeFlowMapping :: _ => true
  | _ => false

/-- Reads the key of a single member where none is written; the token that shows this is used
up. -/
def missingKey? : List Token → Option (Node × List Token)
  | .comma :: rest | .value :: rest | .closeFlowSequence :: rest => some (missing, rest)
  | _ => none

mutual

/-- Reads a value.  Block collections are read only where `inBlock` is set, and a sequence
without an indentation of its own only as a part of a mapping. -/
def node? (inBlock inMapping : Bool) : Nat → List Token → Option (Node × List Token)
  | _ + 1, .scalar value :: rest => some (.scalar value, rest)
  | steps + 1, .openFlowSequence :: rest =>
    (flowItems? true steps rest).map fun parts => (.sequence parts.1, parts.2)
  | steps + 1, .openFlowMapping :: rest =>
    (flowMembers? true steps rest).map fun parts => (.mapping parts.1, parts.2)
  | steps + 1, .openSequence :: rest =>
    if inBlock then (items? steps rest).map fun parts => (.sequence parts.1, parts.2) else none
  | steps + 1, .openMapping :: rest =>
    if inBlock then (members? steps rest).map fun parts => (.mapping parts.1, parts.2) else none
  | steps + 1, .item :: rest =>
    if inMapping then
      (unindentedItems? steps (.item :: rest)).map fun parts => (.sequence parts.1, parts.2)
    else none
  | _, _ => none

/-- Reads the items of a block sequence and its end. -/
def items? : Nat → List Token → Option (List Node × List Token)
  | steps + 1, .item :: rest =>
    match if endsItem rest then some (missing, rest) else node? true false steps rest with
    | none => none
    | some (node, rest) =>
      (items? steps rest).map fun parts => (node :: parts.1, parts.2)
  | _ + 1, .close :: rest => some ([], rest)
  | _, _ => none

/-- Reads the items of a sequence that is not indented; it ends where no further item
follows. -/
def unindentedItems? : Nat → List Token → Option (List Node × List Token)
  | steps + 1, .item :: rest =>
    match
      if endsItem rest || endsMember rest then some (missing, rest)
      else node? true false steps rest
    with
    | none => none
    | some (node, rest) =>
      (unindentedItems? steps rest).map fun parts => (node :: parts.1, parts.2)
  | _ + 1, rest => some ([], rest)
  | 0, _ => none

/-- Reads the keys and values of a block mapping and its end. -/
def members? : Nat → List Token → Option (List (Node × Node) × List Token)
  | steps + 1, .key :: rest =>
    match if endsMember rest then some (missing, rest) else node? true true steps rest with
    | none => none
    | some (key, rest) =>
      match blockValue? steps rest with
      | none => none
      | some (value, rest) =>
        (members? steps rest).map fun parts => ((key, value) :: parts.1, parts.2)
  | _ + 1, .close :: rest => some ([], rest)
  | _, _ => none

/-- Reads the value of a member of a block mapping. -/
def blockValue? : Nat → List Token → Option (Node × List Token)
  | steps + 1, .value :: rest =>
    if endsMember rest then some (missing, rest) else node? true true steps rest
  | _ + 1, rest => some (missing, rest)
  | 0, _ => none

/-- Reads the items of a flow sequence and its end; an item may be a single member of a
mapping. -/
def flowItems? (isFirst : Bool) : Nat → List Token → Option (List Node × List Token)
  | _ + 1, .closeFlowSequence :: rest => some ([], rest)
  | steps + 1, tokens =>
    let start := if isFirst then some tokens else
      match tokens with
      | .comma :: rest => some rest
      | _ => none
    match start with
    | none => none
    | some (.closeFlowSequence :: rest) => some ([], rest)
    | some (.key :: rest) =>
      match (missingKey? rest).or (node? false false steps rest) with
      | none => none
      | some (key, rest) =>
        match flowValue? steps rest with
        | none => none
        | some (value, rest) =>
          (flowItems? false steps rest).map fun parts =>
            (.mapping [(key, value)] :: parts.1, parts.2)
    | some rest =>
      match node? false false steps rest with
      | none => none
      | some (node, rest) =>
        (flowItems? false steps rest).map fun parts => (node :: parts.1, parts.2)
  | 0, _ => none

/-- Reads the keys and values of a flow mapping and its end; a key may stand without a
value. -/
def flowMembers? (isFirst : Bool) : Nat → List Token → Option (List (Node × Node) × List Token)
  | _ + 1, .closeFlowMapping :: rest => some ([], rest)
  | steps + 1, tokens =>
    let start := if isFirst then some tokens else
      match tokens with
      | .comma :: rest => some rest
      | _ => none
    match start with
    | none => none
    | some (.closeFlowMapping :: rest) => some ([], rest)
    | some (.key :: rest) =>
      match if endsFlowPart rest then some (missing, rest) else node? false false steps rest with
      | none => none
      | some (key, rest) =>
        match flowValue? steps rest with
        | none => none
        | some (value, rest) =>
          (flowMembers? false steps rest).map fun parts => ((key, value) :: parts.1, parts.2)
    | some rest =>
      match node? false false steps rest with
      | none => none
      | some (key, rest) =>
        (flowMembers? false steps rest).map fun parts => ((key, missing) :: parts.1, parts.2)
  | 0, _ => none

/-- Reads the value of a member of a flow collection. -/
def flowValue? : Nat → List Token → Option (Node × List Token)
  | steps + 1, .value :: rest =>
    if endsFlowPart rest then some (missing, rest) else node? false false steps rest
  | _ + 1, rest => some (missing, rest)
  | 0, _ => none

end

/-! ## Documents -/

/-- The value of a document that is not empty, and the tokens behind it. -/
def content? (tokens : List Token) : Option (Node × List Token) :=
  node? true false (4 * tokens.length + 4) tokens

/-- The value of a document that begins with a marker. -/
def markedContent? : List Token → Option (Node × List Token)
  | [] => some (missing, [])
  | .documentEnd :: rest => some (missing, .documentEnd :: rest)
  | tokens => content? tokens

/-- The tree of the only document in a text. -/
def read? (s : Text) : Option Node :=
  match tokens? s with
  | none => none
  | some [] => some missing
  | some tokens =>
    let content :=
      match tokens with
      | .documentStart :: rest => markedContent? rest
      | _ => content? tokens
    content.bind fun (node, rest) =>
      if (rest.dropWhile (· == .documentEnd)).isEmpty then some node else none

end Yaml
end Document
end Shelfmark
