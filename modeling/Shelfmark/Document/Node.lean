import Shelfmark.Text.Basic

/-!
# Documents - Trees

Records and options are read from documents in one of two notations.  Either
notation is read into the same tree of scalars, sequences and mappings; what a
scalar may stand for depends on the notation, so each scalar carries the
answers.

The second half reads typed values from a tree.  Every reader refuses a tree of
another shape.
-/

namespace Shelfmark
namespace Document

/-! ## Trees -/

/-- What a scalar can be read as. -/
structure Scalar where
  /-- The text, where a text is wanted. -/
  text : Option Text := none
  /-- The truth value, where one is wanted. -/
  flag : Option Bool := none
  /-- The number, where a natural number is wanted. -/
  count : Option Nat := none
  /-- Whether an optional value counts as absent. -/
  isAbsent : Bool := false
  /-- Whether the scalar stands for an empty collection. -/
  isBlank : Bool := false
  deriving Repr, DecidableEq

/-- A document as a tree. -/
inductive Node where
  /-- A single value. -/
  | scalar (value : Scalar)
  /-- A list of values. -/
  | sequence (items : List Node)
  /-- Keys with their values, in order. -/
  | mapping (members : List (Node × Node))
  deriving Repr

/-- The two notations in which a document may be written. -/
inductive Dialect where
  /-- Indentation and plain scalars. -/
  | yaml
  /-- Brackets and quoted texts. -/
  | json
  deriving Repr, DecidableEq

/-- Whether a structure may be written as the sequence of its fields. -/
def Dialect.allowsRows : Dialect → Bool
  | yaml => false
  | json => true

/-! ## Reading values -/

namespace Node

/-- The text of a scalar. -/
def text? : Node → Option Text
  | scalar value => value.text
  | _ => none

/-- A truth value. -/
def flag? : Node → Option Bool
  | scalar value => value.flag
  | _ => none

/-- A natural number. -/
def count? : Node → Option Nat
  | scalar value => value.count
  | _ => none

/-- A text that may be absent. -/
def optionalText? : Node → Option (Option Text)
  | scalar value => if value.isAbsent then some none else value.text.map some
  | _ => none

/-- A list of values. -/
def list? {α : Type} (read : Node → Option α) : Node → Option (List α)
  | scalar value => if value.isBlank then some [] else none
  | sequence items => items.mapM read
  | mapping _ => none

/-- Sets the value of a key: in its place if it is there, at the end if not. -/
def setKey {α : Type} (key : Text) (value : α) : List (Text × α) → List (Text × α)
  | [] => [(key, value)]
  | entry :: rest =>
    if entry.1 = key then (key, value) :: rest else entry :: setKey key value rest

/-- Keys with values; of a repeated key the last value counts. -/
def dictionary? {α : Type} (read : Node → Option α) : Node → Option (List (Text × α))
  | scalar value => if value.isBlank then some [] else none
  | sequence _ => none
  | mapping members => do
    let entries ← members.mapM fun (key, value) => do
      return (← key.text?, ← read value)
    return entries.foldl (fun known entry => setKey entry.1 entry.2 known) []

/-! ## Reading structures -/

/-- The fields that a document gives for a structure, by name. -/
abbrev Fields := List (Text × Node)

/-- The fields of a structure with the given names.  Unknown keys are skipped, a key that is
repeated is refused, and where the notation allows it the fields may stand in a row. -/
def fields? (dialect : Dialect) (names : List Text) : Node → Option Fields
  | scalar value => if value.isBlank then some [] else none
  | sequence items =>
    if dialect.allowsRows ∧ items.length ≤ names.length then some (names.zip items) else none
  | mapping members => do
    let entries ← members.mapM fun (key, value) => key.text?.map fun key => (key, value)
    let known := entries.filter fun entry => names.contains entry.1
    if (known.map Prod.fst).Nodup then some known else none

/-- Reads one field; a field that is missing has its default. -/
def field? {α : Type} (fields : Fields) (name : String) (read : Node → Option α) (default : α) :
    Option α :=
  match fields.lookup name.toList with
  | none => some default
  | some node => read node

end Node
end Document
end Shelfmark
