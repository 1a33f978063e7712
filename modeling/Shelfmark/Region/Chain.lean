import Shelfmark.Region.Heading
import Shelfmark.Region.Name
import Shelfmark.Region.Place

/-!
# Regions - Chains of subdivisions

A chain such as `Texas#Austin` goes from a larger place to smaller ones.  Each
later name is qualified by the place before it, as in `Austin (Tex.)`; from the
third level on the qualifier is the second name together with the first, as in
`Tiergarten (Berlin, Germany)`.
-/

namespace Shelfmark
namespace Region

/-! ## Qualifying one name -/

/-- Whether a qualifier names a place already: alone, in a list, or abbreviated. -/
def equalsOrContains (qualifier place : Text) : Bool :=
  qualifier == place ||
  Text.includes (" and ".toList ++ place) qualifier ||
  Text.includes (place ++ " and ".toList) qualifier ||
  Text.includes (", ".toList ++ place) qualifier ||
  abbreviation? place == some qualifier

/-- A name with a qualifier in parentheses. -/
def parenthesized (name qualifier : Text) : Text :=
  name ++ " (".toList ++ qualifier ++ [')']

/-- Adds a place to the single qualifier that a name ends with.  A kind of place goes behind
the place; a qualifier that names the place already is left alone. -/
def qualifySingle (name parent : Text) : Text :=
  let (front, inside) := (Text.cut? '(' name).getD (name, [])
  let qualifier := (inside.dropLast? ')').getD inside
  if qualifier ≠ parent ∧ isTypeWord qualifier then
    parenthesized (dropEndSpace front) (parent ++ " : ".toList ++ qualifier)
  else if equalsOrContains qualifier parent then name
  else name.dropLast ++ ", ".toList ++ parent ++ [')']

/-- Adds a place to the place of a typed qualifier; a name that is too short to be one is left
alone. -/
def qualifyTyped (name parent : Text) : Text :=
  match TypedName.ofText? name with
  | none => name
  | some typed =>
    match nameOfRun? typed.front with
    | none => name
    | some front =>
      parenthesized front (typed.place ++ ", ".toList ++ parent ++ " : ".toList ++ typed.kind)

/-- A name qualified by the place above it.  A state is abbreviated and always added; any
other place joins the qualifiers that the name has already. -/
def qualify (parent name : Text) : Text :=
  match abbreviation? parent with
  | some abbreviation => parenthesized name abbreviation
  | none =>
    match name.dropLast? ')' with
    | none => parenthesized name parent
    | some front =>
      if !name.contains '(' then parenthesized front parent
      else if hasSingleQualifier name then qualifySingle name parent
      else qualifyTyped name parent

/-! ## Chains -/

/-- Rewrites every qualified name in a text as name, comma and qualifier, dropping the rest of
its line; `steps` bounds the characters looked at.  Where a run of name characters is not the
beginning of a qualified name, none begins inside the run either. -/
def joinQualifiersWithin : Nat → Text → Text
  | 0, s => s
  | _, [] => []
  | steps + 1, c :: s =>
    match qualifiedName? (c :: s) with
    | some (name, qualifier, rest) =>
      name ++ ", ".toList ++ qualifier ++
        joinQualifiersWithin steps (rest.dropWhile (· != '\n'))
    | none =>
      let (run, rest) := spanName false (c :: s)
      if run.isEmpty then c :: joinQualifiersWithin steps s
      else run ++ joinQualifiersWithin steps rest

/-- The second name of a chain as it qualifies the names below it: `Berlin (Germany)` becomes
`Berlin, Germany`. -/
def joinQualifiers (s : Text) : Text :=
  Text.trim (joinQualifiersWithin s.length s)

/-- The names of a chain, each cleaned. -/
def chainNames (chain : Text) : List Text :=
  (Text.pieces '#' chain).map cleanHeading

/-- The names of a chain, each later one qualified by what comes before it. -/
def qualifyChain (chain : Text) : List Text :=
  match chainNames chain with
  | [] => []
  | parent :: names =>
    parent ::
      match names.filter (!isSkipped ·) with
      | [] => []
      | child :: below =>
        let second := qualify parent child
        second :: below.map (qualify (joinQualifiers second))

end Region
end Shelfmark
