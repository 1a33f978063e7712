import Mathlib.Algebra.Ring.Parity
import Shelfmark.Proofs.Text.Separator
import Shelfmark.Record

/-!
# Records - Splitting a specification

A specification names several fields if their own specifications are joined with colons, and it
does not matter how many colons stand between two of them or at the ends.  A colon between quotes
belongs to a field.  What carries the argument is whether a quote is open: it is at a colon that
belongs to a field, and it is not behind a whole field, so that the next one is read as the first
was.

Main results:

- Theorem `isOpen_eq`: a quote is open behind a text exactly if its quotes are odd in number.
- Theorem `betweenQuotes_iff`: a colon stands between quotes exactly if an odd number of quotes
  stands in front of it and one behind it.
- Theorem `split_join`: fields joined with single colons are read back.
- Theorem `split_joins_iff`: the fields that a specification names are exactly those that it is
  joined of.
-/

namespace Shelfmark
namespace FieldSpec

/-! ## Open quotes -/

/-- Whether a quote is open behind a text, when one is open in front of it or not. -/
def isOpen (quoted : Bool) (s : Text) : Bool :=
  s.foldl (fun quoted c => if c = '\'' then !quoted else quoted) quoted

@[simp]
theorem isOpen_nil (quoted : Bool) : isOpen quoted [] = quoted :=
  rfl

@[simp]
theorem isOpen_cons (quoted : Bool) (c : Char) (s : Text) :
    isOpen quoted (c :: s) = isOpen (if c = '\'' then !quoted else quoted) s :=
  rfl

/-- A quote is open behind a text according to the number of its quotes. -/
theorem isOpen_eq (quoted : Bool) (s : Text) :
    isOpen quoted s = (quoted ^^ decide (Odd (s.count '\''))) := by
  induction s generalizing quoted with
  | nil => simp
  | cons c s ih =>
    rw [isOpen_cons, ih]
    by_cases hc : c = '\''
    · subst hc
      rw [if_pos rfl, List.count_cons_self]
      by_cases hodd : Odd (s.count '\'') <;> simp [hodd, Nat.odd_add_one]
    · rw [if_neg hc, List.count_cons_of_ne hc]

/-- A quote is open behind a text whose quotes are odd in number. -/
theorem isOpen_eq_true_iff {s : Text} : isOpen false s = true ↔ Odd (s.count '\'') := by
  rw [isOpen_eq, Bool.false_xor, decide_eq_true_eq]

/-- No quote is open behind a text whose quotes come in pairs. -/
theorem isOpen_eq_false_iff {s : Text} : isOpen false s = false ↔ Even (s.count '\'') := by
  rw [isOpen_eq, Bool.false_xor, decide_eq_false_iff_not, Nat.not_odd_iff_even]

/-- All colons of a text stand where a quote is open, when one is open in front of it or not. -/
def ColonsQuoted : Bool → Text → Prop
  | _, [] => True
  | quoted, c :: s =>
    (c = ':' → quoted = true) ∧ ColonsQuoted (if c = '\'' then !quoted else quoted) s

instance decidableColonsQuoted : (quoted : Bool) → (s : Text) → Decidable (ColonsQuoted quoted s)
  | _, [] => isTrue trivial
  | quoted, c :: s =>
    have := decidableColonsQuoted (if c = '\'' then !quoted else quoted) s
    inferInstanceAs (Decidable (_ ∧ _))

/-- It is enough to look at what stands in front of each colon. -/
theorem colonsQuoted_iff {quoted : Bool} {s : Text} :
    ColonsQuoted quoted s ↔ ∀ front back, s = front ++ ':' :: back → isOpen quoted front = true := by
  induction s generalizing quoted with
  | nil => simp [ColonsQuoted]
  | cons c s ih =>
    rw [ColonsQuoted, ih]
    constructor
    · rintro ⟨hc, hs⟩ front back heq
      cases front with
      | nil => exact hc (List.cons.inj heq).1
      | cons d front =>
        obtain ⟨rfl, hrest⟩ := List.cons.inj heq
        exact hs front back hrest
    · intro h
      refine ⟨fun hc => h [] s (by rw [hc, List.nil_append]), fun front back heq => ?_⟩
      exact h (c :: front) back (by rw [heq, List.cons_append])

/-! ## One field -/

/-- What stands in front of a place and behind it puts it between quotes: between the nearest
quotes, of which the first is the first, the third, the fifth and so on of all. -/
def BetweenQuotes (front back : Text) : Prop :=
  ∃ before quotedFront quotedBack behind : Text,
    front = before ++ '\'' :: quotedFront ∧ back = quotedBack ++ '\'' :: behind ∧
      Even (before.count '\'') ∧ '\'' ∉ quotedFront ∧ '\'' ∉ quotedBack

/-- A text with an odd number of quotes has one. -/
theorem mem_of_odd_count {s : Text} (h : Odd (s.count '\'')) : '\'' ∈ s := by
  refine Classical.by_contradiction fun hnot => ?_
  rw [List.count_eq_zero.mpr hnot] at h
  contradiction

/-- A place is between quotes if an odd number of quotes stands in front of it and one behind it. -/
theorem betweenQuotes_iff {front back : Text} :
    BetweenQuotes front back ↔ Odd (front.count '\'') ∧ '\'' ∈ back := by
  constructor
  · rintro ⟨before, quotedFront, quotedBack, behind, rfl, rfl, heven, hfront, -⟩
    refine ⟨?_, by simp⟩
    rw [List.count_append, List.count_cons_self, List.count_eq_zero.mpr hfront]
    exact heven.add_one
  · rintro ⟨hodd, hback⟩
    obtain ⟨before, quotedFront, rfl, hfront⟩ := Text.exists_of_mem (mem_of_odd_count hodd)
    obtain ⟨quotedBack, behind, rfl, hnot⟩ := List.eq_append_cons_of_mem hback
    refine ⟨before, quotedFront, quotedBack, behind, rfl, rfl, ?_, hfront, hnot⟩
    rw [List.count_append, List.count_cons_self, List.count_eq_zero.mpr hfront] at hodd
    simpa [Nat.odd_add_one] using hodd

/-- The specification of one field: its quotes come in pairs, and its colons stand within them. -/
structure IsSingle (field : Text) : Prop where
  ne_nil : field ≠ []
  quotes_even : Even (field.count '\'')
  colons_between : ∀ front back, field = front ++ ':' :: back → BetweenQuotes front back

/-- A field is what leaves no quote open and has no colon where none is. -/
theorem isSingle_iff {field : Text} :
    IsSingle field ↔ field ≠ [] ∧ isOpen false field = false ∧ ColonsQuoted false field := by
  simp only [colonsQuoted_iff, isOpen_eq_true_iff, isOpen_eq_false_iff]
  constructor
  · rintro ⟨hne, heven, hcolons⟩
    exact ⟨hne, heven, fun front back heq => (betweenQuotes_iff.mp (hcolons front back heq)).1⟩
  · rintro ⟨hne, heven, hcolons⟩
    refine ⟨hne, heven, fun front back heq => ?_⟩
    have hfront := hcolons front back heq
    -- The quotes in front are odd and all are even, so that some are left behind.
    have hback : Odd (back.count '\'') := by
      rw [heq, List.count_append, List.count_cons_of_ne (by decide), Nat.even_add] at heven
      rw [← Nat.not_even_iff_odd, ← heven, Nat.not_even_iff_odd]
      exact hfront
    exact betweenQuotes_iff.mpr ⟨hfront, mem_of_odd_count hback⟩

instance (field : Text) : Decidable (IsSingle field) :=
  decidable_of_iff' _ isSingle_iff

/-! ## Pieces -/

section Pieces

variable {quoted : Bool} {s : Text}

/-- A text whose colons are all quoted is one piece. -/
theorem pieces_of_colonsQuoted (h : ColonsQuoted quoted s) : pieces quoted s = [s] := by
  induction s generalizing quoted with
  | nil => rfl
  | cons c s ih =>
    rw [pieces, if_neg (fun hc => hc.2 (h.1 hc.1)), ih h.2]

/-- Such a text is a piece in front of a colon, if it leaves no quote open. -/
theorem pieces_append_cons (h : ColonsQuoted quoted s) (hopen : isOpen quoted s = false)
    (rest : Text) : pieces quoted (s ++ ':' :: rest) = s :: pieces false rest := by
  induction s generalizing quoted with
  | nil =>
    obtain rfl : quoted = false := hopen
    rw [List.nil_append, pieces, if_pos (by simp)]
  | cons c s ih =>
    rw [List.cons_append, pieces, if_neg (fun hc => hc.2 (h.1 hc.1)), ih h.2 hopen]

/-- Reading goes on to the end of a text, or to the first colon that no quote encloses. -/
theorem colonsQuoted_or_exists (quoted : Bool) (s : Text) :
    ColonsQuoted quoted s ∨ ∃ front rest, s = front ++ ':' :: rest ∧
      ColonsQuoted quoted front ∧ isOpen quoted front = false := by
  induction s generalizing quoted with
  | nil => exact .inl trivial
  | cons c s ih =>
    by_cases hc : c = ':' → quoted = true
    · rcases ih (if c = '\'' then !quoted else quoted) with hs | ⟨front, rest, rfl, hfront, hopen⟩
      · exact .inl ⟨hc, hs⟩
      · exact .inr ⟨c :: front, rest, rfl, ⟨hc, hfront⟩, hopen⟩
    · obtain ⟨rfl, hquoted⟩ := Classical.not_imp.mp hc
      exact .inr ⟨[], s, rfl, trivial, eq_false_of_ne_true hquoted⟩

end Pieces

/-! ## Fields in a row -/

/-- A colon in front does not count. -/
theorem split_cons_colon (spec : Text) : split (':' :: spec) = split spec := by
  rw [split, pieces, if_pos (by simp)]
  rfl

/-- A field by itself is named by its own specification. -/
theorem IsSingle.split_eq {field : Text} (h : IsSingle field) : split field = [field] := by
  obtain ⟨hne, -, hcolons⟩ := isSingle_iff.mp h
  rw [split, pieces_of_colonsQuoted hcolons]
  simp [hne]

/-- A field in front of a colon is named first. -/
theorem IsSingle.split_append {field : Text} (h : IsSingle field) (spec : Text) :
    split (field ++ ':' :: spec) = field :: split spec := by
  obtain ⟨hne, hopen, hcolons⟩ := isSingle_iff.mp h
  rw [split, pieces_append_cons hcolons hopen]
  simp [hne, split]

/-- A text that fields are joined to: a colon stands between any two of them, and any number of
further colons between them and at the ends. -/
inductive Joins : List Text → Text → Prop
  | nil : Joins [] []
  | last (field : Text) : Joins [field] field
  | colon {fields : List Text} {spec : Text} (h : Joins fields spec) : Joins fields (':' :: spec)
  | cons (field : Text) {fields : List Text} {spec : Text} (h : Joins fields spec) :
      Joins (field :: fields) (field ++ ':' :: spec)

/-- Single colons are enough. -/
theorem joins_join (fields : List Text) : Joins fields (Text.join [':'] fields) := by
  unfold Text.join
  induction fields with
  | nil => exact .nil
  | cons field fields ih =>
    cases fields with
    | nil =>
      rw [List.intercalate_singleton]
      exact .last field
    | cons next fields =>
      rw [List.intercalate_cons_cons, List.append_assoc]
      exact .cons field ih

section Joined

variable {fields : List Text} {spec : Text}

/-- What is joined of fields names them. -/
theorem Joins.split_eq (h : Joins fields spec) (hsingle : ∀ field ∈ fields, IsSingle field) :
    split spec = fields := by
  induction h with
  | nil => rfl
  | last field => exact (hsingle field (by simp)).split_eq
  | colon _ ih => rw [split_cons_colon, ih hsingle]
  | cons field _ ih =>
    obtain ⟨hfield, hfields⟩ := List.forall_mem_cons.mp hsingle
    rw [hfield.split_append, ih hfields]

/-- What is joined of fields has an even number of quotes. -/
theorem Joins.even_count (h : Joins fields spec) (hsingle : ∀ field ∈ fields, IsSingle field) :
    Even (spec.count '\'') := by
  induction h with
  | nil => exact Even.zero
  | last field => exact (hsingle field (by simp)).quotes_even
  | colon _ ih =>
    rw [List.count_cons_of_ne (by decide)]
    exact ih hsingle
  | cons field _ ih =>
    obtain ⟨hfield, hfields⟩ := List.forall_mem_cons.mp hsingle
    rw [List.count_append, List.count_cons_of_ne (by decide)]
    exact hfield.quotes_even.add (ih hfields)

/-- Fields joined with single colons are read back. -/
theorem split_join (hsingle : ∀ field ∈ fields, IsSingle field) :
    split (Text.join [':'] fields) = fields :=
  (joins_join fields).split_eq hsingle

end Joined

/-- A specification whose quotes come in pairs is joined of the fields that it names. -/
theorem joins_split {spec : Text} (heven : Even (spec.count '\'')) :
    Joins (split spec) spec ∧ ∀ field ∈ split spec, IsSingle field := by
  -- Up to the first colon that separates stands a field or nothing, and behind it less is left.
  induction hlength : spec.length using Nat.strong_induction_on generalizing spec with
  | _ length ih =>
    rcases colonsQuoted_or_exists false spec with hcolons | ⟨front, rest, rfl, hcolons, hopen⟩
    · by_cases hne : spec = []
      · subst hne
        exact ⟨.nil, by simp [split, pieces]⟩
      · have hsingle : IsSingle spec :=
          isSingle_iff.mpr ⟨hne, isOpen_eq_false_iff.mpr heven, hcolons⟩
        rw [hsingle.split_eq]
        exact ⟨.last spec, by simpa using hsingle⟩
    · have hrest : Even (rest.count '\'') := by
        rw [List.count_append, List.count_cons_of_ne (by decide), Nat.even_add] at heven
        exact heven.mp (isOpen_eq_false_iff.mp hopen)
      obtain ⟨hjoins, hfields⟩ := ih rest.length (by simp [← hlength]; omega) hrest rfl
      by_cases hne : front = []
      · subst hne
        rw [List.nil_append, split_cons_colon]
        exact ⟨.colon hjoins, hfields⟩
      · have hsingle : IsSingle front := isSingle_iff.mpr ⟨hne, hopen, hcolons⟩
        rw [hsingle.split_append]
        exact ⟨.cons front hjoins, List.forall_mem_cons.mpr ⟨hsingle, hfields⟩⟩

/-- The fields that a specification names, if its quotes come in pairs, are exactly those that it
is joined of.  However single fields are joined, with as many more colons as one likes, they are
read back; and what is read is single fields, so that none is empty or has a colon outside
quotes. -/
theorem split_joins_iff (fields : List Text) (spec : Text) :
    (Joins fields spec ∧ ∀ field ∈ fields, IsSingle field) ↔
      Even (spec.count '\'') ∧ split spec = fields := by
  constructor
  · rintro ⟨hjoins, hsingle⟩
    exact ⟨hjoins.even_count hsingle, hjoins.split_eq hsingle⟩
  · rintro ⟨heven, rfl⟩
    exact joins_split heven

/-- Colons in a row, at both ends, and between quotes. -/
theorem holdingsBetween_joins :
    let fields := ["099ab".toList, "999wa':'".toList, "050ab".toList]
    let spec := ":099ab::999wa':':050ab:".toList
    Joins fields spec ∧ (∀ field ∈ fields, IsSingle field) ∧
      Even (spec.count '\'') ∧ split spec = fields := by
  intro fields spec
  have hjoins : Joins fields spec :=
    .colon (.cons "099ab".toList (.colon (.cons "999wa':'".toList (.cons "050ab".toList .nil))))
  have hsingle : ∀ field ∈ fields, IsSingle field := by decide
  exact ⟨hjoins, hsingle, (split_joins_iff fields spec).mp ⟨hjoins, hsingle⟩⟩

end FieldSpec
end Shelfmark
