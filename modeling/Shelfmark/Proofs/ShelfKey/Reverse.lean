import Mathlib.Data.List.Basic
import Shelfmark.Proofs.Text.Bytes
import Shelfmark.ShelfKey.Reverse

/-!
# Shelf keys - What a reverse key keeps

A reverse key does not tell all characters of the shelf key apart.  What it keeps are
digits and capitals, also those that small letters and letters with diacritics count as.
All other characters count as one of two: punctuation and the padding as a space, in
front of the row, the rest as a tilde, behind it.

Written with these characters only, and padded with spaces, a key has columns whose order
the reverse key turns around.

Main results:

- Definition `columns`: what of a key its reverse key keeps.
- Theorem `reverse_eq`: a reverse key is made of the opposites of the columns.
- Theorem `compare_reverse`: keys no longer than a reverse key descend as their columns
  ascend.
- Theorem `reverse_gt_of_columns`: the same of keys of any length, unless the columns of
  one continue those of the other.
-/

namespace Shelfmark
namespace ShelfKey

/-! ## Columns -/

/-- The character of the row that a character is or files under. -/
def rowChar? (c : Char) : Option Char :=
  (row.find? (· == c)).or ((Character.latinBase? c).bind fun base => row.find? (· == base))

/-- What a character counts as in a reverse key. -/
def plainChar (c : Char) : Char :=
  let c := Character.simpleUpper c
  if Character.isCombining c then '~'
  else if Character.isAlphanumeric c then (rowChar? c).getD '~'
  else if latePunctuation.contains c then '~'
  else ' '

/-- The characters of columns, in their order. -/
def columnChars : List Char :=
  ' ' :: (row ++ ['~'])

/-- The character as far from the other end of the row; a space and a tilde are the ends. -/
def opposite (c : Char) : Char :=
  if c = ' ' then sortLast
  else if c = '~' then sortFirst
  else (exchange? c).getD c

/-- A key with every character replaced by what it counts as, padded with spaces. -/
def columns (key : Text) : Text :=
  Text.padEnd reverseLength (key.map plainChar)

/-! ## Opposites -/

/-- Characters are exchanged along the row exactly if they are on it. -/
theorem exchange?_eq (c : Char) : exchange? c = (row.find? (· == c)).map opposite := by
  have hrow : row.all fun d => decide (exchange? d = (row.find? (· == d)).map opposite) := by
    decide +kernel
  by_cases hmem : c ∈ row
  · exact of_decide_eq_true (List.all_eq_true.mp hrow c hmem)
  · have hfind : row.find? (· == c) = none := by
      rw [List.find?_eq_none]
      rintro d hd heq
      exact hmem (beq_iff_eq.mp heq ▸ hd)
    have hlookup : exchange? c = none := by
      rw [exchange?, List.lookup_eq_none_iff]
      rintro ⟨d, e⟩ hpair
      have hd : d ∈ row := (List.of_mem_zip hpair).1
      exact bne_iff_ne.mpr fun heq => hmem (heq ▸ hd)
    rw [hlookup, hfind]
    rfl

/-- A character counts as one of the characters of columns. -/
theorem plainChar_mem (c : Char) : plainChar c ∈ columnChars := by
  have hrow {d e : Char} (h : row.find? (· == d) = some e) : e ∈ columnChars := by
    have := List.mem_of_find?_eq_some h
    simp [columnChars, this]
  have hspace : ' ' ∈ columnChars := by decide
  have htilde : '~' ∈ columnChars := by decide
  unfold plainChar
  generalize Character.simpleUpper c = c
  dsimp only
  split
  · exact htilde
  · split
    · cases hchar : rowChar? c with
      | none => exact htilde
      | some d =>
        rcases Option.or_eq_some_iff.mp hchar with h | ⟨-, h⟩
        · exact hrow h
        · obtain ⟨base, -, h⟩ := Option.bind_eq_some_iff.mp h
          exact hrow h
    · split
      · exact htilde
      · exact hspace

/-- The counterpart of a character is the opposite of what it counts as. -/
theorem reverseChar_eq (c : Char) : reverseChar c = opposite (plainChar c) := by
  have htilde : opposite '~' = sortFirst := rfl
  have hspace : opposite ' ' = sortLast := rfl
  unfold reverseChar plainChar
  generalize Character.simpleUpper c = c
  dsimp only
  split
  · rfl
  · split
    · have hbase : ((Character.latinBase? c).bind exchange?) =
          ((Character.latinBase? c).bind fun base => row.find? (· == base)).map opposite := by
        cases Character.latinBase? c with
        | none => rfl
        | some base => exact exchange?_eq base
      rw [exchange?_eq, hbase, ← Option.map_or, ← htilde, Option.getD_map]
      rfl
    · split
      · rfl
      · rfl

/-- A reverse key is made of the opposites of the columns. -/
theorem reverse_eq (key : Text) : reverse key = (columns key).map opposite := by
  have hspace : opposite ' ' = sortLast := rfl
  rw [reverse, columns, Text.padEnd, List.map_append, List.map_map, List.map_replicate,
    List.length_map, hspace]
  congr 1
  exact List.map_congr_left fun c _ => reverseChar_eq c

/-- Columns have no other characters. -/
theorem mem_columnChars_of_mem_columns (key : Text) : ∀ c ∈ columns key, c ∈ columnChars := by
  refine List.forall_mem_append.mpr ⟨fun c hc => ?_, fun c hc => ?_⟩
  · obtain ⟨d, -, rfl⟩ := List.mem_map.mp hc
    exact plainChar_mem d
  · rw [(List.mem_replicate.mp hc).2]
    exact List.mem_cons_self

/-! ## The order of reverse keys -/

/-- Opposites are in the opposite order. -/
theorem compare_opposite {c d : Char} (hc : c ∈ columnChars) (hd : d ∈ columnChars) :
    compare (opposite c) (opposite d) = compare d c := by
  have htable : columnChars.all fun c => columnChars.all fun d =>
      decide (compare (opposite c) (opposite d) = compare d c) := by
    decide +kernel
  exact of_decide_eq_true (List.all_eq_true.mp (List.all_eq_true.mp htable c hc) d hd)

section Order

variable {s t : Text} (hs : ∀ c ∈ s, c ∈ columnChars) (ht : ∀ c ∈ t, c ∈ columnChars)

include hs ht

/-- Texts of equal length are in the opposite order of their opposites. -/
theorem compare_map_opposite (hlength : s.length = t.length) :
    compare (s.map opposite) (t.map opposite) = compare t s := by
  induction s generalizing t with
  | nil =>
    have hnil : t = [] := List.eq_nil_of_length_eq_zero hlength.symm
    rw [hnil]
    rfl
  | cons c s ih =>
    cases t with
    | nil => exact absurd hlength (by simp)
    | cons d t =>
      have hrest := ih (fun x hx => hs x (by simp [hx])) (t := t)
        (fun x hx => ht x (by simp [hx])) (Nat.succ.inj hlength)
      rw [List.map_cons, List.map_cons, List.compare_cons_cons, List.compare_cons_cons, hrest,
        compare_opposite (hs c (by simp)) (ht d (by simp))]

/-- Of texts that differ somewhere the opposites are in the opposite order. -/
theorem compare_map_opposite_of_lt (hlt : compare s t = .lt) (hbegins : ¬ s <+: t) :
    compare (s.map opposite) (t.map opposite) = .gt := by
  induction s generalizing t with
  | nil => exact absurd List.nil_prefix hbegins
  | cons c s ih =>
    cases t with
    | nil =>
      have hgt : compare (c :: s) [] = .gt := rfl
      exact absurd (hgt.symm.trans hlt) (by decide)
    | cons d t =>
      have hhead := compare_opposite (hs c (by simp)) (ht d (by simp))
      rw [List.compare_cons_cons] at hlt
      rw [List.map_cons, List.map_cons, List.compare_cons_cons, hhead]
      rcases Ordering.then_eq_lt.mp hlt with hcd | ⟨hcd, hlt⟩
      · rw [Std.OrientedOrd.eq_swap, hcd]
        rfl
      · have hrest := ih (fun x hx => hs x (by simp [hx])) (t := t)
          (fun x hx => ht x (by simp [hx])) hlt fun h => hbegins (by
            rw [Std.compare_eq_iff_eq.mp hcd]
            exact (List.prefix_cons_inj d).mpr h)
        rw [Std.OrientedOrd.eq_swap, hcd, hrest]
        rfl

end Order

/-- Keys that are no longer than a reverse key have equally many columns. -/
theorem length_columns {key : Text} (h : key.length ≤ reverseLength) :
    (columns key).length = reverseLength := by
  rw [columns, Text.padEnd, List.length_append, List.length_map, List.length_replicate,
    Nat.add_sub_cancel' h]

/-- Keys that are no longer than a reverse key descend as their columns ascend. -/
theorem compare_reverse {a b : Text} (ha : a.length ≤ reverseLength)
    (hb : b.length ≤ reverseLength) :
    compare (reverse a) (reverse b) = compare (columns b) (columns a) := by
  rw [reverse_eq, reverse_eq]
  exact compare_map_opposite (mem_columnChars_of_mem_columns a) (mem_columnChars_of_mem_columns b)
    ((length_columns ha).trans (length_columns hb).symm)

/-- Keys of any length descend as their columns ascend, unless the columns of one continue those
of the other. -/
theorem reverse_gt_of_columns {a b : Text} (hlt : compare (columns a) (columns b) = .lt)
    (hbegins : ¬ columns a <+: columns b) : compare (reverse a) (reverse b) = .gt := by
  rw [reverse_eq, reverse_eq]
  exact compare_map_opposite_of_lt (mem_columnChars_of_mem_columns a)
    (mem_columnChars_of_mem_columns b) hlt hbegins

end ShelfKey
end Shelfmark
