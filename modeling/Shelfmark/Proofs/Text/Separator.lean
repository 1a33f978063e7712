import Shelfmark.Text.Basic

/-!
# Text - Separators

A text falls into parts around its first separator and around its last one.  What stands in front
of the first, or behind the last, has no separator itself, and determines where the separator is.
Texts without the separator can be joined with it and taken apart again.

Main results:

- Theorem `exists_of_afterLast?`: the text falls into parts around its last separator.
- Theorem `afterLast?_append`: in two texts the separators of the second come last.
- Theorem `cut?_eq_some_iff`: the text falls into parts around its first separator.
- Theorem `pieces_join`: the pieces of joined texts are these texts.
-/

namespace Shelfmark
namespace Text

/-! ## Behind the last separator -/

/-- Without the separator there is nothing behind it. -/
theorem afterLast?_of_not_mem {separator : Char} {s : Text} (h : separator ∉ s) :
    afterLast? separator s = none := by
  induction s with
  | nil => rfl
  | cons c s ih =>
    obtain ⟨hc, hs⟩ := not_or.mp (mt List.mem_cons.mpr h)
    rw [afterLast?, ih hs]
    exact if_neg (Ne.symm hc)

/-- Behind the last separator stands what has no separator. -/
theorem afterLast?_append_cons {separator : Char} (s : Text) {t : Text} (h : separator ∉ t) :
    afterLast? separator (s ++ separator :: t) = some t := by
  induction s with
  | nil =>
    rw [List.nil_append, afterLast?, afterLast?_of_not_mem h]
    exact if_pos rfl
  | cons c s ih => rw [List.cons_append, afterLast?, ih]

/-- A text with a separator falls into two parts around the last one. -/
theorem exists_of_mem {separator : Char} {s : Text} (h : separator ∈ s) :
    ∃ u t, s = u ++ separator :: t ∧ separator ∉ t := by
  induction s with
  | nil => contradiction
  | cons c s ih =>
    by_cases hs : separator ∈ s
    · obtain ⟨u, t, rfl, ht⟩ := ih hs
      exact ⟨c :: u, t, rfl, ht⟩
    · obtain rfl := (List.mem_cons.mp h).resolve_right hs
      exact ⟨[], s, rfl, hs⟩

/-- What is found behind the last separator stands behind one, and has none. -/
theorem exists_of_afterLast? {separator : Char} {s t : Text}
    (h : afterLast? separator s = some t) : ∃ u, s = u ++ separator :: t ∧ separator ∉ t := by
  by_cases hmem : separator ∈ s
  · obtain ⟨u, v, rfl, hv⟩ := exists_of_mem hmem
    rw [afterLast?_append_cons u hv] at h
    exact Option.some.inj h ▸ ⟨u, rfl, hv⟩
  · rw [afterLast?_of_not_mem hmem] at h
    contradiction

/-- In two texts the last separator stands in the second, if that has one. -/
theorem afterLast?_append (separator : Char) (s t : Text) :
    afterLast? separator (s ++ t) =
      (afterLast? separator t).or ((afterLast? separator s).map (· ++ t)) := by
  induction s with
  | nil => exact Option.or_none.symm
  | cons c s ih =>
    rw [List.cons_append, afterLast?, ih, afterLast?]
    cases afterLast? separator t with
    | some rest => rfl
    | none =>
      cases afterLast? separator s with
      | some rest => rfl
      | none => by_cases hc : c = separator <;> simp [hc]

/-! ## Around the first separator -/

/-- A text is divided where the separator first stands. -/
theorem cut?_eq_some_iff {separator : Char} {s front rest : Text} :
    cut? separator s = some (front, rest) ↔
      s = front ++ separator :: rest ∧ separator ∉ front := by
  induction s generalizing front with
  | nil => simp [cut?]
  | cons c s ih =>
    rw [cut?]
    by_cases hc : c = separator
    · rw [if_pos hc, hc]
      cases front with
      | nil => simp [eq_comm]
      | cons d front =>
        constructor
        · intro h
          simp at h
        · rintro ⟨h, hnot⟩
          rw [List.cons_append, List.cons.injEq] at h
          exact absurd (by simp [h.1]) hnot
    · rw [if_neg hc, Option.map_eq_some_iff]
      cases front with
      | nil => simp [hc]
      | cons d front =>
        simp only [Prod.mk.injEq, Prod.exists, List.cons.injEq, List.cons_append,
          List.mem_cons, not_or]
        constructor
        · rintro ⟨_, _, hcut, ⟨rfl, rfl⟩, rfl⟩
          obtain ⟨hs, hnot⟩ := ih.mp hcut
          exact ⟨⟨rfl, hs⟩, Ne.symm hc, hnot⟩
        · rintro ⟨⟨rfl, hs⟩, -, hnot⟩
          exact ⟨_, _, ih.mpr ⟨hs, hnot⟩, ⟨rfl, rfl⟩, rfl⟩

/-! ## All pieces -/

/-- There is always a piece. -/
theorem pieces_ne_nil (separator : Char) (s : Text) : pieces separator s ≠ [] := by
  cases s with
  | nil => exact List.cons_ne_nil [] []
  | cons c s =>
    rw [pieces]
    split
    · exact List.cons_ne_nil [] _
    · split <;> exact List.cons_ne_nil _ _

/-- A text without the separator is one piece. -/
theorem pieces_of_not_mem {separator : Char} {s : Text} (h : separator ∉ s) :
    pieces separator s = [s] := by
  induction s with
  | nil => rfl
  | cons c s ih =>
    obtain ⟨hc, hs⟩ := not_or.mp (mt List.mem_cons.mpr h)
    rw [pieces, if_neg (Ne.symm hc), ih hs]

/-- A text without the separator is the piece in front of one. -/
theorem pieces_append {separator : Char} {s : Text} (h : separator ∉ s) (t : Text) :
    pieces separator (s ++ separator :: t) = s :: pieces separator t := by
  induction s with
  | nil => rw [List.nil_append, pieces, if_pos rfl]
  | cons c s ih =>
    obtain ⟨hc, hs⟩ := not_or.mp (mt List.mem_cons.mpr h)
    rw [List.cons_append, pieces, if_neg (Ne.symm hc), ih hs]

/-- The pieces of joined texts are these texts. -/
theorem pieces_join {separator : Char} {parts : List Text} (hne : parts ≠ [])
    (h : ∀ part ∈ parts, separator ∉ part) : pieces separator (join [separator] parts) = parts := by
  unfold join
  induction parts with
  | nil => exact absurd rfl hne
  | cons part parts ih =>
    cases parts with
    | nil =>
      rw [List.intercalate_singleton]
      exact pieces_of_not_mem (h part (by simp))
    | cons next parts =>
      have hrest := ih (by simp) fun other hother => h other (List.mem_cons_of_mem part hother)
      rw [List.intercalate_cons_cons, List.append_assoc, List.singleton_append,
        pieces_append (h part (by simp)), hrest]

end Text
end Shelfmark
