import Mathlib.Data.List.Basic
import Mathlib.Data.List.Induction

/-!
# Records - Values listed once

What is read from a record is listed without repetitions, in the order in which the values first
occur.

Main results:

- Theorem `listsOnce_eraseDups`: what is left without repetitions is in the order of first
  occurrences.
- Theorem `ListsOnce.nodup`: no value is listed twice.
-/

namespace Shelfmark

/-- The values of a list, each once and in the order in which they first occur. -/
structure ListsOnce {α : Type} [BEq α] (values listed : List α) : Prop where
  mem_iff : ∀ value, value ∈ listed ↔ value ∈ values
  ascending : listed.Pairwise fun a b => values.idxOf a < values.idxOf b

/-- No value is listed twice. -/
theorem ListsOnce.nodup {α : Type} [BEq α] {values listed : List α}
    (h : ListsOnce values listed) : listed.Nodup := by
  refine h.ascending.imp ?_
  rintro a b hlt rfl
  exact Nat.lt_irrefl _ hlt

/-- What is left of a list without repetitions is in the order of first occurrences. -/
theorem listsOnce_eraseDups {α : Type} [BEq α] [LawfulBEq α] (values : List α) :
    ListsOnce values values.eraseDups := by
  refine ⟨fun value => List.mem_eraseDups, ?_⟩
  -- A value at the end is left if it is new, and then it comes last.
  induction values using List.reverseRecOn with
  | nil => simp
  | append_singleton front last ih =>
    have hkept : front.eraseDups.Pairwise fun a b =>
        (front ++ [last]).idxOf a < (front ++ [last]).idxOf b := by
      refine ih.imp_of_mem fun {a b} ha hb hlt => ?_
      rwa [List.idxOf_append_of_mem (List.mem_eraseDups.mp ha),
        List.idxOf_append_of_mem (List.mem_eraseDups.mp hb)]
    rw [List.eraseDups_append]
    by_cases hmem : last ∈ front
    · have hnone : [last].removeAll front = [] := by simp [List.removeAll, hmem]
      rw [hnone, List.eraseDups_nil, List.append_nil]
      exact hkept
    · have hone : [last].removeAll front = [last] := by simp [List.removeAll, hmem]
      rw [hone, List.pairwise_append]
      refine ⟨hkept, by simp [List.eraseDups_cons], fun a ha b hb => ?_⟩
      have hfront := List.mem_eraseDups.mp ha
      obtain rfl : b = last := by simpa using hb
      rw [List.idxOf_append_of_mem hfront, List.idxOf_append_of_notMem hmem]
      exact Nat.lt_of_lt_of_le (List.idxOf_lt_length_of_mem hfront) (Nat.le_add_right _ _)

end Shelfmark
