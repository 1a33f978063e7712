import Mathlib.Order.Compare
import Mathlib.Order.Lattice
import Shelfmark.Text.Basic

/-!
# Text - Order in columns

Shelf keys are compared as plain texts, yet their parts stand in columns of fixed
width.  In texts whose first columns are equally wide these columns decide first,
and what follows only decides between texts that agree in them.

Main results:

- Theorem `compare_append`: equally long first parts decide first.
- Theorem `compare_padEnd_of_getLast`: padding with blanks does not change the order of
  texts that do not end with one.
-/

namespace Shelfmark

/-- Two pairs that stand in the same order compare equally. -/
theorem compare_congr {α β : Type} [LinearOrder α] [LinearOrder β] {a b : α} {c d : β}
    (hlt : a < b ↔ c < d) (hgt : b < a ↔ d < c) : compare a b = compare c d := by
  rcases lt_trichotomy a b with h | h | h
  · rw [compare_lt_iff_lt.mpr h, compare_lt_iff_lt.mpr (hlt.mp h)]
  · have hcd : c = d := le_antisymm (not_lt.mp (mt hgt.mpr h.le.not_gt))
      (not_lt.mp (mt hlt.mpr h.ge.not_gt))
    rw [compare_eq_iff_eq.mpr h, compare_eq_iff_eq.mpr hcd]
  · rw [compare_gt_iff_gt.mpr h, compare_gt_iff_gt.mpr (hgt.mp h)]

/-- Characters compare by their code points. -/
theorem Character.compare_eq (c d : Char) : compare c d = compare c.toNat d.toNat := by
  change compareOfLessAndEq c d = compareOfLessAndEq c.toNat d.toNat
  have hlt : c < d ↔ c.toNat < d.toNat := Iff.rfl
  simp only [compareOfLessAndEq, hlt, ← Char.toNat_inj]

namespace Text

/-- Of lists that begin with equally long parts these parts decide first. -/
theorem compare_append {α : Type} [Ord α] {a b : List α} (h : a.length = b.length)
    (s t : List α) : compare (a ++ s) (b ++ t) = (compare a b).then (compare s t) := by
  induction a generalizing b with
  | nil =>
    have hnil : b = [] := List.eq_nil_of_length_eq_zero h.symm
    rw [hnil]
    rfl
  | cons x a ih =>
    cases b with
    | nil => simp at h
    | cons y b =>
      have hlength : a.length = b.length := by simpa using h
      rw [List.cons_append, List.cons_append, List.compare_cons_cons, List.compare_cons_cons,
        ih hlength, Ordering.then_assoc]

/-- A common first part decides nothing. -/
theorem compare_append_left {α : Type} [Ord α] [Std.ReflOrd α] (a s t : List α) :
    compare (a ++ s) (a ++ t) = compare s t := by
  have hself : compare a a = .eq := Std.ReflCmp.compare_self
  rw [compare_append rfl, hself]
  rfl

section PadEnd

variable {width : Nat} {a b : Text}

/-- A character before a text is padded. -/
theorem padEnd_cons (width : Nat) (c : Char) (s : Text) :
    padEnd (width + 1) (c :: s) = c :: padEnd width s := by
  simp [padEnd]

/-- Padding without a text is blanks. -/
theorem padEnd_nil (width : Nat) : padEnd (width + 1) [] = ' ' :: padEnd width [] := by
  simp [padEnd, List.replicate_succ]

/-- A text that does not end with a blank comes after padding alone. -/
theorem compare_padEnd_nil (hb : ∀ c ∈ b, 32 ≤ c.toNat) (hlast : ∀ c ∈ b.getLast?, c ≠ ' ')
    (hne : b ≠ []) (hwb : b.length ≤ width) :
    compare (padEnd width []) (padEnd width b) = .lt := by
  induction b generalizing width with
  | nil => exact absurd rfl hne
  | cons d b ih =>
    obtain ⟨width, rfl⟩ := Nat.exists_eq_succ_of_ne_zero (Nat.ne_of_gt (Nat.lt_of_lt_of_le
      (Nat.succ_pos b.length) hwb))
    rw [padEnd_nil, padEnd_cons, List.compare_cons_cons]
    by_cases hd : d = ' '
    · have hself : compare ' ' d = .eq := hd ▸ Std.ReflCmp.compare_self
      have hnext : b ≠ [] := fun h => hlast d (by simp [h]) hd
      have hrest : compare (padEnd width []) (padEnd width b) = .lt :=
        ih (fun x hx => hb x (by simp [hx]))
          (fun x hx => hlast x (by rw [List.getLast?_cons_of_ne_nil hnext]; exact hx)) hnext
          (by simpa using hwb)
      rw [hself, hrest]
      rfl
    · have hlt : compare ' ' d = .lt := by
        have hne : d.toNat ≠ 32 := fun h => hd (Char.toNat_inj.mp h)
        have hle := hb d (by simp)
        rw [Character.compare_eq]
        exact Nat.compare_eq_lt.mpr (Nat.lt_of_le_of_ne hle hne.symm)
      rw [hlt]
      rfl

/-- Texts that do not end with a blank keep their order when they are padded with blanks: where
one of them ends, blanks stand against what is beyond it. -/
theorem compare_padEnd_of_getLast (ha : ∀ c ∈ a, 32 ≤ c.toNat) (hb : ∀ c ∈ b, 32 ≤ c.toNat)
    (hlasta : ∀ c ∈ a.getLast?, c ≠ ' ') (hlastb : ∀ c ∈ b.getLast?, c ≠ ' ')
    (hwa : a.length ≤ width) (hwb : b.length ≤ width) :
    compare (padEnd width a) (padEnd width b) = compare a b := by
  induction a generalizing b width with
  | nil =>
    cases b with
    | nil => exact Std.ReflCmp.compare_self
    | cons d b => exact compare_padEnd_nil hb hlastb (by simp) hwb
  | cons c a ih =>
    cases b with
    | nil =>
      rw [Std.OrientedOrd.eq_swap, compare_padEnd_nil ha hlasta (by simp) hwa]
      rfl
    | cons d b =>
      obtain ⟨width, rfl⟩ := Nat.exists_eq_succ_of_ne_zero (Nat.ne_of_gt (Nat.lt_of_lt_of_le
        (Nat.succ_pos a.length) hwa))
      have hlast {c : Char} {s : Text} (h : ∀ x ∈ (c :: s).getLast?, x ≠ ' ') :
          ∀ x ∈ s.getLast?, x ≠ ' ' := by
        intro x hx
        refine h x ?_
        rw [List.getLast?_cons, hx]
        rfl
      have hrest : compare (padEnd width a) (padEnd width b) = compare a b :=
        ih (fun x hx => ha x (by simp [hx])) (fun x hx => hb x (by simp [hx])) (hlast hlasta)
          (hlast hlastb) (by simpa using hwa) (by simpa using hwb)
      rw [padEnd_cons, padEnd_cons, List.compare_cons_cons, List.compare_cons_cons, hrest]

/-- Texts without blanks keep their order when they are padded with blanks. -/
theorem compare_padEnd (ha : ∀ c ∈ a, 32 < c.toNat) (hb : ∀ c ∈ b, 32 < c.toNat)
    (hwa : a.length ≤ width) (hwb : b.length ≤ width) :
    compare (padEnd width a) (padEnd width b) = compare a b := by
  have hlast {s : Text} (hs : ∀ c ∈ s, 32 < c.toNat) : ∀ c ∈ s.getLast?, c ≠ ' ' := by
    rintro c hc rfl
    exact Nat.lt_irrefl 32 (hs ' ' (List.mem_of_getLast? hc))
  exact compare_padEnd_of_getLast (fun c hc => Nat.le_of_lt (ha c hc))
    (fun c hc => Nat.le_of_lt (hb c hc)) (hlast ha) (hlast hb) hwa hwb

end PadEnd

end Text
end Shelfmark
