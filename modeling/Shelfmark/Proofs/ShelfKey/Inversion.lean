import Shelfmark.Proofs.ShelfKey.Browsing

/-!
# Shelf keys - Keys that browse backwards

Among keys of digits, capitals, spaces and points there is one way in which a reverse key can fail
to reverse the order: both signs count as one in it, so where a space in one key meets a point in
the other, what decided between the keys decides no longer.  In all other pairs the first difference
has a digit or a capital on one side, or one key ends there, and the last character of the longer
one tells them apart.

Main results:

- Theorem `aligned_of_lt`: ascending keys are aligned unless a space meets a point.
- Theorem `reverse_bytes_gt`: the reverse keys of all such pairs descend as bytes.
-/

namespace Shelfmark
namespace ShelfKey

open CallNumber.Lc (IsPrinted)

/-! ## The first difference -/

/-- Whether texts differ, and at the first difference the one has a space and the other a point. -/
def spaceMeetsPoint : Text → Text → Bool
  | c :: s, d :: t => if c = d then spaceMeetsPoint s t else c == ' ' && d == '.'
  | _, _ => false

/-- A printed character that is neither a space nor a point is on the row. -/
theorem onRow_of_ne {c : Char} (h : IsPrinted c) (hspace : c ≠ ' ') (hpoint : c ≠ '.') :
    OnRow c := by
  rcases h with hupper | hdigit | hc | hc
  · exact Or.inl hupper
  · exact Or.inr hdigit
  · exact absurd hc hspace
  · exact absurd hc hpoint

/-- Of two printed characters that ascend one is on the row, or they are a space and a point. -/
theorem onRow_or_of_lt {c d : Char} (hc : IsPrinted c) (hd : IsPrinted d)
    (hlt : compare c d = .lt) (hsigns : (c == ' ' && d == '.') = false) : OnRow c ∨ OnRow d := by
  by_contra hoff
  obtain ⟨hoffc, hoffd⟩ := not_or.mp hoff
  have hsign {x : Char} (hx : IsPrinted x) (hrow : ¬ OnRow x) : x = ' ' ∨ x = '.' := by
    by_contra hne
    exact hrow (onRow_of_ne hx (not_or.mp hne).1 (not_or.mp hne).2)
  rcases hsign hc hoffc with rfl | rfl
  · rcases hsign hd hoffd with rfl | rfl
    · exact absurd hlt (by decide)
    · exact absurd hsigns (by decide)
  · rcases hsign hd hoffd with rfl | rfl
    · exact absurd hlt (by decide)
    · exact absurd hlt (by decide)

/-- Ascending keys are aligned, unless they differ first where a space meets a point. -/
theorem aligned_of_lt {a b : Text} (ha : ∀ c ∈ a, IsPrinted c) (hb : ∀ c ∈ b, IsPrinted c)
    (hlt : compare a b = .lt) (hsigns : spaceMeetsPoint a b = false) : Aligned a b := by
  induction a generalizing b with
  | nil => exact .nil b
  | cons c a ih =>
    cases b with
    | nil => exact .cons_nil c a
    | cons d b =>
      rw [List.compare_cons_cons] at hlt
      unfold spaceMeetsPoint at hsigns
      by_cases hcd : c = d
      · subst hcd
        have hself : compare c c = .eq := Std.ReflCmp.compare_self
        rw [hself] at hlt
        rw [if_pos rfl] at hsigns
        exact .same c (ih (fun x hx => ha x (by simp [hx])) (fun x hx => hb x (by simp [hx])) hlt
          hsigns)
      · rw [if_neg hcd] at hsigns
        have hfirst : compare c d = .lt := by
          rcases Ordering.then_eq_lt.mp hlt with hfirst | ⟨heq, -⟩
          · exact hfirst
          · exact absurd (Std.compare_eq_iff_eq.mp heq) hcd
        exact .differ a b hcd (onRow_or_of_lt (ha c (by simp)) (hb d (by simp)) hfirst hsigns)

/-! ## Reverse keys -/

/-- The reverse key of a key that its columns can hold has exactly these columns. -/
theorem length_reverse {key : Text} (h : key.length ≤ reverseLength) :
    (reverse key).length = reverseLength := by
  rw [reverse_eq, List.length_map, length_columns h]

/-- Keys that ascend have reverse keys of full length that descend, byte by byte, unless the keys
differ first where a space meets a point. -/
theorem reverse_bytes_gt {a b : Text} (ha : Fitting a) (hb : Fitting b)
    (hlt : compare a.bytes b.bytes = .lt) (hsigns : spaceMeetsPoint a b = false) :
    compare (reverse a).bytes (reverse b).bytes = .gt ∧
      (reverse a).length = 75 ∧ (reverse b).length = 75 := by
  rw [Text.compare_bytes] at hlt ⊢
  have haligned := aligned_of_lt ha.isPrinted hb.isPrinted hlt hsigns
  exact ⟨reverse_gt_of_lt haligned ha hb hlt, length_reverse ha.length_le,
    length_reverse hb.length_le⟩

/-- The longer key goes on with a space and a point, which the padding of the other one meets, and
only then with a capital. -/
theorem continued_bytes_gt :
    compare (reverse "QA  0076.730000".toList).bytes (reverse "QA  0076.730000 .J38".toList).bytes =
      .gt := by
  have ha : Fitting "QA  0076.730000".toList :=
    ⟨by simp [IsPrinted], by simp [OnRow], by decide⟩
  have hb : Fitting "QA  0076.730000 .J38".toList :=
    ⟨by simp [IsPrinted], by simp [OnRow], by decide⟩
  exact (reverse_bytes_gt ha hb (by decide +kernel) (by decide)).1

end ShelfKey
end Shelfmark
