import Mathlib.Order.Bounds.Basic
import Shelfmark.Proofs.Cluster.Summary

/-!
# Clusters - The longest beginning of all values

The common beginning is found by comparing the first value with each of the others.  Since loose
agreement is an equivalence of characters, all values then agree with each other as well, on as
many positions as any two of them do at the least.

Main results:

- Theorem `isGreatest_commonLength`: the values agree pairwise on so many positions and no more.
- Theorem `listing_eq`: the first item stands behind a space, the others behind commas.
- Theorem `summary_longest_beginning`: what the summary of two or more members reads.
-/

namespace Shelfmark
namespace Cluster

open NaturalOrder (looselyEqual natural)

/-! ## Agreement of all values -/

/-- All values have a number of positions, and any two of them agree on each of these. -/
structure AgreeOn (values : List Text) (n : Nat) : Prop where
  le_length : ∀ v ∈ values, n ≤ v.length
  pairwise : ∀ v ∈ values, ∀ w ∈ values, ∀ i, i < n →
    ∀ (hv : i < v.length) (hw : i < w.length), looselyEqual v[i] w[i] = true

/-- Beginnings agree exactly where their characters do. -/
theorem looselyAgree_take_iff {v w : Text} {n : Nat} (hv : n ≤ v.length) :
    LooselyAgree (v.take n) (w.take n) ↔ n ≤ w.length ∧
      ∀ i, i < n → ∀ (hv : i < v.length) (hw : i < w.length), looselyEqual v[i] w[i] = true := by
  simp only [LooselyAgree, List.forall₂_iff_get, List.length_take, List.get_eq_getElem,
    List.getElem_take]
  constructor
  · rintro ⟨hlength, hequal⟩
    exact ⟨by omega, fun i hi hv hw => hequal i (by omega) (by omega)⟩
  · rintro ⟨hw, hequal⟩
    exact ⟨by omega, fun i hi hi' => hequal i (by omega) (by omega) (by omega)⟩

/-- What agrees with the first value agrees throughout. -/
theorem shares_iff_agreeOn {first : Text} {others : List Text} {n : Nat} :
    Shares first others n ↔ AgreeOn (first :: others) n := by
  constructor
  · rintro ⟨hle, hothers⟩
    have hall : ∀ v ∈ first :: others, LooselyAgree (first.take n) (v.take n) :=
      List.forall_mem_cons.mpr ⟨LooselyAgree.refl _, hothers⟩
    have hlength : ∀ v ∈ first :: others, n ≤ v.length :=
      fun v hv => ((looselyAgree_take_iff hle).mp (hall v hv)).1
    refine ⟨hlength, fun v hv w hw => ?_⟩
    -- Both come to the same as the first value.
    have hagree : LooselyAgree (v.take n) (w.take n) := by
      have hleft := looselyAgree_iff.mp (hall v hv)
      have hright := looselyAgree_iff.mp (hall w hw)
      exact looselyAgree_iff.mpr (hleft.symm.trans hright)
    exact ((looselyAgree_take_iff (hlength v hv)).mp hagree).2
  · intro h
    have hle := h.le_length first List.mem_cons_self
    refine ⟨hle, fun v hv => (looselyAgree_take_iff hle).mpr ?_⟩
    have hmem : v ∈ first :: others := List.mem_cons_of_mem first hv
    exact ⟨h.le_length v hmem, h.pairwise first List.mem_cons_self v hmem⟩

/-- The values agree on as many positions as are counted, and on no more. -/
theorem isGreatest_commonLength (first : Text) (others : List Text) :
    IsGreatest {n | AgreeOn (first :: others) n} (commonLength first others) := by
  have hiff (n : Nat) : n ≤ commonLength first others ↔ AgreeOn (first :: others) n :=
    le_commonLength_iff.trans shares_iff_agreeOn
  exact ⟨(hiff _).mp (Nat.le_refl _), fun n hn => (hiff n).mpr hn⟩

/-! ## The cut -/

/-- What stands in front of the last space of a text, or the text if it has none. -/
inductive IsCut (s : Text) : Text → Prop
  | atSpace (front rest : Text) (hsplit : s = front ++ ' ' :: rest) (hrest : ' ' ∉ rest) :
      IsCut s front
  | whole (hspace : ' ' ∉ s) : IsCut s s

/-- A text is cut in front of its last space. -/
theorem isCut_cutAtLastSpace (s : Text) : IsCut s (cutAtLastSpace s) := by
  by_cases hspace : ' ' ∈ s
  · obtain ⟨front, rest, rfl, hrest⟩ := Text.exists_of_mem hspace
    rw [cutAtLastSpace_append front hrest]
    exact .atSpace front rest rfl hrest
  · rw [cutAtLastSpace_of_not_mem hspace]
    exact .whole hspace

/-! ## The listing -/

/-- Items as they are listed: the first behind a space, the others behind commas. -/
def listed : List Text → Text
  | [] => []
  | item :: items => ' ' :: item ++ items.flatMap (',' :: ·)

/-- Joined texts are the first of them and the others, each behind the separator. -/
theorem join_cons (separator : Char) (part : Text) (parts : List Text) :
    Text.join [separator] (part :: parts) = part ++ parts.flatMap (separator :: ·) := by
  unfold Text.join
  induction parts generalizing part with
  | nil => simp
  | cons next parts ih => simp [List.intercalate_cons_cons, ih]

/-- A listing is the beginning and the items behind it. -/
theorem listing_eq (beginning : Text) (items : List Text) :
    listing beginning items = beginning ++ listed items := by
  cases items with
  | nil => simp [listing, listed]
  | cons item items => simp [listing, listed, join_cons]

/-! ## The summary -/

/-- The number of members is written in decimal. -/
theorem volumeCount_eq (beginning : Text) (n : Nat) :
    volumeCount beginning n =
      beginning ++ " (".toList ++ (toString n).toList ++ " volumes)".toList := by
  rw [volumeCount, Nat.toString_eq_repr, Nat.toList_repr]

/-- The summary of a cluster of two or more members.  It begins with the longest beginning on
which any two of the values agree, cut in front of its last space.  Behind it are listed, in
natural order, the values without so many characters, trimmed and unless they are empty; or, if
these are too many or would be too long, the number of the members is given. -/
theorem summary_longest_beginning (key : Text) (first second : Entry) (rest : List Entry)
    (options : Options) :
    let values := (first :: second :: rest).map Entry.value
    ∃ (n : Nat) (beginning : Text) (items : List Text),
      IsGreatest {n | AgreeOn values n} n ∧
      IsCut (first.value.take n) beginning ∧
      items.Perm ((values.map fun v => Text.trim (v.drop beginning.length)).filter (!·.isEmpty)) ∧
      (items.Pairwise fun a b => (natural a b).isLE = true) ∧
      Cluster.summary? ⟨key, first :: second :: rest⟩ options = some
        (if options.maxSummaryLength < (beginning ++ listed items).length ∨
            options.maxListedVolumes < values.length then
          beginning ++ " (".toList ++ (toString values.length).toList ++ " volumes)".toList
        else beginning ++ listed items) := by
  intro values
  let others := (second :: rest).map Entry.value
  let beginning := commonBeginning first.value others
  have hne : others ≠ [] := List.cons_ne_nil _ _
  refine ⟨commonLength first.value others, beginning, remainders beginning values,
    isGreatest_commonLength first.value others, isCut_cutAtLastSpace _, remainders_perm _ _,
    NaturalOrder.pairwise_sortBy _, ?_⟩
  rw [← listing_eq, ← volumeCount_eq]
  exact summarize?_eq options first.value hne

end Cluster
end Shelfmark
