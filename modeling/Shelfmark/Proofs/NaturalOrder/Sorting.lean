import Mathlib.Data.List.Destutter
import Shelfmark.NaturalOrder

/-!
# Natural order - Sorting without repetition

A listing is sorted, and of the values that compare equal the first is kept.  Sorting is stable,
so the value that is kept is the one that came first before the sort as well; and behind the sort
equal values are neighbours, so it is enough to compare neighbours.

All of this holds for any comparison that is a total preorder.

Main results:

- Theorem `filter_sortBy`: values that compare equal keep their order.
- Theorem `sortDistinct_eq_destutter`: repetitions are dropped by comparing neighbours.
- Theorem `arranged_sortDistinct`: what is left ascends strictly, and is the first of each class
  of values that compare equal.
-/

namespace Shelfmark
namespace NaturalOrder

variable {α : Type} {cmp : α → α → Ordering} [Std.TransCmp cmp]

/-! ## Values in order -/

/-- At most is transitive. -/
theorem isLE_trans {a b c : α} (hab : (cmp a b).isLE = true) (hbc : (cmp b c).isLE = true) :
    (cmp a c).isLE = true :=
  Std.TransCmp.isLE_trans hab hbc

/-- Of two values one is at most the other. -/
theorem isLE_total (a b : α) : ((cmp a b).isLE || (cmp b a).isLE) = true := by
  have hswap : cmp b a = (cmp a b).swap := Std.OrientedCmp.eq_swap
  rw [hswap]
  cases cmp a b <;> rfl

/-- A value compares equal to itself. -/
theorem isEq_self (a : α) : (cmp a a).isEq = true :=
  Ordering.isEq_iff_eq_eq.mpr Std.ReflCmp.compare_self

/-- Comparing equal goes in both directions. -/
theorem isEq_comm (a b : α) : (cmp a b).isEq = (cmp b a).isEq := by
  have hswap : cmp a b = (cmp b a).swap := Std.OrientedCmp.eq_swap
  rw [hswap]
  cases cmp b a <;> rfl

/-- What compares equal to one of two values that compare equal does so to the other. -/
theorem isEq_congr {a b : α} (h : cmp a b = .eq) (c : α) : (cmp a c).isEq = (cmp b c).isEq := by
  rw [Std.TransCmp.congr_left h]

/-- A sorted list ascends. -/
theorem pairwise_sortBy (values : List α) :
    (sortBy cmp values).Pairwise fun a b => (cmp a b).isLE = true :=
  List.pairwise_mergeSort (fun _ _ _ => isLE_trans) isLE_total values

/-- Values that compare equal to one value keep their order. -/
theorem filter_sortBy (values : List α) (v : α) :
    (sortBy cmp values).filter (fun u => (cmp u v).isEq) =
      values.filter fun u => (cmp u v).isEq := by
  let ofClass := values.filter fun u => (cmp u v).isEq
  have hclass : ofClass.Pairwise fun a b => (cmp a b).isLE = true := by
    refine List.Pairwise.imp_of_mem ?_ (List.pairwise_of_forall (R := fun _ _ => True)
      fun _ _ => trivial)
    intro a b ha hb _
    have hav := Ordering.isEq_iff_eq_eq.mp (List.mem_filter.mp ha).2
    have hbv := Ordering.isEq_iff_eq_eq.mp (List.mem_filter.mp hb).2
    rw [Std.TransCmp.congr_left hav, Std.OrientedCmp.eq_symm hbv]
    rfl
  -- The class is left as it is when the list is sorted, and sorting adds nothing to it.
  have hsub : ofClass.Sublist (sortBy cmp values) :=
    List.sublist_mergeSort (fun _ _ _ => isLE_trans) isLE_total hclass List.filter_sublist
  have hinside := hsub.filter fun u => (cmp u v).isEq
  rw [List.filter_filter] at hinside
  simp only [Bool.and_self] at hinside
  have hlength : ((sortBy cmp values).filter fun u => (cmp u v).isEq).length = ofClass.length :=
    ((List.mergeSort_perm values _).filter _).length_eq
  exact (hinside.eq_of_length hlength.symm).symm

/-! ## Dropping repetitions -/

/-- Of values that compare equal the first is kept. -/
theorem mem_eraseDupsBy_iff (values : List α) (v : α) :
    v ∈ values.eraseDupsBy (fun a b => (cmp a b).isEq) ↔
      values.find? (fun u => (cmp u v).isEq) = some v := by
  induction hn : values.length using Nat.strongRecOn generalizing values with
  | ind n ih =>
    cases values with
    | nil => simp
    | cons a rest =>
      have hlt : (rest.filter fun b => (cmp b a).isEq = false).length < n :=
        hn ▸ Nat.lt_succ_of_le (List.length_filter_le _ _)
      rw [List.eraseDupsBy_cons, List.mem_cons, ih _ hlt _ rfl, ← List.head?_filter,
        ← List.head?_filter, List.filter_filter]
      cases hav : (cmp a v).isEq with
      | true =>
        -- The first value represents its class, and no other member of the class is left.
        have hva : (cmp v a).isEq = true := (isEq_comm v a).trans hav
        rw [List.filter_cons_of_pos (by exact hav), List.head?_cons, Option.some_inj]
        refine ⟨fun h => h.elim Eq.symm fun hhead => ?_, fun h => Or.inl h.symm⟩
        have hkept := (List.mem_filter.mp (List.mem_of_head? hhead)).2
        rw [hva] at hkept
        exact absurd hkept (by simp)
      | false =>
        have hne : v ≠ a := by
          rintro rfl
          rw [isEq_self] at hav
          contradiction
        rw [List.filter_cons_of_neg (by simp [hav]), or_iff_right hne]
        refine iff_of_eq (congrArg (List.head? · = some v) (List.filter_congr fun u _ => ?_))
        cases huv : (cmp u v).isEq with
        | true => rw [isEq_congr (Ordering.isEq_iff_eq_eq.mp huv), isEq_comm, hav]; rfl
        | false => rfl

/-- In an ascending list repetitions are dropped by comparing neighbours. -/
theorem eraseDupsBy_eq_destutter {values : List α}
    (h : values.Pairwise fun a b => (cmp a b).isLE = true) :
    values.eraseDupsBy (fun a b => (cmp a b).isEq) = values.destutter fun a b => cmp a b ≠ .eq := by
  cases values with
  | nil => rfl
  | cons a rest =>
    rw [List.destutter_cons']
    induction rest generalizing a with
    | nil => rw [List.eraseDupsBy_cons]; rfl
    | cons b rest ih =>
      obtain ⟨ha, hb⟩ := List.pairwise_cons.mp h
      by_cases hab : cmp a b = .eq
      · -- The second value is of the class of the first.
        have hba : (cmp b a).isEq = true := (isEq_comm b a).trans (by rw [hab]; rfl)
        rw [List.destutter'_cons_neg _ (by simp [hab]), ← ih a (h.sublist (by simp)),
          List.eraseDupsBy_cons, List.filter_cons_of_neg (by simp [hba]), ← List.eraseDupsBy_cons]
      · -- It comes behind the first, and so does everything behind it.
        have hlater : ∀ c ∈ b :: rest, (cmp c a).isEq = false := by
          intro c hc
          rw [isEq_comm, Ordering.isEq_eq_false]
          intro hac
          have hbc : (cmp b c).isLE = true := by
            rcases List.mem_cons.mp hc with rfl | hc
            · exact Std.ReflCmp.isLE_rfl
            · exact (List.pairwise_cons.mp hb).1 c hc
          have hba : (cmp b a).isLE = true :=
            isLE_trans hbc (by rw [Std.OrientedCmp.eq_symm hac]; rfl)
          exact hab (Std.OrientedCmp.isLE_antisymm (ha b (by simp)) hba)
        rw [List.destutter'_cons_pos _ hab, ← ih b hb, List.eraseDupsBy_cons,
          List.filter_eq_self.mpr fun c hc => by simp [hlater c hc]]

/-- A sorted listing is freed of repetitions by comparing neighbours. -/
theorem sortDistinct_eq_destutter (values : List α) :
    sortDistinct cmp values = (sortBy cmp values).destutter fun a b => cmp a b ≠ .eq :=
  eraseDupsBy_eq_destutter (pairwise_sortBy values)

/-! ## Listings -/

/-- A listing of some values: it ascends strictly, and it holds of every class of values that
compare equal the one that comes first among the values. -/
structure Arranged (cmp : α → α → Ordering) (values listed : List α) : Prop where
  ascending : listed.Pairwise fun a b => cmp a b = .lt
  mem_iff : ∀ v, v ∈ listed ↔ values.find? (fun u => (cmp u v).isEq) = some v

/-- Sorting and dropping repetitions makes a listing. -/
theorem arranged_sortDistinct (values : List α) :
    Arranged cmp values (sortDistinct cmp values) where
  ascending := by
    have htrans : Trans (fun a b : α => cmp a b = .lt) (fun a b => cmp a b = .lt)
        fun a b => cmp a b = .lt := ⟨Std.TransCmp.lt_trans⟩
    have hsorted : (sortBy cmp values).Pairwise fun a b => (cmp a b).isLE = true :=
      pairwise_sortBy values
    have hascending :=
      (hsorted.sublist (List.destutter_sublist (fun a b => cmp a b ≠ .eq) _)).isChain
    have hdistinct := List.isChain_destutter (fun a b => cmp a b ≠ .eq) (sortBy cmp values)
    rw [List.isChain_iff_getElem] at hascending hdistinct
    rw [sortDistinct_eq_destutter]
    refine List.IsChain.pairwise (List.isChain_iff_getElem.mpr fun i hi => ?_)
    exact (Ordering.isLE_iff_eq_lt_or_eq_eq.mp (hascending i hi)).resolve_right (hdistinct i hi)
  mem_iff v := by
    rw [sortDistinct, mem_eraseDupsBy_iff, ← List.head?_filter, filter_sortBy, List.head?_filter]

/-- What is listed is one of the values. -/
theorem Arranged.mem_values {cmp : α → α → Ordering} {values listed : List α}
    (h : Arranged cmp values listed) {t : α} (ht : t ∈ listed) : t ∈ values :=
  List.mem_of_find?_eq_some ((h.mem_iff t).mp ht)

section Arranged

variable {values listed : List α} (h : Arranged cmp values listed) {t : α}

include h

/-- The first value that compares equal to a value is listed. -/
theorem Arranged.exists_first (ht : t ∈ values) :
    ∃ u ∈ listed, cmp t u = .eq ∧ values.find? (fun v => (cmp v t).isEq) = some u := by
  have hsome : (values.find? fun v => (cmp v t).isEq).isSome := by
    rw [List.find?_isSome]
    exact ⟨t, ht, isEq_self t⟩
  obtain ⟨u, hu⟩ := Option.isSome_iff_exists.mp hsome
  have hut : cmp u t = .eq := Ordering.isEq_iff_eq_eq.mp (List.find?_some hu :)
  refine ⟨u, (h.mem_iff u).mpr ?_, Std.OrientedCmp.eq_symm hut, hu⟩
  have hclass : (fun v => (cmp v u).isEq) = fun v => (cmp v t).isEq := by
    funext v
    rw [Std.TransCmp.congr_right hut]
  rw [hclass, hu]

/-- Listed values that compare equal are one. -/
theorem Arranged.eq_of_compare (ht : t ∈ listed) {u : α} (hu : u ∈ listed) (htu : cmp t u = .eq) :
    t = u := by
  have hclass : (fun v => (cmp v t).isEq) = fun v => (cmp v u).isEq := by
    funext v
    rw [Std.TransCmp.congr_right htu]
  have hfind := (h.mem_iff t).mp ht
  rw [hclass, (h.mem_iff u).mp hu] at hfind
  exact (Option.some.inj hfind).symm

end Arranged

end NaturalOrder
end Shelfmark
