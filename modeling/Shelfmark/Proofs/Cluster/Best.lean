import Shelfmark.Cluster.Best
import Shelfmark.Proofs.Cluster.Grouping

/-!
# Clusters - How the best cluster is chosen

Clusters compare by their size and then by their members, and clusters that agree in both
are told apart by their keys.  Among clusters in ascending order of keys this is an order
without ties, and the choice is its greatest element.

Main results:

- Theorem `Preferred.trans`: preference is transitive.
- Theorem `largest?_eq_some_iff`: the choice is the cluster that is preferred to all others.
- Theorem `chosen?_eq_some_iff`: so is the choice among the clusters that count.
- Theorem `exists_best?_isLc_iff`: the best cluster counts as Library of Congress exactly when
  some cluster does.
-/

namespace Shelfmark
namespace Cluster

/-! ## Preference -/

/-- How two clusters compare as representatives of a record: by size, and among clusters of one
size the one whose members come first is the greater. -/
def rank (c d : Cluster) : Ordering :=
  (compare c.members.length d.members.length).then
    (List.compareLex Entry.compare d.members c.members)

/-- A cluster represents a record better if it has the higher rank. -/
theorem isBetter_iff {c d : Cluster} : c.isBetter d = true ↔ c.rank d = .gt :=
  beq_iff_eq

/-- Ranks are compared by two keys, one after the other. -/
theorem rank_eq_compareLex :
    rank = compareLex (compareOn fun c => c.members.length)
      (fun c d => List.compareLex Entry.compare d.members c.members) :=
  rfl

/-- The comparison of ranks is a total preorder. -/
instance : Std.TransCmp rank :=
  have : Std.TransCmp fun c d : Cluster => List.compareLex Entry.compare d.members c.members :=
    NaturalOrder.transCmp_comap (fun a b => List.compareLex Entry.compare b a) Cluster.members
  rank_eq_compareLex ▸ inferInstanceAs (Std.TransCmp (compareLex _ _))

/-- A cluster is preferred to another one of lower rank, or of the same rank and with a greater
key. -/
def Preferred (c d : Cluster) : Prop :=
  c.rank d = .gt ∨ c.rank d = .eq ∧ c.key < d.key

/-- Preference is transitive. -/
theorem Preferred.trans {b c d : Cluster} (h : Preferred b c) (h' : Preferred c d) :
    Preferred b d := by
  rcases h with hbc | ⟨hbc, hkey⟩
  · rcases h' with hcd | ⟨hcd, -⟩
    · exact Or.inl (Std.TransCmp.gt_trans hbc hcd)
    · exact Or.inl (Std.TransCmp.congr_right hcd ▸ hbc)
  · rcases h' with hcd | ⟨hcd, hkey'⟩
    · exact Or.inl ((Std.TransCmp.congr_left hbc).trans hcd)
    · exact Or.inr ⟨(Std.TransCmp.congr_left hbc).trans hcd, hkey.trans hkey'⟩

/-- No two clusters are preferred to each other. -/
theorem Preferred.asymm {c d : Cluster} (h : Preferred c d) : ¬ Preferred d c := by
  rcases h with hcd | ⟨hcd, hkey⟩
  · have hdc : d.rank c = .lt := Std.OrientedCmp.lt_of_gt hcd
    rintro (h | ⟨h, -⟩) <;> rw [hdc] at h <;> contradiction
  · have hdc : d.rank c = .eq := Std.OrientedCmp.eq_symm hcd
    rintro (h | ⟨-, h⟩)
    · rw [hdc] at h
      contradiction
    · exact lt_asymm hkey h

/-- A cluster that another one does not replace is preferred to it, if it has the smaller key. -/
theorem preferred_of_not_isBetter {c d : Cluster} (hkey : c.key < d.key)
    (h : ¬ d.isBetter c = true) : Preferred c d := by
  rw [isBetter_iff] at h
  cases hrank : c.rank d with
  | lt => exact absurd (Std.OrientedCmp.gt_of_lt hrank) h
  | eq => exact Or.inr ⟨hrank, hkey⟩
  | gt => exact Or.inl hrank

end Cluster

namespace Clusters

open Cluster (Preferred)

/-! ## The greatest of some clusters -/

section Largest

variable {clusters : List Cluster} {m : Cluster}

/-- There is a best cluster where there are clusters. -/
theorem largest?_eq_none_iff : largest? clusters = none ↔ clusters = [] := by
  cases clusters <;> simp [largest?]

/-- The best cluster is one of them, and preferred to all others. -/
theorem largest?_spec (ascending : clusters.Pairwise fun c d => c.key < d.key)
    (h : largest? clusters = some m) :
    m ∈ clusters ∧ ∀ c ∈ clusters, c = m ∨ Preferred m c := by
  cases clusters with
  | nil => contradiction
  | cons first rest =>
    rw [largest?, Option.some.injEq] at h
    induction rest generalizing first with
    | nil => simp [← h]
    | cons next rest ih =>
      obtain ⟨hfirst, hrest⟩ := List.pairwise_cons.mp ascending
      obtain ⟨hnext, hlater⟩ := List.pairwise_cons.mp hrest
      rw [List.foldl_cons] at h
      -- One of the first two clusters is left out; the other one is preferred to it.
      have hstep {kept dropped : Cluster} (hpreferred : Preferred kept dropped)
          (hm : m ∈ kept :: rest ∧ ∀ c ∈ kept :: rest, c = m ∨ Preferred m c) :
          dropped = m ∨ Preferred m dropped := by
        rcases hm.2 kept (by simp) with rfl | hkept
        · exact Or.inr hpreferred
        · exact Or.inr (hkept.trans hpreferred)
      by_cases hbetter : next.isBetter first = true
      · rw [if_pos hbetter] at h
        have hm := ih next hrest h
        refine ⟨List.mem_cons_of_mem first hm.1, fun c hc => ?_⟩
        rcases List.mem_cons.mp hc with rfl | hc
        · exact hstep (Or.inl (Cluster.isBetter_iff.mp hbetter)) hm
        · exact hm.2 c hc
      · rw [if_neg hbetter] at h
        have hascending : (first :: rest).Pairwise fun c d => c.key < d.key :=
          List.pairwise_cons.mpr ⟨fun c hc => hfirst c (by simp [hc]), hlater⟩
        have hm := ih first hascending h
        refine ⟨?_, fun c hc => ?_⟩
        · rcases List.mem_cons.mp hm.1 with rfl | hmem
          · simp
          · simp [hmem]
        · rcases List.mem_cons.mp hc with rfl | hc
          · exact hm.2 c (by simp)
          · rcases List.mem_cons.mp hc with rfl | hc
            · exact hstep
                (Cluster.preferred_of_not_isBetter (hfirst c (by simp)) hbetter) hm
            · exact hm.2 c (by simp [hc])

/-- The choice among clusters in ascending order of keys is the one that is preferred to all
others. -/
theorem largest?_eq_some_iff (ascending : clusters.Pairwise fun c d => c.key < d.key) :
    largest? clusters = some m ↔ m ∈ clusters ∧ ∀ c ∈ clusters, c = m ∨ Preferred m c := by
  constructor
  · exact largest?_spec ascending
  · rintro ⟨hm, hall⟩
    cases h : largest? clusters with
    | none =>
      rw [largest?_eq_none_iff.mp h] at hm
      contradiction
    | some n =>
      obtain ⟨hn, hall'⟩ := largest?_spec ascending h
      rcases hall n hn with rfl | hpreferred
      · rfl
      · rcases hall' m hm with rfl | hpreferred'
        · rfl
        · exact absurd hpreferred hpreferred'.asymm

end Largest

/-! ## The choice for a record -/

/-- The best of the clusters that count, or else the best of all. -/
def chosen? (counts : Cluster → Bool) (clusters : Clusters) : Option Cluster :=
  (largest? (clusters.filter counts)).or (largest? clusters)

section Chosen

variable {counts : Cluster → Bool} {clusters : Clusters}

/-- Only what counts among the clusters matters. -/
theorem chosen?_congr {counts' : Cluster → Bool} (h : ∀ c ∈ clusters, counts c = counts' c) :
    chosen? counts clusters = chosen? counts' clusters := by
  rw [chosen?, chosen?, List.filter_congr h]

/-- Where a cluster counts, the choice is among those that do. -/
theorem chosen?_of_exists (h : ∃ c ∈ clusters, counts c = true) :
    chosen? counts clusters = largest? (clusters.filter counts) := by
  obtain ⟨c, hc, hcounts⟩ := h
  have hmem : c ∈ clusters.filter counts := List.mem_filter.mpr ⟨hc, hcounts⟩
  rw [chosen?]
  cases hlargest : largest? (clusters.filter counts) with
  | none =>
    rw [largest?_eq_none_iff.mp hlargest] at hmem
    contradiction
  | some m => rfl

/-- Where there are clusters, one is chosen. -/
theorem exists_chosen? (counts : Cluster → Bool) (hne : clusters ≠ []) :
    ∃ m, chosen? counts clusters = some m := by
  rw [← Option.isSome_iff_exists, Option.isSome_iff_ne_none]
  intro hnone
  have hall := (Option.or_eq_none_iff.mp hnone).2
  exact hne (largest?_eq_none_iff.mp hall)

/-- Where a cluster counts, the choice is the cluster that counts and is preferred to all others
that do. -/
theorem chosen?_eq_some_iff (ascending : clusters.Pairwise fun c d => c.key < d.key)
    (h : ∃ c ∈ clusters, counts c = true) {m : Cluster} :
    chosen? counts clusters = some m ↔
      (m ∈ clusters ∧ counts m = true) ∧
        ∀ c ∈ clusters, counts c = true → c = m ∨ Preferred m c := by
  rw [chosen?_of_exists h, largest?_eq_some_iff (ascending.filter counts)]
  simp only [List.mem_filter, and_imp]

/-- The choice is one of the clusters. -/
theorem mem_of_chosen? (ascending : clusters.Pairwise fun c d => c.key < d.key) {m : Cluster}
    (h : chosen? counts clusters = some m) : m ∈ clusters := by
  rcases Option.or_eq_some_iff.mp h with h | ⟨-, h⟩
  · exact List.mem_of_mem_filter (largest?_spec (ascending.filter counts) h).1
  · exact (largest?_spec ascending h).1

/-- The best cluster counts as Library of Congress exactly when some cluster does. -/
theorem exists_best?_isLc_iff (ascending : clusters.Pairwise fun c d => c.key < d.key) :
    (∃ c ∈ clusters.best?, c.isLc = true) ↔ ∃ c ∈ clusters, c.isLc = true := by
  constructor
  · rintro ⟨c, hc, hlc⟩
    exact ⟨c, mem_of_chosen? ascending hc, hlc⟩
  · intro h
    have hne : clusters ≠ [] := List.ne_nil_of_mem h.choose_spec.1
    obtain ⟨m, hm⟩ := exists_chosen? Cluster.isLc hne
    have hspec := (chosen?_eq_some_iff ascending h).mp hm
    exact ⟨m, hm, hspec.1.2⟩

end Chosen

end Clusters
end Shelfmark
