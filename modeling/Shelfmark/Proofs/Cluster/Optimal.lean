import Shelfmark.Proofs.Cluster.Alike

/-!
# Clusters - The best cluster is optimal

The choice goes through the clusters one after the other and keeps the better one.  Because ranks
are a total preorder and the keys ascend, no cluster is better than what is left: none has more
members, none of the same size comes before it, and none at the same place has a smaller key.

Main results:

- Theorem `Cluster.preferred_iff`: preference is by size, then by members, then by key.
- Theorem `Cluster.noBetter_iff`: a cluster is no better than another one that is preferred to it.
- Theorem `best?_optimal`: the best cluster is the one candidate than which none is better.
-/

namespace Shelfmark

namespace Cluster

variable {c m : Cluster}

/-! ## Two clusters -/

/-- Which of two clusters comes first: their members compare one by one, and members that others
continue come before them. -/
def compareMembers (c d : Cluster) : Ordering :=
  List.compareLex Entry.compare c.members d.members

/-- The comparison by members is a total preorder. -/
instance : Std.TransCmp compareMembers :=
  NaturalOrder.transCmp_comap (List.compareLex Entry.compare) Cluster.members

/-- A cluster is preferred to a smaller one, to one of its size whose members come later, and to
one at the same place with a greater key. -/
theorem preferred_iff :
    Preferred m c ↔ c.members.length < m.members.length ∨
      c.members.length = m.members.length ∧
        (m.compareMembers c = .lt ∨ m.compareMembers c = .eq ∧ m.key < c.key) := by
  have hrank : m.rank c =
      (compare m.members.length c.members.length).then (c.compareMembers m) := rfl
  rw [Preferred, hrank]
  rcases lt_trichotomy m.members.length c.members.length with hless | hsame | hmore
  · rw [Nat.compare_eq_lt.mpr hless]
    simp [hless.ne', hless.le]
  · -- Of clusters of one size the one that comes first has the higher rank.
    have hswap : c.compareMembers m = (m.compareMembers c).swap := Std.OrientedCmp.eq_swap
    rw [Nat.compare_eq_eq.mpr hsame, hswap, hsame]
    cases m.compareMembers c <;> simp
  · rw [Nat.compare_eq_gt.mpr hmore]
    simp [hmore]

/-- A cluster is no better than another one: it does not have more members; if it has as many it
does not come before the other one; and if it is at the same place it has no smaller key. -/
structure NoBetter (c m : Cluster) : Prop where
  length_le : c.members.length ≤ m.members.length
  isLE : c.members.length = m.members.length → (m.compareMembers c).isLE = true
  key_le : c.members.length = m.members.length → m.compareMembers c = .eq → m.key ≤ c.key

/-- A cluster is no better than itself. -/
theorem NoBetter.refl (c : Cluster) : NoBetter c c where
  length_le := Nat.le_refl _
  isLE _ := Std.ReflCmp.isLE_rfl
  key_le _ _ := le_refl c.key

/-- A cluster is no better than one that is preferred to it. -/
theorem Preferred.noBetter (h : Preferred m c) : NoBetter c m := by
  rcases preferred_iff.mp h with hless | ⟨hsame, hplace⟩
  · exact ⟨hless.le, fun hsame => absurd hsame hless.ne, fun hsame => absurd hsame hless.ne⟩
  · refine ⟨hsame.le, fun _ => ?_, fun _ htie => ?_⟩
    · exact Ordering.isLE_iff_eq_lt_or_eq_eq.mpr (hplace.imp_right And.left)
    · rcases hplace with hbefore | ⟨-, hkey⟩
      · exact absurd (hbefore.symm.trans htie) (by decide)
      · exact hkey.le

/-- Among clusters with different keys, those that are no better are those it is preferred to. -/
theorem noBetter_iff (hkey : c.key = m.key → c = m) : NoBetter c m ↔ c = m ∨ Preferred m c := by
  constructor
  · intro h
    rcases h.length_le.lt_or_eq with hless | hsame
    · exact Or.inr (preferred_iff.mpr (Or.inl hless))
    rcases Ordering.isLE_iff_eq_lt_or_eq_eq.mp (h.isLE hsame) with hbefore | htie
    · exact Or.inr (preferred_iff.mpr (Or.inr ⟨hsame, Or.inl hbefore⟩))
    rcases (h.key_le hsame htie).lt_or_eq with hsmaller | hequal
    · exact Or.inr (preferred_iff.mpr (Or.inr ⟨hsame, Or.inr ⟨htie, hsmaller⟩⟩))
    · exact Or.inl (hkey hequal.symm)
  · rintro (rfl | hpreferred)
    · exact NoBetter.refl c
    · exact hpreferred.noBetter

end Cluster

namespace Clusters

open Cluster (NoBetter)

/-! ## All candidates -/

/-- The clusters that may represent a record: those that count as Library of Congress, or all if
none does. -/
def candidates (clusters : Clusters) : Clusters :=
  if clusters.any Cluster.isLc then clusters.filter Cluster.isLc else clusters

/-- A cluster is the best of some: it is one of them, and no other one is better. -/
structure IsBest (clusters : Clusters) (m : Cluster) : Prop where
  mem : m ∈ clusters
  noBetter : ∀ c ∈ clusters, c.NoBetter m

/-- The best cluster is the greatest of the candidates. -/
theorem best?_eq_largest? (clusters : Clusters) :
    clusters.best? = largest? clusters.candidates := by
  unfold candidates
  split
  · rename_i hlc
    exact chosen?_of_exists (List.any_eq_true.mp hlc)
  · rename_i hlc
    have hnone : clusters.filter Cluster.isLc = [] := by
      rw [List.filter_eq_nil_iff]
      exact fun c hc hclc => hlc (List.any_eq_true.mpr ⟨c, hc, hclc⟩)
    rw [best?, hnone]
    rfl

/-- The greatest of some clusters is the best of them. -/
theorem largest?_eq_some_iff_isBest {clusters : Clusters}
    (ascending : clusters.Pairwise fun c d => c.key < d.key) {m : Cluster} :
    largest? clusters = some m ↔ IsBest clusters m := by
  rw [largest?_eq_some_iff ascending]
  constructor
  · rintro ⟨hm, hall⟩
    exact ⟨hm, fun c hc => (Cluster.noBetter_iff (eq_of_key_eq ascending hc hm)).mpr (hall c hc)⟩
  · rintro ⟨hm, hall⟩
    exact ⟨hm, fun c hc => (Cluster.noBetter_iff (eq_of_key_eq ascending hc hm)).mp (hall c hc)⟩

/-- The candidates are in ascending order of their keys. -/
theorem pairwise_candidates {clusters : Clusters}
    (ascending : clusters.Pairwise fun c d => c.key < d.key) :
    clusters.candidates.Pairwise fun c d => c.key < d.key := by
  unfold candidates
  split
  · exact ascending.filter _
  · exact ascending

/-- Clusters with ascending keys have a best one unless there are none, and this is the candidate
than which no candidate is better. -/
theorem best?_optimal {clusters : Clusters}
    (ascending : clusters.Pairwise fun c d => c.key < d.key) :
    (clusters.best? = none ↔ clusters = []) ∧
      ∀ m, clusters.best? = some m ↔ IsBest clusters.candidates m := by
  refine ⟨?_, fun m => ?_⟩
  · rw [best?, Option.or_eq_none_iff, largest?_eq_none_iff, largest?_eq_none_iff]
    constructor
    · exact And.right
    · rintro rfl
      exact ⟨rfl, rfl⟩
  · rw [best?_eq_largest?]
    exact largest?_eq_some_iff_isBest (pairwise_candidates ascending)

/-- Three Dewey numbers, and a call number in two spellings with two keys. -/
def tiedSpellings : List Entry :=
  ["813.54 A1", "813.54 A2", "813.54 A3", "QA7673", "QA76.73"].map fun s => .ofText none s.toList

/-- Of the spellings, which tie, the one with the smaller key represents the record. -/
theorem tiedSpellings_optimal :
    let clusters := ofEntries tiedSpellings {}
    (clusters.Pairwise fun c d => c.key < d.key) ∧
      ∃ m, clusters.best? = some m ∧ m.key = "QA76.".toList ∧ IsBest clusters.candidates m ∧
        clusters.candidates.map Cluster.key = ["QA76.".toList, "QA767".toList] := by
  intro clusters
  have ascending : clusters.Pairwise fun c d => c.key < d.key :=
    (grouped_ofEntries tiedSpellings {}).ascending
  have hbest : ∃ m, clusters.best? = some m ∧ m.key = "QA76.".toList := by decide
  obtain ⟨m, hm, hkey⟩ := hbest
  exact ⟨ascending, m, hm, hkey, ((best?_optimal ascending).2 m).mp hm, by decide⟩

end Clusters
end Shelfmark
