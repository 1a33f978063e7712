import Mathlib.Data.List.Forall2
import Shelfmark.Proofs.Cluster.Best
import Shelfmark.Proofs.Cluster.Distinct

/-!
# Clusters - The same call numbers in another spelling

Of entries that are the same call number the first that came is the member, so another list
of the same entries gives clusters with the same keys, the same sizes and the same call
numbers in the same order, but perhaps in another spelling.  Ranks do not depend on
spelling, and neither does a choice among clusters that count or do not count by their keys.

Main results:

- Theorem `Grouped.forall₂_alike`: lists with the same entries give clusters that are alike.
- Theorem `Cluster.Alike.rank_congr`: clusters that are alike have the same ranks.
- Theorem `chosen?_alike`: from lists of clusters that are alike, alike clusters are chosen.
-/

namespace Shelfmark

/-! ## Lists that correspond -/

/-- Two ascending lists correspond one by one if every element of either has a counterpart in
the other, and counterparts are ordered alike. -/
theorem forall₂_of_pairwise {α : Type} {lt R : α → α → Prop} {as bs : List α}
    (hasymm : ∀ a b, lt a b → ¬ lt b a)
    (hcongr : ∀ a a' b b', R a b → R a' b' → (lt a a' ↔ lt b b'))
    (has : as.Pairwise lt) (hbs : bs.Pairwise lt)
    (hleft : ∀ a ∈ as, ∃ b ∈ bs, R a b) (hright : ∀ b ∈ bs, ∃ a ∈ as, R a b) :
    List.Forall₂ R as bs := by
  induction as generalizing bs with
  | nil =>
    cases bs with
    | nil => exact .nil
    | cons b bs =>
      obtain ⟨a, ha, -⟩ := hright b (by simp)
      contradiction
  | cons a as ih =>
    cases bs with
    | nil =>
      obtain ⟨b, hb, -⟩ := hleft a (by simp)
      contradiction
    | cons b bs =>
      obtain ⟨ha, has⟩ := List.pairwise_cons.mp has
      obtain ⟨hb, hbs⟩ := List.pairwise_cons.mp hbs
      have hirrefl (x : α) : ¬ lt x x := fun hx => hasymm x x hx hx
      -- The heads correspond: otherwise each would be before the counterpart of the other.
      have hhead : R a b := by
        obtain ⟨b', hb', hab'⟩ := hleft a (by simp)
        obtain ⟨a', ha', ha'b⟩ := hright b (by simp)
        rcases List.mem_cons.mp hb' with rfl | hb'
        · exact hab'
        · rcases List.mem_cons.mp ha' with rfl | ha'
          · exact ha'b
          · have hlt : lt b' b := (hcongr a a' b' b hab' ha'b).mp (ha a' ha')
            exact absurd (hb b' hb') (hasymm b' b hlt)
      refine .cons hhead (ih has hbs ?_ ?_)
      · intro a' ha'
        obtain ⟨b', hb', hR⟩ := hleft a' (by simp [ha'])
        rcases List.mem_cons.mp hb' with rfl | hb'
        · exact absurd ((hcongr a a' b' b' hhead hR).mp (ha a' ha')) (hirrefl b')
        · exact ⟨b', hb', hR⟩
      · intro b' hb'
        obtain ⟨a', ha', hR⟩ := hright b' (by simp [hb'])
        rcases List.mem_cons.mp ha' with rfl | ha'
        · exact absurd ((hcongr a' a' b b' hhead hR).mpr (hb b' hb')) (hirrefl a')
        · exact ⟨a', ha', hR⟩

namespace Cluster

/-! ## Clusters that are alike -/

/-- Two clusters have one key and the same call numbers, in whatever spelling. -/
structure Alike (c d : Cluster) : Prop where
  key_eq : c.key = d.key
  members_same : List.Forall₂ (fun a b => a.same b = true) c.members d.members

/-- Clusters are alike in either direction. -/
theorem Alike.symm {c d : Cluster} (h : Alike c d) : Alike d c where
  key_eq := h.key_eq.symm
  members_same := h.members_same.flip.imp fun _ _ => Entry.same_equivalence.symm

/-- Lists of the same call numbers are at the same place. -/
theorem compareLex_eq_of_same {as bs : List Entry}
    (h : List.Forall₂ (fun a b => a.same b = true) as bs) :
    List.compareLex Entry.compare as bs = .eq := by
  induction h with
  | nil => rfl
  | cons hab _ ih =>
    rw [List.compareLex, Entry.same_iff.mp hab]
    exact ih

/-- Clusters that are alike are equally good. -/
theorem Alike.rank_eq {c d : Cluster} (h : Alike c d) : c.rank d = .eq := by
  have hmembers : List.compareLex Entry.compare d.members c.members = .eq :=
    compareLex_eq_of_same h.symm.members_same
  have hlength : compare c.members.length d.members.length = .eq :=
    Nat.compare_eq_eq.mpr h.members_same.length_eq
  rw [rank, hmembers, hlength]
  rfl

/-- Clusters that are alike have the same ranks. -/
theorem Alike.rank_congr {c c' d d' : Cluster} (hc : Alike c c') (hd : Alike d d') :
    c.rank d = c'.rank d' := by
  rw [Std.TransCmp.congr_left hc.rank_eq, Std.TransCmp.congr_right hd.rank_eq]

/-- Of clusters that are alike the same are better. -/
theorem Alike.isBetter_congr {c c' d d' : Cluster} (hc : Alike c c') (hd : Alike d d') :
    c.isBetter d = c'.isBetter d' := by
  rw [Bool.eq_iff_iff, isBetter_iff, isBetter_iff, hc.rank_congr hd]

end Cluster

namespace Clusters

open Cluster (Collected Alike)

/-! ## Choosing among clusters that are alike -/

section Choice

variable {clusters clusters' : Clusters}

/-- Alternatives that correspond, after first choices that do. -/
theorem rel_or {α : Type} {R : α → α → Prop} {a a' b b' : Option α} (h : Option.Rel R a b)
    (h' : Option.Rel R a' b') : Option.Rel R (a.or a') (b.or b') := by
  cases h with
  | some hab => exact .some hab
  | none => exact h'

/-- Choices that are alike have the same key, if there is one. -/
theorem map_key_eq_of_alike {x y : Option Cluster} (h : Option.Rel Alike x y) :
    x.map Cluster.key = y.map Cluster.key := by
  cases h with
  | none => rfl
  | some halike => rw [Option.map_some, Option.map_some, halike.key_eq]

/-- The greatest of clusters that are alike are alike. -/
theorem largest?_alike (h : List.Forall₂ Alike clusters' clusters) :
    Option.Rel Alike (largest? clusters') (largest? clusters) := by
  cases h with
  | nil => exact .none
  | cons hfirst hrest =>
    refine .some (List.rel_foldl ?_ hfirst hrest)
    intro best' best hbest candidate' candidate hcandidate
    dsimp only
    rw [hcandidate.isBetter_congr hbest]
    split
    · exact hcandidate
    · exact hbest

/-- The choices from clusters that are alike are alike, if what counts is decided by the keys. -/
theorem chosen?_alike (h : List.Forall₂ Alike clusters' clusters) (counts : Text → Bool) :
    Option.Rel Alike (chosen? (fun c => counts c.key) clusters')
      (chosen? (fun c => counts c.key) clusters) := by
  have hcounts : Relator.LiftFun Alike (· ↔ ·) (fun c => counts c.key = true)
      (fun c => counts c.key = true) := by
    intro c d hcd
    simp only [hcd.key_eq]
  have hamong := largest?_alike (List.rel_filter hcounts h)
  exact rel_or hamong (largest?_alike h)

end Choice

/-! ## Clusters of the same entries -/

/-- No two clusters have the same key. -/
theorem eq_of_key_eq {clusters : Clusters} (ascending : clusters.Pairwise fun c d => c.key < d.key)
    {c d : Cluster} (hc : c ∈ clusters) (hd : d ∈ clusters) (h : c.key = d.key) : c = d := by
  have hnodup : (clusters.map Cluster.key).Nodup :=
    List.pairwise_map.mpr (ascending.imp fun hlt => hlt.ne)
  exact List.inj_on_of_nodup_map hnodup hc hd h

/-- Lists with the same entries have the same call numbers as members. -/
theorem forall₂_same_of_collected {source source' members members' : List Entry}
    (h : Collected source members) (h' : Collected source' members')
    (hmem : ∀ e, e ∈ source' ↔ e ∈ source) :
    List.Forall₂ (fun a b => a.same b = true) members' members := by
  apply forall₂_of_pairwise _ _ h'.ascending h.ascending
  · intro a ha
    exact h.exists_same ((hmem a).mp (h'.mem_source ha))
  · intro b hb
    obtain ⟨a, ha, hsame⟩ := h'.exists_same ((hmem b).mpr (h.mem_source hb))
    exact ⟨a, ha, Entry.same_equivalence.symm hsame⟩
  · intro a b hlt hgt
    rw [Std.OrientedCmp.gt_of_lt hlt] at hgt
    contradiction
  · intro a a' b b' hab hab'
    rw [Std.TransCmp.congr_left (Entry.same_iff.mp hab),
      Std.TransCmp.congr_right (Entry.same_iff.mp hab')]

section Grouped

variable {length : Nat} {source source' : List Entry} {clusters clusters' : Clusters}

/-- A cluster of some entries has its like among the clusters of the same entries. -/
theorem Grouped.exists_alike (h : Grouped length source clusters)
    (h' : Grouped length source' clusters') (hmem : ∀ e, e ∈ source' ↔ e ∈ source) {c : Cluster}
    (hc : c ∈ clusters') : ∃ d ∈ clusters, Alike c d := by
  obtain ⟨m, hsource, hkey⟩ := h'.exists_mem_source hc
  obtain ⟨d, hd, hdkey⟩ := h.exists_cluster m ((hmem m).mp hsource)
  have heq : c.key = d.key := hkey.symm.trans hdkey.symm
  refine ⟨d, hd, heq, forall₂_same_of_collected (h.collected d hd) (h'.collected c hc) ?_⟩
  intro e
  rw [List.mem_filter, List.mem_filter, hmem, heq]

/-- Lists with the same entries give clusters that are alike, one by one. -/
theorem Grouped.forall₂_alike (h : Grouped length source clusters)
    (h' : Grouped length source' clusters') (hmem : ∀ e, e ∈ source' ↔ e ∈ source) :
    List.Forall₂ Alike clusters' clusters := by
  apply forall₂_of_pairwise _ _ h'.ascending h.ascending
  · intro c hc
    exact h.exists_alike h' hmem hc
  · intro d hd
    obtain ⟨c, hc, halike⟩ := h'.exists_alike h (fun e => (hmem e).symm) hd
    exact ⟨c, hc, halike.symm⟩
  · intro c d hlt
    exact lt_asymm hlt
  · intro c c' d d' hcd hcd'
    rw [hcd.key_eq, hcd'.key_eq]

end Grouped

end Clusters
end Shelfmark
