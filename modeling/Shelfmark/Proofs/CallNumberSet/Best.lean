import Shelfmark.CallNumberSet
import Shelfmark.Proofs.Cluster.Leaders
import Shelfmark.Proofs.Cluster.Best

/-!
# Call numbers of a record - When a Library of Congress number is chosen

A record is represented by the first member of its best cluster, and a cluster counts as
Library of Congress by its first member too.  So a Library of Congress number is chosen where
one comes first in its cluster, however small that is and however many other clusters there
are.  It is not enough that the record has one: a call number with the tag of another scheme
may share the cluster and come before it.

Main results:

- Theorem `exists_isLc_iff`: the best cluster counts exactly when such a number leads a key.
- Theorem `best_isLc_iff`: what this says about the record, however its fields are read.
- Theorem `twoTags_best`: a number that is not first in its cluster need not be chosen.
-/

namespace Shelfmark

/-- Cleaning keeps the tag of a Library of Congress number. -/
theorem Entry.isLc_cleaned {entry : Entry} (h : entry.isTaggedLc = true) :
    entry.cleaned.isLc = true := by
  have htag : entry.tag = some Scheme.lc.label := beq_iff_eq.mp h
  rw [Entry.cleaned, htag]
  rfl

/-- An entry that is tagged as a Library of Congress number counts as one. -/
theorem Entry.isLc_of_isTaggedLc {entry : Entry} (h : entry.isTaggedLc = true) :
    entry.isLc = true := by
  have htag : entry.tag = some Scheme.lc.label := beq_iff_eq.mp h
  rw [Entry.isLc, htag, Option.isSome_some, if_pos rfl]
  exact h

namespace Clusters

/-- Some cluster counts as Library of Congress exactly when such a number comes first under its
key. -/
theorem Grouped.exists_isLc_iff {length : Nat} {source : List Entry} {clusters : Clusters}
    (h : Grouped length source clusters) :
    (∃ c ∈ clusters, c.isLc = true) ↔
      ∃ e ∈ source, e.isLc = true ∧
        (leaders source length (e.clusterKey length)).head? = some e := by
  constructor
  · rintro ⟨c, hc, hlc⟩
    rw [h.isLc_eq hc] at hlc
    obtain ⟨e, hfirst, hlc⟩ := (Option.any_eq_true _ _).mp hlc
    obtain ⟨he, hkey, -⟩ := mem_leaders.mp (List.mem_of_head? hfirst)
    refine ⟨e, he, hlc, ?_⟩
    rw [hkey]
    exact hfirst
  · rintro ⟨e, he, hlc, hfirst⟩
    obtain ⟨c, hc, hkey⟩ := h.exists_cluster e he
    refine ⟨c, hc, ?_⟩
    rw [h.isLc_eq hc, hkey, hfirst]
    exact hlc

/-- A number that comes before all others with its key that do not count makes its cluster
count. -/
theorem Grouped.exists_isLc_of_before {length : Nat} {source : List Entry} {clusters : Clusters}
    (h : Grouped length source clusters) {e : Entry} (he : e ∈ source)
    (hbefore : ∀ x ∈ source, x.clusterKey length = e.clusterKey length → x.isLc = false →
      e.compare x = .lt) :
    ∃ c ∈ clusters, c.isLc = true := by
  obtain ⟨c, hc, hkey⟩ := h.exists_cluster e he
  refine ⟨c, hc, ?_⟩
  rw [h.isLc_eq hc, hkey]
  cases hfirst : leaders source length (e.clusterKey length) with
  | nil => exact absurd hfirst (hkey ▸ h.leaders_ne_nil hc)
  | cons m rest =>
    obtain ⟨hm, hmkey, hle⟩ := mem_leaders.mp (hfirst ▸ List.mem_cons_self :
      m ∈ leaders source length (e.clusterKey length))
    -- The first member is at or before the entry, so it is not one of those behind it.
    rw [List.head?_cons, Option.any_some, ← Bool.not_eq_false]
    intro hnot
    have hlt := hbefore m hm hmkey hnot
    have hme := hle e he rfl
    rw [Std.OrientedCmp.gt_of_lt hlt] at hme
    contradiction

end Clusters

namespace CallNumberSet

open Clusters (kept leaders)

/-- What is chosen counts as Library of Congress exactly when the best cluster does. -/
theorem chooseBest?_isLc_iff (clusters : Clusters) :
    (∃ best ∈ chooseBest? clusters, best.isLc = true) ↔ ∃ c ∈ clusters.best?, c.isLc = true := by
  have hkeeps (entry : Entry) :
      (if entry.isTaggedLc then entry.cleaned else entry).isLc = entry.isLc := by
    split
    · rename_i htagged
      rw [Entry.isLc_cleaned htagged, Entry.isLc_of_isTaggedLc htagged]
    · rfl
  simp only [chooseBest?, Option.mem_def, Option.map_eq_some_iff, Option.bind_eq_some_iff]
  constructor
  · rintro ⟨_, ⟨entry, ⟨c, hc, hfirst⟩, rfl⟩, hlc⟩
    refine ⟨c, hc, ?_⟩
    rw [hkeeps] at hlc
    rw [Cluster.isLc, hfirst]
    exact hlc
  · rintro ⟨c, hc, hlc⟩
    obtain ⟨entry, hfirst, hlc⟩ := (Option.any_eq_true _ _).mp hlc
    refine ⟨_, ⟨entry, ⟨c, hc, hfirst⟩, rfl⟩, ?_⟩
    rw [hkeeps]
    exact hlc

/-- A record is represented by a Library of Congress number exactly when among the entries that
are kept such a number is the earliest of those that come first under their key.  It is enough
that one comes before all entries with its key that are none, however many there are. -/
theorem best_isLc_iff (reader : FieldReader) (options : Options) :
    let set := ofReader reader options
    let entries := kept set.entries options
    ((∃ best ∈ set.best, best.isLc = true) ↔
      ∃ e ∈ entries, e.isLc = true ∧
        (leaders entries options.keyLength (e.clusterKey options.keyLength)).head? = some e) ∧
    ∀ e ∈ entries, e.isLc = true →
      (∀ x ∈ entries, x.clusterKey options.keyLength = e.clusterKey options.keyLength →
        x.isLc = false → e.compare x = .lt) →
      ∃ best ∈ set.best, best.isLc = true := by
  intro set entries
  have hgrouped : Clusters.Grouped options.keyLength entries set.clusters := by
    have h := Clusters.grouped_ofEntries set.entries options
    rw [Clusters.filter_keeps] at h
    exact h
  have hbest : (∃ best ∈ set.best, best.isLc = true) ↔ ∃ c ∈ set.clusters, c.isLc = true :=
    (chooseBest?_isLc_iff set.clusters).trans
      (Clusters.exists_best?_isLc_iff hgrouped.ascending)
  constructor
  · exact hbest.trans hgrouped.exists_isLc_iff
  · intro e he _ hbefore
    exact hbest.mpr (hgrouped.exists_isLc_of_before he hbefore)

/-- A record whose two copies have the same call number with different tags. -/
def twoTags : Record :=
  ({} : Record).withField "999wa':'".toList
    ["DEWEY:PS3511 .A3".toList, "LC:PS3511 .A3".toList]

/-- The tag that comes first in the alphabet decides what the cluster counts as. -/
theorem twoTags_best :
    (∃ e ∈ kept (ofRecord twoTags {}).entries {}, e.isLc = true) ∧
      ¬ ∃ best ∈ (ofRecord twoTags {}).best, best.isLc = true := by
  decide +kernel

end CallNumberSet
end Shelfmark
