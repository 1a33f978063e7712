import Mathlib.Data.List.Sort
import Shelfmark.Proofs.Cluster.Distinct

/-!
# Clusters - What further entries leave in place

Members are spelled as they first came.  So entries that are added behind the others may found
clusters and may become members, but they neither replace a member nor move it: every cluster
remains within the one that grows out of it.

Main results:

- Theorem `Collected.sublist_of_isPrefix`: members remain, in their order and spelling.
- Theorem `exists_sublist_of_isPrefix`: so does every cluster of a record.
-/

namespace Shelfmark

namespace Cluster

section Collected

variable {source source' members members' : List Entry}

/-- The members of a cluster are distinct. -/
theorem Collected.nodup (h : Collected source members) : members.Nodup := by
  refine h.ascending.imp fun {a b} hlt heq => ?_
  have hsame : a.same b = true := heq ▸ Entry.same_equivalence.refl a
  rw [Entry.same_iff.mp hsame] at hlt
  contradiction

/-- What came first also comes first when more follows. -/
theorem Collected.subset_of_isPrefix (h : Collected source members)
    (h' : Collected source' members') (hstart : source <+: source') : members ⊆ members' := by
  obtain ⟨further, rfl⟩ := hstart
  intro m hm
  rw [h'.mem_iff, List.find?_append, (h.mem_iff m).mp hm]
  rfl

/-- The members that were there remain in their order, whatever comes between them. -/
theorem Collected.sublist_of_isPrefix (h : Collected source members)
    (h' : Collected source' members') (hstart : source <+: source') :
    members.Sublist members' := by
  have : Std.Antisymm fun a b : Entry => a.compare b = .lt := by
    refine ⟨fun a b hlt hgt => ?_⟩
    rw [Std.OrientedCmp.gt_of_lt hlt] at hgt
    contradiction
  have hsubperm : members.Subperm members' :=
    List.subperm_of_subset h.nodup (h.subset_of_isPrefix h' hstart)
  exact List.sublist_of_subperm_of_pairwise hsubperm h.ascending h'.ascending

end Collected

end Cluster

namespace Clusters

/-- Every cluster remains within one with the same key. -/
theorem Grouped.exists_sublist {length : Nat} {source source' : List Entry}
    {clusters clusters' : Clusters} (h : Grouped length source clusters)
    (h' : Grouped length source' clusters') (hstart : source <+: source') {c : Cluster}
    (hc : c ∈ clusters) : ∃ d ∈ clusters', d.key = c.key ∧ c.members.Sublist d.members := by
  obtain ⟨m, hsource, hkey⟩ := h.exists_mem_source hc
  obtain ⟨d, hd, hdkey⟩ := h'.exists_cluster m (hstart.subset hsource)
  have heq : d.key = c.key := hdkey.trans hkey
  refine ⟨d, hd, heq, (h.collected c hc).sublist_of_isPrefix (h'.collected d hd) ?_⟩
  rw [heq]
  exact hstart.filter _

/-- The clusters of some entries remain within the clusters of more. -/
theorem exists_sublist_of_isPrefix {entries entries' : List Entry} (options : Options)
    (hstart : entries <+: entries') {c : Cluster} (hc : c ∈ ofEntries entries options) :
    ∃ d ∈ ofEntries entries' options, d.key = c.key ∧ c.members.Sublist d.members :=
  (grouped_ofEntries entries options).exists_sublist (grouped_ofEntries entries' options)
    (hstart.filter _) hc

end Clusters
end Shelfmark
