import Shelfmark.Proofs.Cluster.Distinct
import Shelfmark.Proofs.Entry.Cleaning

/-!
# Clusters - Longer keys make finer clusters

The key of an entry is the beginning of its value, because the value is in capitals already.  So a
longer key begins with the shorter one, and clustering by longer keys splits the clusters of the
shorter ones and mixes none of them.  Copies that the short key collapses into one member may be
parted by the long one, each then with a member of its own.

Main results:

- Theorem `Entry.clusterKey_eq_take`: a key is the beginning of the value.
- Theorem `Grouped.exists_key_iff`: the keys of clusters are those of the entries.
- Theorem `longer_keys_refine`: every cluster is made up of the finer ones that begin with its key.
-/

namespace Shelfmark

/-! ## Keys as beginnings -/

namespace Entry

open Text (InCapitals)

/-- The value of an entry is in capitals. -/
theorem Made.inCapitals {entry : Entry} (h : Made entry) : InCapitals entry.value := by
  induction h with
  | ofText tag raw => exact inCapitals_normalSpelling raw
  | cleaned _ ih => exact inCapitals_cleaned ih

/-- The key of an entry is the beginning of its value. -/
theorem clusterKey_eq_take {entry : Entry} (h : Made entry) (length : Nat) :
    entry.clusterKey length = entry.value.take length := by
  have hcapitals : InCapitals (entry.value.take length) :=
    fun c hc => h.inCapitals c (List.mem_of_mem_take hc)
  exact hcapitals.upper_eq

/-- A longer key begins with the shorter one. -/
theorem take_clusterKey {entry : Entry} (h : Made entry) {length length' : Nat}
    (hle : length ≤ length') : (entry.clusterKey length').take length = entry.clusterKey length := by
  rw [clusterKey_eq_take h, clusterKey_eq_take h, List.take_take, Nat.min_eq_left hle]

end Entry

namespace Clusters

/-- The keys of the clusters are those of the entries. -/
theorem Grouped.exists_key_iff {length : Nat} {source : List Entry} {clusters : Clusters}
    (h : Grouped length source clusters) {P : Text → Prop} :
    (∃ c ∈ clusters, P c.key) ↔ ∃ e ∈ source, P (e.clusterKey length) := by
  constructor
  · rintro ⟨c, hc, hP⟩
    obtain ⟨e, he, hkey⟩ := h.exists_mem_source hc
    exact ⟨e, he, hkey.symm ▸ hP⟩
  · rintro ⟨e, he, hP⟩
    obtain ⟨c, hc, hkey⟩ := h.exists_cluster e he
    exact ⟨c, hc, hkey.symm ▸ hP⟩

/-! ## Finer clusters -/

/-- The clusters whose keys, cut to a length, are a given one. -/
def within (clusters : Clusters) (length : Nat) (key : Text) : Clusters :=
  clusters.filter fun c => c.key.take length = key

/-- A cluster is made up of others: its members are theirs, in perhaps another spelling. -/
structure MadeUpOf (c : Cluster) (parts : Clusters) : Prop where
  exists_part : ∀ m ∈ c.members, ∃ d ∈ parts, ∃ n ∈ d.members, m.same n = true
  exists_member : ∀ d ∈ parts, ∀ n ∈ d.members, ∃ m ∈ c.members, n.same m = true

section Refinement

variable {length length' : Nat} {source : List Entry} {clusters clusters' : Clusters}

/-- Where the longer keys of all entries begin with the shorter ones, every cluster is made up of
the finer clusters that begin with its key. -/
theorem Grouped.madeUpOf (h : Grouped length source clusters)
    (h' : Grouped length' source clusters')
    (hkeys : ∀ e ∈ source, (e.clusterKey length').take length = e.clusterKey length) {c : Cluster}
    (hc : c ∈ clusters) : MadeUpOf c (within clusters' length c.key) where
  exists_part m hm := by
    obtain ⟨hsource, hmkey⟩ := h.mem_source hc hm
    obtain ⟨d, hd, hdkey⟩ := h'.exists_cluster m hsource
    have hwithin : d.key.take length = c.key := by rw [hdkey, hkeys m hsource, hmkey]
    exact ⟨d, List.mem_filter.mpr ⟨hd, by simpa using hwithin⟩,
      h'.exists_member hd hsource hdkey.symm⟩
  exists_member d hd n hn := by
    obtain ⟨hdmem, hwithin⟩ := List.mem_filter.mp hd
    obtain ⟨hsource, hnkey⟩ := h'.mem_source hdmem hn
    refine h.exists_member hc hsource ?_
    rw [← hkeys n hsource, hnkey]
    simpa using hwithin

end Refinement

/-- Clusters by longer keys refine those by shorter ones.  There is a cluster with a key exactly
when there are finer clusters whose keys, cut to the shorter length, are this one, and then it is
made up of them.  Keys are the beginnings of values. -/
theorem longer_keys_refine {entries : List Entry} (hmade : ∀ e ∈ entries, e.Made)
    (options : Options) {length length' : Nat} (hle : length ≤ length') :
    let coarse := ofEntries entries { options with keyLength := length }
    let fine := ofEntries entries { options with keyLength := length' }
    (∀ key, (∃ c ∈ coarse, c.key = key) ↔ ∃ d ∈ fine, d.key.take length = key) ∧
      (∀ c ∈ coarse, MadeUpOf c (within fine length c.key)) ∧
      ∀ e : Entry, e.Made → ∀ n, e.clusterKey n = e.value.take n := by
  intro coarse fine
  -- Which entries are kept does not depend on the length of keys.
  have hcoarse : Grouped length (entries.filter (keeps options)) coarse :=
    grouped_ofEntries entries { options with keyLength := length }
  have hfine : Grouped length' (entries.filter (keeps options)) fine :=
    grouped_ofEntries entries { options with keyLength := length' }
  have hkeys : ∀ e ∈ entries.filter (keeps options),
      (e.clusterKey length').take length = e.clusterKey length :=
    fun e he => Entry.take_clusterKey (hmade e (List.mem_of_mem_filter he)) hle
  refine ⟨fun key => ?_, fun c hc => hcoarse.madeUpOf hfine hkeys hc,
    fun e he => Entry.clusterKey_eq_take he⟩
  rw [hcoarse.exists_key_iff (P := fun k => k = key),
    hfine.exists_key_iff (P := fun k => k.take length = key)]
  exact exists_congr fun e => and_congr_right fun he => by rw [hkeys e he]

/-- Two spellings of one call number, another number of the class, and one of another class. -/
def twoSpellings : List Entry :=
  [.ofText none "qa76.73".toList, .ofText none "QA7673".toList, .ofText none "QA9 .ﬁ".toList,
    .ofText none "PS3511".toList]

/-- By two letters the spellings are one member of one cluster, by five characters each is in a
cluster of its own, and the one cluster is made up of these. -/
theorem twoSpellings_refined :
    let coarse := ofEntries twoSpellings { keyLength := 2 }
    let fine := ofEntries twoSpellings { keyLength := 5 }
    (∀ e ∈ twoSpellings, e.Made) ∧ 2 ≤ 5 ∧
      (within fine 2 "QA".toList).map Cluster.key =
        ["QA76.".toList, "QA767".toList, "QA9.F".toList] ∧
      ∃ c ∈ coarse, c.key = "QA".toList ∧ c.members.length = 2 ∧
        MadeUpOf c (within fine 2 "QA".toList) := by
  intro coarse fine
  have hmade : ∀ e ∈ twoSpellings, e.Made := by
    simp only [twoSpellings, List.forall_mem_cons]
    exact ⟨.ofText _ _, .ofText _ _, .ofText _ _, .ofText _ _, by simp⟩
  have hcluster : ∃ c ∈ coarse, c.key = "QA".toList ∧ c.members.length = 2 := by decide +kernel
  obtain ⟨c, hc, hkey, hlength⟩ := hcluster
  have hparts := (longer_keys_refine hmade {} (by decide : 2 ≤ 5)).2.1 c hc
  rw [hkey] at hparts
  exact ⟨hmade, by decide, by decide +kernel, c, hc, hkey, hlength, hparts⟩

end Clusters
end Shelfmark
