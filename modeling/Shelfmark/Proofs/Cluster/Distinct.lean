import Mathlib.Data.Set.Card
import Shelfmark.Proofs.Cluster.Grouping

/-!
# Clusters - When all members are distinct

Entries are the same call number when they agree apart from case, periods and
spaces, but they are grouped by the first characters of their spelling, periods
included.  So no cluster holds a call number twice, while two clusters may hold the
same one: `QA76.73` and `QA7673` are the same entry with different keys.

Main results:

- Theorem `length_entries`: the members of all clusters are as many as the pairs of a
  call number and a key among the kept entries.
- Theorem `entries_distinct_iff`: all members are distinct, and as many as the call
  numbers, exactly when entries that are the same have the same key.
- Theorem `entries_not_distinct`: they need not be.
-/

namespace Shelfmark

/-! ## Call numbers as classes of entries -/

/-- Entries up to spelling. -/
def Entry.setoid : Setoid Entry :=
  ⟨fun a b => a.same b = true, Entry.same_equivalence⟩

/-- The call number of an entry, whatever its spelling. -/
def Entry.callNumber (entry : Entry) : Quotient Entry.setoid :=
  Quotient.mk _ entry

/-- Entries have one call number exactly when they are the same. -/
theorem Entry.callNumber_eq_iff {a b : Entry} : a.callNumber = b.callNumber ↔ a.same b = true :=
  Quotient.eq (r := Entry.setoid)

/-- A list has as many values as positions exactly when none is repeated. -/
theorem ncard_values_eq_length_iff {α : Type} (xs : List α) :
    {x | x ∈ xs}.ncard = xs.length ↔ xs.Nodup := by
  classical
  have hset : {x | x ∈ xs} = (xs.toFinset : Set α) := by
    ext x
    simp
  rw [hset, Set.ncard_coe_finset]
  exact Multiset.toFinset_card_eq_card_iff_nodup (m := (xs : Multiset α))

namespace Clusters

/-- The call numbers among some entries. -/
def callNumbers (entries : List Entry) : Set (Quotient Entry.setoid) :=
  {c | ∃ e ∈ entries, e.callNumber = c}

/-- The call numbers among some entries, each with the keys under which it is grouped. -/
def keyedCallNumbers (entries : List Entry) (length : Nat) :
    Set (Quotient Entry.setoid × Text) :=
  {c | ∃ e ∈ entries, (e.callNumber, e.clusterKey length) = c}

/-- Entries that are the same call number are grouped under one key. -/
def SameKeys (entries : List Entry) (length : Nat) : Prop :=
  ∀ a ∈ entries, ∀ b ∈ entries, a.same b = true → a.clusterKey length = b.clusterKey length

/-! ## Members of grouped clusters -/

section Grouped

variable {length : Nat} {source : List Entry} {clusters : Clusters}

/-- A member belongs to the source, and its key is that of its cluster. -/
theorem Grouped.mem_source (h : Grouped length source clusters) {cluster : Cluster}
    (hcluster : cluster ∈ clusters) {m : Entry} (hm : m ∈ cluster.members) :
    m ∈ source ∧ m.clusterKey length = cluster.key := by
  have hsource := (h.collected cluster hcluster).mem_source hm
  simpa using hsource

/-- A cluster has its key from an entry of the source. -/
theorem Grouped.exists_mem_source (h : Grouped length source clusters) {cluster : Cluster}
    (hcluster : cluster ∈ clusters) : ∃ e ∈ source, e.clusterKey length = cluster.key := by
  obtain ⟨m, hm⟩ := List.exists_mem_of_ne_nil _ (h.members_ne_nil cluster hcluster)
  exact ⟨m, h.mem_source hcluster hm⟩

/-- A cluster has a member for every entry of the source with its key. -/
theorem Grouped.exists_member (h : Grouped length source clusters) {cluster : Cluster}
    (hcluster : cluster ∈ clusters) {e : Entry} (he : e ∈ source)
    (hkey : e.clusterKey length = cluster.key) : ∃ m ∈ cluster.members, e.same m = true :=
  (h.collected cluster hcluster).exists_same (List.mem_filter.mpr ⟨he, by simpa using hkey⟩)

/-- Every entry of the source is the same as a member with its key. -/
theorem Grouped.exists_same (h : Grouped length source clusters) {e : Entry} (he : e ∈ source) :
    ∃ m ∈ clusters.entries, e.same m = true ∧ m.clusterKey length = e.clusterKey length := by
  obtain ⟨cluster, hcluster, hkey⟩ := h.exists_cluster e he
  obtain ⟨m, hm, hsame⟩ := h.exists_member hcluster he hkey.symm
  refine ⟨m, List.mem_flatMap.mpr ⟨cluster, hcluster, hm⟩, hsame, ?_⟩
  rw [(h.mem_source hcluster hm).2, hkey]

/-- No two members agree in call number and key: within a cluster the members ascend, and
different clusters have different keys. -/
theorem Grouped.pairwise_entries (h : Grouped length source clusters) :
    clusters.entries.Pairwise fun a b =>
      ¬ (a.same b = true ∧ a.clusterKey length = b.clusterKey length) := by
  refine List.pairwise_flatMap.mpr ⟨fun cluster hcluster => ?_, ?_⟩
  · refine (h.collected cluster hcluster).ascending.imp fun {a b} hlt hboth => ?_
    rw [Entry.same_iff.mp hboth.1] at hlt
    contradiction
  · refine h.ascending.imp_of_mem fun {c d} hc hd hlt a ha b hb hboth => ?_
    rw [(h.mem_source hc ha).2, (h.mem_source hd hb).2] at hboth
    exact hlt.ne hboth.2

/-- The members of all clusters are as many as the pairs of a call number and a key. -/
theorem Grouped.length_entries (h : Grouped length source clusters) :
    clusters.entries.length = (keyedCallNumbers source length).ncard := by
  let pair (e : Entry) := (e.callNumber, e.clusterKey length)
  have hset : keyedCallNumbers source length = {c | c ∈ clusters.entries.map pair} := by
    ext c
    simp only [keyedCallNumbers, Set.mem_ofPred_eq, List.mem_map]
    constructor
    · rintro ⟨e, he, rfl⟩
      obtain ⟨m, hm, hsame, hkey⟩ := h.exists_same he
      exact ⟨m, hm, Prod.ext (Entry.callNumber_eq_iff.mpr hsame).symm hkey⟩
    · rintro ⟨m, hm, rfl⟩
      obtain ⟨cluster, hcluster, hm⟩ := List.mem_flatMap.mp hm
      exact ⟨m, (h.mem_source hcluster hm).1, rfl⟩
  have hnodup : (clusters.entries.map pair).Nodup := by
    refine List.pairwise_map.mpr (h.pairwise_entries.imp fun {a b} hnot heq => hnot ?_)
    exact ⟨Entry.callNumber_eq_iff.mp (Prod.ext_iff.mp heq).1, (Prod.ext_iff.mp heq).2⟩
  rw [hset, (ncard_values_eq_length_iff _).mpr hnodup, List.length_map]

/-- All members are distinct exactly when entries that are the same have the same key. -/
theorem Grouped.distinct_iff (h : Grouped length source clusters) :
    (clusters.entries.Pairwise fun a b => ¬ a.same b = true) ↔ SameKeys source length := by
  constructor
  · intro hdistinct a ha b hb hab
    obtain ⟨m, hm, ham, hmkey⟩ := h.exists_same ha
    obtain ⟨n, hn, hbn, hnkey⟩ := h.exists_same hb
    have hmn : m.same n = true :=
      Entry.same_equivalence.trans (Entry.same_equivalence.symm ham)
        (Entry.same_equivalence.trans hab hbn)
    have heq : m = n := by
      by_contra hne
      have : Std.Symm fun a b : Entry => ¬ a.same b = true :=
        ⟨fun x y hnot hyx => hnot (Entry.same_equivalence.symm hyx)⟩
      exact hdistinct.forall hm hn hne hmn
    rw [← hmkey, ← hnkey, heq]
  · intro hkeys
    refine h.pairwise_entries.imp_of_mem fun {a b} ha hb hnot hsame => hnot ⟨hsame, ?_⟩
    obtain ⟨c, hc, ha⟩ := List.mem_flatMap.mp ha
    obtain ⟨d, hd, hb⟩ := List.mem_flatMap.mp hb
    exact hkeys a (h.mem_source hc ha).1 b (h.mem_source hd hb).1 hsame

/-- The members are as many as the call numbers exactly when they are distinct. -/
theorem Grouped.length_eq_iff (h : Grouped length source clusters) :
    clusters.entries.length = (callNumbers source).ncard ↔
      clusters.entries.Pairwise fun a b => ¬ a.same b = true := by
  have hset : callNumbers source = {c | c ∈ clusters.entries.map Entry.callNumber} := by
    ext c
    simp only [callNumbers, Set.mem_ofPred_eq, List.mem_map]
    constructor
    · rintro ⟨e, he, rfl⟩
      obtain ⟨m, hm, hsame, -⟩ := h.exists_same he
      exact ⟨m, hm, (Entry.callNumber_eq_iff.mpr hsame).symm⟩
    · rintro ⟨m, hm, rfl⟩
      obtain ⟨cluster, hcluster, hm⟩ := List.mem_flatMap.mp hm
      exact ⟨m, (h.mem_source hcluster hm).1, rfl⟩
  have hnodup : (clusters.entries.map Entry.callNumber).Nodup ↔
      clusters.entries.Pairwise fun a b => ¬ a.same b = true := by
    rw [List.Nodup, List.pairwise_map]
    simp only [ne_eq, Entry.callNumber_eq_iff]
  rw [← hnodup, ← ncard_values_eq_length_iff, hset, List.length_map]
  exact eq_comm

end Grouped

/-! ## The clusters of a list of entries -/

/-- The members of all clusters are always as many as the pairs of a call number and a key among
the kept entries.  They are pairwise distinct, and as many as the call numbers among the kept
entries, exactly when kept entries that are the same have the same key. -/
theorem entries_distinct_iff (entries : List Entry) (options : Options) :
    (ofEntries entries options).entries.length =
        (keyedCallNumbers (kept entries options) options.keyLength).ncard ∧
      (((ofEntries entries options).entries.Pairwise fun a b => ¬ a.same b = true) ↔
        SameKeys (kept entries options) options.keyLength) ∧
      ((ofEntries entries options).entries.length = (callNumbers (kept entries options)).ncard ↔
        SameKeys (kept entries options) options.keyLength) := by
  have hgrouped := grouped_ofEntries entries options
  rw [filter_keeps] at hgrouped
  exact ⟨hgrouped.length_entries, hgrouped.distinct_iff,
    hgrouped.length_eq_iff.trans hgrouped.distinct_iff⟩

/-- A period among the leading characters separates two spellings of one call number. -/
theorem entries_not_distinct :
    ¬ (ofEntries [.ofText none "QA76.73".toList, .ofText none "QA7673".toList] {}).entries.Pairwise
      fun a b => ¬ a.same b = true := by
  decide

end Clusters
end Shelfmark
