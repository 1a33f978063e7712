import Mathlib.Data.Char
import Mathlib.Data.List.Lex
import Shelfmark.Cluster.Basic
import Shelfmark.Proofs.NaturalOrder

/-!
# Clusters - Grouping is exact

Entries are added to the clusters one after the other.  Two invariants carry the
fold: the members of a cluster are the first-come entries among those added to it,
in ascending order (`Collected`), and the clusters are sorted by key, one for each
key that was added (`Grouped`).

Main results:

- Theorem `Collected.insertMember`: inserting an entry keeps the first invariant.
- Theorem `mem_add`: the clusters after an addition are kept, extended or made.
- Theorem `Grouped.add`: adding an entry to its cluster keeps the second.
- Theorem `grouped_ofEntries`: the clusters of a list of entries are grouped.
- Theorem `ofEntries_exact`: keys, order, representation and provenance of members.
-/

namespace Shelfmark

/-! ## The members of one cluster -/

namespace Cluster

/-- The members are the first-come entries of a list, each before those it is the same as, in
ascending order. -/
structure Collected (source members : List Entry) : Prop where
  ascending : members.Pairwise fun a b => a.compare b = .lt
  mem_iff : ∀ m, m ∈ members ↔ source.find? (·.same m) = some m

/-- Nothing is collected from nothing. -/
theorem Collected.nil : Collected [] [] where
  ascending := .nil
  mem_iff := by simp

/-- Insertion keeps all members and adds the entry unless it is the same as one of them. -/
theorem mem_insertMember {entry m : Entry} {members : List Entry}
    (ascending : members.Pairwise fun a b => a.compare b = .lt) :
    m ∈ insertMember entry members ↔
      m ∈ members ∨ (m = entry ∧ ∀ x ∈ members, entry.compare x ≠ .eq) := by
  induction members with
  | nil => simp [insertMember]
  | cons member rest ih =>
    obtain ⟨hmember, hrest⟩ := List.pairwise_cons.mp ascending
    unfold insertMember
    cases hcmp : entry.compare member with
    | lt =>
      -- All later members are beyond the entry as well.
      have hnone : ∀ x ∈ member :: rest, entry.compare x ≠ .eq := by
        intro x hx
        rcases List.mem_cons.mp hx with rfl | hx
        · simp [hcmp]
        · simp [Std.TransCmp.lt_trans hcmp (hmember x hx)]
      constructor
      · intro h
        rcases List.mem_cons.mp h with rfl | h
        · exact Or.inr ⟨rfl, hnone⟩
        · exact Or.inl h
      · rintro (h | ⟨rfl, -⟩)
        · exact List.mem_cons_of_mem _ h
        · exact List.mem_cons_self
    | eq => simp [hcmp]
    | gt =>
      simp only [List.mem_cons, ih hrest, forall_eq_or_imp, hcmp, ne_eq, reduceCtorEq,
        not_false_eq_true, true_and, or_assoc]

/-- Insertion keeps the members ascending. -/
theorem pairwise_insertMember (entry : Entry) {members : List Entry}
    (ascending : members.Pairwise fun a b => a.compare b = .lt) :
    (insertMember entry members).Pairwise fun a b => a.compare b = .lt := by
  induction members with
  | nil => simp [insertMember]
  | cons member rest ih =>
    obtain ⟨hmember, hrest⟩ := List.pairwise_cons.mp ascending
    unfold insertMember
    cases hcmp : entry.compare member with
    | lt =>
      refine List.pairwise_cons.mpr ⟨fun x hx => ?_, ascending⟩
      rcases List.mem_cons.mp hx with rfl | hx
      · exact hcmp
      · exact Std.TransCmp.lt_trans hcmp (hmember x hx)
    | eq => exact ascending
    | gt =>
      refine List.pairwise_cons.mpr ⟨fun x hx => ?_, ih hrest⟩
      rcases (mem_insertMember hrest).mp hx with hx | ⟨rfl, -⟩
      · exact hmember x hx
      · exact Std.OrientedCmp.lt_of_gt hcmp

/-- Searching for an entry and for one that is the same are one search. -/
theorem same_left_congr {a b : Entry} (h : a.same b = true) :
    (fun e : Entry => e.same a) = fun e => e.same b := by
  funext e
  rw [Bool.eq_iff_iff, Entry.same_iff_identity_eq, Entry.same_iff_identity_eq,
    Entry.same_iff_identity_eq.mp h]

/-- Every entry of the source is the same as some member. -/
theorem Collected.exists_same {source members : List Entry} (h : Collected source members)
    {entry : Entry} (hentry : entry ∈ source) : ∃ m ∈ members, entry.same m = true := by
  have hsome : (source.find? (·.same entry)).isSome := by
    rw [List.find?_isSome]
    exact ⟨entry, hentry, Entry.same_equivalence.refl entry⟩
  obtain ⟨m, hm⟩ := Option.isSome_iff_exists.mp hsome
  have hsame := List.find?_some hm
  refine ⟨m, (h.mem_iff m).mpr ?_, Entry.same_equivalence.symm hsame⟩
  rw [same_left_congr hsame]
  exact hm

/-- Members that are the same call number are one member. -/
theorem Collected.eq_of_same {source members : List Entry} (h : Collected source members)
    {a b : Entry} (ha : a ∈ members) (hb : b ∈ members) (hab : a.same b = true) : a = b := by
  have hfind := (h.mem_iff a).mp ha
  rw [same_left_congr hab, (h.mem_iff b).mp hb] at hfind
  exact (Option.some.inj hfind).symm

/-- A member comes from the source. -/
theorem Collected.mem_source {source members : List Entry} (h : Collected source members)
    {m : Entry} (hm : m ∈ members) : m ∈ source :=
  List.mem_of_find?_eq_some ((h.mem_iff m).mp hm)

/-- Inserting the next entry collects it. -/
theorem Collected.insertMember {source members : List Entry} (h : Collected source members)
    (entry : Entry) : Collected (source ++ [entry]) (insertMember entry members) where
  ascending := pairwise_insertMember entry h.ascending
  mem_iff m := by
    rw [mem_insertMember h.ascending, h.mem_iff, List.find?_append]
    constructor
    · rintro (hm | ⟨rfl, hnew⟩)
      · simp [hm]
      · have hnone : source.find? (·.same m) = none := by
          rw [List.find?_eq_none]
          intro e he hsame
          obtain ⟨x, hx, hex⟩ := h.exists_same he
          have hmx := Entry.same_equivalence.trans (Entry.same_equivalence.symm hsame) hex
          exact hnew x hx (Entry.same_iff.mp hmx)
        simp [hnone, Entry.same_equivalence.refl m]
    · intro hfind
      cases hsource : source.find? (·.same m) with
      | some first =>
        rw [hsource] at hfind
        exact Or.inl hfind
      | none =>
        rw [hsource] at hfind
        have hentry : [entry].find? (·.same m) = some m := hfind
        have heq : m = entry := by
          simpa using List.mem_of_find?_eq_some hentry
        refine Or.inr ⟨heq, fun x hx hcmp => ?_⟩
        rw [List.find?_eq_none] at hsource
        refine hsource x (h.mem_source hx) ?_
        rw [heq]
        exact Entry.same_equivalence.symm (Entry.same_iff.mpr hcmp)

end Cluster

/-! ## All clusters -/

namespace Clusters

open Cluster (Collected)

/-- The clusters are those of a list of entries for a key length. -/
structure Grouped (length : Nat) (source : List Entry) (clusters : Clusters) : Prop where
  ascending : clusters.Pairwise fun a b => a.key < b.key
  exists_cluster : ∀ e ∈ source, ∃ cluster ∈ clusters, cluster.key = e.clusterKey length
  members_ne_nil : ∀ cluster ∈ clusters, cluster.members ≠ []
  collected : ∀ cluster ∈ clusters,
    Collected (source.filter fun e => e.clusterKey length = cluster.key) cluster.members

/-- What adding an entry leaves in the list of clusters: the clusters with other keys, and the
cluster with its key, which has the entry inserted or is made for it. -/
inductive Added (key : Text) (entry : Entry) (clusters : Clusters) : Cluster → Prop
  | kept {cluster : Cluster} (hmem : cluster ∈ clusters) (hkey : cluster.key ≠ key) :
      Added key entry clusters cluster
  | extended {old : Cluster} (hmem : old ∈ clusters) (hkey : old.key = key) :
      Added key entry clusters ⟨key, Cluster.insertMember entry old.members⟩
  | made (hnone : ∀ old ∈ clusters, old.key ≠ key) : Added key entry clusters ⟨key, [entry]⟩

section Added

variable {key : Text} {entry : Entry} {clusters rest : Clusters} {first cluster : Cluster}

/-- Under a new key a cluster is made, and all others are kept. -/
theorem added_iff_of_new (hnew : ∀ old ∈ clusters, old.key ≠ key) :
    Added key entry clusters cluster ↔ cluster = ⟨key, [entry]⟩ ∨ cluster ∈ clusters := by
  constructor
  · intro h
    cases h with
    | kept hmem _ => exact Or.inr hmem
    | extended hmem hkey => exact absurd hkey (hnew _ hmem)
    | made _ => exact Or.inl rfl
  · rintro (rfl | hmem)
    · exact .made hnew
    · exact .kept hmem (hnew cluster hmem)

/-- Under the key of the first cluster the entry is inserted there, and all later clusters are
kept. -/
theorem added_cons_self (hrest : ∀ old ∈ rest, old.key ≠ first.key) :
    Added first.key entry (first :: rest) cluster ↔
      cluster = ⟨first.key, Cluster.insertMember entry first.members⟩ ∨ cluster ∈ rest := by
  constructor
  · intro h
    cases h with
    | kept hmem hkey =>
      rcases List.mem_cons.mp hmem with rfl | hmem
      · exact absurd rfl hkey
      · exact Or.inr hmem
    | extended hmem hkey =>
      rcases List.mem_cons.mp hmem with rfl | hmem
      · exact Or.inl rfl
      · exact absurd hkey (hrest _ hmem)
    | made hnone => exact absurd rfl (hnone first List.mem_cons_self)
  · rintro (rfl | hmem)
    · exact .extended List.mem_cons_self rfl
    · exact .kept (List.mem_cons_of_mem first hmem) (hrest cluster hmem)

/-- Under another key than that of the first cluster this one is kept. -/
theorem added_cons_of_ne (hne : first.key ≠ key) :
    Added key entry (first :: rest) cluster ↔ cluster = first ∨ Added key entry rest cluster := by
  constructor
  · intro h
    cases h with
    | kept hmem hkey => exact (List.mem_cons.mp hmem).imp_right fun hmem => .kept hmem hkey
    | extended hmem hkey =>
      rcases List.mem_cons.mp hmem with rfl | hmem
      · exact absurd hkey hne
      · exact Or.inr (.extended hmem hkey)
    | made hnone => exact Or.inr (.made fun old hold => hnone old (List.mem_cons_of_mem first hold))
  · rintro (rfl | h)
    · exact .kept List.mem_cons_self hne
    · cases h with
      | kept hmem hkey => exact .kept (List.mem_cons_of_mem first hmem) hkey
      | extended hmem hkey => exact .extended (List.mem_cons_of_mem first hmem) hkey
      | made hnone => exact .made (List.forall_mem_cons.mpr ⟨hne, hnone⟩)

/-- The clusters after an addition. -/
theorem mem_add (ascending : clusters.Pairwise fun a b => a.key < b.key) :
    cluster ∈ add key entry clusters ↔ Added key entry clusters cluster := by
  induction clusters with
  | nil =>
    rw [added_iff_of_new (by simp)]
    exact List.mem_cons
  | cons first rest ih =>
    obtain ⟨hfirst, hrest⟩ := List.pairwise_cons.mp ascending
    unfold add
    split
    · rename_i hlt
      -- The new key stands in front of all others.
      have hnew : ∀ old ∈ first :: rest, old.key ≠ key :=
        List.forall_mem_cons.mpr ⟨hlt.ne', fun old hold => (hlt.trans (hfirst old hold)).ne'⟩
      rw [added_iff_of_new hnew]
      exact List.mem_cons
    · split
      · rename_i heq
        subst heq
        rw [added_cons_self fun old hold => (hfirst old hold).ne']
        exact List.mem_cons
      · rename_i hne
        rw [added_cons_of_ne (Ne.symm hne), ← ih hrest]
        exact List.mem_cons

end Added

/-- Adding an entry keeps the keys ascending. -/
theorem pairwise_add (key : Text) (entry : Entry) {clusters : Clusters}
    (ascending : clusters.Pairwise fun a b => a.key < b.key) :
    (add key entry clusters).Pairwise fun a b => a.key < b.key := by
  induction clusters with
  | nil => simp [add]
  | cons first rest ih =>
    obtain ⟨hfirst, hrest⟩ := List.pairwise_cons.mp ascending
    unfold add
    split
    · rename_i hlt
      refine List.pairwise_cons.mpr ⟨fun x hx => ?_, ascending⟩
      rcases List.mem_cons.mp hx with rfl | hx
      · exact hlt
      · exact hlt.trans (hfirst x hx)
    · rename_i hlt
      split
      · exact List.pairwise_cons.mpr ⟨hfirst, hrest⟩
      · rename_i hne
        have hkey : first.key < key := (lt_or_gt_of_ne hne).resolve_left hlt
        refine List.pairwise_cons.mpr ⟨fun x hx => ?_, ih hrest⟩
        cases (mem_add hrest).mp hx with
        | kept hmem _ => exact hfirst x hmem
        | extended _ _ => exact hkey
        | made _ => exact hkey

/-- Insertion leaves no cluster empty. -/
theorem insertMember_ne_nil (entry : Entry) (members : List Entry) :
    Cluster.insertMember entry members ≠ [] := by
  cases members with
  | nil => simp [Cluster.insertMember]
  | cons member rest =>
    unfold Cluster.insertMember
    split <;> simp

/-- The entries with a key, one more entry considered. -/
theorem filter_key_append (length : Nat) (source : List Entry) (entry : Entry) (key : Text) :
    ((source ++ [entry]).filter fun e => e.clusterKey length = key) =
      (source.filter fun e => e.clusterKey length = key) ++
        if entry.clusterKey length = key then [entry] else [] := by
  rw [List.filter_append]
  split <;> rename_i h <;> simp [h]

/-- Adding the next entry to the cluster with its key keeps the clusters grouped. -/
theorem Grouped.add {length : Nat} {source : List Entry} {clusters : Clusters}
    (h : Grouped length source clusters) (entry : Entry) :
    Grouped length (source ++ [entry])
      (Clusters.add (entry.clusterKey length) entry clusters) where
  ascending := pairwise_add _ entry h.ascending
  exists_cluster e he := by
    -- A cluster with the key of the entry is there in any case after the addition.
    have hadded : ∃ cluster ∈ Clusters.add (entry.clusterKey length) entry clusters,
        cluster.key = entry.clusterKey length := by
      by_cases hold : ∃ old ∈ clusters, old.key = entry.clusterKey length
      · obtain ⟨old, hmem, hkey⟩ := hold
        exact ⟨_, (mem_add h.ascending).mpr (.extended hmem hkey), rfl⟩
      · have hnone : ∀ old ∈ clusters, old.key ≠ entry.clusterKey length :=
          fun old hmem hkey => hold ⟨old, hmem, hkey⟩
        exact ⟨_, (mem_add h.ascending).mpr (.made hnone), rfl⟩
    by_cases hkey : e.clusterKey length = entry.clusterKey length
    · rw [hkey]
      exact hadded
    · rcases List.mem_append.mp he with he | he
      · obtain ⟨cluster, hmem, hcluster⟩ := h.exists_cluster e he
        refine ⟨cluster, (mem_add h.ascending).mpr (.kept hmem ?_), hcluster⟩
        rw [hcluster]
        exact hkey
      · exact absurd (by rw [List.mem_singleton.mp he]) hkey
  members_ne_nil cluster hcluster := by
    cases (mem_add h.ascending).mp hcluster with
    | kept hmem _ => exact h.members_ne_nil cluster hmem
    | extended _ _ => exact insertMember_ne_nil entry _
    | made _ => exact List.cons_ne_nil entry []
  collected cluster hcluster := by
    rw [filter_key_append]
    cases (mem_add h.ascending).mp hcluster with
    | kept hmem hkey =>
      rw [if_neg (Ne.symm hkey), List.append_nil]
      exact h.collected cluster hmem
    | extended hmem hkey =>
      rw [if_pos rfl]
      have hold := h.collected _ hmem
      rw [hkey] at hold
      exact hold.insertMember entry
    | made hnone =>
      -- No earlier entry has the key, so the new cluster collects the entry alone.
      have hempty : (source.filter fun e => e.clusterKey length = entry.clusterKey length) = [] := by
        rw [List.filter_eq_nil_iff]
        intro e he hkey
        obtain ⟨old, hmem, hold⟩ := h.exists_cluster e he
        exact hnone old hmem (hold.trans (by simpa using hkey))
      rw [if_pos rfl, hempty]
      exact Collected.nil.insertMember entry

/-- Grouping all entries of a list one after the other. -/
theorem grouped_foldl (length : Nat) {source : List Entry} {clusters : Clusters}
    (h : Grouped length source clusters) (entries : List Entry) :
    Grouped length (source ++ entries)
      (entries.foldl (fun clusters e => Clusters.add (e.clusterKey length) e clusters) clusters) := by
  induction entries generalizing source clusters with
  | nil => simpa using h
  | cons entry entries ih =>
    have hnext := ih (h.add entry)
    rw [List.append_assoc, List.singleton_append] at hnext
    exact hnext

/-- The clusters of a list of entries are grouped. -/
theorem grouped_ofEntries (entries : List Entry) (options : Options) :
    Grouped options.keyLength (entries.filter (keeps options)) (ofEntries entries options) := by
  have hnil : Grouped options.keyLength [] [] := ⟨.nil, by simp, by simp, by simp⟩
  exact grouped_foldl options.keyLength hnil (entries.filter (keeps options))

/-- The entries that the options leave in. -/
def kept (entries : List Entry) (options : Options) : List Entry :=
  if options.dropUnknownSchemes then entries.filter fun e => e.scheme ≠ .unknown else entries

/-- Entries are kept exactly when the options keep each of them. -/
theorem filter_keeps (entries : List Entry) (options : Options) :
    entries.filter (keeps options) = kept entries options := by
  unfold kept
  split
  · rename_i hdrop
    refine List.filter_congr fun e _ => ?_
    rw [keeps, hdrop]
    cases e.scheme <;> rfl
  · rename_i hdrop
    rw [List.filter_eq_self]
    intro e _
    simp [keeps, hdrop]

/-- Grouping is exact.  The keys are those of the kept entries, each once and in ascending order;
no cluster is empty; its members ascend strictly; every kept entry with its key is the same as
exactly one member; and a member is the earliest kept entry with that key which it is the same
as, so that it is one of the entries given. -/
theorem ofEntries_exact (entries : List Entry) (options : Options) :
    ((ofEntries entries options).map Cluster.key).Pairwise (· < ·) ∧
      (∀ key, key ∈ (ofEntries entries options).map Cluster.key ↔
        ∃ e ∈ kept entries options, e.clusterKey options.keyLength = key) ∧
      ∀ cluster ∈ ofEntries entries options,
        cluster.members ≠ [] ∧
        (cluster.members.Pairwise fun a b => a.compare b = .lt) ∧
        (∀ e ∈ kept entries options, e.clusterKey options.keyLength = cluster.key →
          ∃! m, m ∈ cluster.members ∧ e.same m = true) ∧
        ∀ m ∈ cluster.members,
          (kept entries options).find?
              (fun e => e.clusterKey options.keyLength = cluster.key && e.same m) = some m ∧
            m ∈ entries := by
  have hgrouped := grouped_ofEntries entries options
  rw [filter_keeps] at hgrouped
  refine ⟨List.pairwise_map.mpr hgrouped.ascending, fun key => ?_, fun cluster hcluster => ?_⟩
  · constructor
    · intro hkey
      obtain ⟨cluster, hcluster, rfl⟩ := List.mem_map.mp hkey
      obtain ⟨m, hm⟩ := List.exists_mem_of_ne_nil _ (hgrouped.members_ne_nil cluster hcluster)
      have hsource := (hgrouped.collected cluster hcluster).mem_source hm
      obtain ⟨hmem, hmkey⟩ := List.mem_filter.mp hsource
      exact ⟨m, hmem, by simpa using hmkey⟩
    · rintro ⟨e, he, rfl⟩
      obtain ⟨cluster, hcluster, hkey⟩ := hgrouped.exists_cluster e he
      exact List.mem_map.mpr ⟨cluster, hcluster, hkey⟩
  · have hcollected := hgrouped.collected cluster hcluster
    refine ⟨hgrouped.members_ne_nil cluster hcluster, hcollected.ascending, ?_, ?_⟩
    · intro e he hkey
      obtain ⟨m, hm, hsame⟩ :=
        hcollected.exists_same (List.mem_filter.mpr ⟨he, by simpa using hkey⟩)
      refine ⟨m, ⟨hm, hsame⟩, ?_⟩
      rintro other ⟨hother, hsame'⟩
      exact hcollected.eq_of_same hother hm
        (Entry.same_equivalence.trans (Entry.same_equivalence.symm hsame') hsame)
    · intro m hm
      have hfind := (hcollected.mem_iff m).mp hm
      rw [List.find?_filter] at hfind
      have hmem := List.mem_of_find?_eq_some hfind
      refine ⟨?_, ?_⟩
      · simpa using hfind
      · unfold kept at hmem
        split at hmem
        · exact (List.mem_filter.mp hmem).1
        · exact hmem

end Clusters
end Shelfmark
