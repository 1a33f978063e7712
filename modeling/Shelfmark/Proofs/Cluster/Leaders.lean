import Shelfmark.Proofs.Cluster.Grouping

/-!
# Clusters - Which entry comes first

The first member of a cluster decides what the cluster counts as and, if it is the best
cluster, represents the record.  It is found without building clusters: among the entries with
the key some come before all others.  They are one call number in perhaps several spellings,
and the earliest of them is the first member.

Main results:

- Theorem `same_of_mem_leaders`: the entries that come first are the same call number.
- Theorem `first?_eq_head?_leaders`: the first member of a cluster is the earliest of them.
- Theorem `leaders_inFront`: moving some entries to the front does the same among those that
  come first.
-/

namespace Shelfmark
namespace Clusters

open Cluster (Collected)

/-! ## Moving to the front -/

/-- The elements with a property in front of the others, and otherwise in their order. -/
def inFront {α : Type} (p : α → Bool) (l : List α) : List α :=
  l.filter p ++ l.filter (!p ·)

section InFront

variable {α : Type} {p q : α → Bool} {l : List α}

/-- Nothing is added or left out. -/
theorem inFront_perm (p : α → Bool) (l : List α) : (inFront p l).Perm l :=
  List.filter_append_perm p l

/-- Which elements are moved matters only for those that are there. -/
theorem inFront_congr (h : ∀ x ∈ l, p x = q x) : inFront p l = inFront q l := by
  rw [inFront, inFront, List.filter_congr h]
  congr 1
  refine List.filter_congr fun x hx => ?_
  rw [h x hx]

/-- It makes no difference whether elements are left out before or after. -/
theorem filter_inFront (p q : α → Bool) (l : List α) :
    (inFront p l).filter q = inFront p (l.filter q) := by
  rw [inFront, inFront, List.filter_append, List.filter_comm q, List.filter_comm q]

/-- The first element then has the property if some element has it. -/
theorem any_head?_inFront (p : α → Bool) (l : List α) : (inFront p l).head?.any p = l.any p := by
  cases hfront : l.filter p with
  | nil =>
    have hnone : ∀ x ∈ l, ¬ p x = true := List.filter_eq_nil_iff.mp hfront
    have hall : l.filter (!p ·) = l := by
      rw [List.filter_eq_self]
      intro x hx
      simp [hnone x hx]
    rw [inFront, hfront, List.nil_append, hall, List.any_eq_false.mpr hnone]
    cases l with
    | nil => rfl
    | cons x l =>
      have hx := hnone x (by simp)
      simpa using hx
  | cons x rest =>
    have hx := List.mem_filter.mp (hfront ▸ List.mem_cons_self : x ∈ l.filter p)
    rw [inFront, hfront, List.any_eq_true.mpr ⟨x, hx⟩]
    exact hx.2

/-- If those without the property are moved, it has the property only if all elements do. -/
theorem any_head?_inFront_not (hne : l ≠ []) : (inFront (!p ·) l).head?.any p = l.all p := by
  have hfront := any_head?_inFront (!p ·) l
  rw [List.all_eq_not_any_not, ← hfront]
  cases hcase : inFront (!p ·) l with
  | nil =>
    have hperm : (inFront (!p ·) l).Perm l := inFront_perm (!p ·) l
    rw [hcase] at hperm
    exact absurd hperm.symm.eq_nil hne
  | cons x rest => simp

end InFront

/-! ## Coming first -/

/-- The entries with a key that come before all others with it, or at the same place. -/
def leaders (source : List Entry) (length : Nat) (key : Text) : List Entry :=
  let group := source.filter fun e => e.clusterKey length = key
  group.filter fun e => group.all fun x => (e.compare x).isLE

section Leaders

variable {source : List Entry} {length : Nat} {key : Text} {e : Entry}

/-- What it is to come first among the entries with a key. -/
theorem mem_leaders :
    e ∈ leaders source length key ↔ e ∈ source ∧ e.clusterKey length = key ∧
      ∀ x ∈ source, x.clusterKey length = key → (e.compare x).isLE = true := by
  simp only [leaders, List.mem_filter, List.all_eq_true, decide_eq_true_eq, and_imp, and_assoc]

/-- The entries that come first are the same call number. -/
theorem same_of_mem_leaders {d : Entry} (hd : d ∈ leaders source length key)
    (he : e ∈ leaders source length key) : d.same e = true := by
  obtain ⟨hdmem, hdkey, hdle⟩ := mem_leaders.mp hd
  obtain ⟨hemem, hekey, hele⟩ := mem_leaders.mp he
  rw [Entry.same_iff]
  exact Std.OrientedCmp.isLE_antisymm (hdle e hemem hekey) (hele d hdmem hdkey)

/-- Whether an entry comes first does not depend on the order in which the others are listed. -/
theorem leaders_eq_filter {source' : List Entry} (h : source'.Perm source) :
    leaders source' length key = (source'.filter fun e => e.clusterKey length = key).filter
      fun e => (source.filter fun e => e.clusterKey length = key).all
        fun x => (e.compare x).isLE := by
  refine List.filter_congr fun e _ => ?_
  exact (h.filter fun e => e.clusterKey length = key).all_eq

/-- In any order the same entries come first. -/
theorem leaders_perm {source' : List Entry} (h : source'.Perm source) :
    (leaders source' length key).Perm (leaders source length key) := by
  rw [leaders_eq_filter h]
  exact (h.filter _).filter _

/-- Moving some entries to the front does the same among those that come first. -/
theorem leaders_inFront (front : Entry → Bool) (source : List Entry) (length : Nat) (key : Text) :
    leaders (inFront front source) length key = inFront front (leaders source length key) := by
  rw [leaders_eq_filter (inFront_perm front source), filter_inFront, filter_inFront]
  rfl

/-- The first member is the earliest entry that comes before all others. -/
theorem head?_of_collected {members : List Entry} (h : Collected source members) :
    members.head? = (source.filter fun e => source.all fun x => (e.compare x).isLE).head? := by
  rw [List.head?_filter]
  cases members with
  | nil =>
    have hnil : source = [] := by
      rw [List.eq_nil_iff_forall_not_mem]
      intro e he
      obtain ⟨m, hm, -⟩ := h.exists_same he
      contradiction
    rw [hnil]
    rfl
  | cons m rest =>
    obtain ⟨hfirst, -⟩ := List.pairwise_cons.mp h.ascending
    have hmem : m ∈ source := h.mem_source (by simp)
    have hmin (x : Entry) (hx : x ∈ source) : (m.compare x).isLE = true := by
      obtain ⟨n, hn, hsame⟩ := h.exists_same hx
      rw [Std.TransCmp.congr_right (Entry.same_iff.mp hsame)]
      rcases List.mem_cons.mp hn with rfl | hn
      · exact Std.ReflCmp.isLE_rfl
      · exact Ordering.isLE_of_eq_lt (hfirst n hn)
    have hleads (e : Entry) (he : e ∈ source) :
        (source.all fun x => (e.compare x).isLE) = e.same m := by
      rw [Bool.eq_iff_iff, List.all_eq_true, Entry.same_iff]
      constructor
      · intro hle
        exact Std.OrientedCmp.isLE_antisymm (hle m hmem) (hmin e he)
      · intro heq x hx
        rw [Std.TransCmp.congr_left heq]
        exact hmin x hx
    rw [List.head?_cons, ← List.head?_filter, List.filter_congr hleads, List.head?_filter]
    exact ((h.mem_iff m).mp (by simp)).symm

/-- The first member of a cluster is the earliest entry among those that come first. -/
theorem Grouped.first?_eq_head?_leaders {clusters : Clusters} (h : Grouped length source clusters)
    {cluster : Cluster} (hcluster : cluster ∈ clusters) :
    cluster.first? = (leaders source length cluster.key).head? :=
  head?_of_collected (h.collected cluster hcluster)

/-- Among entries with a key some come first. -/
theorem Grouped.leaders_ne_nil {clusters : Clusters} (h : Grouped length source clusters)
    {cluster : Cluster} (hcluster : cluster ∈ clusters) :
    leaders source length cluster.key ≠ [] := by
  have hfirst := h.first?_eq_head?_leaders hcluster
  obtain ⟨m, rest, hcons⟩ := List.exists_cons_of_ne_nil (h.members_ne_nil cluster hcluster)
  rw [Cluster.first?, hcons, List.head?_cons] at hfirst
  rintro hnil
  rw [hnil] at hfirst
  contradiction

/-- What a cluster counts as is decided by the earliest entry among those that come first. -/
theorem Grouped.isLc_eq {clusters : Clusters} (h : Grouped length source clusters)
    {cluster : Cluster} (hcluster : cluster ∈ clusters) :
    cluster.isLc = (leaders source length cluster.key).head?.any Entry.isLc := by
  rw [Cluster.isLc, h.first?_eq_head?_leaders hcluster]

end Leaders

end Clusters
end Shelfmark
