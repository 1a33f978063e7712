import Shelfmark.CallNumberSet
import Shelfmark.Proofs.Cluster.Grouping
import Shelfmark.Proofs.NaturalOrder.Sorting

/-!
# Call numbers of a record - Listings

A record lists the values of its entries in natural order, or the summaries of its clusters in
normed order.  Both listings are complete, and hold of all texts that compare equal the first.

Main results:

- Theorem `isListingOf_sortDistinct`: sorting without repetition makes a listing.
- Theorem `Grouped.isSome_summary?`: every cluster has a summary.
- Theorem `listings_exact`: what a record lists, however its fields are read.
-/

namespace Shelfmark

open NaturalOrder (Arranged arranged_sortDistinct natural normed sortDistinct)

/-! ## Summaries -/

/-- A cluster with members has a summary. -/
theorem Cluster.isSome_summary? {cluster : Cluster} (h : cluster.members ≠ []) (options : Options) :
    (cluster.summary? options).isSome = true := by
  obtain ⟨first, others, hmembers⟩ := List.exists_cons_of_ne_nil h
  rw [Cluster.summary?, hmembers]
  cases others with
  | nil => rfl
  | cons second others =>
    simp only [List.map_cons, Cluster.summarize?]
    split <;> rfl

/-- Every cluster of some entries has a summary. -/
theorem Clusters.Grouped.isSome_summary? {length : Nat} {source : List Entry} {clusters : Clusters}
    (h : Clusters.Grouped length source clusters) (options : Options) :
    ∀ c ∈ clusters, (c.summary? options).isSome = true :=
  fun c hc => c.isSome_summary? (h.members_ne_nil c hc) options

namespace CallNumberSet

/-! ## Listings of texts -/

/-- The texts that are listed: the summaries of the clusters in the order of their keys, or the
values of the entries in their order. -/
def sources (options : Options) (entries : List Entry) (clusters : Clusters) (conflate : Bool) :
    List Text :=
  if conflate then clusters.filterMap fun cluster => cluster.summary? options
  else entries.map Entry.value

/-- The order in which texts are listed. -/
def listingOrder (conflate : Bool) : Text → Text → Ordering :=
  if conflate then normed else natural

/-- Texts are listed in a total preorder. -/
instance (conflate : Bool) : Std.TransCmp (listingOrder conflate) := by
  cases conflate
  · exact inferInstanceAs (Std.TransCmp natural)
  · exact inferInstanceAs (Std.TransCmp normed)

/-- What answers for some texts: a list that ascends strictly, holds no other texts, and holds for
every text exactly one that compares equal, the first such text; and no list where there is no
text. -/
structure IsListingOf (cmp : Text → Text → Ordering) (texts : List Text)
    (answer : Option (List Text)) : Prop where
  eq_none_iff : answer = none ↔ texts = []
  ascending : ∀ listed ∈ answer, listed.Pairwise fun a b => cmp a b = .lt
  mem_texts : ∀ listed ∈ answer, ∀ t ∈ listed, t ∈ texts
  existsUnique : ∀ listed ∈ answer, ∀ t ∈ texts, ∃! u, u ∈ listed ∧ cmp t u = .eq
  first : ∀ listed ∈ answer, ∀ t ∈ texts, ∀ u ∈ listed, cmp t u = .eq →
    texts.find? (fun v => (cmp v t).isEq) = some u

/-- A listing of no text is empty, and only that. -/
theorem eq_nil_iff_of_arranged {cmp : Text → Text → Ordering} [Std.TransCmp cmp]
    {texts listed : List Text} (h : Arranged cmp texts listed) : listed = [] ↔ texts = [] := by
  constructor
  · rintro rfl
    refine List.eq_nil_iff_forall_not_mem.mpr fun t ht => ?_
    obtain ⟨u, hu, -⟩ := h.exists_first ht
    exact absurd hu List.not_mem_nil
  · rintro rfl
    exact List.eq_nil_iff_forall_not_mem.mpr fun t ht => absurd (h.mem_values ht) List.not_mem_nil

/-- Sorting texts without repetition makes a listing. -/
theorem isListingOf_sortDistinct (cmp : Text → Text → Ordering) [Std.TransCmp cmp]
    (texts : List Text) : IsListingOf cmp texts (nonempty? (sortDistinct cmp texts)) := by
  have harranged : Arranged cmp texts (sortDistinct cmp texts) := arranged_sortDistinct texts
  have hnone := eq_nil_iff_of_arranged harranged
  by_cases hnil : texts = []
  · rw [nonempty?, hnone.mpr hnil]
    constructor <;> simp [hnil]
  · have hanswer : nonempty? (sortDistinct cmp texts) = some (sortDistinct cmp texts) := by
      rw [nonempty?, if_neg (by simpa using mt hnone.mp hnil)]
    rw [hanswer]
    generalize sortDistinct cmp texts = listed at harranged
    constructor
    · simp [hnil]
    · rintro _ ⟨⟩
      exact harranged.ascending
    · rintro _ ⟨⟩ t ht
      exact harranged.mem_values ht
    · rintro _ ⟨⟩ t ht
      obtain ⟨u, hu, htu, -⟩ := harranged.exists_first ht
      refine ⟨u, ⟨hu, htu⟩, fun w hw => ?_⟩
      have hwu : cmp w u = .eq := (Std.TransCmp.congr_left (Std.OrientedCmp.eq_symm hw.2)).trans htu
      exact harranged.eq_of_compare hw.1 hu hwu
    · rintro _ ⟨⟩ t ht u hu htu
      obtain ⟨w, hw, htw, hfirst⟩ := harranged.exists_first ht
      have hwu : cmp w u = .eq := (Std.TransCmp.congr_left (Std.OrientedCmp.eq_symm htw)).trans htu
      rw [hfirst, harranged.eq_of_compare hw hu hwu]

/-! ## The listings of a record -/

/-- A listing answers for the texts it is made of. -/
theorem isListingOf_listing (options : Options) (entries : List Entry) (clusters : Clusters)
    (conflate : Bool) :
    IsListingOf (listingOrder conflate) (sources options entries clusters conflate)
      (listing options entries clusters conflate) := by
  cases conflate with
  | false => exact isListingOf_sortDistinct natural (entries.map Entry.value)
  | true => exact isListingOf_sortDistinct normed (clusters.filterMap fun c => c.summary? options)

/-- What a record lists, of all its call numbers and of its holdings alone.  The values of the
entries are listed in natural order, or the summaries of the clusters in normed order, where
clusters stand in the order of their keys and each has a summary.  There is a list exactly if
there is a text to list; it ascends strictly, and holds for every text exactly one that compares
equal, namely the first of them. -/
theorem listings_exact (reader : FieldReader) (options : Options) (conflate : Bool) :
    let set := ofReader reader options
    let order := listingOrder conflate
    IsListingOf order (sources options set.entries set.clusters conflate)
        (set.listed? conflate) ∧
      IsListingOf order (sources options set.holdings set.holdingsClusters conflate)
        (set.listedHoldings? conflate) ∧
      ∀ clusters ∈ [set.clusters, set.holdingsClusters],
        (clusters.Pairwise fun c d => c.key < d.key) ∧
          ∀ c ∈ clusters, (c.summary? options).isSome = true := by
  intro set order
  refine ⟨isListingOf_listing options _ _ conflate, isListingOf_listing options _ _ conflate, ?_⟩
  have hgrouped (entries : List Entry) :
      ((Clusters.ofEntries entries options).Pairwise fun c d => c.key < d.key) ∧
        ∀ c ∈ Clusters.ofEntries entries options, (c.summary? options).isSome = true :=
    ⟨(Clusters.grouped_ofEntries entries options).ascending,
      (Clusters.grouped_ofEntries entries options).isSome_summary? options⟩
  intro clusters hclusters
  rcases List.mem_pair.mp hclusters with rfl | rfl
  · exact hgrouped set.entries
  · exact hgrouped set.holdings

end CallNumberSet
end Shelfmark
