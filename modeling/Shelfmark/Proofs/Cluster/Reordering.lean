import Shelfmark.Proofs.Cluster.Alike
import Shelfmark.Proofs.Cluster.Leaders

/-!
# Clusters - When the order of the entries matters

In any order the same entries give clusters that are alike.  What a cluster counts as is read
off the spelling of its first member, however, and among entries that are the same call number
the order decides which spelling that is: `LC:QA76` and `lc:QA76` are the same, but only the
former is tagged as Library of Congress.

So each cluster counts in every order, in some orders or in none.  By moving entries to the
front every cluster of the second kind can be made to count or not, independently of the
others, and the choice is settled exactly when no such cluster can take it or lose it.

Main results:

- Theorem `leadsLc_favouring`: what each key counts as in a favourable order.
- Theorem `chosen?_eq_of_settled`: where the choice is settled, no order changes it.
- Theorem `settled_of_best?_alike`: where no order changes it, the choice is settled.
- Theorem `best?_of_perm`: the choice in all orders of a list of entries.
- Theorem `mixedTags_best?`: it may depend on the order.
-/

namespace Shelfmark
namespace Clusters

open Cluster (Alike Preferred)

/-! ## What a key counts as -/

/-- Whether the earliest of the entries that come first under a key is a Library of Congress
number. -/
def leadsLc (source : List Entry) (length : Nat) (key : Text) : Bool :=
  (leaders source length key).head?.any Entry.isLc

/-- Whether all entries that come first under a key are Library of Congress numbers. -/
def alwaysLc (source : List Entry) (length : Nat) (key : Text) : Bool :=
  (leaders source length key).all Entry.isLc

/-- Whether some of the entries that come first under a key are Library of Congress numbers. -/
def sometimesLc (source : List Entry) (length : Nat) (key : Text) : Bool :=
  (leaders source length key).any Entry.isLc

section Counting

variable {source source' : List Entry} {length : Nat} {key : Text}

/-- What counts in every order counts in this one. -/
theorem leadsLc_of_alwaysLc (hperm : source'.Perm source)
    (hne : leaders source length key ≠ []) (h : alwaysLc source length key = true) :
    leadsLc source' length key = true := by
  have hleaders : (leaders source' length key).Perm (leaders source length key) :=
    leaders_perm hperm
  cases hcase : leaders source' length key with
  | nil =>
    rw [hcase] at hleaders
    exact absurd hleaders.symm.eq_nil hne
  | cons e rest =>
    have he : e ∈ leaders source length key := hleaders.mem_iff.mp (by simp [hcase])
    rw [leadsLc, hcase]
    exact List.all_eq_true.mp h e he

/-- What counts in this order counts in some. -/
theorem sometimesLc_of_leadsLc (hperm : source'.Perm source)
    (h : leadsLc source' length key = true) : sometimesLc source length key = true := by
  have hleaders : (leaders source' length key).Perm (leaders source length key) :=
    leaders_perm hperm
  obtain ⟨e, he, hlc⟩ := (Option.any_eq_true _ _).mp h
  have hmem := hleaders.mem_iff.mp (List.mem_of_mem_head? he)
  exact List.any_eq_true.mpr ⟨e, hmem, hlc⟩

end Counting

/-! ## Favourable orders -/

/-- The same entries, with those in front that let the given keys count and the others not. -/
def favouring (lc : Text → Bool) (source : List Entry) (length : Nat) : List Entry :=
  inFront (fun e => e.isLc == lc (e.clusterKey length)) source

/-- Whether a key counts in a favourable order: if it is to count, when it ever does, and
otherwise only when it always does. -/
def favouredLc (lc : Text → Bool) (source : List Entry) (length : Nat) (key : Text) : Bool :=
  if lc key then sometimesLc source length key else alwaysLc source length key

/-- A favourable order makes the keys count that can count, and no others that need not. -/
theorem leadsLc_favouring (lc : Text → Bool) {source : List Entry} {length : Nat} {key : Text}
    (hne : leaders source length key ≠ []) :
    leadsLc (favouring lc source length) length key = favouredLc lc source length key := by
  have hkey : ∀ e ∈ leaders source length key,
      (e.isLc == lc (e.clusterKey length)) = (e.isLc == lc key) := by
    intro e he
    rw [(mem_leaders.mp he).2.1]
  rw [leadsLc, favouring, leaders_inFront, inFront_congr hkey, favouredLc]
  cases lc key with
  | false =>
    simp only [beq_false]
    exact any_head?_inFront_not hne
  | true =>
    simp only [beq_true]
    exact any_head?_inFront Entry.isLc (leaders source length key)

/-! ## Settled choices -/

/-- The choice is settled if no cluster that counts only in some orders matters: it is chosen
even if it does not count, or a cluster that always counts is preferred to it. -/
def Settled (source : List Entry) (length : Nat) (clusters : Clusters) : Prop :=
  ∀ d ∈ clusters, sometimesLc source length d.key = true → alwaysLc source length d.key = false →
    ∃ b, chosen? (fun c => alwaysLc source length c.key) clusters = some b ∧
      (b = d ∨ alwaysLc source length b.key = true ∧ Preferred b d)

section Settled

variable {source : List Entry} {length : Nat} {clusters : Clusters}

/-- Where the choice is settled it is the same whichever of the doubtful clusters count. -/
theorem chosen?_eq_of_settled (ascending : clusters.Pairwise fun c d => c.key < d.key)
    (hsettled : Settled source length clusters) {counts : Cluster → Bool}
    (halways : ∀ c ∈ clusters, alwaysLc source length c.key = true → counts c = true)
    (hsometimes : ∀ c ∈ clusters, counts c = true → sometimesLc source length c.key = true) :
    chosen? counts clusters = chosen? (fun c => alwaysLc source length c.key) clusters := by
  by_cases hdoubtful : ∃ d ∈ clusters, counts d = true ∧ alwaysLc source length d.key = false
  · obtain ⟨d, hd, hcounts, hnot⟩ := hdoubtful
    obtain ⟨b, hb, hd'⟩ := hsettled d hd (hsometimes d hd hcounts) hnot
    have hbmem : b ∈ clusters := mem_of_chosen? ascending hb
    rw [hb, chosen?_eq_some_iff ascending ⟨d, hd, hcounts⟩]
    refine ⟨⟨hbmem, ?_⟩, fun c hc hccounts => ?_⟩
    · rcases hd' with rfl | ⟨hbalways, -⟩
      · exact hcounts
      · exact halways b hbmem hbalways
    · cases hcalways : alwaysLc source length c.key with
      | true =>
        -- The cluster competed with the choice, and lost.
        exact ((chosen?_eq_some_iff ascending ⟨c, hc, hcalways⟩).mp hb).2 c hc hcalways
      | false =>
        obtain ⟨b', hb', hc'⟩ := hsettled c hc (hsometimes c hc hccounts) hcalways
        have heq : b' = b := Option.some.inj (hb'.symm.trans hb)
        rw [heq] at hc'
        exact hc'.imp Eq.symm And.right
  · have hagree : ∀ c ∈ clusters, counts c = alwaysLc source length c.key := by
      intro c hc
      cases hcase : alwaysLc source length c.key with
      | true => exact halways c hc hcase
      | false =>
        rw [Bool.eq_false_iff]
        intro hcounts
        exact hdoubtful ⟨c, hc, hcounts, hcase⟩
    exact chosen?_congr hagree

/-- If the choice is the same whichever doubtful clusters are favoured, it is settled. -/
theorem settled_of_forall (ascending : clusters.Pairwise fun c d => c.key < d.key)
    (h : ∀ lc, chosen? (fun c => favouredLc lc source length c.key) clusters =
      chosen? (fun c => alwaysLc source length c.key) clusters) :
    Settled source length clusters := by
  intro d hd hsometimes hnot
  obtain ⟨b, hb⟩ :=
    exists_chosen? (fun c => alwaysLc source length c.key) (List.ne_nil_of_mem hd)
  -- Favour this one cluster and look at what is chosen then.
  have hfavoured := (h fun key => key == d.key).trans hb
  have hcounts : favouredLc (fun key => key == d.key) source length d.key = true := by
    rw [favouredLc, beq_self_eq_true, hsometimes]
    rfl
  obtain ⟨⟨hbmem, hbcounts⟩, hbest⟩ :=
    (chosen?_eq_some_iff ascending ⟨d, hd, hcounts⟩).mp hfavoured
  refine ⟨b, hb, ?_⟩
  by_cases hkey : b.key = d.key
  · exact Or.inl (eq_of_key_eq ascending hbmem hd hkey)
  · rw [favouredLc, beq_false_of_ne hkey] at hbcounts
    rcases hbest d hd hcounts with rfl | hpreferred
    · exact Or.inl rfl
    · exact Or.inr ⟨hbcounts, hpreferred⟩

end Settled

/-! ## The choice in another order -/

section Reordered

variable {source source' : List Entry} {length : Nat} {clusters clusters' : Clusters}

/-- The choice is made among the clusters whose keys count. -/
theorem Grouped.best?_eq_chosen? (h : Grouped length source clusters) :
    clusters.best? = chosen? (fun c => leadsLc source length c.key) clusters := by
  have hagree : ∀ c ∈ clusters, c.isLc = leadsLc source length c.key := by
    intro c hc
    exact h.isLc_eq hc
  exact chosen?_congr hagree

/-- The choice in another order is like the choice among the same clusters, where those count
that do so in the other order. -/
theorem Grouped.best?_alike (h : Grouped length source clusters)
    (h' : Grouped length source' clusters') (hperm : source'.Perm source) :
    Option.Rel Alike clusters'.best?
      (chosen? (fun c => leadsLc source' length c.key) clusters) := by
  rw [h'.best?_eq_chosen?]
  exact chosen?_alike (h.forall₂_alike h' fun e => hperm.mem_iff) (leadsLc source' length)

/-- Choices among the same clusters that are like a third one are equal. -/
theorem chosen?_eq_of_alike (ascending : clusters.Pairwise fun c d => c.key < d.key)
    {counts counts' : Cluster → Bool} {x : Option Cluster}
    (h : Option.Rel Alike x (chosen? counts clusters))
    (h' : Option.Rel Alike x (chosen? counts' clusters)) :
    chosen? counts clusters = chosen? counts' clusters := by
  have hkeys := (map_key_eq_of_alike h).symm.trans (map_key_eq_of_alike h')
  cases hc : chosen? counts clusters with
  | none =>
    rw [hc, Option.map_none] at hkeys
    exact (Option.map_eq_none_iff.mp hkeys.symm).symm
  | some c =>
    rw [hc, Option.map_some] at hkeys
    obtain ⟨d, hd, hkey⟩ := Option.map_eq_some_iff.mp hkeys.symm
    rw [hd, eq_of_key_eq ascending (mem_of_chosen? ascending hd) (mem_of_chosen? ascending hc) hkey]

/-- The choices in two orders are alike exactly when they are the same choice among the clusters
of one of them. -/
theorem Grouped.best?_alike_iff (h : Grouped length source clusters)
    (h' : Grouped length source' clusters') (hperm : source'.Perm source) :
    Option.Rel Alike clusters'.best? clusters.best? ↔
      chosen? (fun c => leadsLc source' length c.key) clusters = clusters.best? := by
  have halike := h.best?_alike h' hperm
  constructor
  · intro hbest
    exact chosen?_eq_of_alike h.ascending halike hbest
  · intro heq
    rw [← heq]
    exact halike

/-- What a favourable order makes of the choice. -/
theorem Grouped.chosen?_favouring (h : Grouped length source clusters) (lc : Text → Bool) :
    chosen? (fun c => leadsLc (favouring lc source length) length c.key) clusters =
      chosen? (fun c => favouredLc lc source length c.key) clusters :=
  chosen?_congr fun _ hc => leadsLc_favouring lc (h.leaders_ne_nil hc)

/-- Where the choice is settled it is the same in every order. -/
theorem Grouped.chosen?_eq_of_perm (h : Grouped length source clusters)
    (hsettled : Settled source length clusters) (hperm : source'.Perm source) :
    chosen? (fun c => leadsLc source' length c.key) clusters =
      chosen? (fun c => alwaysLc source length c.key) clusters := by
  apply chosen?_eq_of_settled h.ascending hsettled
  · intro c hc halways
    exact leadsLc_of_alwaysLc hperm (h.leaders_ne_nil hc) halways
  · intro c _ hleads
    exact sometimesLc_of_leadsLc hperm hleads

/-- Where the choice is settled the best clusters in all orders are alike. -/
theorem Grouped.best?_alike_of_settled (h : Grouped length source clusters)
    (h' : Grouped length source' clusters') (hsettled : Settled source length clusters)
    (hperm : source'.Perm source) : Option.Rel Alike clusters'.best? clusters.best? := by
  rw [h.best?_alike_iff h' hperm, h.best?_eq_chosen?, h.chosen?_eq_of_perm hsettled hperm,
    h.chosen?_eq_of_perm hsettled (.refl source)]

/-- If entries that are the same call number agree in what they count as, no cluster is
doubtful. -/
theorem settled_of_agree
    (h : ∀ a ∈ source, ∀ b ∈ source, a.same b = true → a.isLc = b.isLc) :
    Settled source length clusters := by
  intro d _ hsometimes hnot
  obtain ⟨a, ha, halc⟩ := List.any_eq_true.mp hsometimes
  have halways : alwaysLc source length d.key = true := by
    refine List.all_eq_true.mpr fun b hb => ?_
    rw [← h a (mem_leaders.mp ha).1 b (mem_leaders.mp hb).1 (same_of_mem_leaders ha hb)]
    exact halc
  rw [halways] at hnot
  contradiction

end Reordered

/-! ## All orders of a list of entries -/

section Orders

variable {entries : List Entry} {options : Options}

/-- If the best clusters in all orders are alike, the choice is settled. -/
theorem settled_of_best?_alike
    (hall : ∀ permuted : List Entry, permuted.Perm entries →
      Option.Rel Alike (ofEntries permuted options).best? (ofEntries entries options).best?) :
    Settled (entries.filter (keeps options)) options.keyLength (ofEntries entries options) := by
  have h := grouped_ofEntries entries options
  have hfavoured (lc : Text → Bool) :
      chosen? (fun c => favouredLc lc (entries.filter (keeps options)) options.keyLength c.key)
        (ofEntries entries options) = (ofEntries entries options).best? := by
    have hperm : (favouring lc entries options.keyLength).Perm entries := inFront_perm _ entries
    have h' := grouped_ofEntries (favouring lc entries options.keyLength) options
    have hsame := (h.best?_alike_iff h' (hperm.filter _)).mp (hall _ hperm)
    rw [favouring, filter_inFront, ← favouring, h.chosen?_favouring] at hsame
    exact hsame
  apply settled_of_forall h.ascending
  intro lc
  -- With no key favoured only the clusters count that always do.
  exact (hfavoured lc).trans (hfavoured fun _ => false).symm

/-- In every order the same entries give clusters that are alike: they have the same keys, and
member by member the same call numbers.  The choice is alike in every order exactly when it is
settled, which it is if entries that are the same call number agree in what they count as. -/
theorem best?_of_perm (entries : List Entry) (options : Options) :
    (∀ permuted : List Entry, permuted.Perm entries →
        List.Forall₂ Alike (ofEntries permuted options) (ofEntries entries options)) ∧
      ((∀ permuted : List Entry, permuted.Perm entries →
          Option.Rel Alike (ofEntries permuted options).best? (ofEntries entries options).best?) ↔
        Settled (kept entries options) options.keyLength (ofEntries entries options)) ∧
      ((∀ a ∈ kept entries options, ∀ b ∈ kept entries options,
          a.same b = true → a.isLc = b.isLc) →
        ∀ permuted : List Entry, permuted.Perm entries →
          Option.Rel Alike (ofEntries permuted options).best?
            (ofEntries entries options).best?) := by
  have h := grouped_ofEntries entries options
  have hsettled_alike
      (hsettled : Settled (entries.filter (keeps options)) options.keyLength
        (ofEntries entries options)) (permuted : List Entry) (hperm : permuted.Perm entries) :
      Option.Rel Alike (ofEntries permuted options).best? (ofEntries entries options).best? :=
    h.best?_alike_of_settled (grouped_ofEntries permuted options) hsettled (hperm.filter _)
  rw [← filter_keeps]
  refine ⟨?_, ⟨settled_of_best?_alike, hsettled_alike⟩, ?_⟩
  · intro permuted hperm
    exact h.forall₂_alike (grouped_ofEntries permuted options) fun e => (hperm.filter _).mem_iff
  · intro hagree
    exact hsettled_alike (settled_of_agree hagree)

end Orders

/-- A copy whose tag is in small letters, one whose tag is not, and two Dewey numbers. -/
def mixedTags : List Entry :=
  [.ofText (some "LC".toList) "QA76".toList, .ofText (some "lc".toList) "QA76".toList,
    .ofText (some "DDC".toList) "813.54 A1".toList, .ofText (some "DDC".toList) "813.54 A2".toList]

/-- The order of two copies with the same call number decides whether the record is represented
by a Library of Congress number. -/
theorem mixedTags_best? :
    mixedTags.reverse.Perm mixedTags ∧
      ¬ Option.Rel Alike (ofEntries mixedTags.reverse {}).best? (ofEntries mixedTags {}).best? := by
  have hkeys : (ofEntries mixedTags.reverse {}).best?.map Cluster.key ≠
      (ofEntries mixedTags {}).best?.map Cluster.key := by
    decide
  exact ⟨List.reverse_perm mixedTags, fun h => hkeys (map_key_eq_of_alike h)⟩

end Clusters
end Shelfmark
