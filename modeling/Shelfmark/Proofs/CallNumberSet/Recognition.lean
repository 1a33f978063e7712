import Shelfmark.Proofs.CallNumberSet.Gathering
import Shelfmark.Proofs.Cluster.Best
import Shelfmark.Proofs.Cluster.Distinct
import Shelfmark.Proofs.Entry.Recognition
import Shelfmark.Proofs.Entry.Spacing

/-!
# Call numbers of a record - Recognised schemes

An entry keeps a scheme that its call number was recognised by.  So leaving out entries of no
known scheme never leaves out what the catalogue suggests, and the best call number of a record
has the scheme of the entry that was chosen, if that has one.

Main results:

- Theorem `mem_kept_of_fallback`: a suggested call number is among the entries that are kept.
- Theorem `scheme_best`: the best call number has the scheme of the entry it is made of.
- Theorem `recognised_schemes_kept`: what becomes of recognised schemes in a record.
-/

namespace Shelfmark
namespace CallNumberSet

open Clusters (Grouped kept)

section Recognised

variable {reader : FieldReader} {options : Options}

/-- The clusters of a record are those of its kept entries. -/
theorem grouped_clusters (reader : FieldReader) (options : Options) :
    Grouped options.keyLength (kept (ofReader reader options).entries options)
      (ofReader reader options).clusters := by
  have h := Clusters.grouped_ofEntries (ofReader reader options).entries options
  rwa [Clusters.filter_keeps] at h

/-- An entry of a known scheme is kept. -/
theorem mem_kept {entries : List Entry} {entry : Entry} (hentry : entry ∈ entries)
    (h : entry.scheme ≠ .unknown) : entry ∈ kept entries options := by
  unfold kept
  split
  · exact List.mem_filter.mpr ⟨hentry, decide_eq_true h⟩
  · exact hentry

/-- Where no holding is tagged as a Library of Congress number, what the catalogue suggests is
among the entries that are kept. -/
theorem mem_kept_of_fallback (hholds : ¬ HoldsLc reader options) {value : Text}
    (hvalue : value ∈ reader.listValues options.fields.lcFallback)
    (hlc : Scheme.isLc value = true) :
    Entry.ofText (some Scheme.lc.label) value ∈
      kept (ofReader reader options).entries options := by
  have hscheme : Scheme.detect value = .lc := Scheme.detect_eq_lc_iff.mpr hlc
  refine mem_kept ?_ ?_
  · rw [entries_of_not_holdsLc hholds]
    exact List.mem_append_right _ (List.mem_map.mpr ⟨value, List.mem_filter.mpr ⟨hvalue, hlc⟩, rfl⟩)
  · rw [Entry.scheme_ofText _ (by simp [hscheme]), hscheme]
    decide

/-- The entry that is chosen is kept, and made from a call number of the record. -/
theorem chosen_entry {entry : Entry}
    (h : entry ∈ (ofReader reader options).clusters.best?.bind Cluster.first?) :
    entry ∈ kept (ofReader reader options).entries options ∧
      ∃ tag raw, entry = Entry.ofText tag raw := by
  have hgrouped := grouped_clusters reader options
  obtain ⟨cluster, hbest, hfirst⟩ := Option.bind_eq_some_iff.mp h
  have hcluster := Clusters.mem_of_chosen? hgrouped.ascending hbest
  have hkept := (hgrouped.mem_source hcluster (List.mem_of_head? hfirst)).1
  refine ⟨hkept, ?_⟩
  have hentry : entry ∈ (ofReader reader options).entries := by
    rw [← Clusters.filter_keeps] at hkept
    exact List.mem_of_mem_filter hkept
  obtain ⟨raw, -, rfl⟩ := List.mem_map.mp hentry
  exact ⟨raw.tag, raw.text, rfl⟩

/-- The best call number is made from a call number of the record. -/
theorem made_best {best : Entry} (h : best ∈ (ofReader reader options).best) : best.Made := by
  obtain ⟨entry, hentry, rfl⟩ := Option.map_eq_some_iff.mp h
  obtain ⟨-, tag, raw, rfl⟩ := chosen_entry hentry
  split
  · exact .cleaned (.ofText tag raw)
  · exact .ofText tag raw

/-- The best call number has the scheme of the entry it is made of, if that has one. -/
theorem scheme_best {entry : Entry}
    (h : entry ∈ (ofReader reader options).clusters.best?.bind Cluster.first?)
    (hknown : entry.scheme ≠ .unknown) :
    (ofReader reader options).best.map Entry.scheme = some entry.scheme := by
  obtain ⟨-, tag, raw, hmade⟩ := chosen_entry h
  have hbest : (ofReader reader options).best =
      some (if entry.isTaggedLc then entry.cleaned else entry) :=
    congrArg (Option.map _) (Option.mem_def.mp h)
  rw [hbest, Option.map_some]
  split
  · rw [hmade] at hknown ⊢
    rw [Entry.scheme_cleaned_ofText tag hknown]
  · rfl

end Recognised

/-- Recognised schemes are kept.  A call number that is recognised keeps its scheme as an entry
and as a cleaned entry, with any tag.  So what the catalogue suggests is kept where entries of no
known scheme are left out, and stands in a cluster; the best call number, cleaned or not, has the
scheme of the entry it is made of, if that has one; and it has one wherever entries without are
left out. -/
theorem recognised_schemes_kept (reader : FieldReader) (options : Options) :
    let set := ofReader reader options
    (∀ (tag : Option Text) (raw : Text), Scheme.detect raw ≠ .unknown →
        (Entry.ofText tag raw).scheme = Scheme.detect raw ∧
          (Entry.ofText tag raw).cleaned.scheme = Scheme.detect raw) ∧
      (¬ HoldsLc reader options → ∀ value ∈ reader.listValues options.fields.lcFallback,
        Scheme.isLc value = true →
          Entry.ofText (some Scheme.lc.label) value ∈ kept set.entries options ∧
            ∃ m ∈ set.clusters.entries,
              (Entry.ofText (some Scheme.lc.label) value).same m = true) ∧
      (∀ entry ∈ set.clusters.best?.bind Cluster.first?, entry.scheme ≠ .unknown →
        set.best.map Entry.scheme = some entry.scheme) ∧
      (options.dropUnknownSchemes = true → ∀ best ∈ set.best, best.scheme ≠ .unknown) := by
  intro set
  refine ⟨fun tag raw h => ?_, fun hholds value hvalue hlc => ?_, fun entry => scheme_best, ?_⟩
  · have hscheme := Entry.scheme_ofText tag h
    refine ⟨hscheme, ?_⟩
    rw [Entry.scheme_cleaned_ofText tag (by rwa [hscheme]), hscheme]
  · have hkept := mem_kept_of_fallback hholds hvalue hlc
    obtain ⟨m, hm, hsame, -⟩ := (grouped_clusters reader options).exists_same hkept
    exact ⟨hkept, m, hm, hsame⟩
  · intro hdrop best hbest
    obtain ⟨entry, hentry, -⟩ := Option.map_eq_some_iff.mp hbest
    have hkept := (chosen_entry hentry).1
    rw [kept, if_pos hdrop] at hkept
    have hknown : entry.scheme ≠ .unknown := of_decide_eq_true (List.mem_filter.mp hkept).2
    have hscheme := scheme_best hentry hknown
    rw [Option.mem_def.mp hbest, Option.map_some] at hscheme
    rwa [Option.some.inj hscheme]

end CallNumberSet
end Shelfmark
