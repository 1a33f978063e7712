import Shelfmark.Proofs.CallNumberSet.Recognition
import Shelfmark.Proofs.Entry.Cleaning

/-!
# Call numbers of a record - The spelling that is shown

Every entry is in the normal form when it is made.  The best call number of a record is shown
after it was cleaned if it is tagged as Library of Congress, and a cleaned entry is in the normal
form unless signs that are cleaned away stood between class letters and number.

Main results:

- Theorem `cleaned_normal_iff`: when cleaned entries and the best call number are in the normal
  form.
- Theorem `hyphenatedClass_not_normal`: a hyphen behind the class letters becomes a space that is
  not closed.
-/

namespace Shelfmark
namespace CallNumberSet

open Clusters (kept)
open Entry (BreaksClass closeClassGap)

/-- A cleaned entry, made into an entry again, loses the space between class letters and number
and nothing else. -/
theorem value_ofText_cleaned (tag other : Option Text) (raw : Text) :
    (Entry.ofText other (Entry.ofText tag raw).cleaned.value).value =
      closeClassGap (Entry.ofText tag raw).cleaned.value := by
  rw [Entry.value_ofText other]
  apply Entry.normalSpelling_cleaned
  rw [Entry.value_ofText]
  exact Entry.inCapitals_normalSpelling raw

/-- A cleaned entry is in the normal form unless its class was broken. -/
theorem cleaned_eq_self_iff (tag other : Option Text) (raw : Text) :
    (Entry.ofText other (Entry.ofText tag raw).cleaned.value).value =
        (Entry.ofText tag raw).cleaned.value ↔
      ¬ BreaksClass (Entry.ofText tag raw).value := by
  have htrimmed : Text.IsTrimmed (Entry.ofText tag raw).value := by
    rw [Entry.value_ofText]
    exact Entry.isTrimmed_normalSpelling raw
  rw [value_ofText_cleaned, Entry.closeClassGap_eq_self_iff, Entry.opensGap_cleaned_iff htrimmed]

/-- An entry whose class is broken is left out where entries of no known scheme are. -/
theorem not_breaksClass_of_kept {source : List Entry} {options : Options}
    (hdrop : options.dropUnknownSchemes = true) {tag : Option Text} {raw : Text}
    (h : Entry.ofText tag raw ∈ kept source options) :
    ¬ BreaksClass (Entry.ofText tag raw).value := by
  rw [kept, if_pos hdrop] at h
  have hknown : (Entry.ofText tag raw).scheme ≠ .unknown := of_decide_eq_true (List.mem_filter.mp h).2
  intro hbreaks
  exact hknown (Entry.scheme_of_breaksClass (Entry.isNormal_normalSpelling raw) hbreaks)

/-- Cleaned entries and the normal form.  A cleaned entry that is made into an entry again stays
as it is but for the space between one to three class letters at its front and a digit, which is
left out.  There is one exactly where signs other than letters, digits and periods stood between
them, and only such signs in front; the entry is of no known scheme then.  So the best call number
of a record is in the normal form unless it is the cleaned form of such an entry, and always if
entries of no known scheme are left out. -/
theorem cleaned_normal_iff (reader : FieldReader) (options : Options) :
    (∀ (tag other : Option Text) (raw : Text),
      let entry := Entry.ofText tag raw
      let again := Entry.ofText other entry.cleaned.value
      again.value = closeClassGap entry.cleaned.value ∧
        (again.value = entry.cleaned.value ↔ ¬ BreaksClass entry.value) ∧
        (BreaksClass entry.value → entry.scheme = .unknown)) ∧
    ∀ best ∈ (ofReader reader options).best,
      ((Entry.ofText best.tag best.value).value = best.value ↔
        ∀ entry ∈ (ofReader reader options).clusters.best?.bind Cluster.first?,
          entry.isTaggedLc = true → ¬ BreaksClass entry.value) ∧
      (options.dropUnknownSchemes = true →
        (Entry.ofText best.tag best.value).value = best.value) := by
  refine ⟨fun tag other raw => ⟨value_ofText_cleaned tag other raw,
    cleaned_eq_self_iff tag other raw,
    Entry.scheme_of_breaksClass (Entry.isNormal_normalSpelling raw)⟩, fun best hbest => ?_⟩
  obtain ⟨entry, hentry, hmade⟩ := Option.map_eq_some_iff.mp hbest
  obtain ⟨hkept, tag, raw, hraw⟩ := chosen_entry hentry
  have honly (P : Entry → Prop) :
      (∀ e ∈ (ofReader reader options).clusters.best?.bind Cluster.first?, P e) ↔ P entry :=
    ⟨fun h => h entry hentry, fun h e he => Option.mem_unique hentry he ▸ h⟩
  have hiff : (Entry.ofText best.tag best.value).value = best.value ↔
      (entry.isTaggedLc = true → ¬ BreaksClass entry.value) := by
    cases htagged : entry.isTaggedLc with
    | true =>
      rw [htagged, if_pos rfl] at hmade
      rw [← hmade, hraw, cleaned_eq_self_iff]
      simp
    | false =>
      rw [htagged, if_neg Bool.false_ne_true] at hmade
      rw [← hmade, hraw, Entry.value_ofText, Entry.value_ofText]
      refine iff_of_true (Entry.normalSpelling_normalSpelling raw) ?_
      intro h
      contradiction
  constructor
  · rw [honly fun e => e.isTaggedLc = true → ¬ BreaksClass e.value]
    exact hiff
  · intro hdrop
    rw [hiff, hraw]
    rw [hraw] at hkept
    exact fun _ => not_breaksClass_of_kept hdrop hkept

/-- A record with a hyphen between class letters and number. -/
def hyphenatedClass : Record :=
  ({} : Record).withField "999wa':'".toList ["LC:PS-3511 .A3".toList]

/-- Where call numbers of no known scheme are kept, such a call number is shown with a space behind
its class letters. -/
theorem hyphenatedClass_shown :
    let options : Options := { dropUnknownSchemes := false }
    let best : Entry := ⟨some "LC".toList, "PS 3511.A3".toList⟩
    best ∈ (ofReader hyphenatedClass.reader options).best ∧
      (Entry.ofText best.tag best.value).value ≠ best.value := by
  intro options best
  have hbest : best ∈ (ofReader hyphenatedClass.reader options).best := by decide +kernel
  refine ⟨hbest, fun hsame => ?_⟩
  have hkept := ((cleaned_normal_iff hyphenatedClass.reader options).2 best hbest).1.mp hsame
    ⟨some "LC".toList, "PS-3511.A3".toList⟩ (by decide +kernel) rfl
  have hletters : ∀ c ∈ "PS".toList, c.isUpper = true := List.all_eq_true.mp (by decide)
  have hgap : ∀ c ∈ ['-'], Entry.isPlain c = false := by
    intro c hc
    rw [List.mem_singleton.mp hc]
    rfl
  exact hkept ⟨[], "PS".toList, ['-'], '3', "511.A3".toList, rfl, by simp, by decide, by decide,
    hletters, by decide, hgap, rfl⟩

/-- A hyphen behind the class letters becomes a space, and the entry is not in the normal form. -/
theorem hyphenatedClass_not_normal :
    let entry := Entry.ofText none "PS-3511".toList
    entry.cleaned.value = "PS 3511".toList ∧
      (Entry.ofText none entry.cleaned.value).value ≠ entry.cleaned.value := by
  decide +kernel

end CallNumberSet
end Shelfmark
