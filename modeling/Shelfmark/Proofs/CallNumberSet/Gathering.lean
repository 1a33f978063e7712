import Shelfmark.CallNumberSet
import Shelfmark.Proofs.Cluster.Growth
import Shelfmark.Proofs.Text.Separator

/-!
# Call numbers of a record - What is gathered

A record's holdings are numbered from zero, and what the catalogue suggests is numbered on from
there.  It is consulted only if none of the holdings is tagged as a Library of Congress number,
and a scheme name that stands for that scheme is as good as its own name.

Main results:

- Theorem `holding?_eq_some_iff`: a holdings value is divided at its first colon.
- Theorem `any_isTaggedLc_iff`: when a holding is tagged as a Library of Congress number.
- Theorem `ordinal_eq_of_readAll`: call numbers are numbered by position.
- Theorem `ofReader_gathered`: what a record has gathered, however its fields are read.
-/

namespace Shelfmark

namespace CallNumberSet

/-! ## Holdings -/

/-- A holdings value names a scheme and a call number with a colon between them. -/
theorem holding?_eq_some_iff {options : Options} {value scheme number : Text} :
    holding? options value = some (scheme, number) ↔
      ∃ name written : Text, value = name ++ ':' :: written ∧ ':' ∉ name ∧
        name.trim ≠ [] ∧ written.trim ≠ [] ∧
        options.resolveScheme name.trim = scheme ∧ written.trim = number := by
  simp only [holding?, Option.bind_eq_some_iff, Prod.exists, Text.cut?_eq_some_iff]
  constructor
  · rintro ⟨name, written, ⟨hvalue, hnot⟩, h⟩
    split at h
    · contradiction
    · rename_i hne
      simp only [Bool.or_eq_true, List.isEmpty_iff, not_or] at hne
      obtain ⟨hscheme, hnumber⟩ := Prod.mk.inj (Option.some.inj h)
      exact ⟨name, written, hvalue, hnot, hne.1, hne.2, hscheme, hnumber⟩
  · rintro ⟨name, written, hvalue, hnot, hname, hwritten, rfl, rfl⟩
    refine ⟨name, written, ⟨hvalue, hnot⟩, ?_⟩
    rw [if_neg (by simp [hname, hwritten])]

/-- Some holdings value names, before its first colon, a scheme that stands for the Library of
Congress, and has a call number behind it. -/
def HoldsLc (reader : FieldReader) (options : Options) : Prop :=
  ∃ value ∈ reader.listValues options.fields.holdings, ∃ name written : Text,
    value = name ++ ':' :: written ∧ ':' ∉ name ∧ name.trim ≠ [] ∧ written.trim ≠ [] ∧
      options.resolveScheme name.trim = Scheme.lc.label

/-- A call number with a scheme name is tagged as a Library of Congress number if that is its
name. -/
theorem isTaggedLc_ofText {scheme text : Text} :
    (Entry.ofText (some scheme) text).isTaggedLc = true ↔ scheme = Scheme.lc.label := by
  rw [Entry.isTaggedLc, beq_iff_eq, Entry.ofText, Entry.withValue, Option.bind_some,
    Text.nonempty?]
  split
  · rename_i hempty
    rw [List.isEmpty_iff.mp hempty]
    exact iff_of_false (Option.some_ne_none _).symm (by decide)
  · exact Option.some_inj

/-- Numbering does not matter for what does not look at the numbers. -/
theorem map_mapIdx_eq_map {α β γ : Type} {f : Nat → α → β} {g : β → γ} {k : α → γ}
    (h : ∀ i a, g (f i a) = k a) (l : List α) : (l.mapIdx f).map g = l.map k := by
  refine List.ext_getElem? fun i => ?_
  rw [List.getElem?_map, List.getElem?_mapIdx, List.getElem?_map, Option.map_map]
  exact congrFun (congrArg Option.map (funext (h i))) _

/-- The entries of the holdings, without their numbers. -/
theorem map_ofRaw_readHoldings (reader : FieldReader) (options : Options) :
    (readHoldings reader options).map Entry.ofRaw =
      ((reader.listValues options.fields.holdings).filterMap (holding? options)).eraseDups.map
        fun holding => Entry.ofText (some holding.1) holding.2 := by
  rw [readHoldings]
  apply map_mapIdx_eq_map
  intro i holding
  rfl

/-- The entries that the catalogue suggests, without their numbers. -/
theorem map_ofRaw_readFallback (reader : FieldReader) (options : Options) (first : Nat) :
    (readFallback reader options first).map Entry.ofRaw =
      ((reader.listValues options.fields.lcFallback).filter Scheme.isLc).map
        fun value => ⟨some Scheme.lc.label, Entry.normalSpelling value⟩ := by
  rw [readFallback]
  apply map_mapIdx_eq_map
  intro i value
  rfl

/-- A holding is tagged as a Library of Congress number exactly when some holdings value says
so. -/
theorem any_isTaggedLc_iff {reader : FieldReader} {options : Options} :
    ((readHoldings reader options).map Entry.ofRaw).any Entry.isTaggedLc = true ↔
      HoldsLc reader options := by
  rw [map_ofRaw_readHoldings, List.any_map, List.any_eq_true]
  constructor
  · rintro ⟨⟨scheme, number⟩, hholding, htagged⟩
    rw [List.mem_eraseDups, List.mem_filterMap] at hholding
    obtain ⟨value, hvalue, hread⟩ := hholding
    obtain ⟨name, written, hsplit, hcolon, hname, hwritten, hscheme, -⟩ :=
      holding?_eq_some_iff.mp hread
    have hlabel : scheme = Scheme.lc.label := isTaggedLc_ofText.mp htagged
    exact ⟨value, hvalue, name, written, hsplit, hcolon, hname, hwritten, hscheme.trans hlabel⟩
  · rintro ⟨value, hvalue, name, written, hsplit, hcolon, hname, hwritten, hlabel⟩
    refine ⟨(Scheme.lc.label, written.trim), ?_, isTaggedLc_ofText.mpr rfl⟩
    rw [List.mem_eraseDups, List.mem_filterMap]
    exact ⟨value, hvalue, holding?_eq_some_iff.mpr
      ⟨name, written, hsplit, hcolon, hname, hwritten, hlabel, rfl⟩⟩

/-! ## Numbering -/

/-- Call numbers are numbered by position. -/
theorem ordinal_eq_of_readAll (reader : FieldReader) (options : Options) (i : Nat)
    (raw : RawCallNumber) (h : (readAll reader options)[i]? = some raw) : raw.ordinal = i := by
  have hholdings (hraw : (readHoldings reader options)[i]? = some raw) : raw.ordinal = i := by
    rw [readHoldings, List.getElem?_mapIdx, Option.map_eq_some_iff] at hraw
    obtain ⟨holding, -, rfl⟩ := hraw
    rfl
  rw [readAll] at h
  split at h
  · exact hholdings h
  · rcases Nat.lt_or_ge i (readHoldings reader options).length with hlt | hge
    · rw [List.getElem?_append_left hlt] at h
      exact hholdings h
    · rw [List.getElem?_append_right hge, readFallback, List.getElem?_mapIdx,
        Option.map_eq_some_iff] at h
      obtain ⟨value, -, rfl⟩ := h
      exact Nat.add_sub_cancel' hge

/-! ## The gathered call numbers -/

section Gathered

variable {reader : FieldReader} {options : Options}

/-- With a tagged holding the entries are those of the holdings. -/
theorem entries_of_holdsLc (h : HoldsLc reader options) :
    (ofReader reader options).entries = (ofReader reader options).holdings := by
  rw [ofReader, readAll, if_pos (any_isTaggedLc_iff.mpr h)]

/-- Without one the catalogue's call numbers follow that are shaped like one. -/
theorem entries_of_not_holdsLc (h : ¬ HoldsLc reader options) :
    (ofReader reader options).entries = (ofReader reader options).holdings ++
      ((reader.listValues options.fields.lcFallback).filter Scheme.isLc).map fun value =>
        ⟨some Scheme.lc.label, Entry.normalSpelling value⟩ := by
  rw [ofReader, readAll, if_neg (fun htagged => h (any_isTaggedLc_iff.mp htagged))]
  dsimp only
  rw [List.map_append, map_ofRaw_readFallback]

/-- The entries of the holdings come first. -/
theorem holdings_prefix_entries (reader : FieldReader) (options : Options) :
    (ofReader reader options).holdings <+: (ofReader reader options).entries := by
  by_cases h : HoldsLc reader options
  · rw [entries_of_holdsLc h]
  · rw [entries_of_not_holdsLc h]
    exact List.prefix_append _ _

end Gathered

/-- What a record has gathered.  Its call numbers are numbered by position, and the entries are
made of them one by one, those of the holdings first.  If a holding is tagged as a Library of
Congress number, as it is if its scheme name stands for that scheme, there are no others;
otherwise there follow the call numbers of the catalogue that are shaped like one, with the tag.
Every cluster of the holdings remains within a cluster of all entries. -/
theorem ofReader_gathered (reader : FieldReader) (options : Options) :
    let set := ofReader reader options
    (∀ (i : Nat) (raw : RawCallNumber), set.raw[i]? = some raw → raw.ordinal = i) ∧
      set.entries = set.raw.map Entry.ofRaw ∧
      set.holdings <+: set.entries ∧
      ((∃ e ∈ set.holdings, e.tag = some Scheme.lc.label) ↔ HoldsLc reader options) ∧
      (HoldsLc reader options → set.entries = set.holdings) ∧
      (¬ HoldsLc reader options → set.entries = set.holdings ++
        ((reader.listValues options.fields.lcFallback).filter Scheme.isLc).map fun value =>
          ⟨some Scheme.lc.label, Entry.normalSpelling value⟩) ∧
      ∀ c ∈ set.holdingsClusters, ∃ d ∈ set.clusters,
        d.key = c.key ∧ c.members.Sublist d.members := by
  intro set
  have hstart : set.holdings <+: set.entries := holdings_prefix_entries reader options
  have htagged : (∃ e ∈ set.holdings, e.tag = some Scheme.lc.label) ↔ HoldsLc reader options := by
    rw [← any_isTaggedLc_iff, List.any_eq_true]
    simp only [Entry.isTaggedLc, beq_iff_eq]
    rfl
  refine ⟨ordinal_eq_of_readAll reader options, rfl, hstart, htagged, entries_of_holdsLc,
    entries_of_not_holdsLc, ?_⟩
  intro c hc
  exact Clusters.exists_sublist_of_isPrefix options hstart hc

end CallNumberSet
end Shelfmark
