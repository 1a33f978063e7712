import Shelfmark.Proofs.Cluster.CommonBeginning
import Shelfmark.Proofs.Entry.Spacing
import Shelfmark.Proofs.NaturalOrder
import Shelfmark.Proofs.NaturalOrder.Sorting

/-!
# Clusters - What a summary shows of the members

A summary is the common beginning of the members' values and an item for what is left of each.
Since values have single blanks, an item leaves out one blank of its value at most, the one at
which it was parted from the beginning.  Where the values agree through a space, every member has
an item, and stands in the summary as the beginning, a space and this item, unless it has a period
in the place of the space.  Where they agree through no space they are parted wherever they stop
to agree, so that a member that is no longer than the beginning has no item.

Main results:

- Theorem `exists_gap`: what an item leaves out.
- Theorem `shows_iff`: when items show all values behind a space.
- Theorem `summary_of_members`: what the summary of two or more members consists of.
- Theorem `unspaced_not_shown`: a member without an item.
-/

namespace Shelfmark
namespace Cluster

open Character (isBlank)
open NaturalOrder (looselyEqual natural)
open Text (IsTrimmed SingleBlanks)

/-! ## Items -/

/-- What is left of a value behind a beginning of it. -/
def remainder (beginning value : Text) : Text :=
  Text.trim (value.drop beginning.length)

/-- The items are what is left of the values, unless that is empty. -/
theorem remainders_perm (beginning : Text) (values : List Text) :
    (remainders beginning values).Perm
      ((values.map (remainder beginning)).filter (!·.isEmpty)) :=
  List.mergeSort_perm _ _

/-- What is left of a trimmed value with single blanks leaves out one blank of it at most, and
nothing else. -/
theorem exists_gap {value : Text} (htrimmed : IsTrimmed value) (hsingle : SingleBlanks value)
    (beginning : Text) :
    ∃ gap : Text, gap.length ≤ 1 ∧ (∀ c ∈ gap, isBlank c = true) ∧
      value.drop beginning.length = gap ++ remainder beginning value ∧
      (remainder beginning value = [] → gap = []) := by
  have hlast : ∀ c ∈ (value.drop beginning.length).getLast?, isBlank c = false := by
    intro c hc
    rw [List.getLast?_drop] at hc
    split at hc
    · contradiction
    · exact htrimmed.last c hc
  have hrest : SingleBlanks (value.drop beginning.length) :=
    hsingle.drop _
  unfold remainder
  generalize value.drop beginning.length = rest at hlast hrest
  cases rest with
  | nil => exact ⟨[], by simp, by simp, rfl, fun _ => rfl⟩
  | cons c rest =>
    obtain ⟨hhead, -⟩ := Text.singleBlanks_cons.mp hrest
    cases hc : isBlank c with
    | false =>
      have hself : Text.trim (c :: rest) = c :: rest :=
        Text.trim_eq_self (fun d hd => Option.some.inj hd ▸ hc) hlast
      exact ⟨[], by simp, by simp, hself.symm, fun _ => rfl⟩
    | true =>
      have hne : rest ≠ [] := by
        rintro rfl
        rw [hlast c rfl] at hc
        contradiction
      have hend : ∀ d ∈ rest.getLast?, isBlank d = false := by
        rwa [List.getLast?_cons_of_ne_nil hne] at hlast
      have hself : Text.trim (c :: rest) = rest := by
        rw [Text.trim, Text.trimStart, List.dropWhile_cons_of_pos hc]
        exact Text.trim_eq_self (hhead hc) hend
      rw [hself]
      exact ⟨[c], by simp, by simpa using hc, rfl, fun hnil => absurd hnil hne⟩

/-! ## Values and their items -/

section Item

variable {beginning value : Text} (htrimmed : IsTrimmed value) (hsingle : SingleBlanks value)

include htrimmed hsingle

/-- A value that goes on behind its beginning has an item. -/
theorem remainder_ne_nil {c : Char} (hc : value[beginning.length]? = some c) :
    remainder beginning value ≠ [] := by
  obtain ⟨gap, -, -, hsplit, hnil⟩ := exists_gap htrimmed hsingle beginning
  intro hempty
  rw [hempty, hnil hempty, List.append_nil, List.drop_eq_nil_iff, ← List.getElem?_eq_none_iff]
    at hsplit
  rw [hsplit] at hc
  contradiction

/-- What shows a value behind a space is no longer than its item. -/
theorem length_le_of_shown {item : Text} (hitem : LooselyAgree (beginning ++ ' ' :: item) value) :
    item.length ≤ (remainder beginning value).length := by
  obtain ⟨gap, hgap, -, hsplit, -⟩ := exists_gap htrimmed hsingle beginning
  have hlength := hitem.length_eq
  have hparts := congrArg List.length hsplit
  rw [List.length_append, List.length_cons] at hlength
  rw [List.length_drop, List.length_append] at hparts
  omega

/-- If it is as long as the item, the value has a space behind its beginning. -/
theorem space_of_shown {item : Text} (hitem : LooselyAgree (beginning ++ ' ' :: item) value)
    (hsame : item.length = (remainder beginning value).length) :
    value[beginning.length]? = some ' ' := by
  obtain ⟨gap, hgap, hblank, hsplit, -⟩ := exists_gap htrimmed hsingle beginning
  have hone : gap.length = 1 := by
    have hlength := hitem.length_eq
    have hparts := congrArg List.length hsplit
    rw [List.length_append, List.length_cons] at hlength
    rw [List.length_drop, List.length_append] at hparts
    omega
  obtain ⟨g, rfl⟩ := List.length_eq_one_iff.mp hone
  have hg : value[beginning.length]? = some g := by
    rw [← Nat.add_zero beginning.length, ← List.getElem?_drop, hsplit]
    rfl
  obtain ⟨d, hd, hequal⟩ := hitem.exists_getElem? (n := beginning.length) (c := ' ') (by simp)
  obtain rfl : g = d := Option.some.inj (hg.symm.trans hd)
  -- The character is a blank, so it is no period.
  rcases eq_space_or_period hequal with rfl | rfl
  · exact hg
  · have hperiod := hblank '.' List.mem_cons_self
    rw [Character.isBlank_point] at hperiod
    exact absurd hperiod Bool.false_ne_true

/-- A value with a space behind its beginning is shown by its item. -/
theorem shown_of_space (hbegins : LooselyAgree beginning (value.take beginning.length))
    (hspace : value[beginning.length]? = some ' ') :
    LooselyAgree (beginning ++ ' ' :: remainder beginning value) value := by
  obtain ⟨gap, hgap, -, hsplit, -⟩ := exists_gap htrimmed hsingle beginning
  have hwhole := hbegins.append_drop
  have hhead : (value.drop beginning.length).head? = some ' ' := by
    rw [List.head?_drop, hspace]
  rw [hsplit] at hwhole hhead
  match gap, hgap with
  | [], _ =>
    have hblank := (Text.isTrimmed_trim (value.drop beginning.length)).head ' ' hhead
    rw [Character.isBlank_space] at hblank
    contradiction
  | [g], _ =>
    obtain rfl : g = ' ' := Option.some.inj hhead
    exact hwhole

end Item

/-! ## All values -/

/-- Items show values behind a common beginning: each value has an item of its own, which is not
empty, and the beginning, a space and the item agree with it at every position. -/
def Shows (beginning : Text) (items values : List Text) : Prop :=
  ∃ own : List Text, own.Perm items ∧
    List.Forall₂ (fun value item => item ≠ [] ∧ LooselyAgree (beginning ++ ' ' :: item) value)
      values own

/-- Texts that are no longer than others, one by one, are together no longer. -/
theorem length_flatten_le {α : Type} {f : α → Text} {as : List α} {bs : List Text}
    (h : List.Forall₂ (fun a b => b.length ≤ (f a).length) as bs) :
    bs.flatten.length ≤ (as.map f).flatten.length := by
  induction h with
  | nil => exact Nat.le_refl 0
  | cons hab _ ih =>
    rw [List.map_cons, List.flatten_cons, List.flatten_cons, List.length_append,
      List.length_append]
    exact Nat.add_le_add hab ih

/-- If together they are as long, each is as long as the other. -/
theorem length_eq_of_flatten {α : Type} {R : α → Text → Prop} {f : α → Text} {as : List α}
    {bs : List Text} (h : List.Forall₂ (fun a b => R a b ∧ b.length ≤ (f a).length) as bs)
    (hlength : (as.map f).flatten.length ≤ bs.flatten.length) :
    List.Forall₂ (fun a b => R a b ∧ b.length = (f a).length) as bs := by
  induction h with
  | nil => exact .nil
  | @cons a b as bs hab hrest ih =>
    have hle : bs.flatten.length ≤ (as.map f).flatten.length :=
      length_flatten_le (hrest.imp fun _ _ h => h.2)
    rw [List.map_cons, List.flatten_cons, List.flatten_cons, List.length_append,
      List.length_append] at hlength
    exact .cons ⟨hab.1, by omega⟩ (ih (by omega))

/-- The items that are not empty are together as long as what is left of all values. -/
theorem length_flatten_remainders (beginning : Text) (values : List Text) :
    (remainders beginning values).flatten.length =
      (values.map (remainder beginning)).flatten.length := by
  rw [(remainders_perm beginning values).flatten.length_eq, List.flatten_filter_not_isEmpty]

section Values

variable {beginning : Text} {values : List Text} (htrimmed : ∀ value ∈ values, IsTrimmed value)
  (hsingle : ∀ value ∈ values, SingleBlanks value)

include htrimmed hsingle

/-- Where the items show all values, each value has a space behind the beginning. -/
theorem space_of_shows (h : Shows beginning (remainders beginning values) values) :
    ∀ value ∈ values, value[beginning.length]? = some ' ' := by
  obtain ⟨own, hperm, hshown⟩ := h
  -- No item of its own is longer than what is left of its value, and together they are as long.
  have hle : List.Forall₂ (fun value item =>
      ((IsTrimmed value ∧ SingleBlanks value) ∧ LooselyAgree (beginning ++ ' ' :: item) value) ∧
        item.length ≤ (remainder beginning value).length) values own := by
    have hvalues := (List.forall₂_and_left _ _).mpr
      ⟨fun value hvalue => And.intro (htrimmed value hvalue) (hsingle value hvalue), hshown⟩
    exact hvalues.imp fun value item ⟨⟨ht, hs⟩, _, hitem⟩ =>
      ⟨⟨⟨ht, hs⟩, hitem⟩, length_le_of_shown ht hs hitem⟩
  have hlength : (values.map (remainder beginning)).flatten.length ≤ own.flatten.length := by
    rw [hperm.flatten.length_eq, length_flatten_remainders]
  have hspaces := (length_eq_of_flatten hle hlength).imp
    fun value item ⟨⟨⟨ht, hs⟩, hitem⟩, hsame⟩ =>
      And.intro (space_of_shown ht hs hitem hsame) (trivial : True)
  exact ((List.forall₂_and_left _ _).mp hspaces).1

/-- The items show all values exactly where each value has a space behind the beginning. -/
theorem shows_iff
    (hbegins : ∀ value ∈ values, LooselyAgree beginning (value.take beginning.length)) :
    Shows beginning (remainders beginning values) values ↔
      ∀ value ∈ values, value[beginning.length]? = some ' ' := by
  refine ⟨space_of_shows htrimmed hsingle, fun h => ⟨values.map (remainder beginning), ?_, ?_⟩⟩
  · have hall : (values.map (remainder beginning)).filter (!·.isEmpty) =
        values.map (remainder beginning) := by
      rw [List.filter_eq_self]
      intro item hitem
      obtain ⟨value, hvalue, rfl⟩ := List.mem_map.mp hitem
      simpa using remainder_ne_nil (htrimmed value hvalue) (hsingle value hvalue) (h value hvalue)
    have hperm := remainders_perm beginning values
    rw [hall] at hperm
    exact hperm.symm
  · refine List.forall₂_map_right_iff.mpr (List.forall₂_same.mpr fun value hvalue => ?_)
    have ht := htrimmed value hvalue
    have hs := hsingle value hvalue
    exact ⟨remainder_ne_nil ht hs (h value hvalue),
      shown_of_space ht hs (hbegins value hvalue) (h value hvalue)⟩

end Values

/-! ## The summary -/

/-- What answers for two or more values.  The answer gives the number of values if it would be too
long, or would have too many items, and otherwise lists the items behind the common beginning.

Where the values agree through a space, every value goes on with a space or a period behind the
beginning, and has an item.  Where they agree through none, the beginning is all that they agree
on. -/
structure IsSummaryOf (options : Options) (first : Text) (others : List Text)
    (answer : Option Text) : Prop where
  answer_eq :
    let beginning := commonBeginning first others
    let text := listing beginning (remainders beginning (first :: others))
    let count := (first :: others).length
    answer = some
      (if options.maxSummaryLength < text.length ∨ options.maxListedVolumes < count then
        volumeCount beginning count
      else text)
  items :
    let beginning := commonBeginning first others
    (remainders beginning (first :: others)).Perm
      (((first :: others).map (remainder beginning)).filter (!·.isEmpty))
  ascending :
    (remainders (commonBeginning first others) (first :: others)).Pairwise
      fun a b => (natural a b).isLE = true
  parts : ∀ value ∈ first :: others,
    let beginning := commonBeginning first others
    ∃ gap : Text, gap.length ≤ 1 ∧ (∀ c ∈ gap, isBlank c = true) ∧
      value.drop beginning.length = gap ++ remainder beginning value ∧
      LooselyAgree (beginning ++ (gap ++ remainder beginning value)) value ∧
      (remainder beginning value = [] ↔ value.length = beginning.length)
  spaced : ∀ n, LastSharedSpace first others n →
    commonBeginning first others = first.take n ∧
      ∀ value ∈ first :: others, (value[n]? = some ' ' ∨ value[n]? = some '.') ∧
        remainder (commonBeginning first others) value ≠ []
  unspaced : (∀ n, ¬ SharedSpace first others n) →
    commonBeginning first others <+: first ∧
      ∀ n, n ≤ (commonBeginning first others).length ↔ Shares first others n
  shows_iff :
    let beginning := commonBeginning first others
    Shows beginning (remainders beginning (first :: others)) (first :: others) ↔
      ∃ n, LastSharedSpace first others n ∧ ∀ value ∈ others, value[n]? = some ' '

/-- Two or more values are listed behind their common beginning, or else counted. -/
theorem summarize?_eq (options : Options) (first : Text) {others : List Text} (h : others ≠ []) :
    let beginning := commonBeginning first others
    let text := listing beginning (remainders beginning (first :: others))
    let count := (first :: others).length
    summarize? options (first :: others) = some
      (if options.maxSummaryLength < text.length ∨ options.maxListedVolumes < count then
        volumeCount beginning count
      else text) := by
  obtain ⟨second, rest, rfl⟩ := List.exists_cons_of_ne_nil h
  exact (apply_ite some _ _ _).symm

/-- A value is its beginning, a gap of one blank at most, and its item. -/
theorem exists_parts {beginning value : Text} (htrimmed : IsTrimmed value)
    (hsingle : SingleBlanks value)
    (hbegins : LooselyAgree beginning (value.take beginning.length)) :
    ∃ gap : Text, gap.length ≤ 1 ∧ (∀ c ∈ gap, isBlank c = true) ∧
      value.drop beginning.length = gap ++ remainder beginning value ∧
      LooselyAgree (beginning ++ (gap ++ remainder beginning value)) value ∧
      (remainder beginning value = [] ↔ value.length = beginning.length) := by
  obtain ⟨gap, hgap, hblank, hsplit, hnil⟩ := exists_gap htrimmed hsingle beginning
  have hwhole : LooselyAgree (beginning ++ (gap ++ remainder beginning value)) value :=
    hsplit ▸ hbegins.append_drop
  refine ⟨gap, hgap, hblank, hsplit, hwhole, fun hempty => ?_, fun hlength => ?_⟩
  · rw [hempty, hnil hempty, List.append_nil, List.append_nil] at hwhole
    exact hwhole.length_eq.symm
  · have hparts := hwhole.length_eq
    rw [List.length_append, List.length_append] at hparts
    exact List.length_eq_zero_iff.mp (by omega)

/-- What the summary of a cluster of two or more entries consists of.  For every member it has the
common beginning, a blank of its value or none, and an item, which together agree with the value
at every position; the blank and the item are what the value has behind the beginning.  The items
show all members behind a space exactly where the values agree through a space, and none of them
has a period in the place of the last such space. -/
theorem summary_of_members (key : Text) (first second : Entry) (rest : List Entry)
    (options : Options) (hmade : ∀ entry ∈ first :: second :: rest, entry.Made) :
    IsSummaryOf options first.value ((second :: rest).map Entry.value)
      (Cluster.summary? ⟨key, first :: second :: rest⟩ options) := by
  have hvalues : ∀ value ∈ first.value :: (second :: rest).map Entry.value,
      IsTrimmed value ∧ SingleBlanks value := by
    rw [← List.map_cons, List.forall_mem_map]
    exact fun entry hentry => ⟨(hmade entry hentry).isTrimmed, (hmade entry hentry).singleBlanks⟩
  have hne : (second :: rest).map Entry.value ≠ [] := List.cons_ne_nil _ _
  change IsSummaryOf options _ _ (summarize? options (first.value :: _))
  generalize (second :: rest).map Entry.value = others at hvalues hne
  generalize first.value = first at hvalues
  have hbegins : ∀ value ∈ first :: others, LooselyAgree (commonBeginning first others)
      (value.take (commonBeginning first others).length) :=
    fun value hvalue => looselyAgree_commonBeginning hvalue
  constructor
  · exact summarize?_eq options first hne
  · exact remainders_perm _ _
  · exact NaturalOrder.pairwise_sortBy _
  · intro value hvalue
    exact exists_parts (hvalues value hvalue).1 (hvalues value hvalue).2 (hbegins value hvalue)
  · intro n hn
    refine ⟨commonBeginning_of_lastSharedSpace hn, fun value hvalue => ?_⟩
    have hnext := hn.shared.space_or_period hvalue
    refine ⟨hnext, ?_⟩
    rw [← hn.length_eq] at hnext
    rcases hnext with hspace | hperiod
    · exact remainder_ne_nil (hvalues value hvalue).1 (hvalues value hvalue).2 hspace
    · exact remainder_ne_nil (hvalues value hvalue).1 (hvalues value hvalue).2 hperiod
  · intro hnone
    refine ⟨?_, le_length_commonBeginning_iff hnone⟩
    rw [commonBeginning_eq_take]
    exact List.take_prefix _ first
  · exact (shows_iff (fun value hvalue => (hvalues value hvalue).1)
      (fun value hvalue => (hvalues value hvalue).2) hbegins).trans spaces_iff

/-- Two copies with one call number. -/
def copies : Cluster :=
  ⟨"PS351".toList,
    [Entry.ofText (some Scheme.lc.label) "PS3511.A3 E4 1925".toList,
      Entry.ofText (some Scheme.lc.label) "PS3511.A3 E4 1925 copy 2".toList]⟩

/-- The copies are listed behind the last space through which their values agree. -/
theorem copies_summary :
    (∀ entry ∈ copies.members, entry.Made) ∧
      IsSummaryOf {} "PS3511.A3 E4 1925".toList ["PS3511.A3 E4 1925 COPY 2".toList]
        (copies.summary? {}) ∧
      commonBeginning "PS3511.A3 E4 1925".toList ["PS3511.A3 E4 1925 COPY 2".toList] =
        "PS3511.A3 E4".toList ∧
      remainders "PS3511.A3 E4".toList
          ["PS3511.A3 E4 1925".toList, "PS3511.A3 E4 1925 COPY 2".toList] =
        ["1925".toList, "1925 COPY 2".toList] := by
  have hmade : ∀ entry ∈ copies.members, entry.Made :=
    List.forall_mem_cons.mpr ⟨.ofText _ _, List.forall_mem_singleton.mpr (.ofText _ _)⟩
  have hvalues : copies.members.map Entry.value =
      ["PS3511.A3 E4 1925".toList, "PS3511.A3 E4 1925 COPY 2".toList] := by
    decide +kernel
  obtain ⟨hfirst, hsecond⟩ := List.cons.inj hvalues
  have hsummary := summary_of_members copies.key _ _ [] {} hmade
  rw [hfirst, hsecond] at hsummary
  exact ⟨hmade, hsummary, by decide +kernel, List.mergeSort_of_pairwise (by decide +kernel)⟩

/-- A call number and another one that begins with it, without spaces. -/
def unspaced : Cluster :=
  ⟨"QA76.".toList, [Entry.ofText none "QA76.73".toList, Entry.ofText none "QA76.73.B3".toList]⟩

/-- The first of these has no item in the summary, whatever is taken for their beginning. -/
theorem unspaced_not_shown :
    unspaced ∈ Clusters.ofEntries
        [Entry.ofText none "QA76.73".toList, Entry.ofText none "QA76.73.B3".toList] {} ∧
      unspaced.summary? {} = some "QA76.73 .B3".toList ∧
      ¬ ∃ (beginning : Text) (items : List Text),
        unspaced.summary? {} = some (beginning ++ ' ' :: Text.join [','] items) ∧
          Shows beginning items (unspaced.members.map Entry.value) := by
  have hsummary : unspaced.summary? {} = some "QA76.73 .B3".toList := by decide +kernel
  refine ⟨by decide +kernel, hsummary, ?_⟩
  rintro ⟨beginning, items, htext, own, hperm, hshown⟩
  -- Two items would be joined with a comma.
  have htwo : items.length = 2 := hperm.length_eq.symm.trans hshown.length_eq.symm
  obtain ⟨a, b, rfl⟩ := List.length_eq_two.mp htwo
  rw [hsummary] at htext
  have hcomma : ',' ∈ "QA76.73 .B3".toList := by
    rw [Option.some.inj htext]
    simp [Text.join, List.intercalate]
  exact absurd hcomma (by decide)

end Cluster
end Shelfmark
