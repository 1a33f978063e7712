import Shelfmark.Proofs.CallNumber.Lc.Written

/-!
# Call numbers - Reading with any spacing

A written call number reads as it does in standard spacing.  Three searches decide what
stands behind the first cutter.  Each of them asks for what follows the first cutter, with
the spaces passed over, so that their number has no part in the answer.

Where a second cutter follows directly, the text in front of a pointed cutter is empty:
either the second cutter is that pointed cutter, or there is none at all.

Main results:

- Theorem `searchFrom_standard`: a search does not depend on the spaces behind a cutter.
- Theorem `ofUpper_text_eq`: a call number with a cutter reads as its class, the cutter, and
  what the searches find behind it.
- Theorem `ofUpper_standard`: a call number reads as it does in standard spacing.
-/

namespace Shelfmark
namespace CallNumber
namespace Lc

open Text (Span leftmost? furthest?)

/-! ## The three questions -/

/-- What is asked of the text behind a gap to find what follows the first cutter. -/
def spacesBehindCutter? (t : Text) : Option Text :=
  (skipCutter? t).map skipSpaces

/-- What is asked of the text behind a gap to find the second cutter. -/
def cutterBehindCutter? (t : Text) : Option Span :=
  (skipCutter? t).bind fun s => cutterHere? (skipGap s)

/-- The search for a text in front of a pointed cutter asks no more than that it ends with one. -/
theorem textBeforePointedCutter?_eq (s : Text) :
    textBeforePointedCutter? s =
      leftmost? (behindClass? fun s => behindCutter? textToPointed? (skipGap s)) s := by
  cases hpointed : fromPointedCutter? s with
  | some t =>
    rw [textBeforePointedCutter?, hpointed]
    rfl
  | none =>
    have hnowhere := Text.leftmost?_eq_none_iff.mp hpointed
    rw [textBeforePointedCutter?, hpointed, Option.bind_none, eq_comm,
      Option.eq_none_iff_forall_ne_some]
    intro span hspan
    obtain ⟨u, hclass, hu⟩ := exists_of_leftmost_behindClass? hspan
    obtain ⟨v, hcutter, hv⟩ := exists_of_behindCutter? hu
    obtain ⟨hstart, hsuffix, hhere⟩ := exists_of_textToPointed? hv
    have hbehind : span.start <:+ v := by
      rw [hstart]
      exact List.dropWhile_suffix _
    have hplace : span.rest <:+ s :=
      hsuffix.trans (hbehind.trans (hcutter.suffix.trans ((skipGap_suffix u).trans hclass.suffix)))
    have hskip : skipSpaces span.rest = span.rest := Text.dropWhile_eq_self fun c hc => by
      rw [head_of_atPointedCutter hhere] at hc
      rw [← Option.some.inj hc]
      rfl
    have hnone := hnowhere span.rest hplace
    rw [hskip, if_pos hhere] at hnone
    exact absurd hnone (by simp)

/-! ## The text behind a last cutter -/

/-- The heads of a text that a cutter with spaces behind it begins. -/
theorem Trailer.headEnds_text {trailer : Trailer} (h : 0 < trailer.spaces) (cutter : Cutter) :
    headEnds (cutter.text ++ trailer.text) =
      wordEnds trailer.rest ++ [trailer.text] ++ headEnds trailer.rest := by
  obtain ⟨n, hn⟩ := Nat.exists_eq_succ_of_ne_zero (Nat.ne_of_gt h)
  have hspace : trailer.text.head? = some ' ' := by
    rw [text, hn, List.replicate_succ]
    rfl
  have hends : NumberEnds trailer.text := by
    rw [text, hn, List.replicate_succ]
    simp [NumberEnds, Text.dropFirst]
  have hlater : headEnds trailer.text = headEnds trailer.rest :=
    headEnds_append_of_forall _ fun c hc => (List.mem_replicate.mp hc).2 ▸ rfl
  rw [headEnds_cutter cutter hends, endsBehindNumber, if_pos hspace, trailer.skipSpaces_text, hlater]

/-- A search asks about the text behind a cutter and not about the spaces in front of it. -/
theorem searchFrom_standard {α : Type} {answer : Text → Option α} {cutter : Cutter}
    {trailer : Trailer} (h : answer (cutter.text ++ trailer.text) =
      answer (cutter.text ++ trailer.standard.text)) :
    searchFrom answer (cutter.text ++ trailer.text) =
      searchFrom answer (cutter.text ++ trailer.standard.text) := by
  rcases Nat.eq_zero_or_pos trailer.spaces with hnone | hsome
  · rw [Trailer.text_standard (by omega)]
  · have hstandard : 0 < trailer.standard.spaces := Nat.lt_min.mpr ⟨hsome, Nat.one_pos⟩
    have hgap (t : Trailer) : skipGap t.text = Text.dropFirst '.' t.rest := by
      rw [skipGap, t.skipSpaces_text]
    unfold searchFrom
    rw [h, Trailer.headEnds_text hsome, Trailer.headEnds_text hstandard]
    simp only [List.findSome?_append, List.findSome?_singleton, hgap]
    rfl

/-! ## Answers behind the spaces -/

/-- An answer behind a whole cutter is the furthest. -/
theorem Cutter.behindCutter?_text {α : Type} {answer : Text → Option α} {t : Text} {a : α}
    (cutter : Cutter) (ht : ∀ c ∈ t.head?, c.isDigit = false) (h : answer t = some a) :
    behindCutter? answer (cutter.text ++ t) = some a := by
  obtain ⟨d, s, hcons, hd⟩ := cutter.digits.exists_cons
  have hrun : ∀ c ∈ s, c.isDigit = true := fun c hc => cutter.digits.isDigit c (by simp [hcons, hc])
  rw [text, hcons, List.cons_append, List.cons_append, behindCutter?, cutter.isUpper, hd]
  exact Text.furthest?_append hrun ht h

/-- What follows the first cutter is found behind the spaces. -/
theorem spacesBehindCutter?_text (cutter : Cutter) (trailer : Trailer) :
    spacesBehindCutter? (cutter.text ++ trailer.text) = some trailer.rest := by
  rw [spacesBehindCutter?, cutter.skip trailer.head_text, Option.map_some, trailer.skipSpaces_text]

/-- A second cutter is looked for behind the spaces. -/
theorem cutterBehindCutter?_text (cutter : Cutter) (trailer : Trailer) :
    cutterBehindCutter? (cutter.text ++ trailer.text) =
      cutterHere? (Text.dropFirst '.' trailer.rest) := by
  rw [cutterBehindCutter?, cutter.skip trailer.head_text, Option.bind_some, skipGap,
    trailer.skipSpaces_text]

/-- A part that is not ended by any pointed cutter. -/
structure Endless (s : Text) : Prop where
  onLine : (partEnd s).onLine = none
  behindWords : (partEnd s).behindWords = none
  behindWordChars : (partEnd s).behindWordChars = none

/-- A part without an end has none on its line. -/
theorem onLine_of_behindWords {s : Text} (h : (partEnd s).behindWords = none) :
    (partEnd s).onLine = none := by
  cases s with
  | nil => rfl
  | cons c s =>
    rw [partEnd] at h ⊢
    exact (Option.or_eq_none_iff.mp h).2

/-- Spaces in front of a part that is not ended on its line lead to no end. -/
theorem endless_spaces {n : Nat} {s : Text} (h : (partEnd s).onLine = none) :
    Endless (List.replicate (n + 1) ' ' ++ s) := by
  have hstart : startsPlainWord ' ' = false := rfl
  have hword : isWordChar ' ' = false := rfl
  have hupper : ' '.isUpper = false := rfl
  have hpointed (t : Text) : atPointedCutter (' ' :: t) = false := rfl
  have hspace {t : Text} (ht : (partEnd t).onLine = none) : Endless (' ' :: t) := by
    constructor <;> simp [partEnd, hstart, hword, hupper, hpointed, ht]
  induction n with
  | zero => exact hspace h
  | succ n ih =>
    rw [List.replicate_succ, List.cons_append]
    exact hspace ih.onLine

/-- Digits in front of a part without an end lead to none. -/
theorem Endless.digits {digits s : Text} (h : Endless s) (hdigits : ∀ c ∈ digits, c.isDigit) :
    Endless (digits ++ s) := by
  induction digits with
  | nil => exact h
  | cons d digits ih =>
    have hrest := ih fun c hc => hdigits c (by simp [hc])
    have hd : d.isDigit = true := hdigits d (by simp)
    have hstart : startsPlainWord d = true := by simp [startsPlainWord, hd]
    have hpointed : atPointedCutter (d :: (digits ++ s)) = false := by
      rw [Bool.eq_false_iff]
      intro hpointed
      have hhead := head_of_atPointedCutter hpointed
      rw [Option.some.inj hhead] at hd
      contradiction
    constructor <;>
      simp [partEnd, hstart, hpointed, hrest.onLine, hrest.behindWordChars]

/-- A text in front of a pointed cutter is looked for behind the cutter and its spaces. -/
theorem behindCutter?_textToPointed? {trailer : Trailer} (h : 0 < trailer.spaces)
    (cutter : Cutter) :
    behindCutter? textToPointed? (cutter.text ++ trailer.text) =
      (partEnd trailer.rest).behindWords.map fun rest => ⟨trailer.rest, rest⟩ := by
  have hall : textToPointed? trailer.text =
      (partEnd trailer.rest).behindWords.map fun rest => ⟨trailer.rest, rest⟩ := by
    rw [textToPointed?, trailer.skipSpaces_text]
  rw [← hall]
  cases hanswer : textToPointed? trailer.text with
  | some span => exact cutter.behindCutter?_text trailer.head_text hanswer
  | none =>
    -- The part cannot begin with a digit of the cutter either.
    have hwords : (partEnd trailer.rest).behindWords = none := by
      rwa [hall, Option.map_eq_none_iff] at hanswer
    obtain ⟨n, hn⟩ := Nat.exists_eq_succ_of_ne_zero (Nat.ne_of_gt h)
    have hendless : Endless trailer.text := by
      rw [Trailer.text, hn]
      exact endless_spaces (onLine_of_behindWords hwords)
    obtain ⟨d, s, hcons, hd⟩ := cutter.digits.exists_cons
    rw [Cutter.text, hcons, List.cons_append, List.cons_append, behindCutter?, cutter.isUpper, hd]
    refine Text.furthest?_append_eq_none trailer.head_text fun t ht => ?_
    have hdigits : ∀ c ∈ t, c.isDigit = true := fun c hc =>
      cutter.digits.isDigit c (by rw [hcons]; exact List.mem_cons_of_mem d (ht.subset hc))
    cases t with
    | nil => exact hanswer
    | cons c t =>
      have hspaces : skipSpaces (c :: t ++ trailer.text) = c :: t ++ trailer.text :=
        Text.dropWhile_eq_self fun x hx => by
          have hc : c.isDigit = true := hdigits c (by simp)
          obtain rfl : c = x := Option.some.inj hx
          rw [beq_eq_false_iff_ne]
          rintro rfl
          exact absurd hc (by decide)
      rw [textToPointed?, hspaces, (hendless.digits hdigits).behindWords]
      rfl

/-! ## Searches in a call number -/

/-- All searches ask for a cutter. -/
theorem asksCutter_all :
    AsksCutter cutterHere? ∧ AsksCutter spacesBehindCutter? ∧ AsksCutter cutterBehindCutter? ∧
      AsksCutter (behindCutter? textToPointed?) := by
  refine ⟨fun s h => ?_, fun s h => ?_, fun s h => ?_, fun s h => ?_⟩
  · rw [cutterHere?, h, Option.map_none]
  · rw [spacesBehindCutter?, h, Option.map_none]
  · rw [cutterBehindCutter?, h, Option.bind_none]
  · unfold behindCutter?
    split
    · rename_i c d s
      refine if_neg fun hcutter => ?_
      obtain ⟨hc, hd⟩ := Bool.and_eq_true_iff.mp hcutter
      simp [skipCutter?, skipDigits?, hc, hd] at h
    · rfl

section Searches

variable (number : ClassNumber) {suffix : Option Suffix} {gap : Gap} (hapart : gap.SetsApart suffix)
  (cutter : Cutter) (t : Text)

include hapart

/-- What follows the first cutter is looked for from the cutter on. -/
theorem behindFirstCutter?_eq :
    behindFirstCutter? (number.text ++ (suffixText suffix ++ (gap.text ++ (cutter.text ++ t)))) =
      searchFrom spacesBehindCutter? (cutter.text ++ t) :=
  asksCutter_all.2.1.search_eq_searchFrom number hapart cutter t

/-- A second cutter is looked for from the first cutter on. -/
theorem secondCutter?_eq :
    secondCutter? (number.text ++ (suffixText suffix ++ (gap.text ++ (cutter.text ++ t)))) =
      searchFrom cutterBehindCutter? (cutter.text ++ t) :=
  asksCutter_all.2.2.1.search_eq_searchFrom number hapart cutter t

/-- The text in front of a pointed cutter is looked for from the first cutter on. -/
theorem textBeforePointedCutter?_eq_searchFrom :
    textBeforePointedCutter?
        (number.text ++ (suffixText suffix ++ (gap.text ++ (cutter.text ++ t)))) =
      searchFrom (behindCutter? textToPointed?) (cutter.text ++ t) := by
  rw [textBeforePointedCutter?_eq]
  exact asksCutter_all.2.2.2.search_eq_searchFrom number hapart cutter t

/-- The first cutter is the one behind the gap. -/
theorem firstCutter?_eq {t : Text} (h : ∀ c ∈ t.head?, c.isDigit = false) :
    firstCutter? (number.text ++ (suffixText suffix ++ (gap.text ++ (cutter.text ++ t)))) =
      some ⟨cutter.text ++ t, t⟩ := by
  refine (asksCutter_all.1.search_eq_searchFrom number hapart cutter t).trans ?_
  rw [searchFrom, cutterHere?, cutter.skip h]
  rfl

end Searches

/-! ## The parts -/

/-- A call number with a cutter reads as its class, the cutter, and what the searches find
behind it. -/
theorem ofUpper_text_eq (number : ClassNumber) {suffix : Option Suffix} {gap : Gap}
    (hapart : gap.SetsApart suffix) (cutter : Cutter) {t : Text}
    (h : ∀ c ∈ t.head?, c.isDigit = false) :
    let s := number.text ++ (suffixText suffix ++ (gap.text ++ (cutter.text ++ t)))
    let second := followingCutter? s (cutterSuffix? s)
    ofUpper s =
      { letters := number.letters
        classDigits := some number.digits
        classSuffix := suffix.map Suffix.word
        firstCutter := some cutter.text
        firstCutterSuffix := (cutterSuffix? s).map Prod.fst
        secondCutter := second.map Span.text
        secondCutterSuffix := second.bind fun span => span.rest.trim.nonempty? } := by
  have hleading : leadingCutter? (number.text ++ (suffixText suffix ++ (gap.text ++ (cutter.text ++ t)))) =
      some ⟨cutter.text ++ t, t⟩ := by
    rw [leadingCutter?, firstCutter?_eq number hapart cutter h]
    rfl
  have htext : Span.text ⟨cutter.text ++ t, t⟩ = cutter.text := Text.before_append _ _
  have hregion := classRegion_spaced number 0 suffix gap (cutter.text ++ t) t
  have hdigits := classDigits?_suffixText number 0 suffix
  have hsuffix := number.behindFirst?_spaced 0 (suffixText suffix)
  have hletters := number.takeWhile_spaced 0
  rw [number.spaced_zero] at hregion hdigits hsuffix hletters
  simp only [ofUpper, leadingLetters, hletters, hleading, hregion, hdigits, hsuffix,
    Option.map_some, Option.bind_some, nonempty?_trim_suffixText, htext]

/-! ## Two cutters -/

/-- In front of an unpointed text nothing but a point begins a pointed cutter. -/
theorem Unpointed.append {s t : Text} (ht : Unpointed t) (hs : '.' ∉ s) : Unpointed (s ++ t) := by
  induction s with
  | nil => exact ht
  | cons c s ih =>
    obtain ⟨hc, hs⟩ := not_or.mp (mt List.mem_cons.mpr hs)
    intro u hu
    rcases List.suffix_cons_iff.mp hu with rfl | hu
    · rw [Bool.eq_false_iff]
      intro hpointed
      exact hc (Option.some.inj (head_of_atPointedCutter hpointed)).symm
    · exact ih hs u hu

/-- Without a point there is no pointed cutter. -/
theorem unpointed_of_not_mem {s : Text} (h : '.' ∉ s) : Unpointed s := by
  have hempty : Unpointed [] := fun t ht => by
    rw [List.eq_nil_of_suffix_nil ht]
    rfl
  simpa using hempty.append h

/-- There is no point in a cutter. -/
theorem Cutter.point_not_mem (cutter : Cutter) : '.' ∉ cutter.text := by
  have hletter := (ne_of_isUpper cutter.isUpper).2
  simp [text, cutter.digits.not_mem, Ne.symm hletter]

/-- Where there is no pointed cutter no part ends at one. -/
theorem Unpointed.searchFrom_eq_none {s : Text} (h : Unpointed s) :
    searchFrom (behindCutter? textToPointed?) s = none := by
  have hnone {u : Text} (hu : u <:+ s) : behindCutter? textToPointed? u = none := by
    rw [Option.eq_none_iff_forall_ne_some]
    intro span hspan
    obtain ⟨v, hcutter, hv⟩ := exists_of_behindCutter? hspan
    obtain ⟨hstart, hsuffix, hpointed⟩ := exists_of_textToPointed? hv
    have hbehind : span.start <:+ v := hstart ▸ List.dropWhile_suffix _
    have hend := hsuffix.trans (hbehind.trans (hcutter.suffix.trans hu))
    rw [h span.rest hend] at hpointed
    contradiction
  rw [searchFrom, hnone List.suffix_rfl, Option.none_or, List.findSome?_eq_none_iff]
  exact fun u hu => hnone ((skipGap_suffix u).trans (behind_of_mem_headEnds hu).suffix)

/-- A part that begins with a pointed cutter, and no other pointed cutter follows, ends there. -/
theorem partEnd_of_unpointed {t : Text} (ht : Unpointed t) (h : atPointedCutter ('.' :: t)) :
    (partEnd ('.' :: t)).behindWords = some ('.' :: t) := by
  have hnone : (partEnd t).onLine = none := by
    rw [Option.eq_none_iff_forall_ne_some]
    intro u hu
    obtain ⟨hsuffix, hpointed⟩ := (partEnd_all t).onLine u hu
    rw [ht u hsuffix] at hpointed
    contradiction
  have hstart : startsPlainWord '.' = false := rfl
  have hupper : '.'.isUpper = false := rfl
  simp [partEnd, hstart, hupper, hnone, h]

section TwoCutters

variable (number : ClassNumber) {suffix : Option Suffix} {gap : Gap} (hapart : gap.SetsApart suffix)
  (cutter : Cutter) (gap' : Gap) (cutter' : Cutter) (trailer : Trailer)

/-- In front of a second cutter that follows the first there is no text. -/
theorem searchFrom_textToPointed? (hunpointed : Unpointed trailer.rest) :
    ∀ span ∈ searchFrom (behindCutter? textToPointed?)
      (cutter.text ++ (gap'.text ++ (cutter'.text ++ trailer.text))), span.text = [] := by
  intro span hspan
  have hspaces : '.' ∉ List.replicate trailer.spaces ' ' := by simp
  have hbehind : Unpointed (cutter'.text ++ trailer.text) :=
    (hunpointed.append hspaces).append cutter'.point_not_mem
  cases hpoint : gap'.point with
  | false =>
    have hgap : '.' ∉ gap'.text := by simp [Gap.text, Gap.pointText, hpoint]
    rw [((hbehind.append hgap).append cutter.point_not_mem).searchFrom_eq_none] at hspan
    contradiction
  | true =>
    have hstart : skipSpaces (gap'.text ++ (cutter'.text ++ trailer.text)) =
        '.' :: (cutter'.text ++ trailer.text) := by
      rw [gap'.skipSpaces_text fun x hx => (ne_of_isUpper (cutter'.head_text _ x hx)).1,
        Gap.pointText, hpoint]
      rfl
    have hpointed : atPointedCutter ('.' :: (cutter'.text ++ trailer.text)) = true := by
      rw [atPointedCutter, cutter'.skip trailer.head_text]
      rfl
    have hanswer : textToPointed? (gap'.text ++ (cutter'.text ++ trailer.text)) =
        some ⟨'.' :: (cutter'.text ++ trailer.text), '.' :: (cutter'.text ++ trailer.text)⟩ := by
      rw [textToPointed?, hstart, partEnd_of_unpointed hbehind hpointed, Option.map_some]
    have hhead := (gap'.numberEnds cutter' trailer.text).head
    rw [searchFrom, cutter.behindCutter?_text hhead hanswer, Option.some_or] at hspan
    rw [← Option.some.inj hspan]
    exact Text.before_append [] _

include hapart

/-- Between two cutters that follow each other there is no suffix. -/
theorem cutterSuffix?_twoCutters (hunpointed : Unpointed trailer.rest) :
    cutterSuffix? (number.text ++ (suffixText suffix ++ (gap.text ++
      (cutter.text ++ (gap'.text ++ (cutter'.text ++ trailer.text)))))) = none := by
  have hhead := (gap'.numberEnds cutter' trailer.text).head
  have hword : wordBehindCutter? (number.text ++ (suffixText suffix ++ (gap.text ++
      (cutter.text ++ (gap'.text ++ (cutter'.text ++ trailer.text)))))) = none := by
    rw [wordBehindCutter?, behindFirstCutter?_eq number hapart, searchFrom, spacesBehindCutter?,
      cutter.skip hhead, Option.map_some, Option.some_or, Option.bind_some,
      gap'.behindWord?_cutter, Option.map_none]
  have htext := searchFrom_textToPointed? cutter gap' cutter' trailer hunpointed
  simp only [cutterSuffix?, hword, textBeforePointedCutter?_eq_searchFrom number hapart]
  rw [Option.bind_eq_none_iff]
  intro span hspan
  rw [htext span hspan]
  rfl

/-- The second of two cutters that follow each other is found. -/
theorem secondCutter?_twoCutters :
    secondCutter? (number.text ++ (suffixText suffix ++ (gap.text ++
      (cutter.text ++ (gap'.text ++ (cutter'.text ++ trailer.text)))))) =
      some ⟨cutter'.text ++ trailer.text, trailer.text⟩ := by
  have hhead := (gap'.numberEnds cutter' trailer.text).head
  rw [secondCutter?_eq number hapart, searchFrom, cutterBehindCutter?, cutter.skip hhead,
    Option.bind_some, gap'.skip_cutter, cutterHere?, cutter'.skip trailer.head_text]
  rfl

end TwoCutters

/-! ## One cutter -/

/-- A single cutter at the end is the only part behind the class. -/
theorem ofUpper_oneCutter (number : ClassNumber) {suffix : Option Suffix} {gap : Gap}
    (hapart : gap.SetsApart suffix) (cutter : Cutter) :
    ofUpper (number.text ++ (suffixText suffix ++ (gap.text ++ (cutter.text ++ [])))) =
      { letters := number.letters
        classDigits := some number.digits
        classSuffix := suffix.map Suffix.word
        firstCutter := some cutter.text
        firstCutterSuffix := none
        secondCutter := none
        secondCutterSuffix := none } := by
  have hends : ∀ c ∈ ([] : Text).head?, c.isDigit = false := by simp
  have hnumber : NumberEnds [] := by simp [NumberEnds, Text.dropFirst]
  have hpointless : Unpointed (cutter.text ++ []) :=
    unpointed_of_not_mem (by simp [cutter.point_not_mem])
  have hword : wordBehindCutter? (number.text ++ (suffixText suffix ++ (gap.text ++
      (cutter.text ++ [])))) = none := by
    rw [wordBehindCutter?, behindFirstCutter?_eq number hapart, searchFrom, spacesBehindCutter?,
      cutter.skip hends]
    rfl
  have hsuffix : cutterSuffix? (number.text ++ (suffixText suffix ++ (gap.text ++
      (cutter.text ++ [])))) = none := by
    simp only [cutterSuffix?, hword, textBeforePointedCutter?_eq_searchFrom number hapart,
      hpointless.searchFrom_eq_none, Option.bind_none]
  have hsecond : secondCutter? (number.text ++ (suffixText suffix ++ (gap.text ++
      (cutter.text ++ [])))) = none := by
    rw [secondCutter?_eq number hapart, searchFrom, cutterBehindCutter?, cutter.skip hends,
      headEnds_cutter cutter hnumber]
    rfl
  simp only [ofUpper_text_eq number hapart cutter hends, hsuffix, followingCutter?, hsecond,
    Option.map_none, Option.bind_none]

/-! ## A suffix behind the first cutter -/

/-- A pointed cutter is found at the front, with the spaces of its gap. -/
theorem fromPointedCutter?_gap (spaces : Nat) (cutter : Cutter) (trailer : Trailer) :
    fromPointedCutter? (Gap.text ⟨spaces, true⟩ ++ (cutter.text ++ trailer.text)) =
      some (Gap.text ⟨spaces, true⟩ ++ (cutter.text ++ trailer.text)) := by
  have hskip : skipSpaces (Gap.text ⟨spaces, true⟩ ++ (cutter.text ++ trailer.text)) =
      '.' :: (cutter.text ++ trailer.text) :=
    Gap.skipSpaces_text ⟨spaces, true⟩ fun c hc => (ne_of_isUpper (cutter.head_text _ c hc)).1
  have hpointed : atPointedCutter ('.' :: (cutter.text ++ trailer.text)) = true := by
    rw [atPointedCutter, cutter.skip trailer.head_text]
    rfl
  exact Text.leftmost?_of_some (by rw [hskip, if_pos hpointed])

/-- The leftmost cutter behind a gap is the one that ends it. -/
theorem cutterIn?_gap (gap : Gap) (cutter : Cutter) (trailer : Trailer) :
    cutterIn? (gap.text ++ (cutter.text ++ trailer.text)) =
      some ⟨cutter.text ++ trailer.text, trailer.text⟩ := by
  have hnone := gap.isUpper_eq_false
  generalize gap.text = s at hnone
  induction s with
  | nil =>
    refine Text.leftmost?_of_some ?_
    rw [List.nil_append, cutterHere?, cutter.skip trailer.head_text]
    rfl
  | cons c s ih =>
    have hhere : cutterHere? (c :: (s ++ (cutter.text ++ trailer.text))) = none :=
      asksCutter_all.1 _ (skipCutter?_eq_none fun d hd => by
        rw [List.head?_cons] at hd
        exact Option.some.inj hd ▸ hnone c (by simp))
    rw [List.cons_append, cutterIn?, Text.leftmost?_of_none hhere]
    exact ih fun d hd => hnone d (by simp [hd])

section Dated

variable (number : ClassNumber) {suffix : Option Suffix} {gap : Gap} (hapart : gap.SetsApart suffix)
  (cutter : Cutter) (behind : Suffix)

include hapart

/-- A suffix behind the first cutter is the word behind it. -/
theorem wordBehindCutter?_suffix {rest : Text} (hend : ∀ c ∈ rest.head?, c = ' ' ∨ c = '.') :
    wordBehindCutter? (number.text ++ (suffixText suffix ++ (gap.text ++
      (cutter.text ++ (behind.text ++ rest))))) = some ⟨behind.word ++ rest, rest⟩ := by
  rw [wordBehindCutter?, behindFirstCutter?_eq number hapart, searchFrom, spacesBehindCutter?,
    cutter.skip (behind.head_append rest), Option.map_some, Option.some_or, Option.bind_some,
    (behind.skipSpaces_append rest).2, behind.behindWord?_append hend rfl, Option.map_some]

/-- A cutter and a suffix behind it are read. -/
theorem ofUpper_cutterSuffix :
    ofUpper (number.text ++ (suffixText suffix ++ (gap.text ++ (cutter.text ++ behind.text)))) =
      { letters := number.letters
        classDigits := some number.digits
        classSuffix := suffix.map Suffix.word
        firstCutter := some cutter.text
        firstCutterSuffix := some behind.word
        secondCutter := none
        secondCutterSuffix := none } := by
  have hsuffix : cutterSuffix? (number.text ++ (suffixText suffix ++ (gap.text ++
      (cutter.text ++ behind.text)))) = some (behind.word, []) := by
    have hend : ∀ c ∈ ([] : Text).head?, c = ' ' ∨ c = '.' := by simp
    have hword := wordBehindCutter?_suffix number hapart cutter behind hend
    rw [List.append_nil, List.append_nil] at hword
    have hword' : Text.before behind.word [] = behind.word := by
      simpa using Text.before_append behind.word []
    have hrest : fromPointedCutter? [] = none := rfl
    have hfiller : Text.trim (Text.before [] []) = [] := rfl
    simp [cutterSuffix?, hword, hrest, hfiller, Span.text, hword', behind.trim]
  have hcutter : cutterIn? [] = none := rfl
  have hhead := behind.head_append []
  rw [List.append_nil] at hhead
  simp only [ofUpper_text_eq number hapart cutter hhead, hsuffix, followingCutter?,
    hcutter, Option.map_some, Option.map_none, Option.bind_none]

/-- A cutter, a suffix and a pointed cutter are read, and the text behind them. -/
theorem ofUpper_dated (spaces : Nat) (cutter' : Cutter) (trailer : Trailer) :
    ofUpper (number.text ++ (suffixText suffix ++ (gap.text ++ (cutter.text ++ (behind.text ++
      (Gap.text ⟨spaces, true⟩ ++ (cutter'.text ++ trailer.text))))))) =
      { letters := number.letters
        classDigits := some number.digits
        classSuffix := suffix.map Suffix.word
        firstCutter := some cutter.text
        firstCutterSuffix := some behind.word
        secondCutter := some cutter'.text
        secondCutterSuffix := trailer.rest.trim.nonempty? } := by
  have hend : ∀ c ∈ (Gap.text ⟨spaces, true⟩ ++ (cutter'.text ++ trailer.text)).head?,
      c = ' ' ∨ c = '.' := by
    have hkept : Gap.SetsApart ⟨spaces, true⟩ (some behind) := fun _ => Or.inr rfl
    exact hkept.head_text _
  have hword := wordBehindCutter?_suffix number hapart cutter behind hend
  have hpointed := fromPointedCutter?_gap spaces cutter' trailer
  have hcutter := cutterIn?_gap ⟨spaces, true⟩ cutter' trailer
  have hhead := behind.head_append (Gap.text ⟨spaces, true⟩ ++ (cutter'.text ++ trailer.text))
  generalize Gap.text ⟨spaces, true⟩ ++ (cutter'.text ++ trailer.text) = rest at *
  have hword' : Text.before (behind.word ++ rest) rest = behind.word :=
    Text.before_append _ _
  have hfiller : Text.trim (Text.before rest rest) = [] := by
    have hnone := Text.before_append [] rest
    rw [List.nil_append] at hnone
    rw [hnone]
    rfl
  have hsuffix : cutterSuffix? (number.text ++ (suffixText suffix ++ (gap.text ++
      (cutter.text ++ (behind.text ++ rest))))) = some (behind.word, rest) := by
    simp only [cutterSuffix?, hword, hpointed, Option.getD_some, Span.text, hword', hfiller,
      behind.trim, List.isEmpty_nil, if_true, List.append_nil]
  have htext : Span.text ⟨cutter'.text ++ trailer.text, trailer.text⟩ = cutter'.text :=
    Text.before_append _ _
  simp only [ofUpper_text_eq number hapart cutter hhead, hsuffix, followingCutter?, hcutter,
    Option.map_some, Option.bind_some, htext, trailer.trim_text]

end Dated

/-! ## Standard spacing -/

/-- The spaces behind a last cutter have no part in any search. -/
theorem searchFrom_trailer (cutter : Cutter) (trailer : Trailer) :
    searchFrom spacesBehindCutter? (cutter.text ++ trailer.text) =
        searchFrom spacesBehindCutter? (cutter.text ++ trailer.standard.text) ∧
      searchFrom cutterBehindCutter? (cutter.text ++ trailer.text) =
        searchFrom cutterBehindCutter? (cutter.text ++ trailer.standard.text) ∧
      searchFrom (behindCutter? textToPointed?) (cutter.text ++ trailer.text) =
        searchFrom (behindCutter? textToPointed?) (cutter.text ++ trailer.standard.text) := by
  refine ⟨searchFrom_standard ?_, searchFrom_standard ?_, searchFrom_standard ?_⟩
  · rw [spacesBehindCutter?_text, spacesBehindCutter?_text]
    rfl
  · rw [cutterBehindCutter?_text, cutterBehindCutter?_text]
    rfl
  · rcases Nat.eq_zero_or_pos trailer.spaces with hnone | hsome
    · rw [Trailer.text_standard (by omega)]
    · have hstandard : 0 < trailer.standard.spaces := Nat.lt_min.mpr ⟨hsome, Nat.one_pos⟩
      rw [behindCutter?_textToPointed? hsome, behindCutter?_textToPointed? hstandard]
      rfl

section Standard

variable (number : ClassNumber) {suffix : Option Suffix} {gap : Gap} (hapart : gap.SetsApart suffix)

/-- The word of a suffix in standard spacing. -/
theorem word_standard (suffix : Option Suffix) :
    (suffix.map Suffix.standard).map Suffix.word = suffix.map Suffix.word := by
  cases suffix <;> rfl

/-- The standard gap keeps every suffix apart. -/
theorem setsApart_standard (suffix : Option Suffix) : Gap.SetsApart ⟨0, true⟩ suffix :=
  fun _ => Or.inr rfl

include hapart

/-- A call number with one cutter reads as it does in standard spacing. -/
theorem ofUpper_trailer (cutter : Cutter) (trailer : Trailer) :
    ofUpper (number.text ++ (suffixText (suffix.map Suffix.standard) ++
        (Gap.text ⟨0, true⟩ ++ (cutter.text ++ trailer.standard.text)))) =
      ofUpper (number.text ++ (suffixText suffix ++ (gap.text ++ (cutter.text ++ trailer.text)))) := by
  have hapart' := setsApart_standard (suffix.map Suffix.standard)
  obtain ⟨hspaces, hsecond, hpointed⟩ := searchFrom_trailer cutter trailer
  have hsuffix : cutterSuffix? (number.text ++ (suffixText (suffix.map Suffix.standard) ++
        (Gap.text ⟨0, true⟩ ++ (cutter.text ++ trailer.standard.text)))) =
      cutterSuffix? (number.text ++ (suffixText suffix ++
        (gap.text ++ (cutter.text ++ trailer.text)))) := by
    simp only [cutterSuffix?, wordBehindCutter?, behindFirstCutter?_eq number hapart,
      behindFirstCutter?_eq number hapart', textBeforePointedCutter?_eq_searchFrom number hapart,
      textBeforePointedCutter?_eq_searchFrom number hapart', hspaces, hpointed]
  simp only [ofUpper_text_eq number hapart cutter trailer.head_text,
    ofUpper_text_eq number hapart' cutter trailer.standard.head_text, hsuffix, followingCutter?,
    secondCutter?_eq number hapart, secondCutter?_eq number hapart', hsecond, word_standard]

/-- Two cutters that follow each other are read, and the text behind the second. -/
theorem ofUpper_twoCutters (cutter : Cutter) (gap' : Gap) (cutter' : Cutter) (trailer : Trailer)
    (hunpointed : Unpointed trailer.rest) :
    ofUpper (number.text ++ (suffixText suffix ++ (gap.text ++
      (cutter.text ++ (gap'.text ++ (cutter'.text ++ trailer.text)))))) =
      { letters := number.letters
        classDigits := some number.digits
        classSuffix := suffix.map Suffix.word
        firstCutter := some cutter.text
        firstCutterSuffix := none
        secondCutter := some cutter'.text
        secondCutterSuffix := trailer.rest.trim.nonempty? } := by
  have hhead := (gap'.numberEnds cutter' trailer.text).head
  have htext : Span.text ⟨cutter'.text ++ trailer.text, trailer.text⟩ = cutter'.text :=
    Text.before_append _ _
  simp only [ofUpper_text_eq number hapart cutter hhead,
    cutterSuffix?_twoCutters number hapart cutter gap' cutter' trailer hunpointed, followingCutter?,
    secondCutter?_twoCutters number hapart, Option.map_none, Option.map_some, Option.bind_some,
    htext, trailer.trim_text]

end Standard

/-- A call number reads as it does in standard spacing. -/
theorem ofUpper_standard (written : Written) :
    ofUpper written.standard.text = ofUpper written.text := by
  obtain ⟨number, suffix, tail, apart⟩ := written
  cases tail with
  | none =>
    have hstandard := ofUpper_suffixText number 0 (suffix.map Suffix.standard)
    rw [word_standard, ← ofUpper_suffixText number 0 suffix] at hstandard
    simpa [Written.text, Written.standard] using hstandard
  | some tail =>
    obtain ⟨gap, cutter, ending⟩ := tail
    have hapart : gap.SetsApart suffix := apart ⟨gap, cutter, ending⟩ rfl
    cases ending with
    | trailer trailer => exact ofUpper_trailer number hapart cutter trailer
    | cutter gap' cutter' trailer unpointed =>
      have hstandard := ofUpper_twoCutters number (setsApart_standard (suffix.map Suffix.standard))
        cutter ⟨0, false⟩ cutter' trailer.standard unpointed
      rw [word_standard] at hstandard
      exact hstandard.trans
        (ofUpper_twoCutters number hapart cutter gap' cutter' trailer unpointed).symm
    | dated between spaces cutter' trailer =>
      have hstandard := ofUpper_dated number (setsApart_standard (suffix.map Suffix.standard)) cutter
        between.standard 0 cutter' trailer.standard
      rw [word_standard] at hstandard
      exact hstandard.trans (ofUpper_dated number hapart cutter between spaces cutter' trailer).symm

end Lc
end CallNumber
end Shelfmark
