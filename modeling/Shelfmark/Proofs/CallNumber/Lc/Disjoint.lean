import Shelfmark.CallNumber.Lc
import Shelfmark.Proofs.CallNumber.Lc.FirstCutter
import Shelfmark.Proofs.Text.Trim

/-!
# Call numbers - Parts that do not overlap

The parts of a call number stand one behind the other: the class in front of the first
cutter, its suffix between the cutters, and the suffix of the second one behind it.  This
holds as long as the first cutter cannot be mistaken.  A word behind the class number that
contains a cutter can hide it from the search for the first cutter while the search for
the second one finds it, and then a cutter is read twice.

Main results:

- Theorem `exists_of_cutterSuffix?`: the suffix of the first cutter is taken from the text
  behind it.
- Theorem `parse_disjoint`: the parts that are read stand one behind the other.
- Theorem `hiddenCutter_not_disjoint`: behind a word with a cutter they need not.
-/

namespace Shelfmark
namespace CallNumber
namespace Lc

open Text (Span)

/-! ## The suffix of the first cutter -/

/-- A text taken from `v`: a piece of it, or two pieces in their order with a space between. -/
def TakenFrom (v t : Text) : Prop :=
  t <:+: v ∨ ∃ x y, t = x ++ ' ' :: y ∧ ∃ a b c, v = a ++ x ++ b ++ y ++ c

/-- A call number whose first cutter cannot be mistaken: a word directly follows it, or its class
number is the only joint in front of it and the call number stands on one line. -/
def HasPlainHead (s : Text) : Prop :=
  (wordBehindCutter? s).isSome ∨
    '\n' ∉ s ∧ ∀ first ∈ firstCutter? s, joints (s.before first.start) ≤ 1

section Suffix

variable {s : Text} {first : Span} {suffix rest : Text}

/-- Two pieces that stand one behind the other, trimmed and joined by a space. -/
theorem takenFrom_join (a x b y : Text) :
    TakenFrom (a ++ x ++ b ++ y)
      (x.trim ++ if b.trim.isEmpty then [] else ' ' :: b.trim) := by
  obtain ⟨x₁, x₂, hx⟩ := Text.trim_isInfix x
  obtain ⟨b₁, b₂, hb⟩ := Text.trim_isInfix b
  have hpieces : a ++ x ++ b ++ y =
      a ++ (x₁ ++ x.trim ++ x₂) ++ (b₁ ++ b.trim ++ b₂) ++ y := by rw [hx, hb]
  rw [hpieces]
  split
  · refine Or.inl ⟨a ++ x₁, x₂ ++ (b₁ ++ b.trim ++ b₂) ++ y, ?_⟩
    simp only [List.append_assoc, List.append_nil]
  · refine Or.inr ⟨x.trim, b.trim, rfl, a ++ x₁, x₂ ++ b₁, b₂ ++ y, ?_⟩
    simp only [List.append_assoc]

/-- A word directly behind the cutter is continued up to a pointed cutter or to the end. -/
theorem cutterSuffix?_of_word {word : Span} (h : wordBehindCutter? s = some word) :
    ∃ rest, rest <:+ word.rest ∧ (rest = [] ∨ atPointedCutter (skipSpaces rest) = true) ∧
      cutterSuffix? s = some (word.text.trim ++
        (if (word.rest.before rest).trim.isEmpty then []
          else ' ' :: (word.rest.before rest).trim), rest) := by
  have hrest : (fromPointedCutter? word.rest).getD [] <:+ word.rest ∧
      ((fromPointedCutter? word.rest).getD [] = [] ∨
        atPointedCutter (skipSpaces ((fromPointedCutter? word.rest).getD [])) = true) := by
    cases hpointed : fromPointedCutter? word.rest with
    | none => exact ⟨List.nil_suffix, Or.inl rfl⟩
    | some t => exact (of_fromPointedCutter? hpointed).imp_right Or.inr
  exact ⟨_, hrest.1, hrest.2, by rw [cutterSuffix?, h]⟩

/-- Without a word behind the cutter, the suffix is the text in front of a pointed cutter. -/
theorem cutterSuffix?_of_no_word (h : wordBehindCutter? s = none) :
    cutterSuffix? s = some (suffix, rest) ↔
      ∃ span, textBeforePointedCutter? s = some span ∧ span.text.trim ≠ [] ∧
        suffix = span.text.trim ∧ rest = span.rest := by
  rw [cutterSuffix?, h]
  simp only [Option.bind_eq_some_iff, Option.map_eq_some_iff, Prod.mk.injEq]
  constructor
  · rintro ⟨span, hspan, text, htext, rfl, rfl⟩
    obtain ⟨hsame, hne⟩ := Text.ne_nil_of_nonempty? htext
    exact ⟨span, hspan, hsame ▸ hne, hsame.symm, rfl⟩
  · rintro ⟨span, hspan, hne, rfl, rfl⟩
    exact ⟨span, hspan, span.text.trim, Text.nonempty?_of_ne_nil hne, rfl, rfl⟩

/-- Without a word behind the cutter, a plain head is one on one line with one joint. -/
theorem HasPlainHead.of_no_word (hplain : HasPlainHead s) (h : wordBehindCutter? s = none) :
    '\n' ∉ s ∧ ∀ first ∈ firstCutter? s, joints (s.before first.start) ≤ 1 :=
  hplain.resolve_left (by simp [h])

/-- The suffix of the first cutter is taken from the text between that cutter and where the
search for the next one begins. -/
theorem exists_of_cutterSuffix? (hplain : HasPlainHead s) (hfirst : firstCutter? s = some first)
    (h : cutterSuffix? s = some (suffix, rest)) :
    rest <:+ first.rest ∧ ∀ y t, rest = y ++ t → TakenFrom (first.rest.before t) suffix := by
  cases hword : wordBehindCutter? s with
  | some word =>
    obtain ⟨⟨a, ha⟩, hrest⟩ := start_suffix_of_wordBehindCutter? hfirst hword
    obtain ⟨found, hend, -, hsuffix⟩ := cutterSuffix?_of_word hword
    rw [hsuffix] at h
    obtain ⟨rfl, rfl⟩ := Prod.mk.inj (Option.some.inj h)
    refine ⟨(hend.trans hrest).trans ⟨a, ha⟩, fun y t hyt => ?_⟩
    have hwhole : first.rest = a ++ word.text ++ word.rest.before found ++ y ++ t := by
      rw [← ha, ← Text.Span.text_append_rest hrest, List.append_assoc _ y t, ← hyt,
        List.append_assoc _ _ found, Text.before_append_self hend, List.append_assoc]
    rw [hwhole, Text.before_append]
    exact takenFrom_join a word.text (word.rest.before found) y
  | none =>
    obtain ⟨span, hspan, -, rfl, rfl⟩ := (cutterSuffix?_of_no_word hword).mp h
    obtain ⟨hline, hjoints⟩ := hplain.of_no_word hword
    obtain ⟨⟨a, ha⟩, hrest⟩ :=
      start_suffix_of_textBeforePointedCutter? hfirst (hjoints first hfirst) hline hspan
    refine ⟨hrest.trans ⟨a, ha⟩, fun y t hyt => Or.inl ?_⟩
    have hwhole : first.rest = a ++ span.text ++ y ++ t := by
      rw [← ha, ← Text.Span.text_append_rest hrest, hyt]
      simp
    rw [hwhole, Text.before_append]
    exact (Text.trim_isInfix span.text).trans ⟨a, y, rfl⟩

end Suffix

/-! ## The second cutter -/

section Second

variable {s : Text} {first second : Span}

/-- The leftmost cutter is one. -/
theorem exists_of_cutterIn? (h : cutterIn? s = some second) :
    second.start <:+ s ∧ skipCutter? second.start = some second.rest := by
  obtain ⟨t, ht, hhere⟩ := Text.exists_of_leftmost? h
  obtain ⟨rest, hrest, rfl⟩ := Option.map_eq_some_iff.mp hhere
  exact ⟨ht, hrest⟩

/-- The second cutter lies behind the first, and the suffix of the first between them. -/
theorem exists_of_followingCutter? (hplain : HasPlainHead s) (hfirst : firstCutter? s = some first)
    (h : followingCutter? s (cutterSuffix? s) = some second) :
    second.start <:+ first.rest ∧ skipCutter? second.start = some second.rest ∧
      ∀ suffix ∈ (cutterSuffix? s).map Prod.fst,
        TakenFrom (first.rest.before second.start) suffix := by
  cases hsuffix : cutterSuffix? s with
  | none =>
    rw [hsuffix] at h
    have hword : wordBehindCutter? s = none := by
      rw [Option.eq_none_iff_forall_ne_some]
      intro word hword
      obtain ⟨rest, -, -, hsome⟩ := cutterSuffix?_of_word hword
      rw [hsuffix] at hsome
      contradiction
    have hjoints := (hplain.of_no_word hword).2 first hfirst
    obtain ⟨hstart, hcutter⟩ := start_suffix_of_secondCutter? hfirst hjoints h
    exact ⟨hstart, hcutter, by simp⟩
  | some found =>
    obtain ⟨suffix, rest⟩ := found
    rw [hsuffix] at h
    obtain ⟨hrest, htaken⟩ := exists_of_cutterSuffix? hplain hfirst hsuffix
    obtain ⟨⟨y, hy⟩, hcutter⟩ := exists_of_cutterIn? h
    refine ⟨⟨_, Text.before_append_self ((List.suffix_append y _).trans (hy ▸ hrest))⟩, hcutter, ?_⟩
    intro t ht
    obtain rfl : suffix = t := by simpa using ht
    exact htaken y second.start hy.symm

end Second

/-! ## The class number -/

/-- The class number is a piece of the text that describes the class. -/
theorem classDigits?_isInfix {region digits : Text} (h : classDigits? region = some digits) :
    digits <:+: region := by
  unfold classDigits? Text.nonempty? at h
  dsimp only at h
  split at h
  · contradiction
  · obtain rfl := Option.some.inj h
    exact ((Text.trim_isInfix _).trans (List.takeWhile_prefix _).isInfix).trans
      ((List.dropWhile_suffix _).trans (List.dropWhile_suffix _)).isInfix

/-- The text that describes the class is a piece of what stands in front of the first cutter. -/
theorem classRegion_isInfix (s : Text) (cutter : Span) :
    classRegion s (some cutter) <:+: s.before cutter.start := by
  refine (Text.trim_isInfix _).trans (List.IsInfix.trans ?_ (Text.trim_isInfix _))
  unfold Text.dropLast?
  split
  · exact (List.dropLast_prefix _).isInfix
  · exact List.infix_rfl

/-! ## The parts of a call number -/

/-- Without a first cutter behind a head there is no text behind one either. -/
theorem cutterSuffix?_eq_none {s : Text} (h : firstCutter? s = none) : cutterSuffix? s = none := by
  have hhead (t : Text) (ht : t ∈ headEnds s) : skipCutter? (skipGap t) = none := by
    by_contra hne
    have hsome := firstCutter?_isSome ht (Option.isSome_iff_ne_none.mpr hne)
    rw [h] at hsome
    contradiction
  have hword : wordBehindCutter? s = none := by
    rw [wordBehindCutter?, behindFirstCutter?_eq_map, h]
    rfl
  have htext : textBeforePointedCutter? s = none := by
    rw [Option.eq_none_iff_forall_ne_some]
    intro span hspan
    obtain ⟨-, -, hspan⟩ := Option.bind_eq_some_iff.mp hspan
    obtain ⟨t, ht, hcutter⟩ := exists_mem_headEnds hspan
    have hnone := hhead t ht
    unfold behindCutter? at hcutter
    split at hcutter
    · rename_i c d u heq
      split at hcutter
      · rename_i hboth
        simp only [Bool.and_eq_true] at hboth
        simp [heq, skipCutter?, skipDigits?, hboth] at hnone
      · contradiction
    · contradiction
  simp only [cutterSuffix?, hword, htext, Option.bind_none]

/-- Without a first cutter behind a head no second one follows. -/
theorem secondCutter?_eq_none {s : Text} (h : firstCutter? s = none) : secondCutter? s = none := by
  rw [Option.eq_none_iff_forall_ne_some]
  intro span hspan
  obtain ⟨t, ht, hbehind⟩ := exists_mem_headEnds hspan
  obtain ⟨u, hu, -⟩ := Option.bind_eq_some_iff.mp hbehind
  have hsome := firstCutter?_isSome ht (hu ▸ Option.isSome_some)
  rw [h] at hsome
  contradiction

/-- What stands behind the class number is a piece of the text that describes the class. -/
theorem behindFirst?_suffix {part region rest : Text} (h : behindFirst? part region = some rest) :
    rest <:+ region := by
  obtain ⟨t, ht, hhere⟩ := Text.exists_of_leftmost? h
  split at hhere
  · exact Option.some.inj hhere ▸ (List.drop_suffix _ _).trans ht
  · contradiction

/-- The parts of a call number with two cutters stand one behind the other, if its first cutter
cannot be mistaken: class number and class suffix in front of the first cutter, the suffix of
the first cutter between the cutters, and that of the second behind it. -/
theorem parse_disjoint (raw : Text) {first second : Text}
    (hfirst : (parse raw).firstCutter = some first)
    (hsecond : (parse raw).secondCutter = some second) (hplain : HasPlainHead raw.trim.upper) :
    ∃ u v w, raw.trim.upper = u ++ first ++ v ++ second ++ w ∧
      (∀ digits ∈ (parse raw).classDigits, digits <:+: u) ∧
      (∀ suffix ∈ (parse raw).classSuffix, suffix <:+: u) ∧
      (∀ suffix ∈ (parse raw).firstCutterSuffix, TakenFrom v suffix) ∧
      (parse raw).secondCutterSuffix = w.trim.nonempty? := by
  unfold parse at *
  generalize raw.trim.upper = s at *
  obtain ⟨firstSpan, hleading, rfl⟩ := Option.map_eq_some_iff.mp hfirst
  have hfollows : (leadingCutter? s).bind (fun _ => followingCutter? s (cutterSuffix? s)) =
      followingCutter? s (cutterSuffix? s) := by rw [hleading, Option.bind_some]
  have hsuffix : (leadingCutter? s).bind (fun _ => cutterSuffix? s) = cutterSuffix? s := by
    rw [hleading, Option.bind_some]
  simp only [ofUpper, hsuffix, hfollows] at hsecond ⊢
  obtain ⟨secondSpan, hfollowing, rfl⟩ := Option.map_eq_some_iff.mp hsecond
  -- A makeshift cutter is followed by no other.
  have hfound : firstCutter? s = some firstSpan := by
    cases hcutter : firstCutter? s with
    | some cutter =>
      rw [leadingCutter?, hcutter, Option.some_or] at hleading
      exact hleading
    | none =>
      rw [cutterSuffix?_eq_none hcutter] at hfollowing
      have hnone := secondCutter?_eq_none hcutter
      rw [followingCutter?, hnone] at hfollowing
      contradiction
  obtain ⟨hstart, hcutter⟩ := exists_of_firstCutter? hfound
  obtain ⟨hsecondStart, hsecondCutter, htaken⟩ :=
    exists_of_followingCutter? hplain hfound hfollowing
  have hfirstRest := (behind_of_skipCutter? hcutter).suffix
  have hsecondRest := (behind_of_skipCutter? hsecondCutter).suffix
  refine ⟨s.before firstSpan.start, firstSpan.rest.before secondSpan.start, secondSpan.rest,
    ?_, ?_, ?_, htaken, ?_⟩
  · rw [List.append_assoc _ secondSpan.text, Text.Span.text_append_rest hsecondRest,
      List.append_assoc _ _ secondSpan.start, Text.before_append_self hsecondStart,
      List.append_assoc, Text.Span.text_append_rest hfirstRest, Text.before_append_self hstart]
  · intro digits hdigits
    rw [hleading] at hdigits
    exact (classDigits?_isInfix hdigits).trans (classRegion_isInfix s firstSpan)
  · intro suffix hclass
    obtain ⟨digits, -, hclass⟩ := Option.bind_eq_some_iff.mp hclass
    obtain ⟨rest, hrest, hclass⟩ := Option.bind_eq_some_iff.mp hclass
    have htrim : rest.trim = suffix := by
      unfold Text.nonempty? at hclass
      split at hclass
      · contradiction
      · exact Option.some.inj hclass
    rw [hleading] at hrest
    refine List.IsInfix.trans ?_ (classRegion_isInfix s firstSpan)
    exact htrim ▸ (Text.trim_isInfix rest).trans (behindFirst?_suffix hrest).isInfix
  · rw [hfollowing, Option.bind_some]

/-- A call number with text between its cutters and a year at the end. -/
def severalParts : Text :=
  "ps3511 .a3 e4 .b5 1925".toList

/-- Its parts stand one behind the other. -/
theorem severalParts_disjoint :
    (parse severalParts).firstCutter = some ['A', '3'] ∧
      (parse severalParts).secondCutter = some ['B', '5'] ∧
      HasPlainHead severalParts.trim.upper ∧
      ∃ u v w, severalParts.trim.upper = u ++ ['A', '3'] ++ v ++ ['B', '5'] ++ w ∧
        (∀ digits ∈ (parse severalParts).classDigits, digits <:+: u) ∧
        (∀ suffix ∈ (parse severalParts).classSuffix, suffix <:+: u) ∧
        (∀ suffix ∈ (parse severalParts).firstCutterSuffix, TakenFrom v suffix) ∧
        (parse severalParts).secondCutterSuffix = w.trim.nonempty? := by
  have hfirst : (parse severalParts).firstCutter = some ['A', '3'] := by decide +kernel
  have hsecond : (parse severalParts).secondCutter = some ['B', '5'] := by decide +kernel
  have hplain : HasPlainHead severalParts.trim.upper := by
    refine Or.inr ⟨by decide +kernel, fun first hcutter => ?_⟩
    have hfound : firstCutter? severalParts.trim.upper =
        some ⟨"A3 E4 .B5 1925".toList, " E4 .B5 1925".toList⟩ := by decide +kernel
    rw [hfound] at hcutter
    obtain rfl := Option.some.inj hcutter
    decide +kernel
  exact ⟨hfirst, hsecond, hplain, parse_disjoint severalParts hfirst hsecond hplain⟩

/-- A call number with a cutter inside the word behind its class number. -/
def hiddenCutter : Text :=
  "QA76 1987B3 C4".toList

/-- The cutter behind that word is found as the first and as the second one. -/
theorem hiddenCutter_not_disjoint :
    (parse hiddenCutter).firstCutter = some ['C', '4'] ∧
      (parse hiddenCutter).secondCutter = some ['C', '4'] ∧
      ¬ ∃ u v w, hiddenCutter.trim.upper = u ++ ['C', '4'] ++ v ++ ['C', '4'] ++ w := by
  refine ⟨by decide +kernel, by decide +kernel, ?_⟩
  rintro ⟨u, v, w, h⟩
  have hcount := congrArg (List.count 'C') h
  have hone : List.count 'C' hiddenCutter.trim.upper = 1 := by decide +kernel
  rw [hone] at hcount
  simp [List.count_append] at hcount
  omega

end Lc
end CallNumber
end Shelfmark
