import Mathlib.Data.List.TakeWhile
import Shelfmark.Proofs.CallNumber.Lc.Ends

/-!
# Call numbers - What lies behind the first cutter

First cutter, second cutter and the text between them are found by searches of their own,
each of which passes over a head first.  The searches may pass over different heads: where
a word between class and cutter contains a cutter, one search ends its head in front of
that cutter and another one behind it.

As long as the class number is the only joint in front of the first cutter, every later
part lies behind that cutter.  Counting joints shows it: a second cutter has two joints in
front of it, and the first cutter has the second of them.

Main results:

- Theorem `suffix_of_joints_le`: ends of a text are told apart by their joints.
- Theorem `start_suffix_of_secondCutter?`: a second cutter that directly follows a first
  one lies behind the first cutter of the call number.
- Theorem `start_suffix_of_textBeforePointedCutter?`: so does the text in front of a
  pointed cutter.
- Theorem `start_suffix_of_wordBehindCutter?`: a word behind the first cutter always does.
-/

namespace Shelfmark
namespace CallNumber
namespace Lc

open Text (Span leftmost? furthest?)

/-! ## Counting joints -/

section Cutters

variable {s t u rest : Text}

/-- A cutter at the front is a capital, and behind it the digits are passed over. -/
theorem exists_of_skipCutter? (h : skipCutter? s = some rest) :
    ∃ c digits, s = c :: (digits ++ rest) ∧ c.isUpper = true ∧ (∀ d ∈ digits, d.isDigit = true) ∧
      (digits ++ rest).head?.any Char.isDigit = true := by
  cases s with
  | nil => contradiction
  | cons c s =>
    rw [skipCutter?] at h
    split at h
    · rename_i hupper
      unfold skipDigits? at h
      split at h
      · rename_i hdigit
        obtain rfl := Option.some.inj h
        refine ⟨c, s.takeWhile Char.isDigit, ?_, hupper, ?_, ?_⟩
        · rw [List.takeWhile_append_dropWhile]
        · exact fun d hd => List.mem_takeWhile_imp hd
        · rwa [List.takeWhile_append_dropWhile]
      · contradiction
    · contradiction

/-- A cutter has exactly one joint. -/
theorem joints_of_skipCutter? (h : skipCutter? s = some rest) : joints s = joints rest + 1 := by
  obtain ⟨c, digits, rfl, hupper, hdigits, hhead⟩ := exists_of_skipCutter? h
  rw [joints_cons_of_digit hupper hhead,
    joints_append rest fun d hd => Character.isUpper_of_isDigit (hdigits d hd)]

/-- Of two ends of a text, one that begins with a cutter and has no more joints than the other
is an end of the other. -/
theorem suffix_of_joints_le (ht : t <:+ s) (hu : u <:+ s) (hcutter : skipCutter? t = some rest)
    (hle : joints t ≤ joints u) : t <:+ u := by
  rcases List.suffix_or_suffix_of_suffix ht hu with h | h
  · exact h
  · obtain ⟨c, digits, rfl, hupper, -, hhead⟩ := exists_of_skipCutter? hcutter
    rcases List.suffix_cons_iff.mp h with rfl | h
    · exact List.suffix_rfl
    · -- Otherwise the joint of the cutter would come on top of all joints of the other end.
      have hjoint := joints_cons_of_digit hupper hhead
      have hrest := joints_le_of_suffix h
      omega

/-- What follows a cutter in a text that begins with a cutter does not begin before the rest of
the first. -/
theorem rest_suffix_of_skipCutter? (h : skipCutter? s = some rest) (ht : t <:+ s)
    (hcutter : skipCutter? t = some u) : u <:+ rest := by
  obtain ⟨c, digits, hs, -, hdigits, -⟩ := exists_of_skipCutter? h
  rw [hs] at ht
  rcases List.suffix_cons_iff.mp ht with heq | hlater
  · rw [heq, ← hs, h] at hcutter
    exact Option.some.inj hcutter ▸ List.suffix_rfl
  · obtain ⟨d, digits', htcons, hupper, -, -⟩ := exists_of_skipCutter? hcutter
    have hrun : (digits ++ rest).dropWhile Char.isDigit = rest.dropWhile Char.isDigit :=
      List.dropWhile_append_of_pos hdigits
    have hbehind : t <:+ (digits ++ rest).dropWhile Char.isDigit := by
      refine Text.suffix_dropWhile hlater fun x hx => ?_
      rw [htcons] at hx
      exact Option.some.inj hx ▸ Character.isDigit_of_isUpper hupper
    rw [hrun] at hbehind
    exact ((behind_of_skipCutter? hcutter).suffix.trans hbehind).trans (List.dropWhile_suffix _)

end Cutters

/-! ## The first cutter -/

section First

variable {s t : Text} {first : Span}

/-- The end of a head lies behind the joint of its class number. -/
theorem behind_of_mem_headEnds (h : t ∈ headEnds s) : Behind 1 s t := by
  let here (u : Text) : Option Text := if u = t then some u else none
  have hsome : leftmost? (behindClass? here) s ≠ none := by
    rw [leftmost?_behindClass?_eq_findSome?]
    intro hnone
    have ht := List.findSome?_eq_none_iff.mp hnone t h
    simp [here] at ht
  obtain ⟨a, ha⟩ := Option.ne_none_iff_exists'.mp hsome
  obtain ⟨u, hu, hhere⟩ := exists_of_leftmost_behindClass? ha
  have heq : u = t := by
    by_contra hne
    simp [here, hne] at hhere
  exact heq ▸ hu

/-- The first cutter stands behind the gap that follows a head. -/
theorem exists_of_firstCutter? (h : firstCutter? s = some first) :
    first.start <:+ s ∧ skipCutter? first.start = some first.rest := by
  obtain ⟨t, ht, hhere⟩ := exists_mem_headEnds h
  obtain ⟨rest, hrest, rfl⟩ := Option.map_eq_some_iff.mp hhere
  exact ⟨(skipGap_suffix t).trans (behind_of_mem_headEnds ht).suffix, hrest⟩

/-- With one joint in front of the first cutter, all joints but two lie behind it. -/
theorem joints_le_of_firstCutter? (h : firstCutter? s = some first)
    (hjoint : joints (s.before first.start) ≤ 1) : joints s ≤ joints first.rest + 2 := by
  obtain ⟨hstart, hcutter⟩ := exists_of_firstCutter? h
  have hhead : ∀ c ∈ first.start.head?, c.isDigit = false := by
    obtain ⟨c, digits, hcons, hupper, -, -⟩ := exists_of_skipCutter? hcutter
    intro d hd
    rw [hcons] at hd
    exact Option.some.inj hd ▸ Character.isDigit_of_isUpper hupper
  have happend := joints_append_of_head (s.before first.start) hhead
  rw [Text.before_append_self hstart, joints_of_skipCutter? hcutter] at happend
  omega

end First

/-! ## Parts behind the first cutter -/

section Behind

variable {s : Text} {first : Span}

/-- A second cutter that directly follows a first one lies behind the first cutter. -/
theorem start_suffix_of_secondCutter? {second : Span} (hfirst : firstCutter? s = some first)
    (hjoint : joints (s.before first.start) ≤ 1) (h : secondCutter? s = some second) :
    second.start <:+ first.rest ∧ skipCutter? second.start = some second.rest := by
  obtain ⟨hstart, hcutter⟩ := exists_of_firstCutter? hfirst
  have hall := joints_le_of_firstCutter? hfirst hjoint
  have htwo := (behind_of_secondCutter? h).1
  have hbehind := htwo.joints_le
  obtain ⟨t, -, ht⟩ := exists_mem_headEnds h
  obtain ⟨u, -, hhere⟩ := Option.bind_eq_some_iff.mp ht
  obtain ⟨rest, hrest, rfl⟩ := Option.map_eq_some_iff.mp hhere
  refine ⟨?_, hrest⟩
  have hfirstRest := (behind_of_skipCutter? hcutter).suffix.trans hstart
  exact suffix_of_joints_le htwo.suffix hfirstRest hrest (by omega)

/-- A text on one line with a pointed cutter has a last one. -/
theorem onLine_ne_none {t : Text} (hline : '\n' ∉ s) (ht : t <:+ s) (hpointed : atPointedCutter t) :
    (partEnd s).onLine ≠ none := by
  induction s with
  | nil =>
    rw [List.eq_nil_of_suffix_nil ht] at hpointed
    contradiction
  | cons c s ih =>
    obtain ⟨hc, hs⟩ := not_or.mp (mt List.mem_cons.mpr hline)
    simp only [partEnd, if_neg (Ne.symm hc), ne_eq, Option.or_eq_none_iff, not_and]
    intro hnone
    rcases List.suffix_cons_iff.mp ht with rfl | hlater
    · simp [hpointed]
    · exact absurd hnone (ih hs hlater)

/-- The text in front of a pointed cutter, if it begins behind `s`. -/
def textToPointed? (s : Text) : Option Span :=
  (partEnd (skipSpaces s)).behindWords.map fun rest => ⟨skipSpaces s, rest⟩

/-- Such a text ends at a pointed cutter. -/
theorem exists_of_textToPointed? {span : Span} (h : textToPointed? s = some span) :
    span.start = skipSpaces s ∧ span.rest <:+ span.start ∧ atPointedCutter span.rest = true := by
  obtain ⟨rest, hrest, rfl⟩ := Option.map_eq_some_iff.mp h
  obtain ⟨hsuffix, hpointed⟩ := (partEnd_all (skipSpaces s)).behindWords rest hrest
  exact ⟨rfl, hsuffix, hpointed⟩

/-- A pointed cutter does not begin with another character than a point. -/
theorem head_of_atPointedCutter {t : Text} (h : atPointedCutter t) : t.head? = some '.' := by
  unfold atPointedCutter at h
  split at h
  · rfl
  · contradiction

/-- On one line the text in front of a pointed cutter begins behind all digits of the cutter in
front of it. -/
theorem furthest?_textToPointed? {span : Span} (hline : '\n' ∉ s)
    (h : furthest? Char.isDigit textToPointed? s = some span) :
    textToPointed? (s.dropWhile Char.isDigit) = some span := by
  obtain ⟨t, ht, hspan⟩ := Text.exists_of_furthest? h
  obtain ⟨hstart, hrest, hpointed⟩ := exists_of_textToPointed? hspan
  have hhead := head_of_atPointedCutter hpointed
  -- The pointed cutter lies behind all digits and behind the spaces that follow them.
  have hsuffix : span.rest <:+ s :=
    (hrest.trans (hstart ▸ List.dropWhile_suffix _)).trans ht
  have hbehindDigits : span.rest <:+ s.dropWhile Char.isDigit :=
    Text.suffix_dropWhile hsuffix (by simp [hhead])
  have hbehindSpaces : span.rest <:+ skipSpaces (s.dropWhile Char.isDigit) :=
    Text.suffix_dropWhile hbehindDigits (by simp [hhead])
  have hlast : (partEnd (skipSpaces (s.dropWhile Char.isDigit))).onLine ≠ none := by
    refine onLine_ne_none (fun hmem => hline ?_) hbehindSpaces hpointed
    exact ((List.dropWhile_suffix _).trans (List.dropWhile_suffix _)).subset hmem
  have hwords : (partEnd (skipSpaces (s.dropWhile Char.isDigit))).behindWords ≠ none := by
    generalize skipSpaces (s.dropWhile Char.isDigit) = u at hlast ⊢
    cases u with
    | nil => simp [partEnd] at hlast
    | cons c u =>
      simp only [partEnd, ne_eq, Option.or_eq_none_iff, not_and] at hlast ⊢
      exact fun _ => hlast
  obtain ⟨last, hend⟩ := Option.ne_none_iff_exists'.mp hwords
  have hhere : textToPointed? (s.dropWhile Char.isDigit) =
      some ⟨skipSpaces (s.dropWhile Char.isDigit), last⟩ := by
    rw [textToPointed?, hend, Option.map_some]
  have hrun : ∀ c ∈ s.takeWhile Char.isDigit, c.isDigit = true :=
    fun c hc => List.mem_takeWhile_imp hc
  have hfurthest : furthest? Char.isDigit textToPointed?
      (s.takeWhile Char.isDigit ++ s.dropWhile Char.isDigit) = _ :=
    Text.furthest?_append hrun (fun c hc => by
      have hnot := List.head?_dropWhile_not Char.isDigit s
      rw [hc] at hnot
      simpa using hnot) hhere
  rw [List.takeWhile_append_dropWhile, h] at hfurthest
  rw [hhere, hfurthest]

/-- An answer behind the digits of a cutter on one line is the one behind all of them. -/
theorem exists_of_behindCutter?_textToPointed? {span : Span} (hline : '\n' ∉ s)
    (h : behindCutter? textToPointed? s = some span) :
    ∃ rest, skipCutter? s = some rest ∧ textToPointed? rest = some span := by
  unfold behindCutter? at h
  split at h
  · rename_i c d s
    split at h
    · rename_i hcutter
      simp only [Bool.and_eq_true] at hcutter
      refine ⟨s.dropWhile Char.isDigit, ?_, ?_⟩
      · rw [skipCutter?, if_pos hcutter.1, skipDigits?, if_pos (by simpa using hcutter.2),
          List.dropWhile_cons_of_pos hcutter.2]
      · exact furthest?_textToPointed? (fun hmem => hline (by simp [hmem])) h
    · contradiction
  · contradiction

/-- The text in front of a pointed cutter lies behind the first cutter. -/
theorem start_suffix_of_textBeforePointedCutter? {span : Span}
    (hfirst : firstCutter? s = some first) (hjoint : joints (s.before first.start) ≤ 1)
    (hline : '\n' ∉ s) (h : textBeforePointedCutter? s = some span) :
    span.start <:+ first.rest ∧ span.rest <:+ span.start := by
  obtain ⟨hstart, hcutter⟩ := exists_of_firstCutter? hfirst
  have hall := joints_le_of_firstCutter? hfirst hjoint
  obtain ⟨-, -, h⟩ := Option.bind_eq_some_iff.mp h
  obtain ⟨t, ht, hspan⟩ := exists_mem_headEnds h
  have hgap := (behind_of_mem_headEnds ht).trans_suffix (skipGap_suffix t)
  have hbehind := hgap.joints_le
  obtain ⟨rest, hrest, htext⟩ :=
    exists_of_behindCutter?_textToPointed? (fun hmem => hline (hgap.suffix.subset hmem)) hspan
  obtain ⟨hspanStart, hspanRest, -⟩ := exists_of_textToPointed? htext
  have hinside : skipGap t <:+ first.start :=
    suffix_of_joints_le hgap.suffix hstart hrest (by
      have hone := joints_of_skipCutter? hcutter
      omega)
  have hbehindFirst := rest_suffix_of_skipCutter? hcutter hinside hrest
  have hspaces : span.start <:+ rest := by
    rw [hspanStart]
    exact List.dropWhile_suffix _
  exact ⟨hspaces.trans hbehindFirst, hspanRest⟩

/-- A word behind the first cutter lies behind it. -/
theorem start_suffix_of_wordBehindCutter? {word : Span} (hfirst : firstCutter? s = some first)
    (h : wordBehindCutter? s = some word) :
    word.start <:+ first.rest ∧ word.rest <:+ word.start := by
  obtain ⟨start, hstart, hword⟩ := Option.bind_eq_some_iff.mp h
  rw [behindFirstCutter?_eq_map, hfirst, Option.map_some, Option.some.injEq] at hstart
  obtain ⟨rest, hrest, rfl⟩ := Option.map_eq_some_iff.mp hword
  obtain ⟨t, ht, heq⟩ := exists_of_behindWord? hrest
  obtain rfl := Option.some.inj heq
  exact ⟨hstart ▸ List.dropWhile_suffix _, ht⟩

/-- The text from a pointed cutter on is an end of the text, and the cutter is at its front. -/
theorem of_fromPointedCutter? {t : Text} (h : fromPointedCutter? s = some t) :
    t <:+ s ∧ atPointedCutter (skipSpaces t) = true := by
  obtain ⟨u, hu, hhere⟩ := Text.exists_of_leftmost? h
  split at hhere
  · rename_i hpointed
    exact Option.some.inj hhere ▸ ⟨hu, hpointed⟩
  · contradiction

end Behind

end Lc
end CallNumber
end Shelfmark
