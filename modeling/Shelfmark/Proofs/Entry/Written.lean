import Shelfmark.Proofs.CallNumber.Dewey.Spacing
import Shelfmark.Proofs.CallNumber.Lc.Loose
import Shelfmark.Proofs.Entry.Spelling

/-!
# Entries - The normal spelling of a written call number

A written call number with a tidy text behind its last cutter has a normal spelling that is
written as well: the same parts with closed gaps.  A gap closes to its point, or else to one
space, or it stays empty.  So the normal spelling has the same standard spacing, and reads
alike.

Main results:

- Theorem `settle_written`: putting the blanks in order closes the gaps.
- Theorem `normalSpelling_written`: the normal spelling is the closed call number.
- Theorem `parse_normalSpelling`: a written call number reads like its normal spelling.
- Theorem `normalSpelling_dewey`: the normal spelling of a Dewey number closes its gap.
-/

namespace Shelfmark

/-! ## Closed gaps -/

namespace CallNumber
namespace Lc

/-- The gap in front of a second cutter closed. -/
def WrittenEnding.closed : WrittenEnding → WrittenEnding
  | trailer t => .trailer t.standard
  | cutter gap c t unpointed => .cutter gap.closed c t.standard unpointed
  | dated suffix _ c t => .dated suffix.standard 0 c t.standard

/-- All gaps closed. -/
def WrittenTail.closed (tail : WrittenTail) : WrittenTail :=
  ⟨tail.gap.closed, tail.cutter, tail.ending.closed⟩

/-- A closed gap still sets a suffix apart. -/
theorem Gap.SetsApart.closed {gap : Gap} {suffix : Option Suffix} (h : gap.SetsApart suffix) :
    gap.closed.SetsApart (suffix.map Suffix.standard) := by
  intro hsuffix
  unfold Gap.closed
  rcases h (by simpa using hsuffix) with hspaces | hpoint
  · cases hpoint : gap.point with
    | true => exact Or.inr rfl
    | false => exact Or.inl (Nat.lt_min.mpr ⟨hspaces, Nat.one_pos⟩)
  · exact Or.inr hpoint

/-- The call number with closed gaps. -/
def Written.closed (written : Written) : Written where
  number := written.number
  suffix := written.suffix.map Suffix.standard
  tail := written.tail.map WrittenTail.closed
  apart t ht := by
    obtain ⟨u, hu, rfl⟩ := Option.map_eq_some_iff.mp ht
    exact (written.apart u hu).closed

/-- Standard spacing does not depend on how far gaps are closed. -/
theorem Written.standard_closed (written : Written) : written.closed.standard = written.standard := by
  have htrailer (t : Trailer) : t.standard.standard = t.standard := by
    simp [Trailer.standard]
  have hsuffix (suffix : Option Suffix) :
      (suffix.map Suffix.standard).map Suffix.standard = suffix.map Suffix.standard := by
    cases suffix <;> rfl
  have htail (tail : Option WrittenTail) :
      (tail.map WrittenTail.closed).map WrittenTail.standard = tail.map WrittenTail.standard := by
    cases tail with
    | none => rfl
    | some tail =>
      obtain ⟨gap, cutter, ending⟩ := tail
      cases ending with
      | trailer t =>
        simp [WrittenTail.closed, WrittenTail.standard, WrittenEnding.closed,
          WrittenEnding.standard, htrailer]
      | cutter gap' c t unpointed =>
        simp [WrittenTail.closed, WrittenTail.standard, WrittenEnding.closed,
          WrittenEnding.standard, htrailer]
      | dated between spaces c t =>
        simp [WrittenTail.closed, WrittenTail.standard, WrittenEnding.closed,
          WrittenEnding.standard, Suffix.standard, htrailer]
  unfold Written.standard Written.closed
  simp only [hsuffix, htail]

end Lc
end CallNumber

namespace Entry

open Character (isBlank)
open CallNumber (Dewey)
open CallNumber.Lc (ClassNumber Cutter Digits Gap Loose Suffix Trailer Written WrittenEnding
  WrittenTail suffixText)

/-! ## Pieces without blanks -/

/-- Digits with a fraction stay. -/
theorem settle_decimal {whole : Digits} {fraction : Option Digits} (t : Text) :
    settle (Number.decimalText whole.text (fraction.map Digits.text) ++ t) =
      Number.decimalText whole.text (fraction.map Digits.text) ++ settle t := by
  have hdecimal : Number.IsDecimal whole.text (fraction.map Digits.text) := by
    refine ⟨whole.isDigit, ?_, by simp [whole.ne_nil]⟩
    cases fraction with
    | none => simp
    | some fraction => exact fraction.isDigit
  refine settle_append (fun c hc => ?_) (getLast?_ne_period ?_) t
  · rcases hdecimal.digit_or_point c hc with hdigit | rfl
    · exact Character.isBlank_of_isDigit hdigit
    · exact Character.isBlank_point
  · cases fraction with
    | none => exact whole.ends
    | some fraction => exact (fraction.ends.cons '.').append whole.text

/-- Class letters stay. -/
theorem settle_letters (number : ClassNumber) (t : Text) :
    settle (number.letters ++ t) = number.letters ++ settle t := by
  refine settle_append (fun c hc => Character.isBlank_of_isUpper (number.isUpper c hc)) ?_ t
  intro hpoint
  have hupper := number.isUpper '.' (List.mem_of_getLast? hpoint)
  contradiction

/-- A class number stays, with at most one space behind its letters. -/
theorem settle_spaced (number : ClassNumber) (n : Nat) (t : Text) :
    settle (number.spaced n ++ t) = number.spaced (min n 1) ++ settle t := by
  have hdigits : settle (number.digits ++ t) = number.digits ++ settle t := settle_decimal t
  have hspaces : settle (List.replicate n ' ' ++ (number.digits ++ t)) =
      List.replicate (min n 1) ' ' ++ (number.digits ++ settle t) := by
    obtain ⟨d, s, hcons, hd⟩ := number.exists_cons
    cases n with
    | zero => exact hdigits
    | succ n =>
      have hmin : min (n + 1) 1 = 1 := Nat.min_eq_right (Nat.succ_pos n)
      rw [settle_spaces (fun c hc => ?_) n fun hpoint => ?_, hdigits, hmin]
      · rfl
      · rw [hcons] at hc
        exact Option.some.inj hc ▸ Character.isBlank_of_isDigit hd
      · rw [hcons] at hpoint
        rw [Option.some.inj hpoint] at hd
        contradiction
  rw [ClassNumber.spaced, ClassNumber.spaced, List.append_assoc, List.append_assoc, settle_letters,
    hspaces, List.append_assoc, List.append_assoc]

/-- A cutter stays. -/
theorem settle_cutter (cutter : Cutter) (t : Text) :
    settle (cutter.text ++ t) = cutter.text ++ settle t := by
  refine settle_append (List.forall_mem_cons.mpr ⟨?_, fun c hc => ?_⟩)
    (getLast?_ne_period (cutter.digits.ends.cons _)) t
  · exact Character.isBlank_of_isUpper cutter.isUpper
  · exact Character.isBlank_of_isDigit (cutter.digits.isDigit c hc)

/-- In front of a suffix stays one space. -/
theorem settle_suffix (suffix : Option Suffix) (t : Text) :
    settle (suffixText suffix ++ t) = suffixText (suffix.map Suffix.standard) ++ settle t := by
  cases suffix with
  | none => rfl
  | some suffix =>
    obtain ⟨n, hn⟩ := suffix.exists_text t
    obtain ⟨d, s, hword, hd⟩ := suffix.exists_cons
    have hblank (c : Char) (hc : c ∈ suffix.word) : isBlank c = false :=
      (CallNumber.Lc.isWordChar_of_capitalOrDigit (suffix.capitalOrDigit c hc)).2.1
    have hsettle : settle (suffix.word ++ t) = suffix.word ++ settle t :=
      settle_append hblank (fun hlast => suffix.not_mem.2 (List.mem_of_getLast? hlast)) t
    have hstart : ∀ c ∈ (suffix.word ++ t).head?, isBlank c = false := by
      rw [hword]
      exact fun c hc => Option.some.inj hc ▸ Character.isBlank_of_isDigit hd
    have hpoint : (suffix.word ++ t).head? ≠ some '.' := by
      rw [hword]
      intro hc
      rw [Option.some.inj hc] at hd
      contradiction
    calc settle (suffixText (some suffix) ++ t)
        = settle (List.replicate (n + 1) ' ' ++ (suffix.word ++ t)) := congrArg settle hn
      _ = ' ' :: (suffix.word ++ settle t) := by rw [settle_spaces hstart n hpoint, hsettle]
      _ = suffixText (some suffix.standard) ++ settle t := rfl

/-- A gap closes. -/
theorem settle_gap (gap : Gap) {t : Text} (h : ∀ c ∈ t.head?, isBlank c = false)
    (hpoint : t.head? ≠ some '.') : settle (gap.text ++ t) = gap.closed.text ++ settle t := by
  obtain ⟨spaces, point⟩ := gap
  cases point with
  | true =>
    have htext : Gap.text ⟨spaces, true⟩ ++ t = List.replicate spaces ' ' ++ '.' :: t := by
      simp [Gap.text, Gap.pointText]
    rw [htext, settle_spaces_period h]
    rfl
  | false =>
    have htext (n : Nat) : Gap.text ⟨n, false⟩ = List.replicate n ' ' := List.append_nil _
    rw [htext]
    cases spaces with
    | zero => rfl
    | succ n =>
      have hmin : min (n + 1) 1 = 1 := Nat.min_eq_right (Nat.succ_pos n)
      have hclosed : Gap.closed ⟨n + 1, false⟩ = ⟨1, false⟩ := by simp [Gap.closed]
      rw [settle_spaces h n hpoint, hclosed, htext]
      rfl

/-! ## Tidy texts -/

/-- A text behind a last cutter that keeps its blanks in a normal spelling. -/
structure Tidy (trailer : Trailer) : Prop where
  settled : settle trailer.rest = trailer.rest
  head : ∀ c ∈ trailer.rest.head?, isBlank c = false
  unpointed : 0 < trailer.spaces → trailer.rest.head? ≠ some '.'

/-- In front of a tidy text stays at most one space. -/
theorem Tidy.settle_text {trailer : Trailer} (h : Tidy trailer) :
    settle trailer.text = trailer.standard.text := by
  change settle (List.replicate trailer.spaces ' ' ++ trailer.rest) =
    List.replicate (min trailer.spaces 1) ' ' ++ trailer.rest
  cases hspaces : trailer.spaces with
  | zero => exact h.settled
  | succ n =>
    have hmin : min (n + 1) 1 = 1 := Nat.min_eq_right (Nat.succ_pos n)
    rw [settle_spaces h.head n (h.unpointed (by omega)), h.settled, hmin]
    rfl

/-! ## The whole call number -/

/-- A cutter does not begin with a blank or a point. -/
theorem head_cutter (cutter : Cutter) (t : Text) :
    (∀ c ∈ (cutter.text ++ t).head?, isBlank c = false) ∧ (cutter.text ++ t).head? ≠ some '.' := by
  refine ⟨fun c hc => Character.isBlank_of_isUpper (cutter.head_text t c hc), fun hc => ?_⟩
  exact absurd (cutter.head_text t '.' hc) (by decide)

/-- A gap in front of a cutter closes, and the cutter stays. -/
theorem settle_gap_cutter (gap : Gap) (cutter : Cutter) (t : Text) :
    settle (gap.text ++ (cutter.text ++ t)) = gap.closed.text ++ (cutter.text ++ settle t) := by
  obtain ⟨hblank, hpoint⟩ := head_cutter cutter t
  rw [settle_gap gap hblank hpoint, settle_cutter]

/-- What stands behind a first cutter is put in order gap by gap. -/
theorem settle_ending {ending : WrittenEnding} (h : Tidy ending.last) :
    settle ending.text = ending.closed.text := by
  have hlast : settle ending.last.text = ending.last.standard.text := h.settle_text
  cases ending with
  | trailer t => exact hlast
  | cutter gap c t unpointed =>
    change settle t.text = t.standard.text at hlast
    calc settle (gap.text ++ (c.text ++ t.text))
        = gap.closed.text ++ (c.text ++ settle t.text) := settle_gap_cutter gap c t.text
      _ = gap.closed.text ++ (c.text ++ t.standard.text) := by rw [hlast]
  | dated suffix spaces c t =>
    change settle t.text = t.standard.text at hlast
    calc settle (suffix.text ++ (Gap.text ⟨spaces, true⟩ ++ (c.text ++ t.text)))
        = suffix.standard.text ++ settle (Gap.text ⟨spaces, true⟩ ++ (c.text ++ t.text)) :=
          settle_suffix (some suffix) _
      _ = suffix.standard.text ++ (Gap.text ⟨0, true⟩ ++ (c.text ++ t.standard.text)) := by
        rw [settle_gap_cutter, hlast]
        rfl

/-- A first cutter and what follows it are put in order. -/
theorem settle_tail {tail : WrittenTail} (h : Tidy tail.ending.last) :
    settle tail.text = tail.closed.text := by
  calc settle (tail.gap.text ++ (tail.cutter.text ++ tail.ending.text))
      = tail.gap.closed.text ++ (tail.cutter.text ++ settle tail.ending.text) :=
        settle_gap_cutter tail.gap tail.cutter tail.ending.text
    _ = tail.gap.closed.text ++ (tail.cutter.text ++ tail.ending.closed.text) := by
      rw [settle_ending h]

/-- Putting the blanks in order closes the gaps. -/
theorem settle_written {written : Written} (h : ∀ t ∈ written.trailer?, Tidy t) :
    settle written.text = written.closed.text := by
  obtain ⟨number, suffix, tail, apart⟩ := written
  have htail : settle ((tail.map WrittenTail.text).getD []) =
      ((tail.map WrittenTail.closed).map WrittenTail.text).getD [] := by
    cases tail with
    | none => rfl
    | some tail => exact settle_tail (h _ rfl)
  calc settle (number.text ++ (suffixText suffix ++ (tail.map WrittenTail.text).getD []))
      = number.text ++ settle (suffixText suffix ++ (tail.map WrittenTail.text).getD []) :=
        settle_spaced number 0 _
    _ = number.text ++ (suffixText (suffix.map Suffix.standard) ++
          ((tail.map WrittenTail.closed).map WrittenTail.text).getD []) := by
        rw [settle_suffix, htail]

/-- The gap behind the class letters is closed. -/
theorem closeClassGap_spaced (number : ClassNumber) (n : Nat) (t : Text) :
    closeClassGap (number.spaced (min n 1) ++ t) = number.text ++ t := by
  obtain ⟨d, s, hcons, hd⟩ := number.exists_cons
  have hupper : d.isUpper = false := Character.isUpper_of_isDigit hd
  cases n with
  | zero =>
    refine closeClassGap_eq_self ?_
    have hdrop : (number.text ++ t).dropWhile Char.isUpper = number.digits ++ t := by
      rw [ClassNumber.text, List.append_assoc, List.dropWhile_append_of_pos number.isUpper, hcons,
        List.cons_append, List.dropWhile_cons_of_neg (by simp [hupper])]
    change ((number.text ++ t).dropWhile Char.isUpper).head? ≠ some ' '
    rw [hdrop, hcons]
    intro hspace
    rw [Option.some.inj hspace] at hd
    contradiction
  | succ n =>
    have hmin : min (n + 1) 1 = 1 := Nat.min_eq_right (Nat.succ_pos n)
    have htake := number.takeWhile_spaced 1 t
    have hdrop : (number.spaced 1 ++ t).dropWhile Char.isUpper = ' ' :: (number.digits ++ t) := by
      rw [ClassNumber.spaced, List.append_assoc, List.dropWhile_append_of_pos number.isUpper]
      rfl
    have hstart : Scheme.startsWithDigit (number.digits ++ t) = true := by
      simp [Scheme.startsWithDigit, hcons, hd]
    have hpos : 1 ≤ number.letters.length := List.length_pos_iff.mpr number.ne_nil
    rw [hmin]
    unfold closeClassGap
    simp only [htake, hdrop]
    rw [if_pos ⟨hpos, number.length_le, hstart⟩, ClassNumber.text, List.append_assoc]

section Normal

variable {raw : Text} {written : Written} (htext : raw.trim.upper = written.text)
  (htidy : ∀ t ∈ written.trailer?, Tidy t)

include htext htidy

/-- The normal spelling is the closed call number. -/
theorem normalSpelling_written : normalSpelling raw = written.closed.text := by
  have hnormal : normalSpelling raw = closeClassGap (settle raw.trim.upper) := rfl
  rw [hnormal, htext, settle_written htidy]
  exact closeClassGap_spaced written.number 0 _

/-- A written call number reads like its normal spelling. -/
theorem parse_normalSpelling :
    CallNumber.Lc.parse (normalSpelling raw) = CallNumber.Lc.parse raw := by
  unfold CallNumber.Lc.parse
  rw [trim_upper_normalSpelling, normalSpelling_written htext htidy, htext,
    ← CallNumber.Lc.ofUpper_standard, written.standard_closed, CallNumber.Lc.ofUpper_standard]

end Normal

/-! ## Loosely spelled call numbers -/

section Loose

variable {raw : Text} {loose : Loose} (htext : raw.trim.upper = loose.text)
  (htidy : ∀ t ∈ loose.tail, settle t.word = t.word)

include htext htidy

/-- The normal spelling closes all gaps of a loosely spelled call number. -/
theorem normalSpelling_loose : normalSpelling raw = loose.closed := by
  have hnormal : normalSpelling raw = closeClassGap (settle raw.trim.upper) := rfl
  have htail : settle ((loose.tail.map CallNumber.Lc.LooseTail.text).getD []) =
      (loose.tail.map fun tail => '.' :: tail.word).getD [] := by
    cases hloose : loose.tail with
    | none => rfl
    | some tail =>
      have hword : settle (List.replicate tail.spaces ' ' ++ '.' :: tail.word) =
          '.' :: tail.word := by
        rw [settle_spaces_period tail.trimmed.head, htidy tail hloose]
      have hsplit : tail.text = List.replicate tail.spaces ' ' ++ '.' :: tail.word := by
        simp [CallNumber.Lc.LooseTail.text, Gap.text, Gap.pointText]
      rw [Option.map_some, Option.map_some, Option.getD_some, Option.getD_some, hsplit, hword]
  rw [hnormal, htext, Loose.text, settle_spaced, closeClassGap_spaced, settle_suffix, htail]
  rfl

/-- A loosely spelled call number reads like its normal spelling. -/
theorem parse_normalSpelling_loose :
    CallNumber.Lc.parse (normalSpelling raw) = CallNumber.Lc.parse raw := by
  unfold CallNumber.Lc.parse
  rw [trim_upper_normalSpelling, normalSpelling_loose htext htidy, htext,
    CallNumber.Lc.ofUpper_loose, CallNumber.Lc.ofUpper_loose_closed]

end Loose

/-! ## Dewey numbers -/

/-- A body that keeps its blanks in a normal spelling, but for the spaces behind a cutter. -/
def TidyBody : Dewey.Body → Prop
  | .text s => settle s = s ∧ ∀ c ∈ s.head?, isBlank c = false
  | .cutter _ trailer _ => Tidy trailer

/-- A tidy body is put in standard spacing, and does not begin with a blank. -/
theorem settle_body {body : Dewey.Body} (h : TidyBody body) :
    settle body.written = body.standard.written ∧
      ∀ c ∈ body.written.head?, isBlank c = false := by
  cases body with
  | text s => exact h
  | cutter cutter trailer apart =>
    constructor
    · have hlast : settle trailer.text = trailer.standard.text := Tidy.settle_text h
      change settle (cutter.text ++ trailer.text) = cutter.text ++ trailer.standard.text
      rw [settle_cutter, hlast]
    · exact (head_cutter cutter trailer.text).1

/-- The normal spelling of a Dewey number in capitals closes its gap. -/
theorem normalSpelling_dewey {raw : Text} {written : Dewey.Written}
    (htext : raw.trim.upper = written.text)
    (htidy : ∀ t ∈ written.tail, TidyBody t.body) :
    normalSpelling raw = written.closed.text := by
  have hsettle : settle written.text = written.closed.text := by
    change settle (written.classText ++ _) = written.classText ++ _
    rw [Dewey.Written.classText, settle_decimal]
    obtain ⟨whole, length_le, fraction, tail⟩ := written
    cases tail with
    | none => rfl
    | some tail =>
      obtain ⟨hbody, hblank⟩ := settle_body (htidy tail rfl)
      have hgap : settle (tail.gap.text ++ tail.body.written) =
          tail.gap.closed.text ++ tail.body.standard.written := by
        rw [settle_gap tail.gap hblank fun hc => (tail.head '.' hc).2.1 rfl, hbody]
      exact congrArg (_ ++ ·) hgap
  have hnormal : normalSpelling raw = closeClassGap (settle raw.trim.upper) := rfl
  rw [hnormal, htext, hsettle]
  refine closeClassGap_eq_self ?_
  -- The class number begins with a digit, so there are no letters.
  obtain ⟨d, s, hcons, hd⟩ := written.whole.exists_cons
  obtain ⟨u, htext⟩ : ∃ u, written.closed.text = d :: u := by
    unfold Dewey.Written.text Dewey.Written.classText Dewey.Written.closed
    cases written.fraction <;> simp [Number.decimalText, hcons]
  have hupper : d.isUpper = false := Character.isUpper_of_isDigit hd
  rw [htext, List.dropWhile_cons_of_neg (by simp [hupper])]
  intro hspace
  rw [Option.some.inj hspace] at hd
  contradiction

end Entry
end Shelfmark
