import Shelfmark.Proofs.CallNumber.Lc.Disjoint
import Shelfmark.Proofs.CallNumber.Lc.Spacing

/-!
# Call numbers - What is kept behind the first cutter

The text behind the first cutter is read as the suffix of that cutter, a second cutter and
the suffix of the second.  From the place where reading begins nothing is lost but blanks and
points.  The question is where it begins.  A word, a further cutter, or a text with a pointed
cutter behind it are read from the first cutter on; any other text is passed over as a whole:
a single letter at the end, or a text that begins with a bracket or a dash.

Two searches that end behind different digits of a call number never leave the same letters
and digits, because the digit itself is one of them.  So reading that begins anywhere else
than behind the first cutter loses or repeats something.

Main results:

- Theorems `alphanumerics_tail_suffix`, `alphanumerics_tail_word`, `alphanumerics_tail_pointed`
  and `alphanumerics_tail_second`: what is read has the letters and digits of the text from the
  place on where reading begins.
- Theorem `alphanumerics_tail_iff`: exactly when all letters and digits behind the first cutter
  are kept.
- Theorem `alphanumerics_tail_iff_of_plainHead`: the same where the first cutter cannot be
  mistaken.
- Theorem `parse_keeps_tail`: what this says about the parts of a call number in any spelling.
- Theorem `finalLetter_lost`: a letter at the end can be lost.
-/

namespace Shelfmark

/-! ## Letters and digits -/

namespace Text

open Character (isBlank)

/-- The ASCII letters and digits of a text, in their order. -/
def alphanumerics (s : Text) : Text :=
  s.filter Char.isAlphanum

/-- The letters and digits of two texts one behind the other. -/
theorem alphanumerics_append (s t : Text) :
    alphanumerics (s ++ t) = s.alphanumerics ++ t.alphanumerics :=
  List.filter_append s t

/-- Characters in front that are neither letters nor digits do not count. -/
theorem alphanumerics_dropWhile {p : Char → Bool} (h : ∀ c, p c = true → c.isAlphanum = false)
    (s : Text) : alphanumerics (s.dropWhile p) = s.alphanumerics := by
  induction s with
  | nil => rfl
  | cons c s ih =>
    rw [List.dropWhile_cons]
    by_cases hc : p c = true
    · rw [if_pos hc, ih]
      exact (List.filter_cons_of_neg (by simp [h c hc])).symm
    · rw [if_neg hc]

/-- Trimming drops neither letters nor digits. -/
theorem alphanumerics_trim (s : Text) : s.trim.alphanumerics = s.alphanumerics := by
  have hblank : ∀ c, isBlank c = true → c.isAlphanum = false :=
    fun _ => Character.isAlphanum_of_isBlank
  have hstart : s.trimStart.alphanumerics = s.alphanumerics := alphanumerics_dropWhile hblank s
  have hend := alphanumerics_dropWhile hblank s.trimStart.reverse
  rw [← hstart, trim, trimEnd, dropEndWhile]
  unfold alphanumerics at hend ⊢
  rw [List.filter_reverse, hend, List.filter_reverse, List.reverse_reverse]

/-- Where a text has other characters than blanks, trimming leaves some. -/
theorem trim_ne_nil_iff {s : Text} : s.trim ≠ [] ↔ ∃ c ∈ s, isBlank c = false := by
  constructor
  · intro h
    obtain ⟨c, hc, hblank⟩ := getLast?_trim h
    exact ⟨c, (trim_isInfix s).subset (List.mem_of_getLast? hc), hblank⟩
  · rintro ⟨c, hc, hblank⟩ hnil
    have hstart : c ∈ s.trimStart := by
      have hsplit := List.takeWhile_append_dropWhile (p := isBlank) (l := s)
      rw [← hsplit] at hc
      rcases List.mem_append.mp hc with hc | hc
      · rw [List.mem_takeWhile_imp hc] at hblank
        contradiction
      · exact hc
    obtain ⟨d, hd, -⟩ := getLast?_trimEnd ⟨c, hstart, hblank⟩
    rw [trim] at hnil
    rw [hnil] at hd
    contradiction

/-- More text does not make a text blank. -/
theorem trim_ne_nil_of_subset {s t : Text} (h : s ⊆ t) (hs : s.trim ≠ []) : t.trim ≠ [] := by
  obtain ⟨c, hc, hblank⟩ := trim_ne_nil_iff.mp hs
  exact trim_ne_nil_iff.mpr ⟨c, h hc, hblank⟩

/-! ## Ends behind a digit -/

/-- An end of a text that stands directly behind a digit. -/
def BehindDigit (s t : Text) : Prop :=
  ∃ u, s = u ++ t ∧ EndsWithDigit u

/-- What stands behind a digit in an end of a text does so in the text. -/
theorem BehindDigit.suffix_trans {s t u : Text} (h : BehindDigit t u) (h' : t <:+ s) :
    BehindDigit s u := by
  obtain ⟨v, rfl, hdigit⟩ := h
  obtain ⟨w, rfl⟩ := h'
  exact ⟨w ++ v, (List.append_assoc w v u).symm, hdigit.append w⟩

/-- A text that ends with a digit has one. -/
theorem EndsWithDigit.alphanumerics_ne_nil {s : Text} (h : EndsWithDigit s) :
    s.alphanumerics ≠ [] := by
  obtain ⟨t, d, rfl, hd⟩ := h
  have hkeep : d.isAlphanum = true := Bool.or_eq_true_iff.mpr (Or.inr hd)
  simp [alphanumerics, hkeep]

/-- Ends behind digits are told apart by their letters and digits. -/
theorem BehindDigit.eq_of_alphanumerics {s t t' : Text} (h : BehindDigit s t)
    (h' : BehindDigit s t') (heq : t.alphanumerics = t'.alphanumerics) : t = t' := by
  -- Between two different ends stands the digit in front of the shorter one.
  have hshorter {u v x : Text} (hu : EndsWithDigit (v ++ x))
      (hsame : alphanumerics (x ++ u) = u.alphanumerics) : x = [] := by
    rw [alphanumerics_append] at hsame
    have hnone : x.alphanumerics = [] := List.append_left_eq_self.mp hsame
    by_contra hne
    obtain ⟨y, d, rfl⟩ := List.eq_nil_or_concat x |>.resolve_left hne
    have hd : d.isDigit = true := hu.isDigit d (by simp)
    exact EndsWithDigit.alphanumerics_ne_nil ⟨y, d, by simp, hd⟩ hnone
  obtain ⟨u, hu, hdigit⟩ := h
  obtain ⟨u', hu', hdigit'⟩ := h'
  rcases List.append_eq_append_iff.mp (hu.symm.trans hu') with ⟨x, rfl, rfl⟩ | ⟨x, rfl, rfl⟩
  · rw [hshorter hdigit' heq, List.nil_append]
  · rw [hshorter hdigit heq.symm, List.nil_append]

/-- The furthest answer along a run is that at an end of the run. -/
theorem exists_run_of_furthest? {α : Type} {p : Char → Bool} {answer : Text → Option α}
    {s : Text} {a : α} (h : furthest? p answer s = some a) :
    ∃ run t, s = run ++ t ∧ (∀ c ∈ run, p c = true) ∧ answer t = some a := by
  induction s with
  | nil => exact ⟨[], [], rfl, by simp, h⟩
  | cons c s ih =>
    rw [furthest?] at h
    by_cases hc : p c = true
    · rw [if_pos hc] at h
      cases hbeyond : furthest? p answer s with
      | some b =>
        rw [hbeyond] at h
        obtain ⟨run, t, rfl, hrun, ht⟩ := ih (hbeyond.trans h)
        exact ⟨c :: run, t, rfl, by simpa [hc] using hrun, ht⟩
      | none =>
        rw [hbeyond] at h
        exact ⟨[], c :: s, rfl, by simp, h⟩
    · rw [if_neg hc] at h
      exact ⟨[], c :: s, rfl, by simp, h⟩

end Text

namespace CallNumber
namespace Lc

open Text (BehindDigit Span leftmost? furthest?)

/-! ## Cutters and gaps -/

section Cutters

variable {s rest : Text}

/-- A cutter at the front is a capital and all the digits behind it. -/
theorem exists_digits_of_skipCutter? (h : skipCutter? s = some rest) :
    ∃ c d digits, s = c :: d :: (digits ++ rest) ∧ c.isUpper = true ∧
      (∀ x ∈ d :: digits, x.isDigit = true) ∧ ∀ x ∈ rest.head?, x.isDigit = false := by
  obtain ⟨c, digits, rfl, hupper, hdigits, hhead⟩ := exists_of_skipCutter? h
  have hend : ∀ x ∈ rest.head?, x.isDigit = false := by
    intro x hx
    rw [skipCutter?, if_pos hupper, skipDigits?, if_pos hhead] at h
    have hnot := List.head?_dropWhile_not Char.isDigit (digits ++ rest)
    rw [Option.some.inj h, hx] at hnot
    simpa using hnot
  cases digits with
  | nil =>
    -- Then the digit of the cutter would be the first character behind it.
    obtain ⟨d, hd, hdigit⟩ := (Option.any_eq_true _ _).mp hhead
    exact absurd hdigit (Bool.eq_false_iff.mp (hend d hd))
  | cons d digits => exact ⟨c, d, digits, rfl, hupper, hdigits, hend⟩

/-- What follows a cutter stands behind a digit. -/
theorem behindDigit_of_skipCutter? (h : skipCutter? s = some rest) : BehindDigit s rest := by
  obtain ⟨c, d, digits, rfl, -, hdigits, -⟩ := exists_digits_of_skipCutter? h
  refine ⟨c :: d :: digits, rfl, Text.EndsWithDigit.cons ?_ c⟩
  exact Text.endsWithDigit_of_forall hdigits (by simp)

/-- An answer behind a cutter is one behind a digit. -/
theorem behindDigit_of_behindCutter? {α : Type} {answer : Text → Option α} {a : α}
    (h : behindCutter? answer s = some a) : ∃ t, BehindDigit s t ∧ answer t = some a := by
  unfold behindCutter? at h
  split at h
  · rename_i c d s
    by_cases hcutter : (c.isUpper && d.isDigit) = true
    · rw [if_pos hcutter] at h
      obtain ⟨run, t, rfl, hrun, ht⟩ := Text.exists_run_of_furthest? h
      refine ⟨t, ⟨c :: d :: run, rfl, Text.EndsWithDigit.cons ?_ c⟩, ht⟩
      apply Text.endsWithDigit_of_forall
      · intro x hx
        rcases List.mem_cons.mp hx with rfl | hx
        · exact (Bool.and_eq_true_iff.mp hcutter).2
        · exact hrun x hx
      · simp
    · rw [if_neg hcutter] at h
      contradiction
  · contradiction

/-- An answer behind the whole of a cutter is the one that counts. -/
theorem behindCutter?_of_skipCutter? {α : Type} {answer : Text → Option α} {a : α}
    (h : skipCutter? s = some rest) (hanswer : answer rest = some a) :
    behindCutter? answer s = some a := by
  obtain ⟨c, d, digits, rfl, hupper, hdigits, hend⟩ := exists_digits_of_skipCutter? h
  have hd : d.isDigit = true := hdigits d (by simp)
  rw [behindCutter?, hupper, hd]
  exact Text.furthest?_append (fun x hx => hdigits x (by simp [hx])) hend hanswer

/-- Spaces do not count among letters and digits. -/
theorem alphanumerics_skipSpaces (s : Text) : (skipSpaces s).alphanumerics = s.alphanumerics :=
  Text.alphanumerics_dropWhile (fun c hc => by rw [beq_iff_eq.mp hc]; rfl) s

/-- Neither does a gap. -/
theorem alphanumerics_skipGap (s : Text) : (skipGap s).alphanumerics = s.alphanumerics := by
  rw [← alphanumerics_skipSpaces s, skipGap]
  cases skipSpaces s with
  | nil => rfl
  | cons c t =>
    rw [Text.dropFirst]
    by_cases hc : c = '.'
    · rw [if_pos hc, hc]
      rfl
    · rw [if_neg hc]

end Cutters

/-! ## Words and pointed cutters -/

/-- A text begins with a word that is no cutter. -/
def BeginsWithWord : Text → Prop
  | [] => False
  | [c] => startsPlainWord c = true
  | c :: d :: _ => startsPlainWord c = true ∨ c.isUpper = true ∧ d.isDigit = false

/-- A text that is not blank stands in front of a pointed cutter on the first line. -/
def HasTextBeforePointed (s : Text) : Prop :=
  ∃ text pointed, s = text ++ pointed ∧ '\n' ∉ text ∧ text.trim ≠ [] ∧
    atPointedCutter pointed = true

/-- A cutter follows, with no more than a gap in front of it. -/
def BeginsWithCutter (s : Text) : Prop :=
  (skipCutter? (skipGap s)).isSome = true

section Words

variable {s : Text}

/-- Passing over as much as possible always succeeds where every end will do. -/
theorem furthest?_some_isSome (p : Char → Bool) (s : Text) :
    (furthest? p some s).isSome = true := by
  induction s with
  | nil => rfl
  | cons c s ih =>
    obtain ⟨t, ht⟩ := Option.isSome_iff_exists.mp ih
    rw [furthest?, ht]
    split <;> rfl

/-- The same for characters other than digits with a word behind them. -/
theorem behindNonDigits?_some_isSome (s : Text) : (behindNonDigits? some s).isSome = true := by
  induction s with
  | nil => rfl
  | cons c s ih =>
    obtain ⟨t, ht⟩ := Option.isSome_iff_exists.mp ih
    rw [behindNonDigits?, ht]
    split
    · exact furthest?_some_isSome isWordChar (c :: s)
    · rfl

/-- A word is passed over exactly where one begins. -/
theorem behindWord?_some_isSome : (behindWord? some s).isSome = true ↔ BeginsWithWord s := by
  match s with
  | [] => simp [behindWord?, BeginsWithWord]
  | [c] =>
    simp only [behindWord?, BeginsWithWord]
    by_cases hplain : startsPlainWord c = true
    · simp [hplain, furthest?]
    · simp [hplain]
  | c :: d :: s =>
    simp only [behindWord?, BeginsWithWord]
    by_cases hplain : startsPlainWord c = true
    · simp [hplain, furthest?_some_isSome]
    · rw [if_neg hplain]
      by_cases hcapital : (c.isUpper && !d.isDigit) = true
      · rw [if_pos hcapital]
        simpa [hplain, behindNonDigits?_some_isSome] using hcapital
      · rw [if_neg hcapital]
        simpa [hplain] using hcapital

/-- Where no word begins, the line decides which pointed cutter ends a part. -/
theorem behindWords_eq_onLine (h : ¬ BeginsWithWord s) :
    (partEnd s).behindWords = (partEnd s).onLine := by
  match s with
  | [] => rfl
  | [c] =>
    have hplain : startsPlainWord c = false := Bool.eq_false_iff.mpr h
    simp [partEnd, hplain]
  | c :: d :: s =>
    obtain ⟨hplain, hcapital⟩ := not_or.mp h
    rw [Bool.not_eq_true] at hplain
    by_cases hupper : c.isUpper = true
    · have hdigit : d.isDigit = true := by
        rw [← Bool.not_eq_false]
        exact fun hd => hcapital ⟨hupper, hd⟩
      have hnone : (partEnd (d :: s)).behindCapital = none := by
        rw [partEnd]
        exact if_pos hdigit
      rw [partEnd.eq_def]
      simp [hplain, hnone]
    · rw [partEnd.eq_def]
      simp [hplain, hupper]

/-- The pointed cutter that ends a line is one on that line. -/
theorem exists_of_onLine {t : Text} (h : (partEnd s).onLine = some t) :
    ∃ text, s = text ++ t ∧ '\n' ∉ text ∧ atPointedCutter t = true := by
  induction s with
  | nil => contradiction
  | cons c s ih =>
    rw [partEnd] at h
    by_cases hline : c = '\n'
    · simp [hline] at h
    · rw [if_neg hline] at h
      rcases Option.or_eq_some_iff.mp h with hnext | ⟨-, hhere⟩
      · obtain ⟨text, rfl, htext, hpointed⟩ := ih hnext
        exact ⟨c :: text, rfl, by simp [Ne.symm hline, htext], hpointed⟩
      · split at hhere
        · rename_i hpointed
          exact ⟨[], Option.some.inj hhere, by simp, Option.some.inj hhere ▸ hpointed⟩
        · contradiction

/-- It is the last one. -/
theorem exists_onLine {text pointed : Text} (hline : '\n' ∉ text)
    (hpointed : atPointedCutter pointed = true) :
    ∃ t, (partEnd (text ++ pointed)).onLine = some t ∧ t <:+ pointed := by
  induction text with
  | nil =>
    cases pointed with
    | nil => contradiction
    | cons c s =>
      have hc : c ≠ '\n' := by
        rintro rfl
        contradiction
      rw [List.nil_append, partEnd]
      cases hnext : (partEnd s).onLine with
      | some t =>
        obtain ⟨u, rfl, -, -⟩ := exists_of_onLine hnext
        exact ⟨t, by simp [hc], (List.suffix_append u t).trans (List.suffix_cons c _)⟩
      | none => exact ⟨c :: s, by simp [hc, hpointed], List.suffix_rfl⟩
  | cons c text ih =>
    obtain ⟨hc, htext⟩ := not_or.mp (mt List.mem_cons.mpr hline)
    obtain ⟨t, ht, hsuffix⟩ := ih htext
    refine ⟨t, ?_, hsuffix⟩
    rw [List.cons_append, partEnd, if_neg (Ne.symm hc), ht, Option.some_or]

/-- Spaces in front of the text do not count. -/
theorem hasTextBeforePointed_skipSpaces (s : Text) :
    HasTextBeforePointed (skipSpaces s) ↔ HasTextBeforePointed s := by
  induction s with
  | nil => rfl
  | cons c s ih =>
    by_cases hc : c = ' '
    · have hskip : skipSpaces (c :: s) = skipSpaces s :=
        List.dropWhile_cons_of_pos (by simp [hc])
      rw [hskip, ih, hc]
      constructor
      · rintro ⟨text, pointed, rfl, hline, htext, hpointed⟩
        have htext' := Text.trim_ne_nil_of_subset (List.subset_cons_self ' ' text) htext
        exact ⟨' ' :: text, pointed, rfl, by simp [hline], htext', hpointed⟩
      · rintro ⟨text, pointed, hsplit, hline, htext, hpointed⟩
        obtain ⟨d, hd, hblank⟩ := Text.trim_ne_nil_iff.mp htext
        cases text with
        | nil => contradiction
        | cons a text =>
          obtain ⟨rfl, rfl⟩ := List.cons.inj hsplit
          -- The text goes on behind the space, because it is not blank.
          rcases List.mem_cons.mp hd with rfl | hd
          · exact absurd hblank (by decide)
          · have htext' := Text.trim_ne_nil_iff.mpr ⟨d, hd, hblank⟩
            exact ⟨text, pointed, rfl, mt (List.mem_cons_of_mem _) hline, htext', hpointed⟩
    · have hskip : skipSpaces (c :: s) = c :: s :=
        List.dropWhile_cons_of_neg (by simpa using hc)
      rw [hskip]

/-- The pointed cutter that ends the line has a text in front of it if any such cutter has. -/
theorem exists_onLine_iff :
    (∃ t, (partEnd s).onLine = some t ∧ (s.before t).trim ≠ []) ↔ HasTextBeforePointed s := by
  constructor
  · rintro ⟨t, ht, htext⟩
    obtain ⟨text, rfl, hline, hpointed⟩ := exists_of_onLine ht
    rw [Text.before_append] at htext
    exact ⟨text, t, rfl, hline, htext, hpointed⟩
  · rintro ⟨text, pointed, rfl, hline, htext, hpointed⟩
    obtain ⟨t, ht, u, rfl⟩ := exists_onLine hline hpointed
    refine ⟨t, ht, ?_⟩
    rw [← List.append_assoc, Text.before_append]
    exact Text.trim_ne_nil_of_subset (List.subset_append_left text u) htext

/-- Where no word begins, a text in front of a pointed cutter is found if there is one that is
not blank. -/
theorem textToPointed?_iff (h : ¬ BeginsWithWord (skipSpaces s)) :
    (∃ span, textToPointed? s = some span ∧ span.text.trim ≠ []) ↔ HasTextBeforePointed s := by
  have hfound : textToPointed? s =
      (partEnd (skipSpaces s)).onLine.map fun rest => ⟨skipSpaces s, rest⟩ := by
    rw [textToPointed?, behindWords_eq_onLine h]
  rw [← hasTextBeforePointed_skipSpaces, ← exists_onLine_iff, hfound]
  constructor
  · rintro ⟨span, hspan, htext⟩
    obtain ⟨t, ht, rfl⟩ := Option.map_eq_some_iff.mp hspan
    exact ⟨t, ht, htext⟩
  · rintro ⟨t, ht, htext⟩
    exact ⟨⟨skipSpaces s, t⟩, by rw [ht, Option.map_some], htext⟩

end Words

/-! ## Reading behind the first cutter -/

/-- What is read behind the first cutter, in one row. -/
def tail (parts : Lc) : Text :=
  parts.firstCutterSuffix.getD [] ++ parts.secondCutter.getD [] ++
    parts.secondCutterSuffix.getD []

/-- A second cutter and its suffix, in one row. -/
def secondTail (second : Option Span) : Text :=
  (second.map Span.text).getD [] ++ (second.bind fun span => span.rest.trim.nonempty?).getD []

section Tail

variable {s rest suffix : Text} {first : Span}

/-- A second cutter and its suffix have the letters and digits from the cutter on. -/
theorem alphanumerics_secondTail {second : Span} (h : second.rest <:+ second.start) :
    (secondTail (some second)).alphanumerics = second.start.alphanumerics := by
  have hsuffix : ((some second).bind fun span => span.rest.trim.nonempty?).getD [] =
      second.rest.trim := Text.getD_nonempty? second.rest.trim
  rw [secondTail, hsuffix, ← Text.Span.text_append_rest h, Option.map_some, Option.getD_some,
    Text.alphanumerics_append, Text.alphanumerics_append, Text.alphanumerics_trim]

/-- The leftmost cutter behind spaces and a point is the one that stands there. -/
theorem exists_cutterIn? (h : atPointedCutter (skipSpaces s) = true) :
    ∃ second, cutterIn? s = some second ∧ second.rest <:+ second.start ∧
      second.start.alphanumerics = s.alphanumerics := by
  induction s with
  | nil => contradiction
  | cons c s ih =>
    have hnone (hc : c.isUpper = false) : cutterIn? (c :: s) = cutterIn? s := by
      apply Text.leftmost?_of_none
      exact asksCutter_all.1 _ (skipCutter?_eq_none (by simpa using hc))
    by_cases hspace : c = ' '
    · subst hspace
      obtain ⟨second, hsecond, hrest, hsame⟩ := ih h
      exact ⟨second, (hnone rfl).trans hsecond, hrest, hsame⟩
    · have hskip : skipSpaces (c :: s) = c :: s :=
        List.dropWhile_cons_of_neg (by simpa using hspace)
      rw [hskip] at h
      obtain rfl : c = '.' := Option.some.inj (head_of_atPointedCutter h)
      obtain ⟨t, ht⟩ := Option.isSome_iff_exists.mp h
      refine ⟨⟨s, t⟩, ?_, (behind_of_skipCutter? ht).suffix, rfl⟩
      rw [hnone rfl]
      exact Text.leftmost?_of_some (by rw [cutterHere?, ht, Option.map_some])

/-- The suffix of the first cutter reaches up to a pointed cutter or to the end. -/
theorem rest_of_cutterSuffix? (h : cutterSuffix? s = some (suffix, rest)) :
    rest = [] ∨ atPointedCutter (skipSpaces rest) = true := by
  cases hword : wordBehindCutter? s with
  | some word =>
    obtain ⟨found, -, hfound, hsuffix⟩ := cutterSuffix?_of_word hword
    rw [hsuffix] at h
    obtain ⟨-, rfl⟩ := Prod.mk.inj (Option.some.inj h)
    exact hfound
  | none =>
    obtain ⟨span, hspan, -, -, rfl⟩ := (cutterSuffix?_of_no_word hword).mp h
    have hpointed := (behind_of_textBeforePointedCutter? hspan).2
    have hskip : skipSpaces span.rest = span.rest := Text.dropWhile_eq_self fun c hc => by
      rw [head_of_atPointedCutter hpointed] at hc
      rw [← Option.some.inj hc]
      rfl
    exact Or.inr (hskip.symm ▸ hpointed)

/-- What is read behind a first cutter that is found. -/
theorem tail_ofUpper (hfirst : firstCutter? s = some first) :
    (ofUpper s).tail = ((cutterSuffix? s).map Prod.fst).getD [] ++
      secondTail (followingCutter? s (cutterSuffix? s)) := by
  have hleading : leadingCutter? s = some first := by rw [leadingCutter?, hfirst, Option.some_or]
  simp only [tail, ofUpper, hleading, Option.bind_some, secondTail, List.append_assoc]

/-- With a suffix, what is read has the letters and digits of the suffix and of what follows. -/
theorem alphanumerics_tail_suffix (hfirst : firstCutter? s = some first)
    (h : cutterSuffix? s = some (suffix, rest)) :
    (ofUpper s).tail.alphanumerics = suffix.alphanumerics ++ rest.alphanumerics := by
  have hfollowing : (secondTail (cutterIn? rest)).alphanumerics = rest.alphanumerics := by
    rcases rest_of_cutterSuffix? h with rfl | hpointed
    · rfl
    · obtain ⟨second, hsecond, hend, hsame⟩ := exists_cutterIn? hpointed
      rw [hsecond, alphanumerics_secondTail hend, hsame]
  rw [tail_ofUpper hfirst, h, Text.alphanumerics_append, followingCutter?, hfollowing]
  rfl

/-- Behind a word everything is read from the word on. -/
theorem alphanumerics_tail_word (hfirst : firstCutter? s = some first) {word : Span}
    (h : wordBehindCutter? s = some word) :
    (ofUpper s).tail.alphanumerics = word.start.alphanumerics := by
  have hword := (start_suffix_of_wordBehindCutter? hfirst h).2
  obtain ⟨rest, hrest, -, hsuffix⟩ := cutterSuffix?_of_word h
  have hfiller : Text.alphanumerics (if (word.rest.before rest).trim.isEmpty then []
      else ' ' :: (word.rest.before rest).trim) = (word.rest.before rest).alphanumerics := by
    rw [← Text.alphanumerics_trim (word.rest.before rest)]
    split
    · rename_i hempty
      rw [List.isEmpty_iff.mp hempty]
    · rfl
  rw [alphanumerics_tail_suffix hfirst hsuffix, Text.alphanumerics_append, hfiller,
    Text.alphanumerics_trim, ← Text.Span.text_append_rest hword, Text.alphanumerics_append,
    List.append_assoc, ← Text.alphanumerics_append (word.rest.before rest),
    Text.before_append_self hrest]

/-- A text in front of a pointed cutter begins behind a digit and ends at that cutter. -/
theorem exists_of_textBeforePointedCutter? {span : Span}
    (h : textBeforePointedCutter? s = some span) :
    ∃ t, BehindDigit s t ∧ textToPointed? t = some span := by
  rw [textBeforePointedCutter?_eq] at h
  obtain ⟨t, ht, hanswer⟩ := exists_mem_headEnds h
  obtain ⟨u, hu, hspan⟩ := behindDigit_of_behindCutter? hanswer
  have hplace := (skipGap_suffix t).trans (behind_of_mem_headEnds ht).suffix
  exact ⟨u, hu.suffix_trans hplace, hspan⟩

/-- A second cutter stands behind a digit and a gap. -/
theorem exists_of_secondCutter? {second : Span} (h : secondCutter? s = some second) :
    ∃ t, BehindDigit s t ∧ cutterHere? (skipGap t) = some second := by
  obtain ⟨t, ht, hanswer⟩ := exists_mem_headEnds h
  obtain ⟨u, hu, hsecond⟩ := Option.bind_eq_some_iff.mp hanswer
  have hplace := (skipGap_suffix t).trans (behind_of_mem_headEnds ht).suffix
  exact ⟨u, (behindDigit_of_skipCutter? hu).suffix_trans hplace, hsecond⟩

/-- A text in front of a pointed cutter is read from where it begins. -/
theorem alphanumerics_tail_pointed (hfirst : firstCutter? s = some first)
    (hword : wordBehindCutter? s = none) {span : Span}
    (hspan : textBeforePointedCutter? s = some span) (hne : span.text.trim ≠ []) :
    (ofUpper s).tail.alphanumerics = span.start.alphanumerics := by
  have hsuffix := (cutterSuffix?_of_no_word hword).mpr ⟨span, hspan, hne, rfl, rfl⟩
  obtain ⟨t, -, ht⟩ := exists_of_textBeforePointedCutter? hspan
  rw [alphanumerics_tail_suffix hfirst hsuffix, Text.alphanumerics_trim,
    ← Text.alphanumerics_append, Text.Span.text_append_rest (exists_of_textToPointed? ht).2.1]

/-- Without a suffix, a second cutter is read from where it begins. -/
theorem alphanumerics_tail_second (hfirst : firstCutter? s = some first)
    (hsuffix : cutterSuffix? s = none) {second : Span} (h : secondCutter? s = some second) :
    (ofUpper s).tail.alphanumerics = second.start.alphanumerics := by
  obtain ⟨t, -, hhere⟩ := exists_of_secondCutter? h
  obtain ⟨rest, hrest, rfl⟩ := Option.map_eq_some_iff.mp hhere
  rw [tail_ofUpper hfirst, hsuffix, followingCutter?, h]
  exact alphanumerics_secondTail (behind_of_skipCutter? hrest).suffix

/-- Without a suffix and a second cutter nothing is read. -/
theorem tail_eq_nil (hfirst : firstCutter? s = some first) (hsuffix : cutterSuffix? s = none)
    (h : secondCutter? s = none) : (ofUpper s).tail = [] := by
  rw [tail_ofUpper hfirst, hsuffix, followingCutter?, h]
  rfl

end Tail

/-! ## Reading from the first cutter on -/

section First

variable {s : Text} {first : Span} (hfirst : firstCutter? s = some first)

include hfirst

/-- A search that asks for a cutter has its answer at the first cutter, if there is one. -/
theorem AsksCutter.search_of_firstCutter? {α : Type} {answer : Text → Option α} {a : α}
    (hasks : AsksCutter answer) (h : answer first.start = some a) :
    leftmost? (behindClass? fun t => answer (skipGap t)) s = some a := by
  rw [firstCutter?, leftmost?_behindClass?_eq_findSome?] at hfirst
  rw [leftmost?_behindClass?_eq_findSome?]
  obtain ⟨before, t, after, hends, hhere, hnone⟩ := List.findSome?_eq_some_iff.mp hfirst
  obtain ⟨rest, -, rfl⟩ := Option.map_eq_some_iff.mp hhere
  refine List.findSome?_eq_some_iff.mpr ⟨before, t, after, hends, h, fun u hu => ?_⟩
  exact hasks _ (Option.map_eq_none_iff.mp (hnone u hu))

/-- The text behind the first cutter stands behind a digit. -/
theorem behindDigit_of_firstCutter? : BehindDigit s first.rest := by
  obtain ⟨hstart, hcutter⟩ := exists_of_firstCutter? hfirst
  exact (behindDigit_of_skipCutter? hcutter).suffix_trans hstart

/-- A word directly behind the first cutter is found. -/
theorem wordBehindCutter?_isSome :
    (wordBehindCutter? s).isSome = true ↔ BeginsWithWord (skipSpaces first.rest) := by
  rw [wordBehindCutter?, behindFirstCutter?_eq_map, hfirst, ← behindWord?_some_isSome,
    Option.map_some, Option.bind_some, Option.isSome_map]

/-- A text in front of a pointed cutter is found behind the first cutter. -/
theorem textBeforePointedCutter?_of_first {span : Span}
    (h : textToPointed? first.rest = some span) : textBeforePointedCutter? s = some span := by
  have hcutter := (exists_of_firstCutter? hfirst).2
  rw [textBeforePointedCutter?_eq]
  exact asksCutter_all.2.2.2.search_of_firstCutter? hfirst (behindCutter?_of_skipCutter? hcutter h)

/-- A cutter directly behind the first one is found. -/
theorem secondCutter?_of_first (h : BeginsWithCutter first.rest) :
    ∃ second, secondCutter? s = some second ∧
      second.start.alphanumerics = first.rest.alphanumerics := by
  have hcutter := (exists_of_firstCutter? hfirst).2
  obtain ⟨rest, hrest⟩ := Option.isSome_iff_exists.mp h
  refine ⟨⟨skipGap first.rest, rest⟩, ?_, alphanumerics_skipGap first.rest⟩
  apply asksCutter_all.2.2.1.search_of_firstCutter? hfirst
  rw [cutterBehindCutter?, hcutter, Option.bind_some, cutterHere?, hrest, Option.map_some]

/-! ## When everything is kept -/

/-- A word behind the first cutter is read with everything that follows it. -/
theorem alphanumerics_tail_of_word (h : BeginsWithWord (skipSpaces first.rest)) :
    (ofUpper s).tail.alphanumerics = first.rest.alphanumerics := by
  obtain ⟨word, hword⟩ :=
    Option.isSome_iff_exists.mp ((wordBehindCutter?_isSome hfirst).mpr h)
  have hstart : word.start = skipSpaces first.rest := by
    obtain ⟨start, hstart, hend⟩ := Option.bind_eq_some_iff.mp hword
    rw [behindFirstCutter?_eq_map, hfirst] at hstart
    obtain ⟨rest, -, rfl⟩ := Option.map_eq_some_iff.mp hend
    exact (Option.some.inj hstart).symm
  rw [alphanumerics_tail_word hfirst hword, hstart, alphanumerics_skipSpaces]

/-- Where no word begins, no word is found. -/
theorem wordBehindCutter?_eq_none (h : ¬ BeginsWithWord (skipSpaces first.rest)) :
    wordBehindCutter? s = none := by
  rw [← Option.not_isSome_iff_eq_none, wordBehindCutter?_isSome hfirst]
  exact h

/-- Whatever else is read has to begin behind the first cutter, or there is nothing to keep. -/
theorem reads_from_first_of_kept (h : ¬ BeginsWithWord (skipSpaces first.rest))
    (hkept : (ofUpper s).tail.alphanumerics = first.rest.alphanumerics) :
    HasTextBeforePointed first.rest ∨ cutterSuffix? s = none ∧
      (BeginsWithCutter first.rest ∨
        secondCutter? s = none ∧ first.rest.alphanumerics = []) := by
  have hbehind := behindDigit_of_firstCutter? hfirst
  have hword := wordBehindCutter?_eq_none hfirst h
  cases hsuffix : cutterSuffix? s with
  | some found =>
    obtain ⟨span, hspan, hne, -, -⟩ := (cutterSuffix?_of_no_word hword).mp hsuffix
    obtain ⟨t, ht, htext⟩ := exists_of_textBeforePointedCutter? hspan
    have hstart : span.start.alphanumerics = t.alphanumerics := by
      rw [(exists_of_textToPointed? htext).1, alphanumerics_skipSpaces]
    rw [alphanumerics_tail_pointed hfirst hword hspan hne, hstart] at hkept
    obtain rfl := ht.eq_of_alphanumerics hbehind hkept
    exact Or.inl ((textToPointed?_iff h).mp ⟨span, htext, hne⟩)
  | none =>
    refine Or.inr ⟨rfl, ?_⟩
    cases hcutter : secondCutter? s with
    | some second =>
      obtain ⟨t, ht, hhere⟩ := exists_of_secondCutter? hcutter
      obtain ⟨rest, hrest, rfl⟩ := Option.map_eq_some_iff.mp hhere
      rw [alphanumerics_tail_second hfirst hsuffix hcutter, alphanumerics_skipGap] at hkept
      obtain rfl := ht.eq_of_alphanumerics hbehind hkept
      exact Or.inl (Option.isSome_iff_exists.mpr ⟨rest, hrest⟩)
    | none =>
      rw [tail_eq_nil hfirst hsuffix hcutter] at hkept
      exact Or.inr ⟨rfl, hkept.symm⟩

/-- Exactly when what is read has all letters and digits behind the first cutter. -/
theorem alphanumerics_tail_iff :
    (ofUpper s).tail.alphanumerics = first.rest.alphanumerics ↔
      BeginsWithWord (skipSpaces first.rest) ∨ HasTextBeforePointed first.rest ∨
      cutterSuffix? s = none ∧
        (BeginsWithCutter first.rest ∨
          secondCutter? s = none ∧ first.rest.alphanumerics = []) := by
  by_cases h : BeginsWithWord (skipSpaces first.rest)
  · exact ⟨fun _ => Or.inl h, fun _ => alphanumerics_tail_of_word hfirst h⟩
  · constructor
    · intro hkept
      exact Or.inr (reads_from_first_of_kept hfirst h hkept)
    · intro hread
      rcases hread.resolve_left h with hpointed | ⟨hsuffix, hcutter | ⟨hsecond, hnothing⟩⟩
      · obtain ⟨span, htext, hne⟩ := (textToPointed?_iff h).mpr hpointed
        have hspan := textBeforePointedCutter?_of_first hfirst htext
        rw [alphanumerics_tail_pointed hfirst (wordBehindCutter?_eq_none hfirst h) hspan hne,
          (exists_of_textToPointed? htext).1, alphanumerics_skipSpaces]
      · obtain ⟨second, hsecond, hsame⟩ := secondCutter?_of_first hfirst hcutter
        rw [alphanumerics_tail_second hfirst hsuffix hsecond, hsame]
      · rw [tail_eq_nil hfirst hsuffix hsecond, hnothing]
        rfl

/-- Where the first cutter cannot be mistaken, everything that is read begins behind it. -/
theorem reads_nothing_of_plainHead (hplain : HasPlainHead s)
    (h : ¬ BeginsWithWord (skipSpaces first.rest)) (hpointed : ¬ HasTextBeforePointed first.rest) :
    cutterSuffix? s = none ∧ (first.rest.alphanumerics = [] → secondCutter? s = none) := by
  have hword := wordBehindCutter?_eq_none hfirst h
  obtain ⟨hline, hjoints⟩ := hplain.resolve_left (by simp [hword])
  have hjoint := hjoints first hfirst
  constructor
  · cases hsuffix : cutterSuffix? s with
    | none => rfl
    | some found =>
      obtain ⟨span, hspan, hne, -, -⟩ := (cutterSuffix?_of_no_word hword).mp hsuffix
      obtain ⟨⟨a, ha⟩, hrest⟩ :=
        start_suffix_of_textBeforePointedCutter? hfirst hjoint hline hspan
      have hend : first.rest <:+ s := by
        obtain ⟨u, hu, -⟩ := behindDigit_of_firstCutter? hfirst
        exact ⟨u, hu.symm⟩
      have hsplit : first.rest = a ++ span.text ++ span.rest := by
        rw [← ha, ← Text.Span.text_append_rest hrest, List.append_assoc]
      refine absurd ⟨a ++ span.text, span.rest, hsplit, ?_, ?_,
        (behind_of_textBeforePointedCutter? hspan).2⟩ hpointed
      · intro hmem
        exact hline (hend.subset (hsplit ▸ List.mem_append_left _ hmem))
      · exact Text.trim_ne_nil_of_subset (List.subset_append_right a span.text) hne
  · intro hnothing
    cases hcutter : secondCutter? s with
    | none => rfl
    | some second =>
      obtain ⟨hstart, hskip⟩ := start_suffix_of_secondCutter? hfirst hjoint hcutter
      obtain ⟨c, d, digits, hcons, hupper, -, -⟩ := exists_digits_of_skipCutter? hskip
      have hc : c ∈ first.rest := hstart.subset (by simp [hcons])
      have hkeep : c.isAlphanum = true :=
        Bool.or_eq_true_iff.mpr (Or.inl (Bool.or_eq_true_iff.mpr (Or.inl hupper)))
      have hmem : c ∈ first.rest.alphanumerics := List.mem_filter.mpr ⟨hc, hkeep⟩
      rw [hnothing] at hmem
      contradiction

/-- Where the first cutter cannot be mistaken, all letters and digits behind it are kept unless
something else stands there than a word, a cutter, or a text in front of a pointed cutter. -/
theorem alphanumerics_tail_iff_of_plainHead (hplain : HasPlainHead s) :
    (ofUpper s).tail.alphanumerics = first.rest.alphanumerics ↔
      BeginsWithWord (skipSpaces first.rest) ∨ HasTextBeforePointed first.rest ∨
        BeginsWithCutter first.rest ∨ first.rest.alphanumerics = [] := by
  rw [alphanumerics_tail_iff hfirst]
  by_cases h : BeginsWithWord (skipSpaces first.rest)
  · simp [h]
  · by_cases hpointed : HasTextBeforePointed first.rest
    · simp [hpointed]
    · obtain ⟨hsuffix, hsecond⟩ := reads_nothing_of_plainHead hfirst hplain h hpointed
      simp only [h, hpointed, hsuffix, false_or, true_and]
      exact or_congr_right ⟨fun hboth => hboth.2, fun hnothing => ⟨hsecond hnothing, hnothing⟩⟩

end First

/-- The letters and digits behind the first cutter are all kept, each once and in their order,
exactly when a word follows the cutter, or a text that is not blank stands between it and a
pointed cutter on the same line, or no suffix is read and either another cutter follows or there
is nothing to keep and nothing is read.  If the first cutter cannot be mistaken, it is enough
that a word, another cutter, such a text, or nothing follows. -/
theorem parse_keeps_tail (raw : Text) {first : Span}
    (hfirst : firstCutter? raw.trim.upper = some first) :
    ((parse raw).tail.alphanumerics = first.rest.alphanumerics ↔
      BeginsWithWord (skipSpaces first.rest) ∨ HasTextBeforePointed first.rest ∨
      (parse raw).firstCutterSuffix = none ∧
        (BeginsWithCutter first.rest ∨
          (parse raw).secondCutter = none ∧ first.rest.alphanumerics = [])) ∧
    (HasPlainHead raw.trim.upper →
      ((parse raw).tail.alphanumerics = first.rest.alphanumerics ↔
        BeginsWithWord (skipSpaces first.rest) ∨ HasTextBeforePointed first.rest ∨
          BeginsWithCutter first.rest ∨ first.rest.alphanumerics = [])) := by
  refine ⟨?_, fun hplain => alphanumerics_tail_iff_of_plainHead hfirst hplain⟩
  have hleading : leadingCutter? raw.trim.upper = some first := by
    rw [leadingCutter?, hfirst, Option.some_or]
  have hsuffix : (parse raw).firstCutterSuffix = none ↔ cutterSuffix? raw.trim.upper = none := by
    simp only [parse, ofUpper, hleading, Option.bind_some, Option.map_eq_none_iff]
  have hsecond (hnone : cutterSuffix? raw.trim.upper = none) :
      (parse raw).secondCutter = none ↔ secondCutter? raw.trim.upper = none := by
    simp only [parse, ofUpper, hleading, Option.bind_some, Option.map_eq_none_iff, hnone,
      followingCutter?]
  rw [parse, alphanumerics_tail_iff hfirst, ← parse, hsuffix]
  refine or_congr_right (or_congr_right (and_congr_right fun hnone => ?_))
  rw [hsecond hnone]

/-- All letters and digits between and behind the cutters of a call number are kept. -/
theorem severalParts_keeps_tail :
    firstCutter? severalParts.trim.upper =
        some ⟨"A3 E4 .B5 1925".toList, " E4 .B5 1925".toList⟩ ∧
      (parse severalParts).tail.alphanumerics = "E4B51925".toList := by
  have hfirst : firstCutter? severalParts.trim.upper =
      some ⟨"A3 E4 .B5 1925".toList, " E4 .B5 1925".toList⟩ := by decide +kernel
  refine ⟨hfirst, ((parse_keeps_tail severalParts hfirst).1.mpr (Or.inr (Or.inl ?_))).trans ?_⟩
  · exact ⟨" E4 ".toList, ".B5 1925".toList, by decide, by decide, by decide +kernel,
      by decide +kernel⟩
  · decide +kernel

/-- A call number with a single letter behind its cutter. -/
def finalLetter : Text :=
  "QA76 .B3 C".toList

/-- The letter is lost: the call number is read as the one without it. -/
theorem finalLetter_lost :
    firstCutter? finalLetter.trim.upper = some ⟨"B3 C".toList, " C".toList⟩ ∧
      (parse finalLetter).tail.alphanumerics ≠ Text.alphanumerics " C".toList ∧
      parse finalLetter = parse "QA76 .B3".toList := by
  decide +kernel

end Lc
end CallNumber
end Shelfmark
