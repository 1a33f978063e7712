import Shelfmark.Proofs.CallNumber.Lc.Written
import Shelfmark.Proofs.NaturalOrder

/-!
# Call numbers - What spacing leaves out

Without periods and spaces a written call number is a row of capitals and digits, its signs, and
the text behind the last cutter.  A cutter begins where the next digit directly follows a
capital, so the cutters are still found in that row.  What cannot be seen in it is how the
digits in front of a cutter are divided: among a number, its fraction and a suffix, or between
the first cutter and a suffix.  Once that is known, the signs determine the call number, up to
its spacing.

Main results:

- Theorem `Written.counted_text`: the characters of a written call number that count.
- Theorem `append_inj_of_joints`: a cutter is found behind signs without joints.
- Theorem `standard_text_eq`: call numbers with the same signs and the same division of them are
  the same in standard spacing.
-/

namespace Shelfmark

namespace Text

/-- Texts that begin with a run of one kind and go on with another kind begin with the same
run. -/
theorem append_inj_of_run {p : Char → Bool} {s t u v : Text} (hs : ∀ c ∈ s, p c = true)
    (hu : ∀ c ∈ u, p c = true) (ht : ∀ c ∈ t.head?, p c = false)
    (hv : ∀ c ∈ v.head?, p c = false) (h : s ++ t = u ++ v) : s = u ∧ t = v := by
  obtain ⟨htake, hdrop⟩ := takeWhile_run hs ht
  rw [h] at htake hdrop
  obtain ⟨htake', hdrop'⟩ := takeWhile_run hu hv
  exact ⟨htake.symm.trans htake', hdrop.symm.trans hdrop'⟩

/-- Texts that may be absent and are not empty can be told from what is written. -/
theorem getD_inj {s t : Option Text} (hs : ∀ u ∈ s, u ≠ []) (ht : ∀ u ∈ t, u ≠ [])
    (h : s.getD [] = t.getD []) : s = t := by
  cases s with
  | none =>
    cases t with
    | none => rfl
    | some v => exact absurd h.symm (ht v rfl)
  | some u =>
    cases t with
    | none => exact absurd h (hs u rfl)
    | some v => exact congrArg some h

/-- The lengths of texts that may be absent. -/
theorem length_getD {s t : Option Text} (h : s.map List.length = t.map List.length) :
    (s.getD []).length = (t.getD []).length := by
  have hlength (u : Option Text) : (u.getD []).length = (u.map List.length).getD 0 := by
    cases u <;> rfl
  rw [hlength, hlength, h]

end Text

namespace CallNumber
namespace Lc

open NaturalOrder (counted counted_append counted_eq_self counted_spaces isIgnorable_of_isDigit
  isIgnorable_of_isUpper)

/-! ## Signs -/

/-- The word between two cutters. -/
def WrittenEnding.between : WrittenEnding → Option Text
  | dated suffix _ _ _ => some suffix.word
  | _ => none

/-- The second cutter. -/
def WrittenEnding.second : WrittenEnding → Text
  | trailer _ => []
  | cutter _ c _ _ => c.text
  | dated _ _ c _ => c.text

/-- The signs of a first cutter and of what follows it. -/
def WrittenTail.signs (tail : WrittenTail) : Text :=
  tail.cutter.letter ::
    (tail.cutter.digits.text ++ tail.ending.between.getD [] ++ tail.ending.second)

/-- The signs behind the class letters, up to the first cutter. -/
def Written.classSigns (written : Written) : Text :=
  written.number.whole.text ++ ((written.number.fraction.map Digits.text).getD [] ++
    (written.suffix.map Suffix.word).getD [])

/-- The capitals and digits of a written call number. -/
def Written.signs (written : Written) : Text :=
  written.number.letters ++ (written.classSigns ++ (written.tail.map WrittenTail.signs).getD [])

/-- The text behind the last cutter, with at most one space in front of it. -/
def Written.trailing (written : Written) : Option Text :=
  written.trailer?.map fun trailer => trailer.standard.text

/-- How many signs belong to the class number in front of its point, to the suffix behind it, and
to the suffix between the cutters. -/
structure Division where
  whole : Nat
  suffix : Option Nat
  between : Option Nat
  deriving DecidableEq

/-- How the signs of a written call number are divided. -/
def Written.division (written : Written) : Division where
  whole := written.number.whole.text.length
  suffix := (written.suffix.map Suffix.word).map List.length
  between := written.tail.bind fun tail => tail.ending.between.map List.length

/-- The signs are capitals and digits. -/
theorem Written.capitalOrDigit (written : Written) :
    ∀ c ∈ written.signs, c.isUpper ∨ c.isDigit := by
  have hdigits (digits : Digits) : ∀ c ∈ digits.text, c.isUpper ∨ c.isDigit :=
    fun c hc => Or.inr (digits.isDigit c hc)
  have hcutter (cutter : Cutter) : ∀ c ∈ cutter.text, c.isUpper ∨ c.isDigit :=
    List.forall_mem_cons.mpr ⟨Or.inl cutter.isUpper, hdigits cutter.digits⟩
  have hfraction : ∀ c ∈ (written.number.fraction.map Digits.text).getD [],
      c.isUpper ∨ c.isDigit := by
    cases written.number.fraction with
    | none => simp
    | some fraction => exact hdigits fraction
  have hsuffix : ∀ c ∈ (written.suffix.map Suffix.word).getD [], c.isUpper ∨ c.isDigit := by
    cases written.suffix with
    | none => simp
    | some suffix => exact suffix.capitalOrDigit
  have hending (ending : WrittenEnding) :
      ∀ c ∈ ending.between.getD [] ++ ending.second, c.isUpper ∨ c.isDigit := by
    cases ending with
    | trailer t => simp [WrittenEnding.between, WrittenEnding.second]
    | cutter _ c _ _ => exact hcutter c
    | dated suffix _ c _ => exact List.forall_mem_append.mpr ⟨suffix.capitalOrDigit, hcutter c⟩
  have htail : ∀ c ∈ (written.tail.map WrittenTail.signs).getD [], c.isUpper ∨ c.isDigit := by
    cases written.tail with
    | none => simp
    | some tail =>
      have hrest := List.forall_mem_append.mpr ⟨hdigits tail.cutter.digits, hending tail.ending⟩
      rw [← List.append_assoc] at hrest
      exact List.forall_mem_cons.mpr ⟨Or.inl tail.cutter.isUpper, hrest⟩
  have hclass := List.forall_mem_append.mpr ⟨hdigits written.number.whole,
    List.forall_mem_append.mpr ⟨hfraction, hsuffix⟩⟩
  exact List.forall_mem_append.mpr ⟨fun c hc => Or.inl (written.number.isUpper c hc),
    List.forall_mem_append.mpr ⟨hclass, htail⟩⟩

/-! ## Counted characters -/

/-- A gap does not count. -/
theorem Gap.counted_text (gap : Gap) : counted gap.text = [] := by
  have hpoint : counted gap.pointText = [] := by
    unfold pointText
    split <;> rfl
  rw [text, counted_append, counted_spaces, hpoint, List.append_nil]

/-- Capitals and digits count. -/
theorem counted_capitalOrDigit {s : Text} (h : ∀ c ∈ s, c.isUpper ∨ c.isDigit) : counted s = s :=
  counted_eq_self fun c hc => (h c hc).elim isIgnorable_of_isUpper isIgnorable_of_isDigit

/-- Digits count. -/
theorem Digits.counted_text (digits : Digits) : counted digits.text = digits.text :=
  counted_capitalOrDigit fun c hc => Or.inr (digits.isDigit c hc)

/-- A cutter counts. -/
theorem Cutter.counted_text (cutter : Cutter) : counted cutter.text = cutter.text :=
  counted_capitalOrDigit (List.forall_mem_cons.mpr
    ⟨Or.inl cutter.isUpper, fun c hc => Or.inr (cutter.digits.isDigit c hc)⟩)

/-- The word of a suffix counts. -/
theorem Suffix.counted_text (suffix : Suffix) : counted suffix.text = suffix.word := by
  rw [text, counted_append, counted_spaces, counted_capitalOrDigit suffix.capitalOrDigit,
    List.nil_append]

/-- Of a class number everything but the point counts. -/
theorem ClassNumber.counted_text (number : ClassNumber) : counted number.text =
    number.letters ++ (number.whole.text ++ (number.fraction.map Digits.text).getD []) := by
  have hletters : counted number.letters = number.letters :=
    counted_capitalOrDigit fun c hc => Or.inl (number.isUpper c hc)
  have hdigits : counted number.digits =
      number.whole.text ++ (number.fraction.map Digits.text).getD [] := by
    unfold digits Number.decimalText
    cases number.fraction with
    | none => rw [Option.map_none, number.whole.counted_text]; simp
    | some fraction =>
      have hpoint : counted ('.' :: fraction.text) = fraction.text := fraction.counted_text
      simp only [Option.map_some, Option.getD_some, counted_append, number.whole.counted_text, hpoint]
  rw [text, counted_append, hletters, hdigits]

/-- In standard spacing the same characters of a last text count. -/
theorem Trailer.counted_standard (trailer : Trailer) :
    counted trailer.standard.text = counted trailer.text := by
  simp only [text, standard, counted_append, counted_spaces]

/-- The characters that count behind a first cutter. -/
theorem WrittenEnding.counted_text (ending : WrittenEnding) : counted ending.text =
    ending.between.getD [] ++ (ending.second ++ counted ending.last.standard.text) := by
  cases ending with
  | trailer t => exact t.counted_standard.symm
  | cutter gap c t unpointed =>
    simp only [text, counted_append, gap.counted_text, c.counted_text, last, t.counted_standard]
    rfl
  | dated suffix spaces c t =>
    simp only [text, counted_append, suffix.counted_text, Gap.counted_text, c.counted_text, last,
      t.counted_standard]
    rfl

/-- The characters of a written call number that count: its signs, and then the text behind the
last cutter. -/
theorem Written.counted_text (written : Written) :
    counted written.text = written.signs ++ counted (written.trailing.getD []) := by
  have hsuffix : counted (suffixText written.suffix) =
      (written.suffix.map Suffix.word).getD [] := by
    cases written.suffix with
    | none => rfl
    | some suffix => exact suffix.counted_text
  have htail : counted ((written.tail.map WrittenTail.text).getD []) =
      (written.tail.map WrittenTail.signs).getD [] ++ counted (written.trailing.getD []) := by
    unfold trailing trailer?
    cases written.tail with
    | none => rfl
    | some tail =>
      simp only [Option.map_some, Option.getD_some, WrittenTail.text, counted_append,
        tail.gap.counted_text, tail.cutter.counted_text, tail.ending.counted_text]
      simp [WrittenTail.signs, Cutter.text]
  simp only [text, counted_append, written.number.counted_text, hsuffix, htail, signs, classSigns,
    List.append_assoc]

/-! ## Where a cutter begins -/

/-- A text that is empty or begins with a capital that a digit directly follows. -/
def CutterOrEnd (s : Text) : Prop :=
  ∀ c t, s = c :: t → c.isUpper = true ∧ t.head?.any Char.isDigit = true

/-- A cutter begins with its letter. -/
theorem Cutter.cutterOrEnd (cutter : Cutter) (t : Text) : CutterOrEnd (cutter.text ++ t) := by
  intro c u h
  obtain ⟨rfl, rfl⟩ := List.cons.inj h
  exact ⟨cutter.isUpper, cutter.digits.head?_any t⟩

/-- Nothing stands in front of the first joint of a text that begins with one. -/
theorem CutterOrEnd.eq_nil {s t : Text} (hst : CutterOrEnd (s ++ t)) (ht : CutterOrEnd t)
    (hs : joints s = 0) : s = [] := by
  cases s with
  | nil => rfl
  | cons c s =>
    obtain ⟨hupper, hdigit⟩ := hst c (s ++ t) rfl
    cases s with
    | nil =>
      -- The digit would be the first character of `t`, but that is a capital.
      cases t with
      | nil => exact absurd hdigit (by simp)
      | cons d t =>
        have hd : d.isDigit = true := hdigit
        rw [Character.isDigit_of_isUpper (ht d t rfl).1] at hd
        contradiction
    | cons d s =>
      have hd : d.isDigit = true := hdigit
      simp [joints, hupper, hd] at hs

/-- Texts without joints in front of a cutter are the same where the whole texts are. -/
theorem append_inj_of_joints {s t u v : Text} (hs : joints s = 0) (hu : joints u = 0)
    (ht : CutterOrEnd t) (hv : CutterOrEnd v) (h : s ++ t = u ++ v) : s = u ∧ t = v := by
  induction s generalizing u with
  | nil =>
    obtain rfl : u = [] := CutterOrEnd.eq_nil (h ▸ ht) hv hu
    exact ⟨rfl, h⟩
  | cons c s ih =>
    cases u with
    | nil => exact absurd (CutterOrEnd.eq_nil (h ▸ hv) ht hs) (by simp)
    | cons d u =>
      rw [joints] at hs hu
      obtain ⟨rfl, hrest⟩ := List.cons.inj h
      obtain ⟨rfl, rfl⟩ := ih (by omega) (by omega) hrest
      exact ⟨rfl, rfl⟩

/-- There is no joint in a class behind its letters. -/
theorem Written.joints_classSigns (written : Written) : joints written.classSigns = 0 := by
  have hsuffix : joints ((written.suffix.map Suffix.word).getD []) = 0 := by
    cases written.suffix with
    | none => rfl
    | some suffix => exact suffix.unjointed
  rw [classSigns, Digits.joints_append]
  cases written.number.fraction with
  | none => exact hsuffix
  | some fraction => exact (fraction.joints_append _).trans hsuffix

/-- There is no joint in a word between two cutters. -/
theorem WrittenEnding.joints_between (ending : WrittenEnding) :
    joints (ending.between.getD []) = 0 := by
  cases ending with
  | trailer t => rfl
  | cutter _ c _ _ => rfl
  | dated suffix _ c _ => exact suffix.unjointed

/-- Behind the word between two cutters stands the second, if there is one. -/
theorem WrittenEnding.cutterOrEnd_second (ending : WrittenEnding) : CutterOrEnd ending.second := by
  have hcutter (c : Cutter) : CutterOrEnd c.text := by
    have h := c.cutterOrEnd []
    rwa [List.append_nil] at h
  cases ending with
  | trailer t => exact fun c t h => absurd h (by simp [second])
  | cutter _ c _ _ => exact hcutter c
  | dated _ _ c _ => exact hcutter c

/-- Behind the signs of a class stands the first cutter, if there is one. -/
theorem cutterOrEnd_signs (tail : Option WrittenTail) :
    CutterOrEnd ((tail.map WrittenTail.signs).getD []) := by
  cases tail with
  | none => exact fun c t h => absurd h (by simp)
  | some tail =>
    have h := tail.cutter.cutterOrEnd (tail.ending.between.getD [] ++ tail.ending.second)
    rw [Cutter.text, List.cons_append, ← List.append_assoc] at h
    exact h

/-! ## Standard spacing from the signs -/

/-- The word between two cutters is not empty. -/
theorem WrittenEnding.between_ne_nil (ending : WrittenEnding) :
    ∀ word ∈ ending.between, word ≠ [] := by
  cases ending with
  | trailer t => simp [between]
  | cutter _ c _ _ => simp [between]
  | dated suffix _ c _ => exact fun word h => Option.some.inj h ▸ suffix.word_ne_nil

/-- A word between two cutters, with the space in front of it and the point behind it. -/
def pointedWord (word : Option Text) : Text :=
  (word.map fun signs => ' ' :: (signs ++ ['.'])).getD []

/-- What stands behind a first cutter in standard spacing. -/
theorem WrittenEnding.text_standard (ending : WrittenEnding) : ending.standard.text =
    pointedWord ending.between ++ (ending.second ++ ending.last.standard.text) := by
  cases ending with
  | trailer t => rfl
  | cutter gap c t unpointed => rfl
  | dated suffix spaces c t =>
    simp [standard, text, pointedWord, between, Suffix.text, Suffix.standard, Gap.text,
      Gap.pointText, second, last]

/-- A first cutter and what follows it are the same in standard spacing where the signs, the
length of the word between the cutters and the last text are. -/
theorem WrittenTail.text_standard_congr {a b : WrittenTail} (hsigns : a.signs = b.signs)
    (hbetween : a.ending.between.map List.length = b.ending.between.map List.length)
    (hlast : a.ending.last.standard.text = b.ending.last.standard.text) :
    a.standard.text = b.standard.text := by
  have hjoints (tail : WrittenTail) :
      joints (tail.cutter.digits.text ++ tail.ending.between.getD []) = 0 :=
    (tail.cutter.digits.joints_append _).trans tail.ending.joints_between
  obtain ⟨hletter, hsigns⟩ := List.cons.inj hsigns
  obtain ⟨hfront, hsecond⟩ := append_inj_of_joints (hjoints a) (hjoints b)
    a.ending.cutterOrEnd_second b.ending.cutterOrEnd_second hsigns
  obtain ⟨hdigits, hword⟩ := List.append_inj' hfront (Text.length_getD hbetween)
  have hbetween := Text.getD_inj a.ending.between_ne_nil b.ending.between_ne_nil hword
  have htext (tail : WrittenTail) : tail.standard.text =
      '.' :: (tail.cutter.letter :: tail.cutter.digits.text ++ (pointedWord tail.ending.between ++
        (tail.ending.second ++ tail.ending.last.standard.text))) := by
    rw [← tail.ending.text_standard]
    rfl
  rw [htext, htext, hletter, hdigits, hbetween, hsecond, hlast]

/-- A class number and a suffix are the same in standard spacing where the letters, the signs and
their division are. -/
theorem classText_standard_congr {a b : Written} (hletters : a.number.letters = b.number.letters)
    (hsigns : a.classSigns = b.classSigns) (hwhole : a.division.whole = b.division.whole)
    (hsuffix : a.division.suffix = b.division.suffix) : a.number.text = b.number.text ∧
      suffixText (a.suffix.map Suffix.standard) = suffixText (b.suffix.map Suffix.standard) := by
  obtain ⟨hwhole, hrest⟩ := List.append_inj hsigns hwhole
  obtain ⟨hfraction, hword⟩ := List.append_inj' hrest (Text.length_getD hsuffix)
  have hne (fraction : Option Digits) : ∀ s ∈ fraction.map Digits.text, s ≠ [] := by
    cases fraction with
    | none => simp
    | some fraction => exact fun s h => Option.some.inj h ▸ fraction.ne_nil
  have hne' (suffix : Option Suffix) : ∀ s ∈ suffix.map Suffix.word, s ≠ [] := by
    cases suffix with
    | none => simp
    | some suffix => exact fun s h => Option.some.inj h ▸ suffix.word_ne_nil
  constructor
  · unfold ClassNumber.text ClassNumber.digits
    rw [hletters, hwhole, Text.getD_inj (hne _) (hne _) hfraction]
  · have htext (suffix : Option Suffix) : suffixText (suffix.map Suffix.standard) =
        ((suffix.map Suffix.word).map (' ' :: ·)).getD [] := by
      cases suffix <;> rfl
    rw [htext, htext, Text.getD_inj (hne' _) (hne' _) hword]

/-- The signs of a class begin with a digit. -/
theorem Written.head_classSigns (written : Written) (t : Text) :
    ∀ c ∈ (written.classSigns ++ t).head?, c.isUpper = false := by
  intro c hc
  rw [classSigns, List.append_assoc] at hc
  exact (written.number.whole.head_append _ c hc).1

/-- Call numbers with the same signs, the same division of them and the same text behind the last
cutter are the same in standard spacing. -/
theorem standard_text_eq {a b : Written} (hsigns : a.signs = b.signs)
    (hdivision : a.division = b.division) (htrailing : a.trailing = b.trailing) :
    a.standard.text = b.standard.text := by
  obtain ⟨hletters, hrest⟩ := Text.append_inj_of_run a.number.isUpper b.number.isUpper
    (a.head_classSigns _) (b.head_classSigns _) hsigns
  obtain ⟨hclass, htails⟩ := append_inj_of_joints a.joints_classSigns b.joints_classSigns
    (cutterOrEnd_signs a.tail) (cutterOrEnd_signs b.tail) hrest
  obtain ⟨hnumber, hsuffix⟩ := classText_standard_congr hletters hclass
    (congrArg Division.whole hdivision) (congrArg Division.suffix hdivision)
  have hbetween := congrArg Division.between hdivision
  have htail : ((a.tail.map WrittenTail.standard).map WrittenTail.text).getD [] =
      ((b.tail.map WrittenTail.standard).map WrittenTail.text).getD [] := by
    unfold Written.trailing Written.trailer? at htrailing
    unfold Written.division at hbetween
    cases ha : a.tail with
    | none =>
      cases hb : b.tail with
      | none => rfl
      | some tail => simp [ha, hb] at htrailing
    | some tail =>
      cases hb : b.tail with
      | none => simp [ha, hb] at htrailing
      | some tail' =>
        rw [ha, hb] at htails htrailing hbetween
        exact WrittenTail.text_standard_congr htails hbetween (Option.some.inj htrailing)
  unfold Written.text Written.standard
  rw [hnumber, hsuffix, htail]

end Lc
end CallNumber
end Shelfmark
