import Mathlib.Data.List.TakeWhile
import Shelfmark.Proofs.Character.Case
import Shelfmark.Text.Basic

/-!
# Text - White space at the ends and capitals

Before a call number is read it is trimmed and put into capitals.  Neither changes
a text that already consists of capitals, digits, points and inner spaces.

Main results:

- Theorem `trim_eq_self`: a text whose first and last characters are no blanks is
  its own trimmed form.
- Theorem `trim_append_blank`: blanks at the end do not count.
- Theorem `isTrimmed_trim`: a trimmed text neither begins nor ends with a blank.
- Theorem `upper_eq_self`: a text of ASCII characters without small letters is its
  own form in capitals.
-/

namespace Shelfmark

/-! ## Blank and plain characters -/

namespace Character

/-- A space is a blank. -/
@[simp] theorem isBlank_space : isBlank ' ' = true := by
  decide

/-- A point is no blank. -/
@[simp] theorem isBlank_point : isBlank '.' = false := by
  decide

/-- From the exclamation mark to the tilde there is no blank. -/
theorem isBlank_eq_false {c : Char} (h : 33 ≤ c.toNat) (h' : c.toNat < 127) :
    isBlank c = false := by
  simp only [isBlank, blankRanges, inRanges]
  rw [if_neg (by omega), if_neg (by omega), if_pos (by omega)]
  simp
  omega

/-- A digit is no blank. -/
theorem isBlank_of_isDigit {c : Char} (h : c.isDigit) : isBlank c = false := by
  have hrange := isDigit_iff.mp h
  exact isBlank_eq_false (by omega) (by omega)

/-- A capital is no blank. -/
theorem isBlank_of_isUpper {c : Char} (h : c.isUpper) : isBlank c = false := by
  have hrange := isUpper_iff.mp h
  exact isBlank_eq_false (by omega) (by omega)

/-- A blank is neither letter nor digit. -/
theorem isAlphanum_of_isBlank {c : Char} (h : isBlank c = true) :
    c.isAlphanum = false := by
  have hrange (hlow : 48 ≤ c.toNat) (hhigh : c.toNat ≤ 122) : False := by
    rw [isBlank_eq_false (by omega) (by omega)] at h
    contradiction
  rw [Bool.eq_false_iff]
  intro halphanum
  rcases Bool.or_eq_true_iff.mp halphanum with halpha | hdigit
  · rcases Bool.or_eq_true_iff.mp halpha with hupper | hlower
    · have := isUpper_iff.mp hupper
      exact hrange (by omega) (by omega)
    · have := isLower_iff.mp hlower
      exact hrange (by omega) (by omega)
  · have := isDigit_iff.mp hdigit
    exact hrange (by omega) (by omega)

/-- Only small letters have another capital. -/
theorem toUpper_eq_self {c : Char} (h : c.isLower = false) : c.toUpper = c := by
  unfold Char.toUpper
  split
  · rename_i hrange
    rw [UInt32.le_iff_toNat_le, UInt32.le_iff_toNat_le] at hrange
    rw [isLower_iff.mpr hrange] at h
    contradiction
  · rfl

/-- An ASCII character other than a small letter is its own uppercase form. -/
theorem upper_eq_self {c : Char} (hascii : c.toNat < 128) (hlower : c.isLower = false) :
    upper c = [c] := by
  rw [upper, if_pos (by omega), toUpper_eq_self hlower]

/-- A digit is its own uppercase form. -/
theorem upper_of_isDigit {c : Char} (h : c.isDigit) : upper c = [c] := by
  have hrange := isDigit_iff.mp h
  exact upper_eq_self (by omega) (isLower_eq_false (by omega))

end Character

/-! ## Texts -/

namespace Text

open Character (isBlank)

/-- Spaces are blanks. -/
theorem isBlank_of_mem_spaces {n : Nat} : ∀ c ∈ List.replicate n ' ', isBlank c = true :=
  fun _ hc => (List.mem_replicate.mp hc).2 ▸ Character.isBlank_space

/-- Nothing is dropped where the first character stays. -/
theorem dropWhile_eq_self {p : Char → Bool} {s : Text} (h : ∀ c ∈ s.head?, p c = false) :
    s.dropWhile p = s := by
  cases s with
  | nil => rfl
  | cons c s => exact List.dropWhile_cons_of_neg (by simp [h c (by simp)])

/-- A run of characters of one kind ends where another kind begins. -/
theorem takeWhile_run {p : Char → Bool} {s t : Text} (hs : ∀ c ∈ s, p c = true)
    (ht : ∀ c ∈ t.head?, p c = false) :
    (s ++ t).takeWhile p = s ∧ (s ++ t).dropWhile p = t := by
  rw [List.takeWhile_append_of_pos hs, List.dropWhile_append_of_pos hs, dropWhile_eq_self ht]
  cases t with
  | nil => simp
  | cons c t => simp [ht c rfl]

/-- What is dropped at the end consists of the characters to be dropped. -/
theorem exists_of_dropEndWhile (p : Char → Bool) (s : Text) :
    ∃ t, s = dropEndWhile p s ++ t ∧ ∀ c ∈ t, p c = true := by
  refine ⟨(s.reverse.takeWhile p).reverse, ?_, ?_⟩
  · rw [dropEndWhile, ← List.reverse_append, List.takeWhile_append_dropWhile, List.reverse_reverse]
  · intro c hc
    exact List.mem_takeWhile_imp (List.mem_reverse.mp hc)

/-- Of one character as many are dropped at the end as stand there. -/
theorem exists_replicate_of_dropEndWhile (c : Char) (s : Text) :
    ∃ n, s = dropEndWhile (· == c) s ++ List.replicate n c := by
  obtain ⟨t, hsplit, hall⟩ := exists_of_dropEndWhile (· == c) s
  have hreplicate : t = List.replicate t.length c :=
    List.eq_replicate_of_mem fun d hd => beq_iff_eq.mp (hall d hd)
  exact ⟨t.length, hreplicate ▸ hsplit⟩

/-- Blanks at the end are dropped together. -/
theorem trimEnd_append_blank (s : Text) {t : Text} (h : ∀ c ∈ t, isBlank c = true) :
    trimEnd (s ++ t) = trimEnd s := by
  unfold trimEnd dropEndWhile
  rw [List.reverse_append, List.dropWhile_append_of_pos fun c hc => h c (List.mem_reverse.mp hc)]

/-- A text whose last character is no blank keeps its end. -/
theorem trimEnd_eq_self {s : Text} (h : ∀ c ∈ s.getLast?, isBlank c = false) : trimEnd s = s := by
  unfold trimEnd dropEndWhile
  rw [dropWhile_eq_self, List.reverse_reverse]
  intro c hc
  rw [List.head?_reverse] at hc
  exact h c hc

/-- A text whose first and last characters are no blanks is its own trimmed form. -/
theorem trim_eq_self {s : Text} (hhead : ∀ c ∈ s.head?, isBlank c = false)
    (hlast : ∀ c ∈ s.getLast?, isBlank c = false) : s.trim = s := by
  unfold trim trimStart
  rw [dropWhile_eq_self hhead, trimEnd_eq_self hlast]

/-- A text without blanks is its own trimmed form. -/
theorem trim_of_forall {s : Text} (h : ∀ c ∈ s, isBlank c = false) : s.trim = s :=
  trim_eq_self (fun c hc => h c (List.mem_of_head? hc))
    fun c hc => h c (List.mem_of_getLast? hc)

/-- Blanks at the end of a text that begins with another character do not count. -/
theorem trim_append_blank {s t : Text} (hhead : ∀ c ∈ s.head?, isBlank c = false) (hne : s ≠ [])
    (h : ∀ c ∈ t, isBlank c = true) : trim (s ++ t) = trimEnd s := by
  obtain ⟨c, s, rfl⟩ := List.exists_cons_of_ne_nil hne
  unfold trim trimStart
  rw [dropWhile_eq_self (by simpa using hhead), trimEnd_append_blank _ h]

/-- Blanks around a text that neither begins nor ends with one do not count. -/
theorem trim_append_append {front s back : Text} (hfront : ∀ c ∈ front, isBlank c = true)
    (hback : ∀ c ∈ back, isBlank c = true) (hne : s ≠ []) (hhead : ∀ c ∈ s.head?, isBlank c = false)
    (hlast : ∀ c ∈ s.getLast?, isBlank c = false) : trim (front ++ (s ++ back)) = s := by
  have hstart : trim (front ++ (s ++ back)) = trim (s ++ back) := by
    unfold trim trimStart
    rw [List.dropWhile_append_of_pos hfront]
  rw [hstart, trim_append_blank hhead hne hback, trimEnd_eq_self hlast]

/-- What ends with another character than a blank stays in front of an end that is trimmed. -/
theorem trimEnd_append {s : Text} (hlast : ∀ c ∈ s.getLast?, isBlank c = false) (t : Text) :
    trimEnd (s ++ t) = s ++ trimEnd t := by
  have hend : s.reverse.dropWhile isBlank = s.reverse :=
    dropWhile_eq_self (by rwa [List.head?_reverse])
  rw [trimEnd, trimEnd, dropEndWhile, dropEndWhile, List.reverse_append, List.dropWhile_append, hend]
  split
  · rename_i hblank
    rw [List.isEmpty_iff.mp hblank, List.reverse_reverse, List.reverse_nil, List.append_nil]
  · rw [List.reverse_append, List.reverse_reverse]

/-- What begins and ends with other characters than blanks stays in front of what is trimmed. -/
theorem trim_append {s : Text} (hne : s ≠ []) (hhead : ∀ c ∈ s.head?, isBlank c = false)
    (hlast : ∀ c ∈ s.getLast?, isBlank c = false) (t : Text) : trim (s ++ t) = s ++ trimEnd t := by
  have hstart : trimStart (s ++ t) = s ++ t := by
    obtain ⟨c, s, rfl⟩ := List.exists_cons_of_ne_nil hne
    exact dropWhile_eq_self (by simpa using hhead)
  rw [trim, hstart, trimEnd_append hlast]

/-- A trimmed text is the beginning of the text without the blanks in front. -/
theorem trim_prefix_trimStart (s : Text) : s.trim <+: s.trimStart := by
  rw [← List.reverse_suffix, trim, trimEnd, dropEndWhile, List.reverse_reverse]
  exact List.dropWhile_suffix _

/-- A trimmed text is a piece of the text. -/
theorem trim_isInfix (s : Text) : s.trim <:+: s :=
  (trim_prefix_trimStart s).isInfix.trans (List.dropWhile_suffix _).isInfix

/-- Trimming takes white space from both ends, and nothing else. -/
theorem exists_of_trim (s : Text) :
    ∃ front back, s = front ++ s.trim ++ back ∧ ∀ c ∈ front ++ back, isBlank c = true := by
  obtain ⟨back, hback, hblank⟩ := exists_of_dropEndWhile isBlank s.trimStart
  refine ⟨s.takeWhile isBlank, back, ?_, ?_⟩
  · calc s = s.takeWhile isBlank ++ s.trimStart := List.takeWhile_append_dropWhile.symm
      _ = s.takeWhile isBlank ++ (s.trim ++ back) := congrArg (s.takeWhile isBlank ++ ·) hback
      _ = s.takeWhile isBlank ++ s.trim ++ back := (List.append_assoc _ _ _).symm
  · intro c hc
    rcases List.mem_append.mp hc with hfront | hend
    · exact List.mem_takeWhile_imp hfront
    · exact hblank c hend

/-- A character other than white space is not trimmed. -/
theorem mem_trim {s : Text} {c : Char} (hc : c ∈ s) (hblank : isBlank c = false) : c ∈ s.trim := by
  obtain ⟨front, back, heq, hends⟩ := exists_of_trim s
  have hnot : c ∉ front ++ back := by
    intro hmem
    rw [hends c hmem] at hblank
    contradiction
  rw [heq] at hc
  simp only [List.mem_append, not_or] at hc hnot
  rcases hc with (hc | hc) | hc
  · exact absurd hc hnot.1
  · exact hc
  · exact absurd hc hnot.2

/-- Where each character has one capital, so has the text. -/
theorem upper_eq_map {s : Text} (h : ∀ c ∈ s, Character.upper c = [c.toUpper]) :
    s.upper = s.map Char.toUpper := by
  induction s with
  | nil => rfl
  | cons c s ih =>
    have hs : s.flatMap Character.upper = s.map Char.toUpper := ih fun d hd => h d (by simp [hd])
    rw [upper, List.flatMap_cons, h c List.mem_cons_self, hs]
    rfl

/-- A text of ASCII characters without small letters is its own form in capitals. -/
theorem upper_eq_self {s : Text} (h : ∀ c ∈ s, c.toNat < 128 ∧ c.isLower = false) :
    s.upper = s := by
  induction s with
  | nil => rfl
  | cons c s ih =>
    have hc := h c (by simp)
    have hs := ih fun d hd => h d (by simp [hd])
    unfold upper at hs ⊢
    rw [List.flatMap_cons, Character.upper_eq_self hc.1 hc.2, hs]
    rfl

/-- A text that has characters is one that is there. -/
theorem nonempty?_of_ne_nil {s : Text} (h : s ≠ []) : s.nonempty? = some s := by
  simp [nonempty?, h]

/-- A text that is there has characters. -/
theorem ne_nil_of_nonempty? {s t : Text} (h : s.nonempty? = some t) : s = t ∧ t ≠ [] := by
  unfold nonempty? at h
  split at h
  · contradiction
  · rename_i hempty
    obtain rfl := Option.some.inj h
    exact ⟨rfl, by simpa using hempty⟩

/-- A text that counts as absent where it is empty. -/
theorem getD_nonempty? (s : Text) : s.nonempty?.getD [] = s := by
  by_cases h : s = []
  · simp [h, nonempty?]
  · rw [nonempty?_of_ne_nil h, Option.getD_some]

/-! ## The last character -/

/-- A text with another character than blanks ends with one when the blanks at its end are
dropped. -/
theorem getLast?_trimEnd {s : Text} (h : ∃ c ∈ s, Character.isBlank c = false) :
    ∃ c ∈ (trimEnd s).getLast?, Character.isBlank c = false := by
  rw [trimEnd, dropEndWhile, List.getLast?_reverse]
  cases hhead : (s.reverse.dropWhile Character.isBlank).head? with
  | none =>
    obtain ⟨c, hc, hblank⟩ := h
    have hall := List.dropWhile_eq_nil_iff.mp (List.head?_eq_none_iff.mp hhead)
    rw [hall c (List.mem_reverse.mpr hc)] at hblank
    contradiction
  | some c =>
    have hblank := List.head?_dropWhile_not Character.isBlank s.reverse
    rw [hhead] at hblank
    exact ⟨c, rfl, hblank⟩

/-- What is left of a text without the blanks around it ends with another character. -/
theorem getLast?_trim {s : Text} (h : s.trim ≠ []) :
    ∃ c ∈ s.trim.getLast?, Character.isBlank c = false := by
  refine getLast?_trimEnd (Classical.by_contradiction fun hnone => h ?_)
  have hall : ∀ c ∈ s.trimStart.reverse, Character.isBlank c = true := fun c hc => by
    rw [← Bool.not_eq_false]
    exact fun hblank => hnone ⟨c, List.mem_reverse.mp hc, hblank⟩
  rw [trim, trimEnd, dropEndWhile, List.dropWhile_eq_nil_iff.mpr hall]
  rfl

/-! ## Trimmed texts -/

/-- A text begins and ends with characters other than blanks, if it has any. -/
structure IsTrimmed (s : Text) : Prop where
  head : ∀ c ∈ s.head?, isBlank c = false
  last : ∀ c ∈ s.getLast?, isBlank c = false

/-- A trimmed text is its own trimmed form. -/
theorem IsTrimmed.trim_eq {s : Text} (h : IsTrimmed s) : s.trim = s :=
  trim_eq_self h.head h.last

/-- Without the blanks in front a text begins with another character. -/
theorem head?_trimStart (s : Text) : ∀ c ∈ s.trimStart.head?, isBlank c = false := by
  intro c hc
  have hblank := List.head?_dropWhile_not isBlank s
  rwa [← trimStart, Option.mem_def.mp hc] at hblank

/-- The trimmed form of a text is trimmed. -/
theorem isTrimmed_trim (s : Text) : IsTrimmed s.trim := by
  constructor
  · intro c hc
    obtain ⟨u, hu⟩ := trim_prefix_trimStart s
    have hhead : s.trimStart.head? = some c := by
      rw [← hu, List.head?_append, Option.mem_def.mp hc]
      rfl
    exact head?_trimStart s c hhead
  · intro c hc
    have hne : s.trim ≠ [] := by
      rintro hnil
      rw [hnil] at hc
      exact absurd hc (by simp)
    obtain ⟨d, hd, hblank⟩ := getLast?_trim hne
    rwa [Option.mem_unique hc hd]

/-- An end of a trimmed text has no blanks at its own end. -/
theorem IsTrimmed.trim_of_suffix {s t : Text} (h : IsTrimmed s) (ht : t <:+ s) :
    t.trim = t.trimStart := by
  refine trimEnd_eq_self fun c hc => h.last c ?_
  obtain ⟨u, rfl⟩ := (List.dropWhile_suffix isBlank).trans ht
  have hlast : (t.dropWhile isBlank).getLast? = some c := hc
  rw [List.getLast?_append, hlast]
  rfl

/-! ## Digits at the end -/

/-- A text that ends with a digit. -/
def EndsWithDigit (s : Text) : Prop :=
  ∃ t d, s = t ++ [d] ∧ d.isDigit = true

/-- A text of digits ends with one. -/
theorem endsWithDigit_of_forall {s : Text} (h : ∀ c ∈ s, c.isDigit) (hne : s ≠ []) :
    EndsWithDigit s :=
  ⟨s.dropLast, s.getLast hne, (List.dropLast_concat_getLast hne).symm, h _ (List.getLast_mem hne)⟩

/-- What stands in front does not change the end. -/
theorem EndsWithDigit.append {t : Text} (h : EndsWithDigit t) (s : Text) :
    EndsWithDigit (s ++ t) := by
  obtain ⟨u, d, rfl, hd⟩ := h
  exact ⟨s ++ u, d, (List.append_assoc s u [d]).symm, hd⟩

/-- A character in front does not change the end. -/
theorem EndsWithDigit.cons {t : Text} (h : EndsWithDigit t) (c : Char) :
    EndsWithDigit (c :: t) :=
  h.append [c]

/-- The last character of such a text is a digit. -/
theorem EndsWithDigit.isDigit {s : Text} (h : EndsWithDigit s) :
    ∀ c ∈ s.getLast?, c.isDigit = true := by
  obtain ⟨t, d, rfl, hd⟩ := h
  intro c hc
  have hlast : d = c := by simpa using hc
  exact hlast ▸ hd

end Text
end Shelfmark
