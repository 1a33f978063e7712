import Shelfmark.CallNumber.Lc.Shape
import Shelfmark.Proofs.Character.Case
import Shelfmark.Proofs.Text.Span

/-!
# Call numbers - What the shapes pass over

Class numbers and cutters have one thing in common: in each of them a digit stands
directly behind a capital.  Every search for a part passes over a fixed number of such
joints, so in a text with too few of them the part is not found, at whatever place the
search begins.

Main results:

- Theorem `Behind.trans`: joints passed over one after the other add up.
- Theorem `exists_of_behindClass?`: an answer behind a class number is behind a joint.
- Theorems `behind_of_firstCutter?`, `behind_of_secondCutter?` and
  `behind_of_textBeforePointedCutter?`: the joints in front of what is found.
-/

namespace Shelfmark
namespace CallNumber
namespace Lc

open Text (Span leftmost? furthest?)

/-! ## Joints -/

/-- The number of places where a digit stands directly behind a capital. -/
def joints : Text → Nat
  | [] => 0
  | c :: s => (if c.isUpper && s.head?.any Char.isDigit then 1 else 0) + joints s

/-- A capital in front of a digit is a joint. -/
theorem joints_cons_of_digit {c : Char} {s : Text} (hc : c.isUpper)
    (hs : s.head?.any Char.isDigit) : joints (c :: s) = joints s + 1 := by
  rw [joints, hc, hs]
  exact Nat.add_comm _ _

/-- Characters other than capitals begin no joints. -/
theorem joints_append {s : Text} (t : Text) (h : ∀ c ∈ s, c.isUpper = false) :
    joints (s ++ t) = joints t := by
  induction s with
  | nil => rfl
  | cons c s ih =>
    rw [List.cons_append, joints, h c (by simp), ih fun d hd => h d (by simp [hd])]
    simp

/-- No joint lies between texts if the second does not begin with a digit. -/
theorem joints_append_of_head (s : Text) {t : Text} (h : ∀ c ∈ t.head?, c.isDigit = false) :
    joints (s ++ t) = joints s + joints t := by
  induction s with
  | nil => rw [List.nil_append, joints, Nat.zero_add]
  | cons c s ih =>
    have hhead : (s ++ t).head?.any Char.isDigit = s.head?.any Char.isDigit := by
      cases s with
      | nil =>
        cases t with
        | nil => rfl
        | cons d t => exact h d rfl
      | cons d s => rfl
    rw [List.cons_append, joints, joints, ih, hhead, Nat.add_assoc]

/-- Without digits there is no joint. -/
theorem joints_eq_zero {s : Text} (h : ∀ c ∈ s, c.isDigit = false) : joints s = 0 := by
  induction s with
  | nil => rfl
  | cons c s ih =>
    have hhead : s.head?.any Char.isDigit = false := by
      cases s with
      | nil => rfl
      | cons d s => exact h d (by simp)
    rw [joints, ih fun d hd => h d (by simp [hd]), hhead]
    simp

/-- An end of a text has no more joints than the text. -/
theorem joints_le_of_suffix {s t : Text} (h : t <:+ s) : joints t ≤ joints s := by
  obtain ⟨u, rfl⟩ := h
  induction u with
  | nil => exact Nat.le_refl _
  | cons c u ih =>
    rw [List.cons_append, joints]
    omega

/-- An end of a text that lies behind at least `n` of its joints. -/
structure Behind (n : Nat) (s t : Text) : Prop where
  suffix : t <:+ s
  joints_le : joints t + n ≤ joints s

/-- Joints passed over one after the other add up. -/
theorem Behind.trans {m n : Nat} {s t u : Text} (h : Behind m s t) (h' : Behind n t u) :
    Behind (m + n) s u := by
  have hst := h.joints_le
  have htu := h'.joints_le
  exact ⟨h'.suffix.trans h.suffix, by omega⟩

/-- What lies behind joints of an end lies behind them in the text. -/
theorem Behind.suffix_trans {n : Nat} {s t u : Text} (h : Behind n t u) (h' : t <:+ s) :
    Behind n s u := by
  have htu := h.joints_le
  have hst := joints_le_of_suffix h'
  exact ⟨h.suffix.trans h', by omega⟩

/-- The rest of an end behind joints lies behind them as well. -/
theorem Behind.trans_suffix {n : Nat} {s t u : Text} (h : Behind n s t) (h' : u <:+ t) :
    Behind n s u := by
  have hst := h.joints_le
  have htu := joints_le_of_suffix h'
  exact ⟨h'.trans h.suffix, by omega⟩

/-! ## Numbers, gaps and cutters -/

section Skipping

variable {s t : Text}

/-- Digits that are passed over are there. -/
theorem skipDigits?_some (h : skipDigits? s = some t) :
    s.head?.any Char.isDigit = true ∧ t <:+ s := by
  unfold skipDigits? at h
  split at h
  · rename_i hhead
    simp only [Option.some.injEq] at h
    exact ⟨hhead, h ▸ List.dropWhile_suffix _⟩
  · contradiction

/-- What is behind a fraction is an end of the text. -/
theorem skipFraction_suffix (s : Text) : skipFraction s <:+ s := by
  unfold skipFraction
  split
  · rename_i digits
    cases hdigits : skipDigits? digits with
    | none => exact List.suffix_rfl
    | some t => exact (skipDigits?_some hdigits).2.trans (List.suffix_cons _ _)
  · exact List.suffix_rfl

/-- What is behind a gap is an end of the text. -/
theorem skipGap_suffix (s : Text) : skipGap s <:+ s := by
  unfold skipGap
  have hspaces : skipSpaces s <:+ s := List.dropWhile_suffix _
  generalize skipSpaces s = t at hspaces
  cases t with
  | nil => exact hspaces
  | cons c t =>
    rw [Text.dropFirst]
    split
    · exact (List.suffix_cons c t).trans hspaces
    · exact hspaces

/-- A class number begins with capitals, and a digit stands behind the last of them. -/
theorem exists_of_skipClassNumber? (h : skipClassNumber? s = some t) :
    ∃ letters last u, s = letters ++ last :: u ∧ (∀ c ∈ letters, c.isUpper = true) ∧
      last.isUpper = true ∧ u.head?.any Char.isDigit = true ∧ t <:+ u := by
  unfold skipClassNumber? at h
  generalize hletters : (s.take 4).takeWhile Char.isUpper = letters at h
  dsimp only at h
  split at h
  · rename_i hlength
    obtain ⟨u, hu, rfl⟩ := Option.map_eq_some_iff.mp h
    obtain ⟨hdigit, husuffix⟩ := skipDigits?_some hu
    have hleading : letters <+: s :=
      hletters ▸ (List.takeWhile_prefix _).trans (List.take_prefix 4 s)
    have hs : s = letters ++ s.drop letters.length :=
      (List.prefix_iff_eq_append.mp hleading).symm
    obtain ⟨front, last, hlast⟩ : ∃ front last, letters = front ++ [last] :=
      ⟨letters.dropLast, letters.getLast (by rintro rfl; simp at hlength),
        (List.dropLast_append_getLast _).symm⟩
    have hall : letters.all Char.isUpper = true := hletters ▸ List.all_takeWhile
    have hupper (c : Char) (hc : c ∈ letters) : c.isUpper = true := List.all_eq_true.mp hall c hc
    refine ⟨front, last, s.drop letters.length, ?_, fun c hc => ?_, ?_, hdigit, ?_⟩
    · rw [List.append_cons, ← hlast, ← hs]
    · exact hupper c (by simp [hlast, hc])
    · exact hupper last (by simp [hlast])
    · exact (skipFraction_suffix u).trans husuffix
  · contradiction

/-- A class number has a joint. -/
theorem behind_of_skipClassNumber? (h : skipClassNumber? s = some t) : Behind 1 s t := by
  obtain ⟨letters, last, u, rfl, -, hupper, hdigit, hsuffix⟩ := exists_of_skipClassNumber? h
  have hend : last :: u <:+ letters ++ last :: u := List.suffix_append _ _
  have hjoint := joints_cons_of_digit hupper hdigit
  have hle := joints_le_of_suffix hend
  have hrest := joints_le_of_suffix hsuffix
  exact ⟨hsuffix.trans ((List.suffix_cons last u).trans hend), by omega⟩

/-- A cutter has a joint. -/
theorem behind_of_skipCutter? (h : skipCutter? s = some t) : Behind 1 s t := by
  cases s with
  | nil => contradiction
  | cons c s =>
    rw [skipCutter?] at h
    split at h
    · rename_i hupper
      obtain ⟨hdigit, hsuffix⟩ := skipDigits?_some h
      have hjoint := joints_cons_of_digit hupper hdigit
      have hle := joints_le_of_suffix hsuffix
      exact ⟨hsuffix.trans (List.suffix_cons c s), by omega⟩
    · contradiction

/-- A cutter that is found at the front is the text itself, and the rest is behind it. -/
theorem behind_of_cutterHere? {span : Span} (h : cutterHere? s = some span) :
    span.start = s ∧ Behind 1 s span.rest := by
  obtain ⟨rest, hrest, rfl⟩ := Option.map_eq_some_iff.mp h
  exact ⟨rfl, behind_of_skipCutter? hrest⟩

end Skipping

/-! ## Ends with an answer -/

section Ends

variable {α : Type} {answer : Text → Option α} {s : Text} {a : α}

/-- An answer behind characters other than digits and a word is the answer at an end. -/
theorem exists_of_behindNonDigits? (h : behindNonDigits? answer s = some a) :
    ∃ t, t <:+ s ∧ answer t = some a := by
  induction s with
  | nil => exact ⟨[], List.suffix_rfl, h⟩
  | cons c s ih =>
    rw [behindNonDigits?] at h
    split at h
    · exact Text.exists_of_furthest? h
    · split at h
      · rename_i b hbeyond
        obtain ⟨t, hsuffix, ht⟩ := ih (hbeyond.trans h)
        exact ⟨t, hsuffix.trans (List.suffix_cons c s), ht⟩
      · exact ⟨c :: s, List.suffix_rfl, h⟩

/-- An answer behind a word is the answer at an end. -/
theorem exists_of_behindWord? (h : behindWord? answer s = some a) :
    ∃ t, t <:+ s ∧ answer t = some a := by
  unfold behindWord? at h
  split at h
  · contradiction
  · split at h
    · obtain ⟨t, hsuffix, ht⟩ := Text.exists_of_furthest? h
      exact ⟨t, hsuffix.trans (List.suffix_cons _ _), ht⟩
    · split at h
      · contradiction
      · split at h
        · obtain ⟨t, hsuffix, ht⟩ := exists_of_behindNonDigits? h
          exact ⟨t, (hsuffix.trans (List.suffix_cons _ _)).trans (List.suffix_cons _ _), ht⟩
        · contradiction

/-- An answer behind a class number, with or without a word, is behind a joint. -/
theorem exists_of_behindClass? (h : behindClass? answer s = some a) :
    ∃ t, Behind 1 s t ∧ answer t = some a := by
  obtain ⟨rest, hrest, h⟩ := Option.bind_eq_some_iff.mp h
  have hclass := behind_of_skipClassNumber? hrest
  split at h
  · rename_i b hword
    split at hword
    · obtain ⟨t, hsuffix, ht⟩ := exists_of_behindWord? (hword.trans h)
      exact ⟨t, hclass.trans_suffix (hsuffix.trans (List.dropWhile_suffix _)), ht⟩
    · contradiction
  · exact ⟨rest, hclass, h⟩

/-- An answer behind a cutter is behind a joint. -/
theorem exists_of_behindCutter? (h : behindCutter? answer s = some a) :
    ∃ t, Behind 1 s t ∧ answer t = some a := by
  unfold behindCutter? at h
  split at h
  · rename_i c d s
    split at h
    · rename_i hcutter
      simp only [Bool.and_eq_true] at hcutter
      obtain ⟨t, hsuffix, ht⟩ := Text.exists_of_furthest? h
      have hjoint := joints_cons_of_digit (s := d :: s) hcutter.1 (by simpa using hcutter.2)
      have hend := hsuffix.trans (List.suffix_cons d s)
      have hle := joints_le_of_suffix hend
      exact ⟨t, ⟨hend.trans (List.suffix_cons c _), by omega⟩, ht⟩
    · contradiction
  · contradiction

/-- The leftmost answer behind a class number is behind a joint. -/
theorem exists_of_leftmost_behindClass? (h : leftmost? (behindClass? answer) s = some a) :
    ∃ t, Behind 1 s t ∧ answer t = some a := by
  obtain ⟨t, hsuffix, ht⟩ := Text.exists_of_leftmost? h
  obtain ⟨u, hbehind, hu⟩ := exists_of_behindClass? ht
  exact ⟨u, hbehind.suffix_trans hsuffix, hu⟩

end Ends

/-! ## Places -/

section Places

variable {s : Text} {span : Span}

/-- The first cutter is behind the joint of the class number. -/
theorem behind_of_firstCutter? (h : firstCutter? s = some span) :
    Behind 1 s span.start ∧ Behind 2 s span.rest := by
  obtain ⟨t, hclass, ht⟩ := exists_of_leftmost_behindClass? h
  obtain ⟨hstart, hcutter⟩ := behind_of_cutterHere? ht
  have hgap := hclass.trans_suffix (skipGap_suffix t)
  exact ⟨hstart ▸ hgap, hgap.trans hcutter⟩

/-- A second cutter right behind the first is behind the joints of class number and cutter. -/
theorem behind_of_secondCutter? (h : secondCutter? s = some span) :
    Behind 2 s span.start ∧ Behind 3 s span.rest := by
  obtain ⟨t, hclass, ht⟩ := exists_of_leftmost_behindClass? h
  obtain ⟨u, hu, ht⟩ := Option.bind_eq_some_iff.mp ht
  obtain ⟨hstart, hcutter⟩ := behind_of_cutterHere? ht
  have hfirst := (hclass.trans_suffix (skipGap_suffix t)).trans (behind_of_skipCutter? hu)
  have hgap := hfirst.trans_suffix (skipGap_suffix u)
  exact ⟨hstart ▸ hgap, hgap.trans hcutter⟩

end Places

/-! ## The text in front of a pointed cutter -/

/-- All ends of a part have a property. -/
structure PartEnd.All (P : Text → Prop) (ends : PartEnd) : Prop where
  onLine : ∀ t ∈ ends.onLine, P t
  behindWords : ∀ t ∈ ends.behindWords, P t
  behindWordChars : ∀ t ∈ ends.behindWordChars, P t
  behindNonDigits : ∀ t ∈ ends.behindNonDigits, P t
  behindCapital : ∀ t ∈ ends.behindCapital, P t

/-- A property that follows from that of all ends is one of all ends. -/
theorem PartEnd.All.mono {P Q : Text → Prop} {ends : PartEnd} (h : ends.All P)
    (hweaker : ∀ t, P t → Q t) : ends.All Q where
  onLine t ht := hweaker t (h.onLine t ht)
  behindWords t ht := hweaker t (h.behindWords t ht)
  behindWordChars t ht := hweaker t (h.behindWordChars t ht)
  behindNonDigits t ht := hweaker t (h.behindNonDigits t ht)
  behindCapital t ht := hweaker t (h.behindCapital t ht)

/-- The first of two answers that is there has a property that both have. -/
theorem forall_mem_or {P : Text → Prop} {o o' : Option Text} (h : ∀ t ∈ o, P t)
    (h' : ∀ t ∈ o', P t) : ∀ t ∈ o.or o', P t := fun t ht =>
  (Option.or_eq_some_iff.mp ht).elim (h t) fun hright => h' t hright.2

/-- A part ends at a pointed cutter. -/
theorem partEnd_all (s : Text) :
    (partEnd s).All fun t => t <:+ s ∧ atPointedCutter t = true := by
  induction s with
  | nil => constructor <;> simp [partEnd]
  | cons c s ih =>
    have hnext : (partEnd s).All fun t => t <:+ c :: s ∧ atPointedCutter t = true :=
      ih.mono fun t ht => ⟨ht.1.trans (List.suffix_cons c s), ht.2⟩
    have honLine : ∀ t ∈ (partEnd (c :: s)).onLine, t <:+ c :: s ∧ atPointedCutter t = true := by
      simp only [partEnd]
      split
      · simp
      · refine forall_mem_or hnext.onLine fun t ht => ?_
        split at ht
        · rename_i hpointed
          exact Option.some.inj ht ▸ ⟨List.suffix_rfl, hpointed⟩
        · contradiction
    have hwords : ∀ t ∈ (partEnd (c :: s)).behindWords,
        t <:+ c :: s ∧ atPointedCutter t = true := by
      refine forall_mem_or ?_ honLine
      split
      · exact hnext.behindWordChars
      · split
        · exact hnext.behindCapital
        · simp
    have hchars : ∀ t ∈ (partEnd (c :: s)).behindWordChars,
        t <:+ c :: s ∧ atPointedCutter t = true := by
      simp only [partEnd]
      split
      · exact forall_mem_or hnext.behindWordChars hwords
      · exact hwords
    refine ⟨honLine, hwords, hchars, ?_, ?_⟩
    · simp only [partEnd]
      split
      · exact hchars
      · exact forall_mem_or hnext.behindNonDigits hwords
    · simp only [partEnd]
      split
      · simp
      · exact hnext.behindNonDigits

/-- The text in front of a pointed cutter is behind the joints of class number and cutter. -/
theorem behind_of_textBeforePointedCutter? {s : Text} {span : Span}
    (h : textBeforePointedCutter? s = some span) :
    Behind 2 s span.rest ∧ atPointedCutter span.rest = true := by
  obtain ⟨-, -, h⟩ := Option.bind_eq_some_iff.mp h
  obtain ⟨t, hclass, ht⟩ := exists_of_leftmost_behindClass? h
  obtain ⟨u, hcutter, hu⟩ := exists_of_behindCutter? ht
  obtain ⟨rest, hrest, rfl⟩ := Option.map_eq_some_iff.mp hu
  obtain ⟨hsuffix, hpointed⟩ := (partEnd_all (skipSpaces u)).behindWords rest hrest
  have hfirst := (hclass.trans_suffix (skipGap_suffix t)).trans hcutter
  exact ⟨hfirst.trans_suffix (hsuffix.trans (List.dropWhile_suffix _)), hpointed⟩

end Lc
end CallNumber
end Shelfmark
