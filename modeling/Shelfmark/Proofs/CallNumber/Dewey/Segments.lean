import Shelfmark.Proofs.CallNumber.ClassShape
import Shelfmark.Proofs.CallNumber.Dewey.Spacing

/-!
# Call numbers - Segments of a Dewey number

Reading a Dewey number cuts it into segments.  The class number takes as much of the front as
can have the shape of one.  Where a gap, a capital and a digit follow, the rest is a cutter and
its suffix, and besides the gap only the blanks between these two are left out.  Where anything
else follows, it is not kept.

Main results:

- Theorem `IsClass.length_le_takeClass`: no longer beginning has the shape of a class number.
- Theorem `exists_of_cutter?`: a cutter and what stands around it make up the text.
- Theorem `cutter?_isSome_iff`: a cutter is found where a gap, a capital and a digit stand.
- Theorem `parse?_segments`: a call number is read exactly if it has the shape of a Dewey number,
  and its parts are its segments.
-/

namespace Shelfmark
namespace CallNumber
namespace Dewey

open Lc (Cutter Digits Gap)
open Number (decimalText)

/-! ## The class number -/

/-- Digits are taken from the front. -/
theorem takeDigits_isPrefix (n : Nat) (s : Text) : takeDigits n s <+: s := by
  induction n generalizing s with
  | zero => exact List.nil_prefix
  | succ n ih =>
    cases s with
    | nil => exact List.nil_prefix
    | cons c s =>
      rw [takeDigits]
      split
      · exact (List.prefix_cons_inj c).mpr (ih s)
      · exact List.nil_prefix

/-- A class number is taken from the front. -/
theorem takeClass_isPrefix (s : Text) : takeClass s <+: s := by
  by_cases hne : takeDigits 3 s = []
  · simp [takeClass, hne]
  · have hsplit := List.prefix_iff_eq_append.mp (takeDigits_isPrefix 3 s)
    rw [takeClass_eq_append hne]
    conv_rhs => rw [← hsplit]
    exact (List.prefix_append_right_inj _).mpr (Scheme.takeFraction_prefix _)

/-- Of the digits at the front as many are taken as asked for. -/
theorem length_le_takeDigits {n : Nat} {digits s : Text} (h : digits <+: s)
    (hdigits : ∀ c ∈ digits, c.isDigit) (hlength : digits.length ≤ n) :
    digits.length ≤ (takeDigits n s).length := by
  induction digits generalizing n s with
  | nil => exact Nat.zero_le _
  | cons c digits ih =>
    obtain ⟨u, rfl⟩ := h
    cases n with
    | zero => contradiction
    | succ n =>
      rw [List.cons_append, takeDigits, if_pos (hdigits c (by simp))]
      exact Nat.succ_le_succ (ih (List.prefix_append digits u)
        (fun d hd => hdigits d (by simp [hd])) (Nat.le_of_succ_le_succ hlength))

/-- No beginning that has the shape of a class number is longer than the one taken. -/
theorem IsClass.length_le_takeClass {s t : Text} (h : IsClass t) (hfront : t <+: s) :
    t.length ≤ (takeClass s).length := by
  obtain ⟨whole, fraction, hlength, rfl⟩ := h
  have hwhole : whole.text <+: s := by
    refine List.IsPrefix.trans ?_ hfront
    cases fraction with
    | none => exact List.prefix_rfl
    | some fraction => exact List.prefix_append _ _
  have hle := length_le_takeDigits hwhole whole.isDigit hlength
  have hne : takeDigits 3 s ≠ [] := by
    have hpos := List.length_pos_iff.mpr whole.ne_nil
    exact List.length_pos_iff.mp (Nat.lt_of_lt_of_le hpos hle)
  rw [takeClass_eq_append hne, List.length_append]
  cases fraction with
  | none => exact Nat.le_add_right_of_le hle
  | some fraction =>
    obtain ⟨u, rfl⟩ := hfront
    have htake : takeDigits 3 (whole.text ++ ('.' :: (fraction.text ++ u))) = whole.text :=
      takeDigits_append whole.isDigit hlength (by simp)
    have hdigits : (fraction.text ++ u).takeWhile Char.isDigit =
        fraction.text ++ u.takeWhile Char.isDigit :=
      List.takeWhile_append_of_pos fraction.isDigit
    have hsome : (fraction.text ++ u.takeWhile Char.isDigit).isEmpty = false := by
      simp [fraction.ne_nil]
    simp only [Option.map_some, decimalText, List.append_assoc, List.cons_append, htake,
      List.drop_left, takeFraction, hdigits, hsome, Bool.false_eq_true, if_false,
      List.length_append, List.length_cons]
    omega

/-! ## The cutter -/

/-- The shape of a cutter: a capital and digits, and perhaps more capitals, with or without
spaces in front of them. -/
def IsCutter (s : Text) : Prop :=
  ∃ (cutter : Cutter) (spaces : Nat) (letters : Text), (∀ c ∈ letters, c.isUpper) ∧
    (letters = [] → spaces = 0) ∧ s = cutter.text ++ (List.replicate spaces ' ' ++ letters)

/-- A run of spaces at the front is told by its length. -/
theorem takeWhile_spaces (s : Text) :
    s.takeWhile (· == ' ') = List.replicate (s.takeWhile (· == ' ')).length ' ' := by
  refine List.eq_replicate_of_mem fun c hc => ?_
  have hspace : (c == ' ') = true := List.all_eq_true.mp List.all_takeWhile c hc
  exact beq_iff_eq.mp hspace

/-- The spaces and the point that are passed over are a gap. -/
theorem exists_gap (s : Text) : ∃ gap : Gap, s = gap.text ++ Lc.skipGap s := by
  have hpoint (t : Text) :
      ∃ point : Bool, t = (if point then ['.'] else []) ++ Text.dropFirst '.' t := by
    cases t with
    | nil => exact ⟨false, rfl⟩
    | cons c t =>
      by_cases hc : c = '.'
      · exact ⟨true, by simp [Text.dropFirst, hc]⟩
      · exact ⟨false, by simp [Text.dropFirst, hc]⟩
  have hspaces : s = List.replicate (s.takeWhile (· == ' ')).length ' ' ++ Lc.skipSpaces s := by
    rw [← takeWhile_spaces]
    exact List.takeWhile_append_dropWhile.symm
  obtain ⟨point, hrest⟩ := hpoint (Lc.skipSpaces s)
  refine ⟨⟨(s.takeWhile (· == ' ')).length, point⟩, ?_⟩
  rw [Gap.text, Gap.pointText, List.append_assoc, Lc.skipGap, ← hrest]
  exact hspaces

/-- A cutter that is found stands behind a gap.  The spaces behind its digits are dropped where
no capitals follow them. -/
theorem exists_of_cutter? {s found rest : Text} (h : cutter? s = some (found, rest)) :
    ∃ (gap : Gap) (cutter : Cutter) (spaces : Nat) (letters : Text),
      (∀ c ∈ letters, c.isUpper) ∧
        found = Text.trimEnd (cutter.text ++ (List.replicate spaces ' ' ++ letters)) ∧
        s = gap.text ++ (cutter.text ++ (List.replicate spaces ' ' ++ letters) ++ rest) := by
  obtain ⟨gap, hgap⟩ := exists_gap s
  have hskip : Text.dropFirst '.' (s.dropWhile (· == ' ')) = Lc.skipGap s := rfl
  rw [cutter?.eq_def, hskip] at h
  cases hrest : Lc.skipGap s with
  | nil =>
    rw [hrest] at h
    contradiction
  | cons letter t =>
    rw [hrest] at h hgap
    dsimp only at h
    split at h
    · rename_i hshape
      obtain ⟨hupper, hdigits⟩ := Bool.and_eq_true_iff.mp hshape
      have hne : t.takeWhile Char.isDigit ≠ [] := by simpa using hdigits
      have hsplit (p : Char → Bool) (u : Text) : u.takeWhile p ++ u.drop (u.takeWhile p).length = u :=
        List.prefix_iff_eq_append.mp (List.takeWhile_prefix p)
      generalize hbehind : t.drop (t.takeWhile Char.isDigit).length = behind at h
      generalize htail : behind.dropWhile (· == ' ') = tail at h
      obtain ⟨rfl, rfl⟩ := Prod.mk.inj (Option.some.inj h)
      refine ⟨gap, ⟨letter, hupper, ⟨t.takeWhile Char.isDigit,
        List.all_eq_true.mp List.all_takeWhile, hne⟩⟩, (behind.takeWhile (· == ' ')).length,
        tail.takeWhile Char.isUpper, List.all_eq_true.mp List.all_takeWhile, ?_, ?_⟩
      · rw [← takeWhile_spaces]
        simp only [Cutter.text, List.append_assoc, List.cons_append]
      · rw [← takeWhile_spaces, hgap]
        congr 1
        simp only [Cutter.text, List.append_assoc, List.cons_append]
        rw [hsplit, ← htail, List.takeWhile_append_dropWhile, ← hbehind, hsplit]
    · contradiction

/-- A cutter is found exactly where spaces, perhaps a point, a capital and a digit stand. -/
theorem cutter?_isSome_iff {s : Text} :
    (cutter? s).isSome ↔ ∃ (gap : Gap) (letter digit : Char) (t : Text),
      letter.isUpper ∧ digit.isDigit ∧ s = gap.text ++ letter :: digit :: t := by
  constructor
  · intro h
    obtain ⟨⟨found, rest⟩, hfound⟩ := Option.isSome_iff_exists.mp h
    obtain ⟨gap, cutter, spaces, letters, -, -, rfl⟩ := exists_of_cutter? hfound
    obtain ⟨d, digits, hdigits, hd⟩ := cutter.digits.exists_cons
    refine ⟨gap, cutter.letter, d, digits ++ (List.replicate spaces ' ' ++ letters ++ rest),
      cutter.isUpper, hd, ?_⟩
    simp only [Cutter.text, hdigits, List.append_assoc, List.cons_append]
  · rintro ⟨gap, letter, digit, t, hletter, hdigit, rfl⟩
    have hhead : ∀ c ∈ (letter :: digit :: t).head?, c ≠ ' ' ∧ c ≠ '.' := fun c hc =>
      Option.some.inj hc ▸ Lc.ne_of_isUpper hletter
    rw [cutter?_gap gap hhead]
    have hskip : Text.dropFirst '.' ((letter :: digit :: t).dropWhile (· == ' ')) =
        letter :: digit :: t := Gap.skip_text ⟨0, false⟩ hhead
    simp [cutter?.eq_def, hskip, hletter, hdigit]

/-- Without the blanks at its end, what stands behind a gap has the shape of a cutter. -/
theorem isCutter_trimEnd (cutter : Cutter) (spaces : Nat) {letters : Text}
    (h : ∀ c ∈ letters, c.isUpper) :
    IsCutter (Text.trimEnd (cutter.text ++ (List.replicate spaces ' ' ++ letters))) := by
  by_cases hnil : letters = []
  · have hlast : ∀ c ∈ cutter.text.getLast?, Character.isBlank c = false := fun c hc =>
      Character.isBlank_of_isDigit ((cutter.digits.ends.cons cutter.letter).isDigit c hc)
    refine ⟨cutter, 0, [], by simp, fun _ => rfl, ?_⟩
    rw [hnil, List.append_nil, Text.trimEnd_append_blank _ Text.isBlank_of_mem_spaces,
      Text.trimEnd_eq_self hlast]
    simp
  · refine ⟨cutter, spaces, letters, h, fun hletters => absurd hletters hnil, ?_⟩
    refine Text.trimEnd_eq_self fun c hc => ?_
    rw [← List.append_assoc, List.getLast?_append_of_ne_nil _ hnil] at hc
    exact Character.isBlank_of_isUpper (h c (List.mem_of_getLast? hc))

/-- Without the blanks behind it, what is found has the shape of a cutter. -/
theorem isCutter_of_cutter? {s found rest : Text} (h : cutter? s = some (found, rest)) :
    IsCutter found ∧ ∃ (gap : Gap) (blanks : Text), (∀ c ∈ blanks, Character.isBlank c) ∧
      s = gap.text ++ (found ++ (blanks ++ rest)) := by
  obtain ⟨gap, cutter, spaces, letters, hletters, rfl, hs⟩ := exists_of_cutter? h
  obtain ⟨blanks, hbody, hblanks⟩ := Text.exists_of_dropEndWhile Character.isBlank
    (cutter.text ++ (List.replicate spaces ' ' ++ letters))
  refine ⟨isCutter_trimEnd cutter spaces hletters, gap, blanks, hblanks, ?_⟩
  rw [← List.append_assoc (Text.trimEnd _), Text.trimEnd, ← hbody]
  exact hs

/-! ## The segments -/

/-- The segments of a call number. -/
structure Segments (s : Text) (parts : Dewey) : Prop where
  isClass : IsClass parts.classDigits
  isPrefix : parts.classDigits <+: s
  /-- The class number takes as much of the front as it can. -/
  longest : ∀ t, t <+: s → IsClass t → t.length ≤ parts.classDigits.length
  /-- Only a gap in front of the cutter and the blanks behind it are left out. -/
  cutter : ∀ cutter ∈ parts.cutter, IsCutter cutter ∧ ∃ (gap : Gap) (blanks : Text),
    (∀ c ∈ blanks, Character.isBlank c) ∧ s = parts.classDigits ++
      (gap.text ++ (cutter ++ (blanks ++ parts.cutterSuffix.getD [])))
  /-- There is a cutter where one begins behind the class number. -/
  cutter_isSome_iff : parts.cutter.isSome ↔ ∃ (gap : Gap) (letter digit : Char) (t : Text),
    letter.isUpper ∧ digit.isDigit ∧
      s = parts.classDigits ++ (gap.text ++ letter :: digit :: t)
  cutterSuffix : parts.cutter = none → parts.cutterSuffix = none
  suffix_isTrimmed : ∀ suffix ∈ parts.cutterSuffix, suffix ≠ [] ∧ Text.IsTrimmed suffix

/-- A call number is read exactly if it has the shape of a Dewey number, and its parts are its
segments. -/
theorem parse?_segments (raw : Text) :
    (parse? raw).isSome = Scheme.isDewey raw ∧
      ∀ parts, parse? raw = some parts → Segments raw.trim parts := by
  constructor
  · rw [Bool.eq_iff_iff, Option.isSome_iff_exists]
    exact ⟨fun ⟨_, h⟩ => takeClass_ne_nil_iff.mp (classDigits_of_parse? h).1,
      exists_parse?_of_isDewey⟩
  · intro parts h
    obtain ⟨hne, -⟩ := classDigits_of_parse? h
    have hsplit := List.prefix_iff_eq_append.mp (takeClass_isPrefix raw.trim)
    obtain rfl := Option.some.inj ((parse?_eq hne).symm.trans h)
    generalize raw.trim.drop (takeClass raw.trim).length = behind at hsplit
    refine ⟨isClass_takeClass hne, takeClass_isPrefix _,
      fun t ht hclass => hclass.length_le_takeClass ht, ?_, ?_, ?_, ?_⟩
    · intro cutter hcutter
      obtain ⟨⟨found, rest⟩, hfound, rfl⟩ := Option.map_eq_some_iff.mp hcutter
      obtain ⟨hshape, gap, blanks, hblanks, hbehind⟩ := isCutter_of_cutter? hfound
      have hrest : rest <:+ raw.trim := by
        rw [← hsplit, hbehind]
        exact ⟨takeClass raw.trim ++ (gap.text ++ (found ++ blanks)), by simp⟩
      refine ⟨hshape, gap, blanks ++ rest.takeWhile Character.isBlank,
        List.forall_mem_append.mpr ⟨hblanks, List.all_eq_true.mp List.all_takeWhile⟩, ?_⟩
      -- Nothing is trimmed off the end, since the call number is trimmed itself.
      rw [hfound, Option.bind_some, Text.getD_nonempty?,
        (Text.isTrimmed_trim raw).trim_of_suffix hrest, Text.trimStart, List.append_assoc,
        List.takeWhile_append_dropWhile, ← hbehind]
      exact hsplit.symm
    · have hcancel (t : Text) : raw.trim = takeClass raw.trim ++ t ↔ behind = t :=
        ⟨fun h => List.append_cancel_left (hsplit.trans h), fun h => h ▸ hsplit.symm⟩
      rw [Option.isSome_map, cutter?_isSome_iff]
      simp only [hcancel]
    · intro hnone
      rw [Option.map_eq_none_iff.mp hnone]
      rfl
    · intro suffix hsuffix
      obtain ⟨⟨found, rest⟩, -, hrest⟩ := Option.bind_eq_some_iff.mp hsuffix
      obtain ⟨rfl, hne⟩ := Text.ne_nil_of_nonempty? hrest
      exact ⟨hne, Text.isTrimmed_trim rest⟩

/-- The suffix begins where the capitals end that follow the digits of the cutter. -/
theorem lettersBehindCutter_segments :
    parse? " 813.54 .S64 AB  v.2".toList =
        some ⟨"813.54".toList, some "S64 AB".toList, some "v.2".toList⟩ ∧
      Segments "813.54 .S64 AB  v.2".toList
        ⟨"813.54".toList, some "S64 AB".toList, some "v.2".toList⟩ := by
  have hparts : parse? " 813.54 .S64 AB  v.2".toList =
      some ⟨"813.54".toList, some "S64 AB".toList, some "v.2".toList⟩ := by decide +kernel
  have htrim : Text.trim " 813.54 .S64 AB  v.2".toList = "813.54 .S64 AB  v.2".toList := by
    decide +kernel
  exact ⟨hparts, htrim ▸ (parse?_segments _).2 _ hparts⟩

end Dewey
end CallNumber
end Shelfmark
