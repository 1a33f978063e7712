import Shelfmark.Proofs.Number.Digits
import Shelfmark.Proofs.Text.Trim

/-!
# Numbers - Reading plain decimals

Class numbers, the digits of cutters and the numbers inside suffixes are plain
decimals: digits, perhaps with a point among them or in front.  They have no sign,
no exponent, and are none of the words for infinity and for not a number.  Numbers
are written as plain decimals too, the negative ones behind a minus sign.

Main results:

- Theorem `ofNumeral?_decimalText`: the double that a plain decimal denotes.
- Theorem `ofNumeral?_signed`: the same behind a minus sign.
-/

namespace Shelfmark
namespace Number

/-! ## Plain decimals -/

/-- Digits, and a fraction behind a point if there is one. -/
def decimalText (whole : Text) : Option Text → Text
  | none => whole
  | some fraction => whole ++ '.' :: fraction

/-- A plain decimal has digits only, and at least one. -/
structure IsDecimal (whole : Text) (fraction : Option Text) : Prop where
  isDigit_whole : ∀ c ∈ whole, c.isDigit
  isDigit_fraction : ∀ c ∈ fraction.getD [], c.isDigit
  ne_nil : whole ++ fraction.getD [] ≠ []

variable {whole : Text} {fraction : Option Text}

/-- A plain decimal consists of digits and points. -/
theorem IsDecimal.digit_or_point (h : IsDecimal whole fraction) :
    ∀ c ∈ decimalText whole fraction, c.isDigit = true ∨ c = '.' := by
  intro c hc
  cases fraction with
  | none => exact Or.inl (h.isDigit_whole c hc)
  | some digits =>
    rcases List.mem_append.mp hc with hc | hc
    · exact Or.inl (h.isDigit_whole c hc)
    · rcases List.mem_cons.mp hc with hc | hc
      · exact Or.inr hc
      · exact Or.inl (h.isDigit_fraction c hc)

/-- A plain decimal is not empty. -/
theorem IsDecimal.decimalText_ne_nil (h : IsDecimal whole fraction) :
    decimalText whole fraction ≠ [] := by
  cases fraction with
  | none => simpa [decimalText] using h.ne_nil
  | some digits => simp [decimalText]

/-- A plain decimal has no more digits than are in front of the point and behind it. -/
theorem IsDecimal.ofDigits_lt {width : Nat} (h : IsDecimal whole fraction)
    (hwhole : whole.length ≤ width) :
    ofDigits (whole ++ fraction.getD []) < 10 ^ (width + (fraction.getD []).length) := by
  have hdigits : ∀ c ∈ whole ++ fraction.getD [], c.isDigit :=
    List.forall_mem_append.mpr ⟨h.isDigit_whole, h.isDigit_fraction⟩
  refine Nat.lt_of_lt_of_le (Number.ofDigits_lt hdigits) ?_
  rw [List.length_append]
  exact Nat.pow_le_pow_right (Nat.succ_pos 9) (Nat.add_le_add_right hwhole _)

/-- A plain decimal, perhaps with a minus sign, has no blanks around it. -/
theorem IsDecimal.trim_signed (h : IsDecimal whole fraction) (negative : Bool) :
    Text.trim ((if negative then ['-'] else []) ++ decimalText whole fraction) =
      (if negative then ['-'] else []) ++ decimalText whole fraction := by
  refine Text.trim_of_forall fun c hc => ?_
  rcases List.mem_append.mp hc with hsign | hc
  · have hminus : c = '-' := by
      cases negative with
      | true => exact List.mem_singleton.mp hsign
      | false => simp at hsign
    rw [hminus]
    exact Character.isBlank_eq_false (by decide) (by decide)
  · rcases h.digit_or_point c hc with hdigit | rfl
    · exact Character.isBlank_of_isDigit hdigit
    · exact Character.isBlank_point

/-- A plain decimal has no blanks around it. -/
theorem IsDecimal.trim (h : IsDecimal whole fraction) :
    (decimalText whole fraction).trim = decimalText whole fraction :=
  h.trim_signed false

/-! ## Reading -/

/-- The size of a plain decimal is its digits scaled by the length of the fraction. -/
theorem decimal?_decimalText (h : IsDecimal whole fraction) :
    decimal? (decimalText whole fraction) =
      some (Magnitude.ofDecimal (ofDigits (whole ++ fraction.getD []))
        (-((fraction.getD []).length : Int))) := by
  cases fraction with
  | none =>
    have hsplit := Text.takeWhile_run (t := []) h.isDigit_whole (by simp)
    have hne : whole ≠ [] := by simpa using h.ne_nil
    simp only [List.append_nil] at hsplit
    simp [decimal?, decimalText, hsplit, hne, exponent?]
  | some digits =>
    have hsplit := Text.takeWhile_run (t := '.' :: digits) h.isDigit_whole (by simp)
    have hdigits := Text.takeWhile_run (t := []) h.isDigit_fraction (by simp)
    have hne : ¬ (whole = [] ∧ digits = []) := by simpa using h.ne_nil
    simp only [List.append_nil, Option.getD_some] at hdigits
    simp [decimal?, decimalText, hsplit, hdigits, hne, exponent?]

/-- A plain decimal is not one of the words for infinity and for not a number. -/
theorem IsDecimal.map_toLower_ne (h : IsDecimal whole fraction) :
    (decimalText whole fraction).map Char.toLower ∉
      ["inf".toList, "infinity".toList, "nan".toList] := by
  obtain ⟨c, s, hs⟩ := List.exists_cons_of_ne_nil h.decimalText_ne_nil
  have hc := h.digit_or_point c (by simp [hs])
  have hkeep : c.toLower.toNat = c.toNat ∧ c.toNat ≤ 57 := by
    have hrange : c.toNat ≤ 57 := by
      rcases hc with hdigit | rfl
      · have := Character.isDigit_iff.mp hdigit
        omega
      · decide
    rw [Character.toNat_toLower, if_neg]
    · exact ⟨rfl, hrange⟩
    · intro hupper
      have := Character.isUpper_iff.mp hupper
      omega
  have hhead : ((decimalText whole fraction).map Char.toLower).head? = some c.toLower := by
    simp [hs]
  -- Every word begins with a letter.
  intro hword
  have hletter : ∀ word ∈ ["inf".toList, "infinity".toList, "nan".toList],
      word.head?.all (fun d => decide (57 < d.toNat)) = true := by decide
  have hgreater := hletter _ hword
  rw [hhead, Option.all_some, decide_eq_true_iff] at hgreater
  omega

/-- In front of a plain decimal a minus sign is cut off, and nothing else. -/
theorem IsDecimal.cutSign_eq (h : IsDecimal whole fraction) (negative : Bool) :
    cutSign ((if negative then ['-'] else []) ++ decimalText whole fraction) =
      (negative, decimalText whole fraction) := by
  cases negative with
  | true => rfl
  | false =>
    obtain ⟨c, s, hs⟩ := List.exists_cons_of_ne_nil h.decimalText_ne_nil
    have hc := h.digit_or_point c (by simp [hs])
    rw [if_neg Bool.false_ne_true, List.nil_append, hs]
    unfold cutSign
    split
    · rename_i heq
      simp only [List.cons.injEq] at heq
      simp [heq.1] at hc
    · rename_i heq
      simp only [List.cons.injEq] at heq
      simp [heq.1] at hc
    · rfl

/-- A plain decimal, perhaps with a minus sign, denotes the double nearest to it. -/
theorem ofNumeral?_signed (h : IsDecimal whole fraction) (negative : Bool) :
    Binary64.ofNumeral? ((if negative then ['-'] else []) ++ decimalText whole fraction) =
      some (.signed negative (Magnitude.ofDecimal (ofDigits (whole ++ fraction.getD []))
        (-((fraction.getD []).length : Int)))) := by
  have hword := h.map_toLower_ne
  simp only [List.mem_cons, List.not_mem_nil, or_false, not_or] at hword
  obtain ⟨hinf, hinfinity, hnan⟩ := hword
  rw [Binary64.ofNumeral?, h.cutSign_eq]
  simp only [hinf, hinfinity, hnan, decimal?_decimalText h, decide_false, Bool.or_self,
    Bool.false_eq_true, if_false, Option.map_some]

/-- A plain decimal denotes the double nearest to it. -/
theorem ofNumeral?_decimalText (h : IsDecimal whole fraction) :
    Binary64.ofNumeral? (decimalText whole fraction) =
      some (.signed false (Magnitude.ofDecimal (ofDigits (whole ++ fraction.getD []))
        (-((fraction.getD []).length : Int)))) :=
  ofNumeral?_signed h false

end Number
end Shelfmark
