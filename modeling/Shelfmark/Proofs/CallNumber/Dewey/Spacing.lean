import Shelfmark.Proofs.CallNumber.Dewey
import Shelfmark.Proofs.CallNumber.Lc.Written

/-!
# Call numbers - Dewey numbers with any spacing

Behind a Dewey class number comes a gap of spaces and perhaps a point, and then perhaps a cutter.
The gap has no part in what is read, nor have the spaces behind the cutter, unless they are
part of it: capitals behind the spaces belong to the cutter.

Main results:

- Theorem `parse?_text`: a written Dewey number reads as its class number and its body.
- Theorem `Written.parts_closed`: with a closed gap it has the same parts.
-/

namespace Shelfmark
namespace CallNumber
namespace Dewey

open Lc (Cutter Digits Gap NumberEnds Trailer)

/-! ## Dewey numbers with any spacing -/

/-- What stands behind the gap: any text, or a cutter and a text that does not go on with it. -/
inductive Body where
  | text (text : Text)
  | cutter (cutter : Cutter) (trailer : Trailer)
      (apart : 1 < trailer.spaces → ∀ c ∈ trailer.rest.head?, c.isUpper = false)

/-- A body as it is written. -/
def Body.written : Body → Text
  | text s => s
  | cutter c trailer _ => c.text ++ trailer.text

/-- A gap and a body that does not go on with the gap, nor with the class number. -/
structure WrittenTail where
  gap : Gap
  body : Body
  head : ∀ c ∈ body.written.head?, c ≠ ' ' ∧ c ≠ '.' ∧
    (gap.spaces = 0 ∨ gap.point = true → c.isDigit = false)

/-- A Dewey class number, and perhaps more behind a gap. -/
structure Written where
  whole : Digits
  length_le : whole.text.length ≤ 3
  fraction : Option Digits
  tail : Option WrittenTail

/-- A gap and a body as they are written. -/
def WrittenTail.text (tail : WrittenTail) : Text :=
  tail.gap.text ++ tail.body.written

/-- The class number as it is written. -/
def Written.classText (written : Written) : Text :=
  Number.decimalText written.whole.text (written.fraction.map Digits.text)

/-- A Dewey number as it is written. -/
def Written.text (written : Written) : Text :=
  written.classText ++ (written.tail.map WrittenTail.text).getD []

/-! ## Reading -/

/-- Digits are taken up to the next character that is none. -/
theorem takeDigits_append {n : Nat} {digits t : Text} (h : ∀ c ∈ digits, c.isDigit)
    (hlength : digits.length ≤ n) (ht : ∀ c ∈ t.head?, c.isDigit = false) :
    takeDigits n (digits ++ t) = digits := by
  induction digits generalizing n with
  | nil =>
    cases n with
    | zero => rfl
    | succ n =>
      cases t with
      | nil => rfl
      | cons c t => exact if_neg (by simp [ht c rfl])
  | cons c digits ih =>
    cases n with
    | zero => contradiction
    | succ n =>
      rw [List.cons_append, takeDigits, if_pos (h c (by simp)),
        ih (fun d hd => h d (by simp [hd])) (Nat.le_of_succ_le_succ hlength)]

/-- The class number is taken up to where it ends. -/
theorem Written.takeClass_append (written : Written) {t : Text} (h : NumberEnds t) :
    takeClass (written.classText ++ t) = written.classText := by
  obtain ⟨whole, length_le, fraction, tail⟩ := written
  have hne : whole.text.isEmpty = false := by simpa using whole.ne_nil
  unfold takeClass classText
  cases fraction with
  | none =>
    have hwhole : takeDigits 3 (whole.text ++ t) = whole.text :=
      takeDigits_append whole.isDigit length_le h.head
    have hfraction : takeFraction t = [] := by
      unfold takeFraction
      split
      · rename_i s
        have hnone : s.takeWhile Char.isDigit = [] := (Text.takeWhile_run (s := []) (by simp) h).1
        rw [hnone]
        rfl
      · rfl
    simp only [Option.map_none, Number.decimalText, hwhole, hne, Bool.false_eq_true, if_false,
      List.drop_left, hfraction, List.append_nil]
  | some fraction =>
    have hwhole : takeDigits 3 (whole.text ++ ('.' :: (fraction.text ++ t))) = whole.text :=
      takeDigits_append whole.isDigit length_le (by simp)
    have htake : (fraction.text ++ t).takeWhile Char.isDigit = fraction.text :=
      (Text.takeWhile_run fraction.isDigit h.head).1
    have hsome : fraction.text.isEmpty = false := by simpa using fraction.ne_nil
    simp only [Option.map_some, Number.decimalText, List.append_assoc, List.cons_append, hwhole,
      hne, Bool.false_eq_true, if_false, List.drop_left, takeFraction, htake, hsome]

/-- The gap in front of a cutter is passed over. -/
theorem cutter?_gap (gap : Gap) {t : Text} (h : ∀ c ∈ t.head?, c ≠ ' ' ∧ c ≠ '.') :
    cutter? (gap.text ++ t) = cutter? t := by
  have hgap (gap : Gap) : Text.dropFirst '.' ((gap.text ++ t).dropWhile (· == ' ')) = t :=
    gap.skip_text h
  have hnone : Text.dropFirst '.' (t.dropWhile (· == ' ')) = t := hgap ⟨0, false⟩
  rw [cutter?.eq_def, cutter?.eq_def, hgap, hnone]

/-- A cutter is read up to the spaces behind it, unless capitals follow them. -/
theorem cutter?_text (cutter : Cutter) {trailer : Trailer}
    (h : ∀ c ∈ trailer.rest.head?, c.isUpper = false) :
    cutter? (cutter.text ++ trailer.text) = some (cutter.text, trailer.rest) := by
  have hskip : Text.dropFirst '.' ((cutter.text ++ trailer.text).dropWhile (· == ' ')) =
      cutter.letter :: (cutter.digits.text ++ trailer.text) :=
    Gap.skip_cutter ⟨0, false⟩ cutter trailer.text
  have htake := (Text.takeWhile_run cutter.digits.isDigit trailer.head_text).1
  have hne : cutter.digits.text.isEmpty = false := by simpa using cutter.digits.ne_nil
  have hspace : ∀ c ∈ trailer.rest.head?, (c == ' ') = false := fun c hc =>
    beq_eq_false_iff_ne.mpr (trailer.head c hc).1
  have hspaces : ∀ c ∈ List.replicate trailer.spaces ' ', (c == ' ') = true := fun c hc =>
    beq_iff_eq.mpr (List.mem_replicate.mp hc).2
  obtain ⟨hgap, htail⟩ := Text.takeWhile_run hspaces hspace
  rw [← Trailer.text] at hgap htail
  have hletters : trailer.rest.takeWhile Char.isUpper = [] :=
    (Text.takeWhile_run (s := []) (by simp) h).1
  have htrim : Text.trimEnd (cutter.letter :: cutter.digits.text ++
      List.replicate trailer.spaces ' ' ++ []) = cutter.text := by
    rw [List.append_nil, Text.trimEnd_append_blank _ Text.isBlank_of_mem_spaces]
    exact Text.trimEnd_eq_self fun c hc =>
      Character.isBlank_of_isDigit ((cutter.digits.ends.cons cutter.letter).isDigit c hc)
  rw [cutter?.eq_def, hskip]
  simp only [cutter.isUpper, htake, hne, Bool.not_false, Bool.and_self, if_true, List.drop_left,
    hgap, htail, hletters, htrim, List.length_nil, List.drop_zero]

/-- What a body reads as: a cutter and the text behind it, if there is a cutter. -/
def Body.parts (body : Body) (classDigits : Text) : Dewey :=
  match cutter? body.written with
  | some (found, rest) => ⟨classDigits, some found, rest.trim.nonempty?⟩
  | none => ⟨classDigits, none, none⟩

/-- The parts of a Dewey number. -/
def Written.parts (written : Written) : Dewey :=
  match written.tail with
  | some tail => tail.body.parts written.classText
  | none => ⟨written.classText, none, none⟩

/-- The class number ends in front of a gap and a body. -/
theorem WrittenTail.numberEnds (tail : WrittenTail) : NumberEnds tail.text := by
  obtain ⟨gap, body, head⟩ := tail
  have hbody (h : gap.spaces = 0 ∨ gap.point = true) : NumberEnds body.written := by
    intro c hc
    cases hwritten : body.written with
    | nil =>
      rw [hwritten] at hc
      contradiction
    | cons d s =>
      obtain ⟨-, hpoint, hdigit⟩ := head d (by simp [hwritten])
      rw [hwritten, Text.dropFirst, if_neg hpoint] at hc
      exact Option.some.inj hc ▸ hdigit h
  unfold WrittenTail.text Gap.text Gap.pointText
  cases hspaces : gap.spaces with
  | succ n => simp [NumberEnds, List.replicate_succ, Text.dropFirst]
  | zero =>
    have hhead := (hbody (Or.inl hspaces)).head
    cases gap.point with
    | false => exact hbody (Or.inl hspaces)
    | true => exact hhead

/-- A written Dewey number reads as its class number and its body. -/
theorem parse?_text {raw : Text} {written : Written} (h : raw.trim = written.text) :
    parse? raw = some written.parts := by
  have hne : written.classText.isEmpty = false := by
    obtain ⟨d, s, hcons, -⟩ := written.whole.exists_cons
    unfold Written.classText
    cases written.fraction <;> simp [Number.decimalText, hcons]
  have hends : NumberEnds ((written.tail.map WrittenTail.text).getD []) := by
    cases written.tail with
    | none => simp [NumberEnds, Text.dropFirst]
    | some tail => exact tail.numberEnds
  have hclass := written.takeClass_append hends
  unfold parse?
  rw [h]
  unfold Written.text
  simp only [hclass, hne, Bool.false_eq_true, if_false, List.drop_left]
  unfold Written.parts
  cases written.tail with
  | none => rfl
  | some tail =>
    have hcutter : cutter? tail.text = cutter? tail.body.written :=
      cutter?_gap tail.gap fun c hc => ⟨(tail.head c hc).1, (tail.head c hc).2.1⟩
    rw [Option.map_some, Option.getD_some, hcutter]
    unfold Body.parts
    dsimp only
    cases cutter? tail.body.written <;> rfl

/-! ## Standard spacing -/

/-- At most one space behind a cutter. -/
def Body.standard : Body → Body
  | text s => .text s
  | cutter c trailer _ => .cutter c trailer.standard fun h => by
      have hmin : trailer.standard.spaces ≤ 1 := Nat.min_le_right _ _
      omega

/-- A body begins as it does in standard spacing. -/
theorem Body.head_standard (body : Body) : body.standard.written.head? = body.written.head? := by
  cases body <;> rfl

/-- A body reads as it does in standard spacing. -/
theorem Body.cutter?_standard (body : Body) :
    cutter? body.standard.written = cutter? body.written := by
  cases body with
  | text s => rfl
  | cutter c trailer apart =>
    change cutter? (c.text ++ trailer.standard.text) = cutter? (c.text ++ trailer.text)
    by_cases hfew : trailer.spaces ≤ 1
    · rw [Trailer.text_standard hfew]
    · have hupper := apart (by omega)
      rw [cutter?_text c hupper]
      exact cutter?_text c hupper

/-- A gap and a body with closed gap. -/
def WrittenTail.closed (tail : WrittenTail) : WrittenTail where
  gap := tail.gap.closed
  body := tail.body.standard
  head c hc := by
    rw [tail.body.head_standard] at hc
    obtain ⟨hspace, hpoint, hdigit⟩ := tail.head c hc
    refine ⟨hspace, hpoint, fun h => hdigit ?_⟩
    unfold Gap.closed at h
    cases hgap : tail.gap.point with
    | true => exact Or.inr rfl
    | false => exact Or.inl (by simpa [hgap] using h)

/-- A Dewey number with closed gap. -/
def Written.closed (written : Written) : Written :=
  { written with tail := written.tail.map WrittenTail.closed }

/-- A Dewey number with closed gap has the same parts. -/
theorem Written.parts_closed (written : Written) : written.closed.parts = written.parts := by
  obtain ⟨whole, length_le, fraction, tail⟩ := written
  cases tail with
  | none => rfl
  | some tail =>
    change tail.body.standard.parts _ = tail.body.parts _
    unfold Body.parts
    rw [tail.body.cutter?_standard]
    rfl

end Dewey
end CallNumber
end Shelfmark
