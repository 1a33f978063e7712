import Mathlib.Tactic.MkIffOfInductiveProp
import Shelfmark.Proofs.NaturalOrder.Value

/-!
# Natural order - Numbers in context

Two texts are read in step: as long as they agree up to case, their runs of digits begin and end
at the same places.  So the first number in which they differ decides by its value, however long
it is and whatever stands around it.

Main results:

- Theorem `tokens_append`: a text may be cut wherever no run of digits is cut.
- Theorem `IsNumberIn.tokens_eq`: a number of a text is one of its tokens.
- Theorem `natural_eq_of_numbers`: behind a common front texts compare by their numbers first.
- Theorem `numbers_in_context`: by value, then by length, then by what follows.
-/

namespace Shelfmark
namespace NaturalOrder

open Character (fold)
open Number (ofDigits)

/-! ## Cutting a text -/

/-- A character only looks at the first token that it is put in front of. -/
theorem Token.push_append (c : Char) {row : List Token} (h : row ≠ []) (more : List Token) :
    Token.push c (row ++ more) = Token.push c row ++ more := by
  obtain ⟨token, row, rfl⟩ := List.exists_cons_of_ne_nil h
  unfold Token.push
  split
  · cases token <;> rfl
  · rfl

/-- A text has tokens unless it is empty. -/
theorem tokens_cons_ne_nil (c : Char) (s : Text) : tokens (c :: s) ≠ [] := by
  change Token.push c (tokens s) ≠ []
  unfold Token.push
  split
  · split <;> simp
  · simp

/-- A character that is no digit is a token of its own. -/
theorem tokens_cons_other {c : Char} (h : c.isDigit = false) (s : Text) :
    tokens (c :: s) = .other (fold c) :: tokens s := by
  change Token.push c (tokens s) = _
  simp [Token.push, h]

/-- A digit in front of a text that does not begin with one is a number of its own. -/
theorem tokens_cons_digit {c : Char} (h : c.isDigit = true) {s : Text}
    (hs : ∀ d ∈ s.head?, d.isDigit = false) :
    tokens (c :: s) = .number [c] :: tokens s := by
  change Token.push c (tokens s) = _
  cases s with
  | nil => simp [Token.push, tokens, h]
  | cons d s => simp [Token.push, tokens_cons_other (hs d rfl), h]

/-- A text may be cut where a digit does not stand on both sides. -/
theorem tokens_append {s t : Text}
    (h : (∀ c ∈ s.getLast?, c.isDigit = false) ∨ ∀ c ∈ t.head?, c.isDigit = false) :
    tokens (s ++ t) = tokens s ++ tokens t := by
  induction s with
  | nil => rfl
  | cons c s ih =>
    cases s with
    | nil =>
      rw [List.singleton_append]
      cases hc : c.isDigit with
      | false => rw [tokens_cons_other hc, tokens_cons_other hc]; rfl
      | true =>
        have ht : ∀ d ∈ t.head?, d.isDigit = false :=
          h.resolve_left fun hlast => by simp [hlast c rfl] at hc
        rw [tokens_cons_digit hc ht, tokens_cons_digit hc (by simp)]
        rfl
    | cons d s =>
      rw [List.getLast?_cons_cons] at h
      change Token.push c (tokens (d :: s ++ t)) = _
      rw [ih h, Token.push_append c (tokens_cons_ne_nil d s)]
      rfl

/-- Digits alone are one number. -/
theorem tokens_digits {run : Text} (hne : run ≠ []) (hdigits : ∀ c ∈ run, c.isDigit = true) :
    tokens run = [.number run] := by
  induction run with
  | nil => exact absurd rfl hne
  | cons c run ih =>
    obtain ⟨hc, hrun⟩ := List.forall_mem_cons.mp hdigits
    cases run with
    | nil => exact tokens_cons_digit hc (by simp)
    | cons d run =>
      change Token.push c (tokens (d :: run)) = _
      rw [ih (List.cons_ne_nil d run) hrun, Token.push, if_pos hc]

/-! ## A number and what is around it -/

/-- Digits are a whole number of a text: no digit stands directly in front of them, and none
directly behind them. -/
@[mk_iff]
structure IsNumberIn (front run rest : Text) : Prop where
  front_last : ∀ c ∈ front.getLast?, c.isDigit = false
  ne_nil : run ≠ []
  isDigit : ∀ c ∈ run, c.isDigit = true
  rest_head : ∀ c ∈ rest.head?, c.isDigit = false

/-- Whether digits are a whole number of a text can be read off it. -/
instance (front run rest : Text) : Decidable (IsNumberIn front run rest) :=
  decidable_of_iff
    ((front.getLast?.all fun c => !c.isDigit) = true ∧ run.isEmpty = false ∧
      run.all Char.isDigit = true ∧ (rest.head?.all fun c => !c.isDigit) = true)
    (by simp only [isNumberIn_iff, Option.all_eq_true, List.all_eq_true, List.isEmpty_eq_false_iff,
      Bool.not_eq_true', Option.mem_def])

/-- A number of a text is one of its tokens. -/
theorem IsNumberIn.tokens_eq {front run rest : Text} (h : IsNumberIn front run rest) :
    tokens (front ++ run ++ rest) = tokens front ++ .number run :: tokens rest := by
  rw [List.append_assoc, tokens_append (Or.inl h.front_last), tokens_append (Or.inr h.rest_head),
    tokens_digits h.ne_nil h.isDigit, List.singleton_append]

section Numbers

variable {front front' run run' rest rest' : Text}

/-- Behind fronts that agree up to case, numbers compare first, and then what follows them. -/
theorem natural_eq_of_numbers (h : IsNumberIn front run rest) (h' : IsNumberIn front' run' rest')
    (hfront : front.map fold = front'.map fold) :
    natural (front ++ run ++ rest) (front' ++ run' ++ rest') =
      ((compare (ofDigits run) (ofDigits run')).then (compare run.length run'.length)).then
        (natural rest rest') := by
  have hnumbers : Token.order (.number run) (.number run') = compareNumbers run run' := rfl
  rw [natural_eq_compareLex_order, h.tokens_eq, h'.tokens_eq, tokens_eq_iff.mpr hfront,
    compareLex_append_left, List.compareLex_cons_cons, ← natural_eq_compareLex_order, hnumbers,
    compareNumbers_eq h.isDigit h'.isDigit]

/-- Behind fronts that agree up to case, the text with the smaller number comes first, and of two
spellings of one number the shorter one, whatever follows; behind the same digits what follows
decides. -/
theorem numbers_in_context (h : IsNumberIn front run rest) (h' : IsNumberIn front' run' rest')
    (hfront : front.map fold = front'.map fold) :
    (ofDigits run < ofDigits run' →
        natural (front ++ run ++ rest) (front' ++ run' ++ rest') = .lt) ∧
      (ofDigits run = ofDigits run' → run.length < run'.length →
        natural (front ++ run ++ rest) (front' ++ run' ++ rest') = .lt) ∧
      (run = run' →
        natural (front ++ run ++ rest) (front' ++ run' ++ rest') = natural rest rest') := by
  rw [natural_eq_of_numbers h h' hfront]
  refine ⟨fun hless => ?_, fun hsame hshorter => ?_, fun hsame => ?_⟩
  · rw [Nat.compare_eq_lt.mpr hless]
    rfl
  · rw [Nat.compare_eq_eq.mpr hsame, Nat.compare_eq_lt.mpr hshorter]
    rfl
  · rw [hsame, Nat.compare_eq_eq.mpr rfl, Nat.compare_eq_eq.mpr rfl]
    rfl

end Numbers

/-- Of barcodes with twenty digits behind one volume the smaller comes first, of one barcode in two
spellings the shorter, and behind one barcode the second copy comes before the tenth. -/
theorem barcodes_in_context :
    let front := "Éd. v.007 no.".toList
    let front' := "éd. V.007 NO.".toList
    let barcode := "18446744073709551616".toList
    let next := "18446744073709551617".toList
    natural (front ++ barcode ++ " z".toList) (front' ++ next ++ []) = .lt ∧
      natural (front ++ barcode ++ " z".toList) (front' ++ '0' :: barcode ++ " a".toList) = .lt ∧
      natural (front ++ barcode ++ " c.2".toList) (front' ++ barcode ++ " C.10".toList) = .lt := by
  intro front front' barcode next
  have hfront : front.map fold = front'.map fold := by decide
  have hlast : IsNumberIn front barcode " z".toList := by decide
  have hnext : IsNumberIn front' next [] := by decide
  have hpadded : IsNumberIn front' ('0' :: barcode) " a".toList := by decide
  have hsecond : IsNumberIn front barcode " c.2".toList := by decide
  have htenth : IsNumberIn front' barcode " C.10".toList := by decide
  have hcopies : natural " c.2".toList " C.10".toList = .lt := by decide
  exact ⟨(numbers_in_context hlast hnext hfront).1 (by decide),
    (numbers_in_context hlast hpadded hfront).2.1 (by decide) (by decide),
    ((numbers_in_context hsecond htenth hfront).2.2 rfl).trans hcopies⟩

end NaturalOrder
end Shelfmark
