import Mathlib.Algebra.Order.Field.Rat
import Mathlib.Tactic.FieldSimp
import Shelfmark.Proofs.CallNumber.Lc.Printed
import Shelfmark.Proofs.Number.Digits

/-!
# Shelf keys - Places on the shelf

The place of a Library of Congress number on the shelf is given by its class letters, by
the value of its class number, and by its cutters, whose digits are read as decimal
fractions.  What is absent comes first, and behind a first cutter a year comes before a
second cutter.

Main results:

- Definition `Place.compare`: the order of the shelf.
- Theorem `Place.compare_eq_iff`: places are equal exactly when no one comes first.
- Theorem `compare_scaled_eq`: scaled values are in the order of the values.
-/

namespace Shelfmark
namespace ShelfKey

open CallNumber.Lc (Cutter Ending Printed Tail)

/-! ## The order of the shelf -/

/-- The place of a cutter among cutters: its letter and its digits as a decimal fraction. -/
structure CutterPlace where
  letter : Char
  fraction : ℚ
  deriving DecidableEq

/-- What stands behind a first cutter. -/
inductive EndingPlace where
  | nothing
  | year (value : Nat)
  | cutter (cutter : CutterPlace) (year : Option Nat)
  deriving DecidableEq

/-- The place of a call number on the shelf. -/
structure Place where
  letters : Text
  number : ℚ
  tail : Option (CutterPlace × EndingPlace)
  deriving DecidableEq

/-- What is absent comes before what is there. -/
def absentFirst {α : Type} (order : α → α → Ordering) : Option α → Option α → Ordering
  | none, none => .eq
  | none, some _ => .lt
  | some _, none => .gt
  | some a, some b => order a b

/-- Cutters are in the order of their letters and then of their fractions. -/
def CutterPlace.compare (a b : CutterPlace) : Ordering :=
  (Ord.compare a.letter b.letter).then (Ord.compare a.fraction b.fraction)

/-- Behind a first cutter nothing comes first, then a year by its value, then a second cutter
with nothing or a year behind it. -/
def EndingPlace.compare : EndingPlace → EndingPlace → Ordering
  | nothing, nothing => .eq
  | nothing, year _ => .lt
  | nothing, cutter _ _ => .lt
  | year _, nothing => .gt
  | year m, year n => Ord.compare m n
  | year _, cutter _ _ => .lt
  | cutter _ _, nothing => .gt
  | cutter _ _, year _ => .gt
  | cutter c y, cutter d z => (c.compare d).then (absentFirst Ord.compare y z)

/-- A first cutter decides before what stands behind it. -/
def compareTails (a b : CutterPlace × EndingPlace) : Ordering :=
  (a.1.compare b.1).then (a.2.compare b.2)

/-- Call numbers are in the order of their letters, then of their class numbers, and then
those without a cutter come first. -/
def Place.compare (a b : Place) : Ordering :=
  (Ord.compare a.letters b.letters).then
    ((Ord.compare a.number b.number).then (absentFirst compareTails a.tail b.tail))

/-! ## Equal places -/

/-- An order without ties has none after what is absent is added in front. -/
theorem absentFirst_eq_iff {α : Type} {order : α → α → Ordering}
    (h : ∀ a b, order a b = .eq ↔ a = b) (a b : Option α) :
    absentFirst order a b = .eq ↔ a = b := by
  cases a with
  | none => cases b <;> simp [absentFirst]
  | some a =>
    cases b with
    | none => simp [absentFirst]
    | some b => rw [absentFirst, h, Option.some.injEq]

/-- Cutters have the same place exactly when none comes first. -/
theorem CutterPlace.compare_eq_iff (a b : CutterPlace) : a.compare b = .eq ↔ a = b := by
  obtain ⟨letter, fraction⟩ := a
  obtain ⟨letter', fraction'⟩ := b
  simp only [CutterPlace.compare, Ordering.then_eq_eq, Std.compare_eq_iff_eq,
    CutterPlace.mk.injEq]

/-- Endings have the same place exactly when none comes first. -/
theorem EndingPlace.compare_eq_iff (a b : EndingPlace) : a.compare b = .eq ↔ a = b := by
  have hyears (y z : Option Nat) : absentFirst Ord.compare y z = .eq ↔ y = z :=
    absentFirst_eq_iff (fun _ _ => Std.compare_eq_iff_eq) y z
  cases a with
  | nothing => cases b <;> simp [EndingPlace.compare]
  | year m => cases b <;> simp [EndingPlace.compare]
  | cutter c y =>
    cases b with
    | nothing => simp [EndingPlace.compare]
    | year n => simp [EndingPlace.compare]
    | cutter d z =>
      simp only [EndingPlace.compare, Ordering.then_eq_eq, CutterPlace.compare_eq_iff, hyears,
        EndingPlace.cutter.injEq]

/-- Call numbers have the same place exactly when none comes first. -/
theorem Place.compare_eq_iff (a b : Place) : a.compare b = .eq ↔ a = b := by
  have htail (a b : CutterPlace × EndingPlace) : compareTails a b = .eq ↔ a = b := by
    rw [compareTails, Ordering.then_eq_eq, CutterPlace.compare_eq_iff, EndingPlace.compare_eq_iff,
      Prod.ext_iff]
  have htails := absentFirst_eq_iff htail
  obtain ⟨letters, number, tail⟩ := a
  obtain ⟨letters', number', tail'⟩ := b
  simp only [Place.compare, Ordering.then_eq_eq, Std.compare_eq_iff_eq, htails, Place.mk.injEq]

/-! ## Decimal values -/

/-- The value of digits before and after a decimal point. -/
def decimalValue (whole fraction : Text) : ℚ :=
  Number.ofDigits whole + Number.ofDigits fraction / 10 ^ fraction.length

/-- Scaling makes a decimal value whole if there are places for the fraction. -/
theorem cast_scaled {places : Nat} {whole fraction : Text} (h : fraction.length ≤ places) :
    (Number.scaled places whole fraction : ℚ) = decimalValue whole fraction * 10 ^ places := by
  have hpow : (10 : ℚ) ^ places = 10 ^ fraction.length * 10 ^ (places - fraction.length) := by
    rw [← pow_add]
    congr 1
    omega
  have hne : (10 : ℚ) ^ fraction.length ≠ 0 := pow_ne_zero _ (by norm_num)
  rw [Number.scaled, Number.ofDigits_append, decimalValue, hpow]
  push_cast
  field_simp

section Scaling

variable {places : Nat} {fraction fraction' : Text}

/-- A scaled value is less exactly where the value is. -/
theorem scaled_lt_iff (whole whole' : Text) (h : fraction.length ≤ places) (h' : fraction'.length ≤ places) :
    Number.scaled places whole fraction < Number.scaled places whole' fraction' ↔
      decimalValue whole fraction < decimalValue whole' fraction' := by
  have hpos : (0 : ℚ) < 10 ^ places := pow_pos (by norm_num) places
  rw [← @Nat.cast_lt ℚ, cast_scaled h, cast_scaled h', mul_lt_mul_iff_left₀ hpos]

/-- Scaled values are in the order of the values. -/
theorem compare_scaled_eq (whole whole' : Text) (h : fraction.length ≤ places) (h' : fraction'.length ≤ places) :
    compare (Number.scaled places whole fraction) (Number.scaled places whole' fraction') =
      compare (decimalValue whole fraction) (decimalValue whole' fraction') := by
  have hlt := scaled_lt_iff whole whole' h h'
  have hgt := scaled_lt_iff whole' whole h' h
  exact compare_congr hlt hgt

end Scaling

/-! ## The place of a printed call number -/

/-- The place of a cutter. -/
def cutterPlace (cutter : Cutter) : CutterPlace :=
  ⟨cutter.letter, decimalValue [] cutter.digits.text⟩

/-- The place of what stands behind a first cutter. -/
def endingPlace : Ending → EndingPlace
  | .nothing => .nothing
  | .year y => .year (Number.ofDigits y.digits.text)
  | .cutter _ c y => .cutter (cutterPlace c) (y.map fun year => Number.ofDigits year.digits.text)

/-- The place of a call number. -/
def place (printed : Printed) : Place :=
  { letters := printed.number.letters
    number := decimalValue printed.number.whole.text
      ((printed.number.fraction.map CallNumber.Lc.Digits.text).getD [])
    tail := printed.tail.map fun tail => (cutterPlace tail.cutter, endingPlace tail.ending) }

end ShelfKey
end Shelfmark
