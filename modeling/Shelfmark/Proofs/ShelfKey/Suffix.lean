import Shelfmark.Proofs.NaturalOrder.Value
import Shelfmark.Proofs.Number.Whole
import Shelfmark.Proofs.ShelfKey.NumericOrder
import Shelfmark.Proofs.Text.Runs

/-!
# Shelf keys - The numbers of a suffix

A suffix is written run by run: digits as a number, everything between them as it stands.  The
number goes through double precision, which has room for 53 bits.  So volumes and copies keep their
numbers, and a barcode of many digits may get the number of its neighbour.

Main results:

- Theorem `suffix_append`: a suffix is written run by run.
- Theorem `forall₂_writeRun`: the runs of what is written are the runs, written.
- Theorem `suffix_keeps_numbers_iff`: all numbers are kept exactly if they have at most 53 bits.
-/

namespace Shelfmark
namespace ShelfKey

open NaturalOrder (significant)
open Number (IsDecimal IsExact Magnitude ofDigits roundHalfEven unitsPerOne)
open Text (Alternate IsRun runs)

/-! ## Run by run -/

/-- A run as it stands in a key: digits as a number, anything else as it is. -/
def writeRun (run : Text) : Except KeyError Text :=
  if run.all Char.isDigit then number run suffixWidth else .ok run

/-- What is between numbers is written as it is. -/
theorem writeRun_other {run : Text} (hrun : IsRun false run) : writeRun run = .ok run := by
  rw [writeRun, hrun.all_isDigit, if_neg Bool.false_ne_true]

/-- A suffix is written piece by piece. -/
theorem suffix_eq_mapM (text : Text) :
    suffix text = ((digitRuns text).mapM writeRun).map List.flatten :=
  rfl

/-- The first piece is written in front of the others. -/
theorem suffix_of_digitRuns {text piece rest : Text}
    (h : digitRuns text = piece :: digitRuns rest) :
    suffix text = (writeRun piece).bind fun a => (suffix rest).map (a ++ ·) := by
  rw [suffix_eq_mapM, suffix_eq_mapM, h, List.mapM_cons]
  cases writeRun piece with
  | error e => rfl
  | ok a =>
    cases (digitRuns rest).mapM writeRun with
    | error e => rfl
    | ok written => rfl

/-- Characters that are no digits are kept. -/
theorem suffix_append_others {run : Text} (hrun : ∀ c ∈ run, c.isDigit = false) (s : Text) :
    suffix (run ++ s) = (suffix s).map (run ++ ·) := by
  induction run with
  | nil => cases h : suffix s <;> simp [h, Except.map]
  | cons c run ih =>
    have hc := hrun c (by simp)
    have hone : writeRun [c] = .ok [c] := by simp [writeRun, hc]
    rw [List.cons_append, suffix_of_digitRuns (digitRuns_cons hc _), hone,
      ih fun d hd => hrun d (by simp [hd])]
    cases suffix s <;> rfl

/-- A suffix is written run by run. -/
theorem suffix_append {digits : Bool} {run s : Text} (hrun : IsRun digits run)
    (hs : ∀ c ∈ s.head?, c.isDigit = !digits) :
    suffix (run ++ s) = (writeRun run).bind fun a => (suffix s).map (a ++ ·) := by
  cases digits with
  | true => exact suffix_of_digitRuns (digitRuns_append hrun.isDigit hrun.ne_nil hs)
  | false =>
    rw [suffix_append_others hrun.isDigit, writeRun_other hrun]
    rfl

/-- A suffix can be written exactly if each of its runs can. -/
theorem suffix_flatten_iff {pieces : List Text} (h : Alternate pieces) {s : Text} :
    suffix pieces.flatten = .ok s ↔
      ∃ written, List.Forall₂ (fun run out => writeRun run = .ok out) pieces written ∧
        s = written.flatten := by
  induction pieces generalizing s with
  | nil =>
    constructor
    · intro hs
      exact ⟨[], .nil, (Except.ok.inj hs).symm⟩
    · rintro ⟨written, hwritten, rfl⟩
      cases hwritten
      rfl
  | cons run pieces ih =>
    rw [List.flatten_cons, suffix_append (h.isRun run List.mem_cons_self) h.isDigit_head?]
    constructor
    · intro hs
      cases hrun : writeRun run with
      | error e =>
        rw [hrun] at hs
        cases hs
      | ok out =>
        rw [hrun] at hs
        cases hrest : suffix pieces.flatten with
        | error e =>
          rw [hrest] at hs
          cases hs
        | ok rest =>
          rw [hrest] at hs
          obtain ⟨written, hwritten, rfl⟩ := (ih h.tail).mp hrest
          exact ⟨out :: written, .cons hrun hwritten, (Except.ok.inj hs).symm⟩
    · rintro ⟨written, hwritten, rfl⟩
      cases hwritten with
      | cons hrun hrest =>
        rw [hrun, (ih h.tail).mpr ⟨_, hrest, rfl⟩]
        rfl

/-! ## Whole numbers -/

/-- Without places only the digits in front of the point are written. -/
theorem fixed_zero (before n : Nat) :
    fixed before 0 n = Text.padZeros before (Nat.toDigits 10 n) := by
  have hpos : 0 < (Nat.toDigits 10 n).length := Nat.length_toDigits_pos
  have hone : Text.padZeros 1 (Nat.toDigits 10 n) = Nat.toDigits 10 n := by
    rw [Text.padZeros, Nat.sub_eq_zero_of_le hpos, List.replicate_zero, List.nil_append]
  have hwhole := Number.FixedPoint.whole_append_fraction n 0
  rw [Number.FixedPoint.fraction_zero, List.append_nil, Nat.zero_add, hone] at hwhole
  rw [fixed, if_pos rfl, List.append_nil, hwhole]

/-- A number is written with six digits, or with its significant digits if there are more. -/
theorem length_padZeros_toDigits {run : Text} (hrun : ∀ c ∈ run, c.isDigit) :
    (Text.padZeros 6 (Nat.toDigits 10 (ofDigits run))).length = max 6 (significant run).length := by
  have hsame (k : Nat) (hk : 0 < k) :
      (Nat.toDigits 10 (ofDigits run)).length ≤ k ↔ (significant run).length ≤ k := by
    rw [Nat.length_toDigits_le_iff (by omega) hk, NaturalOrder.length_significant_le_iff hrun]
  have hwide := hsame (max 6 (significant run).length) (by omega)
  have hback := hsame (max 6 (Nat.toDigits 10 (ofDigits run)).length) (by omega)
  rw [Number.length_padZeros]
  omega

/-- A run of digits that is written is read as a finite double and written from it. -/
theorem exists_of_writeRun {run out : Text} (hrun : IsRun true run) (h : writeRun run = .ok out) :
    ∃ units, Magnitude.ofDecimal (ofDigits run) 0 = .finite units ∧
      out = Text.padZeros 6 (Nat.toDigits 10 (roundHalfEven units unitsPerOne)) := by
  have hdecimal : IsDecimal run none :=
    ⟨hrun.isDigit, by simp, by simpa using hrun.ne_nil⟩
  rw [writeRun, if_pos hrun.all_isDigit] at h
  have hwritten : number (Number.decimalText run none) ⟨(6 : Nat), (0 : Nat)⟩ = .ok out := h
  obtain ⟨units, hread, rfl⟩ := exists_of_number (by omega) hdecimal hwritten
  rw [Option.getD_none, List.append_nil] at hread
  refine ⟨units, hread, ?_⟩
  rw [fixed_zero, Nat.pow_zero, Nat.mul_one]

/-- What is written is a run of the same kind. -/
theorem isRun_of_writeRun {digits : Bool} {run out : Text} (hrun : IsRun digits run)
    (h : writeRun run = .ok out) : IsRun digits out := by
  cases digits with
  | true =>
    obtain ⟨units, -, rfl⟩ := exists_of_writeRun hrun h
    refine ⟨?_, Number.isDigit_of_mem_padZeros Number.isDigit_of_mem_toDigits⟩
    rw [← List.length_pos_iff, Number.length_padZeros]
    omega
  | false =>
    rw [writeRun_other hrun] at h
    rwa [← Except.ok.inj h]

/-- The runs of what is written are the runs, written. -/
theorem forall₂_writeRun {text s : Text} (h : suffix text = .ok s) :
    List.Forall₂ (fun run out => writeRun run = .ok out) (runs text) (runs s) := by
  have halternate := Text.alternate_runs text
  rw [← Text.flatten_runs text, suffix_flatten_iff halternate] at h
  obtain ⟨written, hwritten, hs⟩ := h
  have hkinds : List.Forall₂ (fun run out => IsRun (run.all Char.isDigit) out) (runs text) written :=
    ((List.forall₂_and_left _ _).mpr ⟨halternate.isRun, hwritten⟩).imp fun _ _ hrun =>
      isRun_of_writeRun hrun.1 hrun.2
  rwa [Text.runs_eq_iff.mpr ⟨hs, halternate.of_forall₂ hkinds⟩]

/-! ## Numbers that are kept -/

/-- What becomes of a run in any case: digits become a number of six digits, or of as many as it
has, and anything else stays as it is. -/
structure Padded (run out : Text) : Prop where
  others : run.all Char.isDigit = false → out = run
  isDigit : run.all Char.isDigit = true → out.all Char.isDigit = true
  width : run.all Char.isDigit = true → out.length = max 6 (significant out).length

/-- A run that is padded and nothing else: digits become the same number of six digits, or of as
many as it has, and anything else stays as it is. -/
structure Kept (run out : Text) : Prop where
  others : run.all Char.isDigit = false → out = run
  isDigit : run.all Char.isDigit = true → out.all Char.isDigit = true
  value : run.all Char.isDigit = true → ofDigits out = ofDigits run
  width : run.all Char.isDigit = true → out.length = max 6 (significant run).length

/-- Characters between numbers are always kept. -/
theorem kept_of_isRun_false {run out : Text} (hrun : IsRun false run)
    (h : writeRun run = .ok out) : Padded run out ∧ Kept run out := by
  have hkind := hrun.all_isDigit
  rw [writeRun_other hrun] at h
  have hout : out = run := (Except.ok.inj h).symm
  exact ⟨⟨fun _ => hout, by simp [hkind], by simp [hkind]⟩,
    ⟨fun _ => hout, by simp [hkind], by simp [hkind], by simp [hkind]⟩⟩

/-- A number is written as a number, and kept exactly if it has at most 53 bits. -/
theorem kept_iff_isExact {run out : Text} (hrun : IsRun true run) (h : writeRun run = .ok out) :
    Padded run out ∧ (Kept run out ↔ IsExact (ofDigits run)) := by
  have hkind := hrun.all_isDigit
  obtain ⟨units, hread, hout⟩ := exists_of_writeRun hrun h
  have hvalue : ofDigits out = roundHalfEven units unitsPerOne := by
    rw [hout, Number.ofDigits_padZeros, Number.ofDigits_toDigits]
  have hdigits := isRun_of_writeRun hrun h
  have hwidth : out.length = max 6 (significant out).length := by
    rw [← length_padZeros_toDigits hdigits.isDigit, hvalue, hout]
  refine ⟨⟨by simp [hkind], fun _ => hdigits.all_isDigit, fun _ => hwidth⟩, ?_⟩
  rw [← Number.roundHalfEven_ofDecimal_iff hread, ← hvalue]
  constructor
  · intro hkept
    exact hkept.value hkind
  · intro hsame
    refine ⟨by simp [hkind], fun _ => hdigits.all_isDigit, fun _ => hsame, fun _ => ?_⟩
    rw [← length_padZeros_toDigits hrun.isDigit, ← hsame, hvalue, hout]

/-- A run is written in its place, and it is kept unless it is a number of more than 53 bits. -/
theorem padded_and_kept_iff {run out : Text} (hrun : IsRun (run.all Char.isDigit) run)
    (h : writeRun run = .ok out) :
    Padded run out ∧ (Kept run out ↔ (run.all Char.isDigit = true → IsExact (ofDigits run))) := by
  cases hkind : run.all Char.isDigit with
  | false =>
    rw [hkind] at hrun
    obtain ⟨hpadded, hkept⟩ := kept_of_isRun_false hrun h
    exact ⟨hpadded, iff_of_true hkept fun h => absurd h Bool.false_ne_true⟩
  | true =>
    rw [hkind] at hrun
    obtain ⟨hpadded, hiff⟩ := kept_iff_isExact hrun h
    exact ⟨hpadded, hiff.trans ⟨fun hexact _ => hexact, fun hexact => hexact rfl⟩⟩

/-- The numbers of a text have at most 53 bits. -/
def HasExactNumbers (text : Text) : Prop :=
  ∀ run ∈ runs text, run.all Char.isDigit = true → IsExact (ofDigits run)

/-- Numbers of at most fifteen digits have at most 53 bits. -/
theorem hasExactNumbers_of_length_le {text : Text}
    (h : ∀ run ∈ runs text, run.all Char.isDigit = true → run.length ≤ 15) :
    HasExactNumbers text := by
  intro run hrun hdigits
  refine Number.isExact_of_lt ?_
  calc ofDigits run < 10 ^ run.length := Number.ofDigits_lt (List.all_eq_true.mp hdigits)
    _ ≤ 10 ^ 15 := Nat.pow_le_pow_right (by omega) (h run hrun hdigits)
    _ < 2 ^ 53 := by omega

/-- The runs of a text that is written are padded, all of them without change to their numbers
exactly if these have at most 53 bits. -/
theorem forall₂_kept_iff {text s : Text} (h : suffix text = .ok s) :
    List.Forall₂ Padded (runs text) (runs s) ∧
      (List.Forall₂ Kept (runs text) (runs s) ↔ HasExactNumbers text) := by
  have hruns : List.Forall₂ (fun run out => Padded run out ∧
      (Kept run out ↔ (run.all Char.isDigit = true → IsExact (ofDigits run))))
      (runs text) (runs s) :=
    ((List.forall₂_and_left _ _).mpr
      ⟨(Text.alternate_runs text).isRun, forall₂_writeRun h⟩).imp
      fun run out hrun => padded_and_kept_iff hrun.1 hrun.2
  refine ⟨hruns.imp fun run out hrun => hrun.1, ?_⟩
  constructor
  · intro hkept
    have hexact : List.Forall₂ (fun run out =>
        (run.all Char.isDigit = true → IsExact (ofDigits run)) ∧ Kept run out)
        (runs text) (runs s) :=
      hkept.mp (fun run out hkept hrun => ⟨hrun.2.mp hkept, hkept⟩) hruns
    exact ((List.forall₂_and_left _ _).mp hexact).1
  · intro hexact
    exact ((List.forall₂_and_left _ _).mpr ⟨hexact, hruns⟩).imp
      fun run out hrun => hrun.2.2.mpr hrun.1

/-! ## Numbers that are told apart -/

/-- What a run stands for: a number, or its characters. -/
def meaning (run : Text) : Nat ⊕ Text :=
  if run.all Char.isDigit then .inl (ofDigits run) else .inr run

/-- A run that is kept still stands for the same. -/
theorem Kept.meaning_eq {run out : Text} (h : Kept run out) : meaning out = meaning run := by
  unfold meaning
  cases hkind : run.all Char.isDigit with
  | false => rw [h.others hkind, hkind]
  | true => rw [h.isDigit hkind, h.value hkind, if_pos rfl, if_pos rfl]

/-- What is written keeps its runs in place, all that stands between the numbers, and the width of
the numbers.  The numbers themselves are kept exactly if none has more than 53 bits, and texts with
such numbers only are told apart by what is written. -/
theorem suffix_keeps_numbers_iff {text s : Text} (h : suffix text = .ok s) :
    List.Forall₂ Padded (runs text) (runs s) ∧
      (List.Forall₂ Kept (runs text) (runs s) ↔ HasExactNumbers text) ∧
      (HasExactNumbers text → ∀ other, HasExactNumbers other → suffix other = .ok s →
        (runs text).map meaning = (runs other).map meaning) := by
  have hmeaning {text : Text} (h : suffix text = .ok s) (hexact : HasExactNumbers text) :
      (runs text).map meaning = (runs s).map meaning := by
    rw [← List.forall₂_eq_eq_eq, List.forall₂_map_left_iff, List.forall₂_map_right_iff]
    exact ((forall₂_kept_iff h).2.mpr hexact).imp fun run out hkept => hkept.meaning_eq.symm
  obtain ⟨hpadded, hkept⟩ := forall₂_kept_iff h
  refine ⟨hpadded, hkept, fun hexact other hother hsame => ?_⟩
  rw [hmeaning h hexact, hmeaning hsame hother]

/-- Volume, copy and barcode are padded and kept. -/
theorem volumeAndBarcode_kept :
    suffix "V.07 C.2 31234567890123".toList = .ok "V.000007 C.000002 31234567890123".toList ∧
      List.Forall₂ Kept (runs "V.07 C.2 31234567890123".toList)
        (runs "V.000007 C.000002 31234567890123".toList) := by
  have hkey : suffix "V.07 C.2 31234567890123".toList =
      .ok "V.000007 C.000002 31234567890123".toList := by decide +kernel
  have hexact : HasExactNumbers "V.07 C.2 31234567890123".toList :=
    hasExactNumbers_of_length_le (by decide +kernel)
  exact ⟨hkey, (suffix_keeps_numbers_iff hkey).2.1.mpr hexact⟩

/-- A number of 54 bits is written as its neighbour, so that both have one key. -/
theorem longBarcode_not_kept :
    suffix "9007199254740993".toList = .ok "9007199254740992".toList ∧
      suffix "9007199254740992".toList = .ok "9007199254740992".toList ∧
      ¬ List.Forall₂ Kept (runs "9007199254740993".toList) (runs "9007199254740992".toList) := by
  refine ⟨by decide +kernel, by decide +kernel, fun hkept => ?_⟩
  have hruns : runs "9007199254740993".toList = ["9007199254740993".toList] ∧
      runs "9007199254740992".toList = ["9007199254740992".toList] := by decide +kernel
  rw [hruns.1, hruns.2] at hkept
  have hvalue := (List.forall₂_cons.mp hkept).1.value (by decide)
  exact absurd hvalue (by decide +kernel)

end ShelfKey
end Shelfmark
