import Shelfmark.Proofs.ShelfKey.Suffix

/-!
# Shelf keys - Suffixes in natural order

A key has its suffixes in the order of their characters, a listing has call numbers in natural
order.  These are the same order where all numbers in the suffixes have at most six digits and no
zero in front: all are written with six digits then, so that the longer number is not overtaken by
the shorter one, and none comes in two spellings.

Main results:

- Theorem `tokens_eq`: the tokens of the natural order are the pieces that a key is written from.
- Theorem `compare_padded_append`: of two written pieces one comes first as their tokens do.
- Theorem `suffix_bytes_natural`: suffixes are written in natural order.
-/

namespace Shelfmark
namespace ShelfKey

open Character (fold)
open NaturalOrder (Token compareNumbers natural significant tokens)
open Number (ofDigits)
open Text (Alternate IsRun runs)

/-! ## Plain suffixes -/

/-- A character of a plain suffix. -/
def IsPlain (c : Char) : Prop :=
  c.isUpper = true ∨ c.isDigit = true ∨ c = ' ' ∨ c = '.'

/-- Capitals, digits, spaces and points, with numbers of at most six digits and without zeros in
front. -/
structure IsPlainSuffix (text : Text) : Prop where
  isPlain : ∀ c ∈ text, IsPlain c
  length_le : ∀ run ∈ runs text, run.all Char.isDigit = true → run.length ≤ 6
  eq_zero : ∀ run ∈ runs text, run.all Char.isDigit = true → run.head? = some '0' → run = ['0']

/-- Folding keeps plain characters in order. -/
theorem compare_fold {c d : Char} (hc : IsPlain c) (hd : IsPlain d) :
    compare (fold c) (fold d) = compare c d := by
  have hcode {c : Char} (h : IsPlain c) :
      65 ≤ c.toNat ∧ (fold c).toNat = c.toNat + 32 ∨
        c.toNat ≤ 57 ∧ (fold c).toNat = c.toNat := by
    rcases h with hupper | hdigit | rfl | rfl
    · exact Character.toNat_fold (Or.inl hupper)
    · exact Character.toNat_fold (Or.inr hdigit)
    · decide
    · decide
  have hleft := hcode hc
  have hright := hcode hd
  have hlt : (fold c).toNat < (fold d).toNat ↔ c.toNat < d.toNat := by omega
  have hgt : (fold d).toNat < (fold c).toNat ↔ d.toNat < c.toNat := by omega
  rw [Character.compare_eq, Character.compare_eq]
  exact compare_congr hlt hgt

/-! ## Pieces -/

/-- A run of digits is one piece, and of other characters each is one. -/
def piecesOfRun (run : Text) : List Text :=
  if run.all Char.isDigit then [run] else run.map fun c => [c]

/-- Characters that are no digits are pieces of their own. -/
theorem digitRuns_append_others {run : Text} (hrun : ∀ c ∈ run, c.isDigit = false) (s : Text) :
    digitRuns (run ++ s) = run.map (fun c => [c]) ++ digitRuns s := by
  induction run with
  | nil => rfl
  | cons c run ih =>
    rw [List.cons_append, digitRuns_cons (hrun c List.mem_cons_self),
      ih fun d hd => hrun d (List.mem_cons_of_mem c hd)]
    rfl

/-- The pieces that are written one by one are those of the runs. -/
theorem digitRuns_flatten {pieces : List Text} (h : Alternate pieces) :
    digitRuns pieces.flatten = pieces.flatMap piecesOfRun := by
  induction pieces with
  | nil => rfl
  | cons run pieces ih =>
    have hrun := h.isRun run List.mem_cons_self
    have hnext := h.isDigit_head?
    rw [List.flatten_cons, List.flatMap_cons, piecesOfRun, ← ih h.tail]
    cases hkind : run.all Char.isDigit with
    | true =>
      rw [hkind] at hrun hnext
      exact digitRuns_append hrun.isDigit hrun.ne_nil hnext
    | false =>
      rw [hkind] at hrun
      exact digitRuns_append_others hrun.isDigit pieces.flatten

/-- A piece of a plain suffix: a number of at most six digits without zeros in front, or another
plain character. -/
inductive IsPiece : Text → Prop
  | number {run : Text} (hrun : IsRun true run) (hlength : run.length ≤ 6)
      (hzero : run.head? = some '0' → run = ['0']) : IsPiece run
  | other {c : Char} (hplain : IsPlain c) (hother : c.isDigit = false) : IsPiece [c]

/-- The pieces of a plain suffix. -/
theorem IsPlainSuffix.isPiece {text : Text} (h : IsPlainSuffix text) :
    ∀ piece ∈ digitRuns text, IsPiece piece := by
  have halternate := Text.alternate_runs text
  rw [← Text.flatten_runs text, digitRuns_flatten halternate]
  intro piece hpiece
  obtain ⟨run, hrun, hmem⟩ := List.mem_flatMap.mp hpiece
  have hisRun := halternate.isRun run hrun
  unfold piecesOfRun at hmem
  cases hkind : run.all Char.isDigit with
  | true =>
    rw [hkind, if_pos rfl, List.mem_singleton] at hmem
    rw [hkind] at hisRun
    exact hmem ▸ .number hisRun (h.length_le run hrun hkind) (h.eq_zero run hrun hkind)
  | false =>
    rw [hkind, if_neg Bool.false_ne_true] at hmem
    rw [hkind] at hisRun
    obtain ⟨c, hc, rfl⟩ := List.mem_map.mp hmem
    have htext : c ∈ text := by
      rw [← Text.flatten_runs text]
      exact List.mem_flatten.mpr ⟨run, hrun, hc⟩
    exact .other (h.isPlain c htext) (hisRun.isDigit c hc)

/-- A piece as it is written. -/
def padded (piece : Text) : Text :=
  if piece.all Char.isDigit then fixed 6 0 (ofDigits piece) else piece

/-- Every piece of a plain suffix is written. -/
theorem IsPiece.writeRun_eq {piece : Text} (h : IsPiece piece) :
    writeRun piece = .ok (padded piece) := by
  cases h with
  | number hrun hlength _ =>
    rw [writeRun, padded, if_pos hrun.all_isDigit, if_pos hrun.all_isDigit,
      number_digits hrun.isDigit hrun.ne_nil (by omega)]
  | other _ hother => simp [writeRun, padded, hother]

/-- A plain suffix is written piece by piece. -/
theorem IsPlainSuffix.suffix_eq {text : Text} (h : IsPlainSuffix text) :
    suffix text = .ok ((digitRuns text).flatMap padded) := by
  have hall := mapM_eq_ok_map fun piece hpiece => (h.isPiece piece hpiece).writeRun_eq
  rw [suffix_eq_mapM, hall, List.flatMap_def]
  rfl

/-! ## Tokens -/

/-- The token of a piece. -/
def tokenOf : Text → Token
  | [] => .other ' '
  | c :: s => if c.isDigit then .number (c :: s) else .other (fold c)

/-- The tokens of the natural order are the pieces that a key is written from. -/
theorem tokens_eq (text : Text) : tokens text = (digitRuns text).map tokenOf := by
  induction text with
  | nil => rfl
  | cons c s ih =>
    change Token.push c (tokens s) = _
    rw [ih, digitRuns]
    cases digitRuns s with
    | nil => cases hc : c.isDigit <;> simp [Token.push, tokenOf, hc]
    | cons run pieces =>
      cases run with
      | nil => cases hc : c.isDigit <;> simp [Token.push, tokenOf, hc]
      | cons d run =>
        cases hc : c.isDigit <;> cases hd : d.isDigit <;> simp [Token.push, tokenOf, hc, hd]

/-- The digits of a number without zeros in front are counted by its value. -/
theorem length_eq_of_ofDigits_eq {a b : Text} (ha : IsRun true a) (hb : IsRun true b)
    (hzeroa : a.head? = some '0' → a = ['0']) (hzerob : b.head? = some '0' → b = ['0'])
    (h : ofDigits a = ofDigits b) : a.length = b.length := by
  have hcount {run : Text} (hrun : IsRun true run) (hzero : run.head? = some '0' → run = ['0']) :
      run.length = max 1 (significant run).length := by
    obtain ⟨c, s, rfl⟩ := List.exists_cons_of_ne_nil hrun.ne_nil
    by_cases hc : c = '0'
    · rw [hzero (by rw [hc, List.head?_cons])]
      rfl
    · have hall : significant (c :: s) = c :: s :=
        List.dropWhile_cons_of_neg (by simpa using hc)
      rw [hall, List.length_cons]
      omega
  have hsame (k : Nat) : (significant a).length ≤ k ↔ (significant b).length ≤ k := by
    rw [NaturalOrder.length_significant_le_iff ha.isDigit,
      NaturalOrder.length_significant_le_iff hb.isDigit, h]
  have hle := (hsame (significant b).length).mpr (Nat.le_refl _)
  have hge := (hsame (significant a).length).mp (Nat.le_refl _)
  rw [hcount ha hzeroa, hcount hb hzerob]
  omega

/-- A digit and a plain character that is none are told apart alike by any digits, folded or
not. -/
theorem compare_digit_other {c d e : Char} (hd : d.isDigit = true) (he : e.isDigit = true)
    (hplain : IsPlain c) (hother : c.isDigit = false) :
    compare d c = compare e (fold c) ∧ compare c d = compare (fold c) e ∧
      compare d c ≠ .eq ∧ compare c d ≠ .eq := by
  obtain ⟨hleft, hright, hne⟩ := NaturalOrder.compare_isDigit hd hother
  obtain ⟨hleft', hright', -⟩ := NaturalOrder.compare_isDigit he hother
  have hefold := Character.fold_of_isDigit he
  refine ⟨?_, ?_, hleft ▸ hne, fun h => hne (hleft ▸ Std.OrientedCmp.eq_symm h)⟩
  · rw [hleft, ← hleft', ← compare_fold (Or.inr (Or.inl he)) hplain, hefold]
  · rw [hright, ← hright', ← compare_fold hplain (Or.inr (Or.inl he)), hefold]

section Pieces

variable {run run' : Text} {c d : Char}

/-- The token of a run of digits. -/
theorem tokenOf_number (hrun : IsRun true run) : tokenOf run = .number run := by
  obtain ⟨c, s, rfl⟩ := List.exists_cons_of_ne_nil hrun.ne_nil
  rw [tokenOf, if_pos (hrun.isDigit c List.mem_cons_self)]

/-- The token of another character. -/
theorem tokenOf_other (hother : c.isDigit = false) : tokenOf [c] = .other (fold c) := by
  rw [tokenOf, hother, if_neg Bool.false_ne_true]

/-- Another character stands for itself. -/
theorem padded_other (hother : c.isDigit = false) : padded [c] = [c] := by
  simp [padded, hother]

/-- A number begins with a digit, as it is and as it is written. -/
theorem exists_digits (hrun : IsRun true run) :
    ∃ d s e t, padded run = d :: s ∧ run = e :: t ∧ d.isDigit = true ∧ e.isDigit = true := by
  obtain ⟨d, s, hwritten, hd⟩ := fixed_eq_cons (Nat.succ_pos 5) 0 (ofDigits run)
  obtain ⟨e, t, hcons⟩ := List.exists_cons_of_ne_nil hrun.ne_nil
  refine ⟨d, s, e, t, ?_, hcons, hd, hrun.isDigit e (hcons ▸ List.mem_cons_self)⟩
  rw [padded, if_pos hrun.all_isDigit, hwritten]

/-- Numbers of at most six digits without zeros in front are written in the order of their
tokens. -/
theorem compare_numbers_append (hrun : IsRun true run) (hrun' : IsRun true run')
    (hlength : run.length ≤ 6) (hlength' : run'.length ≤ 6)
    (hzero : run.head? = some '0' → run = ['0']) (hzero' : run'.head? = some '0' → run' = ['0'])
    (s t : Text) :
    compare (padded run ++ s) (padded run' ++ t) =
      (compareNumbers run run').then (compare s t) := by
  have hfits {run : Text} (hrun : IsRun true run) (hlength : run.length ≤ 6) :
      ofDigits run < 10 ^ (6 + 0) :=
    Nat.lt_of_lt_of_le (Number.ofDigits_lt hrun.isDigit)
      (Nat.pow_le_pow_right (by omega) hlength)
  have hm := hfits hrun hlength
  have hn := hfits hrun' hlength'
  have hwidth : (fixed 6 0 (ofDigits run)).length = (fixed 6 0 (ofDigits run')).length := by
    rw [length_fixed (by omega) hm, length_fixed (by omega) hn]
  -- Equal values are spelled alike, so that the length of the spelling decides nothing.
  have hvalue : compareNumbers run run' = compare (ofDigits run) (ofDigits run') := by
    rw [NaturalOrder.compareNumbers_eq hrun.isDigit hrun'.isDigit]
    cases hcompare : compare (ofDigits run) (ofDigits run') with
    | lt => rfl
    | gt => rfl
    | eq =>
      exact Nat.compare_eq_eq.mpr
        (length_eq_of_ofDigits_eq hrun hrun' hzero hzero' (Nat.compare_eq_eq.mp hcompare))
  rw [padded, padded, if_pos hrun.all_isDigit, if_pos hrun'.all_isDigit,
    Text.compare_append hwidth, compare_fixed (by omega) hm hn, hvalue]

end Pieces

/-- Of two written pieces one comes first as their tokens do, whatever follows. -/
theorem compare_padded_append {x y : Text} (hx : IsPiece x) (hy : IsPiece y) (s t : Text) :
    compare (padded x ++ s) (padded y ++ t) =
      (Token.compare (tokenOf x) (tokenOf y)).then (compare s t) := by
  have hdecided {o : Ordering} (h : o ≠ .eq) (p q : Ordering) : o.then p = o.then q := by
    cases o <;> first | rfl | contradiction
  cases hx with
  | number hrun hlength hzero =>
    cases hy with
    | number hrun' hlength' hzero' =>
      rw [tokenOf_number hrun, tokenOf_number hrun']
      exact compare_numbers_append hrun hrun' hlength hlength' hzero hzero' s t
    | @other c hplain hother =>
      obtain ⟨d, rest, e, run, hwritten, rfl, hd, he⟩ := exists_digits hrun
      obtain ⟨hcompare, -, hne, -⟩ := compare_digit_other hd he hplain hother
      rw [tokenOf_number hrun, tokenOf_other hother, padded_other hother, hwritten,
        List.cons_append, List.cons_append, List.compare_cons_cons]
      change (compare d c).then _ = (compare e (fold c)).then _
      rw [← hcompare]
      exact hdecided hne _ _
  | @other c hplain hother =>
    cases hy with
    | number hrun _ _ =>
      obtain ⟨d, rest, e, run, hwritten, rfl, hd, he⟩ := exists_digits hrun
      obtain ⟨-, hcompare, -, hne⟩ := compare_digit_other hd he hplain hother
      rw [tokenOf_number hrun, tokenOf_other hother, padded_other hother, hwritten,
        List.cons_append, List.cons_append, List.compare_cons_cons]
      change (compare c d).then _ = (compare (fold c) e).then _
      rw [← hcompare]
      exact hdecided hne _ _
    | @other d hplain' hother' =>
      rw [tokenOf_other hother, tokenOf_other hother', padded_other hother, padded_other hother',
        List.cons_append, List.cons_append, List.compare_cons_cons, ← compare_fold hplain hplain']
      rfl

/-- Rows of pieces are written in the order of their tokens. -/
theorem compare_flatMap_padded {xs ys : List Text} (hxs : ∀ x ∈ xs, IsPiece x)
    (hys : ∀ y ∈ ys, IsPiece y) :
    compare (xs.flatMap padded) (ys.flatMap padded) =
      List.compareLex Token.compare (xs.map tokenOf) (ys.map tokenOf) := by
  have hne {x : Text} (hx : IsPiece x) : ∃ c s, padded x = c :: s := by
    cases hx with
    | number hrun _ _ =>
      obtain ⟨d, s, -, -, hwritten, -, -, -⟩ := exists_digits hrun
      exact ⟨d, s, hwritten⟩
    | other _ hother => exact ⟨_, _, padded_other hother⟩
  induction xs generalizing ys with
  | nil =>
    cases ys with
    | nil => rfl
    | cons y ys =>
      obtain ⟨c, s, hcons⟩ := hne (hys y List.mem_cons_self)
      rw [List.flatMap_cons, hcons]
      rfl
  | cons x xs ih =>
    have hx := hxs x List.mem_cons_self
    cases ys with
    | nil =>
      obtain ⟨c, s, hcons⟩ := hne hx
      rw [List.flatMap_cons, hcons]
      rfl
    | cons y ys =>
      rw [List.flatMap_cons, List.flatMap_cons, List.map_cons, List.map_cons,
        List.compareLex_cons_cons, compare_padded_append hx (hys y List.mem_cons_self),
        ih (fun z hz => hxs z (List.mem_cons_of_mem x hz))
          fun z hz => hys z (List.mem_cons_of_mem y hz)]

/-- Suffixes are written in natural order. -/
theorem suffix_bytes_natural {a b : Text} (ha : IsPlainSuffix a) (hb : IsPlainSuffix b) :
    ∃ s t, suffix a = .ok s ∧ suffix b = .ok t ∧
      compare s.bytes t.bytes = natural a b ∧ (s = t ↔ natural a b = .eq) := by
  have hcompare : compare ((digitRuns a).flatMap padded) ((digitRuns b).flatMap padded) =
      natural a b := by
    rw [compare_flatMap_padded ha.isPiece hb.isPiece, ← tokens_eq, ← tokens_eq]
    rfl
  refine ⟨_, _, ha.suffix_eq, hb.suffix_eq, (Text.compare_bytes _ _).trans hcompare, ?_⟩
  rw [← hcompare]
  constructor
  · intro hsame
    rw [hsame]
    exact Std.ReflCmp.compare_self
  · exact Std.LawfulEqOrd.eq_of_compare

/-- The second copy of a second volume comes before the tenth volume, in a key as in a listing. -/
theorem volumes_natural :
    natural "V.2 C.2".toList "V.10".toList = .lt ∧
      ∃ s t, suffix "V.2 C.2".toList = .ok s ∧ suffix "V.10".toList = .ok t ∧
        compare s.bytes t.bytes = .lt ∧ s ≠ t := by
  have hplain : IsPlainSuffix "V.2 C.2".toList ∧ IsPlainSuffix "V.10".toList :=
    ⟨⟨by simp [IsPlain], by decide +kernel, by decide +kernel⟩,
      ⟨by simp [IsPlain], by decide +kernel, by decide +kernel⟩⟩
  have hnatural : natural "V.2 C.2".toList "V.10".toList = .lt := by decide +kernel
  obtain ⟨s, t, hs, ht, hbytes, hsame⟩ := suffix_bytes_natural hplain.1 hplain.2
  rw [hnatural] at hbytes hsame
  exact ⟨hnatural, s, t, hs, ht, hbytes, fun h => Ordering.noConfusion (hsame.mp h)⟩

end ShelfKey
end Shelfmark
