import Shelfmark.Character.Case

/-!
# Characters - Digits under case folding

The natural order cuts a text into runs of digits before it folds case, and two
texts are equal in it when they fold to the same text.  Both readings agree only
because folding neither changes a digit nor makes one out of another character.

Main results:

- Theorem `isDigit_fold`: a character is a digit exactly when its fold is one.
- Theorem `fold_of_isDigit`: a digit is its own fold.
- Theorem `eq_of_map_fold_eq`: capitals and digits can be told from their folds.
- Theorem `fold_eq_self`: a character whose fold stands below the letters is its own fold.
-/

namespace Shelfmark
namespace Character

/-! ## ASCII classes as code points -/

/-- The ASCII digits are the code points from 48 to 57. -/
theorem isDigit_iff {c : Char} : c.isDigit = true ↔ 48 ≤ c.toNat ∧ c.toNat ≤ 57 :=
  Char.isDigit_iff_toNat

/-- The ASCII capitals are the code points from 65 to 90. -/
theorem isUpper_iff {c : Char} : c.isUpper = true ↔ 65 ≤ c.toNat ∧ c.toNat ≤ 90 := by
  change decide ('A'.val ≤ c.val ∧ c.val ≤ 'Z'.val) = true ↔ _
  rw [decide_eq_true_iff, UInt32.le_iff_toNat_le, UInt32.le_iff_toNat_le]
  rfl

/-- The small ASCII letters are the code points from 97 to 122. -/
theorem isLower_iff {c : Char} : c.isLower = true ↔ 97 ≤ c.toNat ∧ c.toNat ≤ 122 := by
  change (decide ('a'.val ≤ c.val) && decide (c.val ≤ 'z'.val)) = true ↔ _
  rw [Bool.and_eq_true, decide_eq_true_iff, decide_eq_true_iff, UInt32.le_iff_toNat_le, UInt32.le_iff_toNat_le]
  rfl

/-- Below the small letters there is none. -/
theorem isLower_eq_false {c : Char} (h : c.toNat < 97) : c.isLower = false := by
  rw [Bool.eq_false_iff]
  intro hlower
  have := isLower_iff.mp hlower
  omega

/-- A digit is no capital. -/
theorem isUpper_of_isDigit {c : Char} (h : c.isDigit) : c.isUpper = false := by
  have hrange := isDigit_iff.mp h
  rw [Bool.eq_false_iff]
  intro hupper
  have := isUpper_iff.mp hupper
  omega

/-- A capital is no digit. -/
theorem isDigit_of_isUpper {c : Char} (h : c.isUpper) : c.isDigit = false := by
  rw [Bool.eq_false_iff]
  intro hdigit
  rw [isUpper_of_isDigit hdigit] at h
  contradiction

/-- Lowering a character moves the ASCII capitals by 32 and nothing else. -/
theorem toNat_toLower (c : Char) :
    c.toLower.toNat = if c.isUpper then c.toNat + 32 else c.toNat := by
  unfold Char.toLower
  split
  · rename_i h
    have hnat : 65 ≤ c.toNat ∧ c.toNat ≤ 90 := by
      simpa [UInt32.le_iff_toNat_le] using h
    rw [if_pos (isUpper_iff.mpr hnat)]
    change (c.val + 32).toNat = c.val.toNat + 32
    have hle : c.val.toNat ≤ 90 := hnat.2
    rw [UInt32.toNat_add]
    exact Nat.mod_eq_of_lt (by simp; omega)
  · rename_i h
    have hnat : ¬ (65 ≤ c.toNat ∧ c.toNat ≤ 90) := by
      simpa [UInt32.le_iff_toNat_le] using h
    rw [if_neg (mt isUpper_iff.mp hnat)]

/-- A small ASCII letter is put into a capital. -/
theorem isUpper_toUpper {c : Char} (h : c.isLower) : c.toUpper.isUpper = true := by
  have hrange := isLower_iff.mp h
  have hval : 'a'.val ≤ c.val ∧ c.val ≤ 'z'.val := by
    rw [UInt32.le_iff_toNat_le, UInt32.le_iff_toNat_le]
    exact hrange
  have hcode : c.toUpper.toNat = c.toNat - 32 := by
    unfold Char.toUpper
    rw [dif_pos hval]
    change (c.val + 4294967264).toNat = c.toNat - 32
    have hsame : c.val.toNat = c.toNat := rfl
    rw [UInt32.toNat_add, hsame]
    simp
    omega
  rw [isUpper_iff, hcode]
  omega

/-- The character of a code point has that code point, unless the number is none. -/
theorem toNat_ofNat (n : Nat) : (Char.ofNat n).toNat = n ∨ (Char.ofNat n).toNat = 0 := by
  by_cases h : n.isValidChar
  · rw [Char.ofNat, dif_pos h]
    exact Or.inl rfl
  · rw [Char.ofNat, dif_neg h]
    exact Or.inr rfl

/-! ## The table of lowercase forms -/

/-- Whether a run has a code point as one of its steps. -/
def CaseRun.Covers (run : CaseRun) (n : Nat) : Prop :=
  run.first ≤ n ∧ n ≤ run.last ∧ (n - run.first) % run.step = 0

/-- What a run table answers comes from one of its runs. -/
theorem CaseRun.exists_of_shift? {runs : List CaseRun} {n m : Nat}
    (h : CaseRun.shift? runs n = some m) :
    ∃ run ∈ runs, run.Covers n ∧ m = ((n : Int) + run.shift).toNat := by
  induction runs with
  | nil => simp [CaseRun.shift?] at h
  | cons run rest ih =>
    simp only [CaseRun.shift?] at h
    split at h
    · contradiction
    · rename_i hfirst
      split at h
      · rename_i hlast
        simp only [Option.some.injEq] at h
        exact ⟨run, by simp, ⟨by omega, hlast.1, hlast.2⟩, h.symm⟩
      · obtain ⟨other, hmem, hrest⟩ := ih h
        exact ⟨other, by simp [hmem], hrest⟩

/-- No run of lowercase forms reaches down to the digits. -/
theorem lowerRuns_above_digits : ∀ run ∈ lowerRuns, 57 < (run.first : Int) + run.shift := by
  decide +kernel

/-- A lowercase form beyond ASCII is no digit, although it may be an ASCII letter. -/
theorem digits_lt_of_shift? {n m : Nat} (h : CaseRun.shift? lowerRuns n = some m) : 57 < m := by
  obtain ⟨run, hmem, ⟨hfirst, -, -⟩, rfl⟩ := CaseRun.exists_of_shift? h
  have habove := lowerRuns_above_digits run hmem
  omega

/-! ## Folding -/

/-- A digit is its own fold. -/
theorem fold_of_isDigit {c : Char} (h : c.isDigit) : fold c = c := by
  have hrange := isDigit_iff.mp h
  have hascii : c.toNat < 0x80 := by omega
  rw [fold, if_pos hascii]
  apply Char.toNat_inj.mp
  rw [toNat_toLower, isUpper_of_isDigit h]
  rfl

/-- Folding moves a capital to its small letter, above all capitals and digits, and keeps a
digit. -/
theorem toNat_fold {c : Char} (h : c.isUpper ∨ c.isDigit) :
    65 ≤ c.toNat ∧ (fold c).toNat = c.toNat + 32 ∨ c.toNat ≤ 57 ∧ (fold c).toNat = c.toNat := by
  rcases h with hupper | hdigit
  · have hrange := isUpper_iff.mp hupper
    have hascii : c.toNat < 0x80 := by omega
    refine Or.inl ⟨hrange.1, ?_⟩
    rw [fold, if_pos hascii, toNat_toLower, if_pos hupper]
  · exact Or.inr ⟨(isDigit_iff.mp hdigit).2, congrArg Char.toNat (fold_of_isDigit hdigit)⟩

/-- Capitals and digits with the same fold are the same. -/
theorem eq_of_fold_eq {c d : Char} (hc : c.isUpper ∨ c.isDigit) (hd : d.isUpper ∨ d.isDigit)
    (h : fold c = fold d) : c = d := by
  have hcode := congrArg Char.toNat h
  have hleft := toNat_fold hc
  have hright := toNat_fold hd
  apply Char.toNat_inj.mp
  omega

/-- Texts of capitals and digits with the same fold are the same. -/
theorem eq_of_map_fold_eq {s t : List Char} (hs : ∀ c ∈ s, c.isUpper ∨ c.isDigit)
    (ht : ∀ c ∈ t, c.isUpper ∨ c.isDigit) (h : s.map fold = t.map fold) : s = t := by
  induction s generalizing t with
  | nil => exact (List.map_eq_nil_iff.mp h.symm).symm
  | cons c s ih =>
    cases t with
    | nil => exact absurd h (by simp)
    | cons d t =>
      obtain ⟨hhead, htail⟩ := List.cons.inj h
      rw [eq_of_fold_eq (hs c (by simp)) (ht d (by simp)) hhead,
        ih (fun e he => hs e (by simp [he])) (fun e he => ht e (by simp [he])) htail]

/-- A character whose fold stands below the letters is its own fold. -/
theorem fold_eq_self {c : Char} (hpos : 0 < (fold c).toNat) (hlow : (fold c).toNat ≤ 57) :
    fold c = c := by
  apply Char.toNat_inj.mp
  unfold fold at hpos hlow ⊢
  split at hlow
  · rename_i hascii
    rw [toNat_toLower] at hlow
    rw [if_pos hascii, toNat_toLower]
    split at hlow
    · rename_i hupper
      have hrange := isUpper_iff.mp hupper
      omega
    · rename_i hother
      rw [if_neg hother]
  · rename_i hascii
    rw [if_neg hascii] at hpos ⊢
    cases hshift : CaseRun.shift? lowerRuns c.toNat with
    | none => rfl
    | some m =>
      -- Beyond ASCII no other character is folded to one below the letters.
      have habove := digits_lt_of_shift? hshift
      rw [hshift] at hpos hlow
      change 0 < (Char.ofNat m).toNat at hpos
      change (Char.ofNat m).toNat ≤ 57 at hlow
      rcases toNat_ofNat m with h | h <;> omega

/-- A character is a digit exactly when its fold is one. -/
theorem isDigit_fold (c : Char) : (fold c).isDigit = c.isDigit := by
  rw [Bool.eq_iff_iff]
  constructor
  · intro h
    have hrange := isDigit_iff.mp h
    rwa [fold_eq_self (by omega) hrange.2] at h
  · intro h
    rwa [fold_of_isDigit h]

/-- Only a space is folded to a space, and only a period to a period. -/
theorem fold_eq_iff {c d : Char} (hd : d = ' ' ∨ d = '.') : fold c = d ↔ c = d := by
  have hself : fold d = d := by
    rcases hd with rfl | rfl <;> decide
  have hcode : 0 < d.toNat ∧ d.toNat ≤ 57 := by
    rcases hd with rfl | rfl <;> decide
  constructor
  · intro h
    rw [← h] at hcode ⊢
    exact (fold_eq_self hcode.1 hcode.2).symm
  · rintro rfl
    exact hself

end Character
end Shelfmark
