import Shelfmark.Proofs.Character.Upper

/-!
# Characters - White space and periods under a change of case

Spacing and periods can be worked out before or after a text is put into capitals or folded:
white space and periods have no other case, and no other character has one of them as its capital
or small form.  As for capitals, this is read off the tables run by run.

Main results:

- Theorems `upper_of_isBlank` and `fold_of_isBlank`: white space has no other case.
- Theorem `isBlank_fold`: only white space is folded to white space.
- Theorem `period_of_mem_upper`: only a period is put into capitals as one.
-/

namespace Shelfmark
namespace Character

/-! ## White space -/

/-- No table has a character of white space. -/
theorem tables_miss_blanks : blankRanges.all fun range =>
    (upperRuns ++ lowerRuns).all (CaseRun.misses range.1 range.2 1) &&
      upperSequences.all fun entry =>
        (CaseRun.mk entry.1 entry.1 2 0).misses range.1 range.2 1 := by
  decide +kernel

/-- No run of lowercase forms leads to white space. -/
theorem lowerRuns_miss_blanks : lowerRuns.all fun run =>
    decide (0 ≤ run.first + run.shift) && blankRanges.all fun range =>
      (CaseRun.mk range.1 range.2 1 0).misses (run.first + run.shift).toNat
        (run.last + run.shift).toNat run.step := by
  decide +kernel

section Blank

variable {c : Char} (h : isBlank c = true)

include h

/-- White space is covered by no run, and has no longer uppercase form. -/
theorem not_covers_of_isBlank :
    (∀ run ∈ upperRuns ++ lowerRuns, ¬ run.Covers c.toNat) ∧
      ∀ entry ∈ upperSequences, entry.1 ≠ c.toNat := by
  obtain ⟨range, hrange, hfirst, hlast⟩ := exists_of_inRanges h
  have hmisses := List.all_eq_true.mp tables_miss_blanks range hrange
  obtain ⟨hruns, hsequences⟩ := Bool.and_eq_true_iff.mp hmisses
  constructor
  · intro run hrun
    exact CaseRun.not_covers_of_misses (List.all_eq_true.mp hruns run hrun) hfirst hlast
      (Nat.mod_one _)
  · rintro entry hentry hcode
    have hentry := List.all_eq_true.mp hsequences entry hentry
    exact CaseRun.not_covers_of_misses hentry hfirst hlast (Nat.mod_one _)
      (by simp [CaseRun.Covers, hcode])

/-- White space is no ASCII letter. -/
theorem isAlpha_of_isBlank : c.isUpper = false ∧ c.isLower = false := by
  have hplain : (c.isUpper || c.isLower || c.isDigit) = false := isAlphanum_of_isBlank h
  rw [Bool.or_eq_false_iff, Bool.or_eq_false_iff] at hplain
  exact hplain.1

/-- White space is its own uppercase form. -/
theorem upper_of_isBlank : upper c = [c] := by
  obtain ⟨hruns, hsequences⟩ := not_covers_of_isBlank h
  apply upper_eq_self_of_not_covers (isAlpha_of_isBlank h).2 _ hsequences
  exact fun run hrun => hruns run (List.mem_append_left _ hrun)

/-- White space is its own fold. -/
theorem fold_of_isBlank : fold c = c := by
  obtain ⟨hruns, -⟩ := not_covers_of_isBlank h
  unfold fold
  split
  · apply Char.toNat_inj.mp
    rw [toNat_toLower, (isAlpha_of_isBlank h).1]
    rfl
  · rw [CaseRun.shift?_eq_none fun run hrun => hruns run (List.mem_append_right _ hrun)]
    rfl

end Blank

/-- A code that a run of lowercase forms leads to is no white space. -/
theorem isBlank_of_shift? {n m : Nat} (h : CaseRun.shift? lowerRuns n = some m) :
    isBlank (Char.ofNat m) = false := by
  obtain ⟨run, hrun, ⟨hfirst, hlast, hstep⟩, rfl⟩ := CaseRun.exists_of_shift? h
  obtain ⟨hpos, hmisses⟩ :=
    Bool.and_eq_true_iff.mp (List.all_eq_true.mp lowerRuns_miss_blanks run hrun)
  have hpos := of_decide_eq_true hpos
  rw [Bool.eq_false_iff]
  intro hblank
  obtain ⟨range, hrange, hlow, hhigh⟩ := exists_of_inRanges hblank
  have hrange := List.all_eq_true.mp hmisses range hrange
  rcases toNat_ofNat ((n : Int) + run.shift).toNat with hcode | hcode
  · rw [hcode] at hlow hhigh
    have hsame : ((n : Int) + run.shift).toNat - ((run.first : Int) + run.shift).toNat =
        n - run.first := by
      omega
    refine CaseRun.not_covers_of_misses hrange ?_ ?_ (by rwa [hsame])
      ⟨hlow, hhigh, Nat.mod_one _⟩
    · omega
    · omega
  · have hzero : isBlank (Char.ofNat ((n : Int) + run.shift).toNat) = isBlank '\x00' := by
      rw [isBlank, hcode]
      rfl
    rw [hzero] at hblank
    contradiction

/-- Only white space is folded to white space. -/
theorem isBlank_fold (c : Char) : isBlank (fold c) = isBlank c := by
  cases hc : isBlank c with
  | true => rw [fold_of_isBlank hc, hc]
  | false =>
    unfold fold
    split
    · cases hupper : c.isUpper with
      | true =>
        have hrange := isUpper_iff.mp hupper
        have hcode := toNat_toLower c
        rw [if_pos hupper] at hcode
        exact isBlank_eq_false (by omega) (by omega)
      | false =>
        have hself : c.toLower = c := by
          apply Char.toNat_inj.mp
          rw [toNat_toLower, hupper]
          rfl
        rw [hself, hc]
    · cases hshift : CaseRun.shift? lowerRuns c.toNat with
      | none => exact hc
      | some m => exact isBlank_of_shift? hshift

/-! ## Periods -/

/-- The uppercase forms beyond ASCII stand above the digits. -/
theorem upperForms_above_digits :
    (∀ run ∈ upperRuns, 57 < (run.first : Int) + run.shift) ∧
      ∀ entry ∈ upperSequences, ∀ n ∈ entry.2, 57 < n := by
  decide +kernel

/-- A character of an uppercase form that stands below the letters is the character itself. -/
theorem eq_of_mem_upper {c d : Char} (h : d ∈ upper c) (hpos : 0 < d.toNat)
    (hlow : d.toNat ≤ 57) : d = c := by
  obtain ⟨hruns, hsequences⟩ := upperForms_above_digits
  have habove {m : Nat} (hm : 57 < m) (hd : d = Char.ofNat m) : d = c := by
    rcases toNat_ofNat m with hcode | hcode <;> rw [← hd] at hcode <;> omega
  unfold upper at h
  split at h
  · rw [List.mem_singleton] at h
    cases hlower : c.isLower with
    | true =>
      have hrange := isUpper_iff.mp (isUpper_toUpper hlower)
      rw [← h] at hrange
      omega
    | false => rw [h, toUpper_eq_self hlower]
  · cases hlookup : upperSequences.lookup c.toNat with
    | some codes =>
      rw [hlookup] at h
      obtain ⟨m, hm, hd⟩ := List.mem_map.mp h
      exact habove (hsequences _ (mem_of_lookup hlookup) m hm) hd.symm
    | none =>
      rw [hlookup] at h
      cases hshift : CaseRun.shift? upperRuns c.toNat with
      | none =>
        rw [hshift] at h
        exact List.mem_singleton.mp h
      | some m =>
        rw [hshift] at h
        obtain ⟨run, hrun, ⟨hfirst, -, -⟩, hm⟩ := CaseRun.exists_of_shift? hshift
        have hrun := hruns run hrun
        exact habove (by omega) (List.mem_singleton.mp h)

/-- The uppercase form of a period is a period, and no other has one. -/
theorem period_of_mem_upper {c d : Char} (h : d ∈ upper c) : (d == '.') = (c == '.') := by
  rw [Bool.eq_iff_iff, beq_iff_eq, beq_iff_eq]
  constructor
  · rintro rfl
    exact (eq_of_mem_upper h (by decide) (by decide)).symm
  · rintro rfl
    rw [upper_eq_self (by decide) rfl] at h
    exact List.mem_singleton.mp h

end Character
end Shelfmark
