import Shelfmark.Proofs.Text.Trim

/-!
# Characters - Capital forms

A full uppercase form can be several characters long, but each of them is settled: it is
its own uppercase form.  So a text in capitals stays as it is when it is put into capitals
again.  Nor is white space ever made out of another character.

Both are read off the tables, run by run: the codes that a run leads to are met neither by
a run that would change them nor by a range of white space.

Main results:

- Theorem `upper_of_mem_upper`: each character of an uppercase form is its own.
- Theorem `isBlank_of_mem_upper`: there is no white space in the uppercase form of another
  character.
- Theorem `Text.InCapitals.upper_eq`: a text in capitals stays as it is.
- Theorem `Text.IsTrimmed.upper`: a trimmed text is trimmed in capitals.
-/

namespace Shelfmark
namespace Character

/-! ## Runs that do not meet -/

/-- Whether a run has none of the code points from `low` to `high` in steps: it lies on one side
of them, or it has every other code point and they are the ones in between. -/
def CaseRun.misses (low high step : Nat) (run : CaseRun) : Bool :=
  Nat.blt high run.first || (Nat.blt run.last low ||
    ((Nat.beq step 2 || Nat.beq low high) &&
      (Nat.beq run.step 2 && Nat.beq ((low + run.first) % 2) 1)))

/-- A run that misses code points covers none of them. -/
theorem CaseRun.not_covers_of_misses {low high step n : Nat} {run : CaseRun}
    (h : run.misses low high step) (hlow : low ≤ n) (hhigh : n ≤ high)
    (hstep : (n - low) % step = 0) : ¬ run.Covers n := by
  rintro ⟨hfirst, hlast, heven⟩
  simp only [misses, Bool.or_eq_true, Bool.and_eq_true, Nat.blt_eq, Nat.beq_eq] at h
  rcases h with h | h | ⟨hpace, hrun, hodd⟩
  · omega
  · omega
  · rw [hrun] at heven
    rcases hpace with hpace | hpace
    · rw [hpace] at hstep
      omega
    · omega

/-! ## Codes that no uppercase form has -/

/-- The small ASCII letters and the ranges of white space as runs. -/
def smallOrBlankRuns : List CaseRun :=
  ⟨97, 122, 1, 0⟩ :: blankRanges.map fun range => ⟨range.1, range.2, 1, 0⟩

/-- A code that is its own uppercase form and no white space. -/
structure Settled (n : Nat) : Prop where
  runs : ∀ run ∈ smallOrBlankRuns ++ upperRuns, ¬ run.Covers n
  sequences : ∀ entry ∈ upperSequences, entry.1 ≠ n

/-- Whether the codes from `low` to `high` in steps are settled. -/
def areSettled (low high step : Nat) : Bool :=
  (smallOrBlankRuns ++ upperRuns).all (CaseRun.misses low high step) &&
    upperSequences.all fun entry => (CaseRun.mk entry.1 entry.1 2 0).misses low high step

/-- Each of settled codes is settled. -/
theorem settled_of_areSettled {low high step n : Nat} (h : areSettled low high step)
    (hlow : low ≤ n) (hhigh : n ≤ high) (hstep : (n - low) % step = 0) : Settled n := by
  obtain ⟨hruns, hsequences⟩ := Bool.and_eq_true_iff.mp h
  constructor
  · intro run hrun
    exact CaseRun.not_covers_of_misses (List.all_eq_true.mp hruns run hrun) hlow hhigh hstep
  · rintro entry hentry rfl
    have hmisses := List.all_eq_true.mp hsequences entry hentry
    exact CaseRun.not_covers_of_misses hmisses hlow hhigh hstep (by simp [CaseRun.Covers])

/-- Every run of uppercase forms leads to settled codes. -/
theorem upperRuns_settled : upperRuns.all fun run =>
    decide (0 ≤ run.first + run.shift) &&
      areSettled (run.first + run.shift).toNat (run.last + run.shift).toNat run.step := by
  decide +kernel

/-- The characters of every longer uppercase form are settled, and there are some. -/
theorem upperSequences_settled : upperSequences.all fun entry =>
    !entry.2.isEmpty && entry.2.all fun n => areSettled n n 1 := by
  decide +kernel

/-! ## Settled characters -/

/-- A code that no run covers is not moved. -/
theorem CaseRun.shift?_eq_none {runs : List CaseRun} {n : Nat}
    (h : ∀ run ∈ runs, ¬ run.Covers n) : CaseRun.shift? runs n = none := by
  rw [Option.eq_none_iff_forall_ne_some]
  intro m hm
  obtain ⟨run, hrun, hcovers, -⟩ := CaseRun.exists_of_shift? hm
  exact h run hrun hcovers

/-- A character that no table has is its own uppercase form. -/
theorem upper_eq_self_of_not_covers {c : Char} (hlower : c.isLower = false)
    (hruns : ∀ run ∈ upperRuns, ¬ run.Covers c.toNat)
    (hsequences : ∀ entry ∈ upperSequences, entry.1 ≠ c.toNat) : upper c = [c] := by
  by_cases hascii : c.toNat < 128
  · exact upper_eq_self hascii hlower
  · have hlookup : upperSequences.lookup c.toNat = none := by
      rw [List.lookup_eq_none_iff]
      exact fun entry hentry => bne_iff_ne.mpr (hsequences entry hentry).symm
    rw [upper, if_neg hascii, hlookup, CaseRun.shift?_eq_none hruns]
    rfl

/-- A settled character is its own uppercase form. -/
theorem upper_of_settled {c : Char} (h : Settled c.toNat) : upper c = [c] := by
  apply upper_eq_self_of_not_covers
  · rw [Bool.eq_false_iff]
    intro hlower
    have hrange := isLower_iff.mp hlower
    exact h.runs ⟨97, 122, 1, 0⟩ (by simp [smallOrBlankRuns])
      ⟨hrange.1, hrange.2, Nat.mod_one _⟩
  · exact fun run hrun => h.runs run (List.mem_append_right _ hrun)
  · exact h.sequences

/-- A code in one of the ranges lies between the ends of a range. -/
theorem exists_of_inRanges {ranges : List (Nat × Nat)} {n : Nat} (h : inRanges ranges n = true) :
    ∃ range ∈ ranges, range.1 ≤ n ∧ n ≤ range.2 := by
  induction ranges with
  | nil => contradiction
  | cons range ranges ih =>
    rw [inRanges] at h
    split at h
    · contradiction
    · rename_i hfirst
      rcases Bool.or_eq_true_iff.mp h with hlast | hrest
      · exact ⟨range, by simp, by omega, of_decide_eq_true hlast⟩
      · obtain ⟨other, hmem, hother⟩ := ih hrest
        exact ⟨other, by simp [hmem], hother⟩

/-- A settled character is no white space. -/
theorem isBlank_of_settled {c : Char} (h : Settled c.toNat) : isBlank c = false := by
  rw [Bool.eq_false_iff]
  intro hblank
  obtain ⟨range, hrange, hfirst, hlast⟩ := exists_of_inRanges hblank
  refine h.runs ⟨range.1, range.2, 1, 0⟩ ?_ ⟨hfirst, hlast, Nat.mod_one _⟩
  exact List.mem_append_left _ (List.mem_cons_of_mem _ (List.mem_map_of_mem hrange))

/-- The null character is settled. -/
theorem settled_zero : Settled 0 :=
  settled_of_areSettled (show areSettled 0 0 1 by decide) (Nat.le_refl 0) (Nat.le_refl 0)
    (Nat.mod_one _)

/-- The ASCII capitals are settled. -/
theorem settled_of_isUpper {c : Char} (h : c.isUpper) : Settled c.toNat := by
  have hrange := isUpper_iff.mp h
  exact settled_of_areSettled (show areSettled 65 90 1 by decide) hrange.1 hrange.2
    (Nat.mod_one _)

/-- The character of a settled code is settled. -/
theorem settled_ofNat {n : Nat} (h : Settled n) : Settled (Char.ofNat n).toNat := by
  rcases toNat_ofNat n with hcode | hcode
  · rwa [hcode]
  · rw [hcode]
    exact settled_zero

/-! ## Uppercase forms -/

/-- What a table answers is one of its entries. -/
theorem mem_of_lookup {table : List (Nat × List Nat)} {n : Nat} {codes : List Nat}
    (h : table.lookup n = some codes) : (n, codes) ∈ table := by
  obtain ⟨front, rest, rfl, -⟩ := List.lookup_eq_some_iff.mp h
  exact List.mem_append_right _ List.mem_cons_self

/-- The code that a run leads to is settled. -/
theorem settled_of_shift? {n m : Nat} (h : CaseRun.shift? upperRuns n = some m) : Settled m := by
  obtain ⟨run, hrun, ⟨hfirst, hlast, hstep⟩, rfl⟩ := CaseRun.exists_of_shift? h
  obtain ⟨hpos, hsettled⟩ := Bool.and_eq_true_iff.mp (List.all_eq_true.mp upperRuns_settled run hrun)
  have hpos := of_decide_eq_true hpos
  refine settled_of_areSettled hsettled (by omega) (by omega) ?_
  have hsame : ((n : Int) + run.shift).toNat - ((run.first : Int) + run.shift).toNat =
      n - run.first := by
    omega
  rwa [hsame]

/-- A character of an uppercase form is settled, or it is the character itself, which stays. -/
theorem settled_of_mem_upper {c d : Char} (h : d ∈ upper c) :
    Settled d.toNat ∨ d = c ∧ upper c = [c] := by
  by_cases hascii : c.toNat < 0x80
  · cases hlower : c.isLower with
    | false =>
      have hself := upper_eq_self hascii hlower
      rw [hself] at h
      exact Or.inr ⟨List.mem_singleton.mp h, hself⟩
    | true =>
      left
      rw [upper, if_pos hascii] at h
      rw [List.mem_singleton.mp h]
      exact settled_of_isUpper (isUpper_toUpper hlower)
  · unfold upper at h ⊢
    rw [if_neg hascii] at h ⊢
    cases hlookup : upperSequences.lookup c.toNat with
    | some codes =>
      rw [hlookup] at h
      obtain ⟨n, hn, rfl⟩ := List.mem_map.mp h
      have hentry := mem_of_lookup hlookup
      have hcodes := List.all_eq_true.mp upperSequences_settled _ hentry
      have hall := (Bool.and_eq_true_iff.mp hcodes).2
      exact Or.inl (settled_ofNat (settled_of_areSettled (List.all_eq_true.mp hall n hn)
        (Nat.le_refl n) (Nat.le_refl n) (Nat.mod_one _)))
    | none =>
      rw [hlookup] at h
      cases hshift : CaseRun.shift? upperRuns c.toNat with
      | some m =>
        rw [hshift] at h
        rw [List.mem_singleton.mp h]
        exact Or.inl (settled_ofNat (settled_of_shift? hshift))
      | none =>
        rw [hshift] at h
        exact Or.inr ⟨List.mem_singleton.mp h, rfl⟩

/-- Each character of an uppercase form is its own. -/
theorem upper_of_mem_upper {c d : Char} (h : d ∈ upper c) : upper d = [d] := by
  rcases settled_of_mem_upper h with hsettled | ⟨rfl, hself⟩
  · exact upper_of_settled hsettled
  · exact hself

/-- There is no white space in the uppercase form of another character. -/
theorem isBlank_of_mem_upper {c d : Char} (h : d ∈ upper c) (hc : isBlank c = false) :
    isBlank d = false := by
  rcases settled_of_mem_upper h with hsettled | ⟨rfl, -⟩
  · exact isBlank_of_settled hsettled
  · exact hc

/-- A small ASCII letter is not its own uppercase form. -/
theorem isLower_of_upper_eq {c : Char} (h : upper c = [c]) : c.isLower = false := by
  rw [Bool.eq_false_iff]
  intro hlower
  have hrange := isLower_iff.mp hlower
  rw [upper, if_pos (by omega)] at h
  have hupper := isUpper_iff.mp (isUpper_toUpper hlower)
  rw [List.singleton_inj.mp h] at hupper
  omega

/-- An uppercase form has characters. -/
theorem upper_ne_nil (c : Char) : upper c ≠ [] := by
  unfold upper
  split
  · simp
  · cases hlookup : upperSequences.lookup c.toNat with
    | none => simp
    | some codes =>
      have hentry := mem_of_lookup hlookup
      have hcodes := List.all_eq_true.mp upperSequences_settled _ hentry
      have hsome := (Bool.and_eq_true_iff.mp hcodes).1
      simpa using hsome

end Character

/-! ## Texts in capitals -/

namespace Text

open Character (isBlank)

/-- Every character is its own uppercase form. -/
def InCapitals (s : Text) : Prop :=
  ∀ c ∈ s, Character.upper c = [c]

/-- A text in capitals stays as it is. -/
theorem InCapitals.upper_eq {s : Text} (h : InCapitals s) : s.upper = s := by
  induction s with
  | nil => rfl
  | cons c s ih =>
    have hrest := ih fun d hd => h d (by simp [hd])
    rw [upper] at hrest ⊢
    rw [List.flatMap_cons, h c (by simp), hrest]
    rfl

/-- The uppercase form of a text is in capitals. -/
theorem inCapitals_upper (s : Text) : InCapitals s.upper := by
  intro d hd
  obtain ⟨c, -, hd⟩ := List.mem_flatMap.mp hd
  exact Character.upper_of_mem_upper hd

/-- A trimmed text is trimmed in capitals. -/
theorem IsTrimmed.upper {s : Text} (h : IsTrimmed s) : IsTrimmed s.upper := by
  constructor
  · intro d hd
    cases s with
    | nil => contradiction
    | cons c s =>
      have hmem : d ∈ Character.upper c := by
        obtain ⟨e, u, hform⟩ := List.exists_cons_of_ne_nil (Character.upper_ne_nil c)
        rw [Text.upper, List.flatMap_cons, hform, List.cons_append, List.head?_cons] at hd
        rw [← Option.some.inj hd, hform]
        exact List.mem_cons_self
      exact Character.isBlank_of_mem_upper hmem (h.head c rfl)
  · intro d hd
    rcases List.eq_nil_or_concat s with rfl | ⟨t, c, rfl⟩
    · exact absurd hd (by simp [Text.upper])
    · have hmem : d ∈ Character.upper c := by
        have hlast := List.getLast?_eq_some_getLast (Character.upper_ne_nil c)
        rw [List.concat_eq_append, Text.upper, List.flatMap_append, List.flatMap_singleton,
          List.getLast?_append, hlast] at hd
        rw [← Option.some.inj hd]
        exact List.mem_of_getLast? hlast
      exact Character.isBlank_of_mem_upper hmem (h.last c (by simp))

end Text
end Shelfmark
