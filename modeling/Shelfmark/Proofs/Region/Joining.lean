import Shelfmark.Proofs.Region.Heading
import Shelfmark.Proofs.Region.Qualifier

/-!
# Regions - Names of the third level

The second place of a chain, with the first in parentheses, is read back to qualify the third by
both: `Berlin (Germany)` becomes `Berlin, Germany`.  What is read back are runs of letters, periods,
hyphens and spaces.  So the parentheses stay if the second name does not end in such a run, or the
first does not begin with one, and what follows the run in the first name is lost.

Main results:

- Theorem `joinQualifiersWithin_joined`: behind a run that is a name the parenthesis is rewritten.
- Theorem `joinQualifiersWithin_kept`: behind any other text it stays.
- Theorem `qualifyChain_third`: the places of a chain of three names, and which of them read
  `c (b, a)`.
- Theorem `cocody_lost`: an apostrophe cuts off the rest of the first name.
-/

namespace Shelfmark
namespace Region

open Character (isBlank isMark)

/-! ## Runs of name characters -/

/-- A character is taken into a run or ends it, whatever follows. -/
theorem spanName_cons (afterLetter : Bool) (c : Char) :
    (∃ next, ∀ s, spanName afterLetter (c :: s) = (c :: (spanName next s).1, (spanName next s).2)) ∨
      ∀ s, spanName afterLetter (c :: s) = ([], c :: s) := by
  by_cases hname : isNameChar c = true
  · left
    exact ⟨Character.isLetter c, fun s => by rw [spanName, if_pos hname]⟩
  · by_cases hmark : (afterLetter && isMark c) = true
    · left
      exact ⟨true, fun s => by rw [spanName, if_neg hname, if_pos hmark]⟩
    · right
      exact fun s => by rw [spanName, if_neg hname, if_neg hmark]

/-- A run and what follows it are the text. -/
theorem spanName_eq (afterLetter : Bool) (s : Text) :
    (spanName afterLetter s).1 ++ (spanName afterLetter s).2 = s := by
  induction s generalizing afterLetter with
  | nil => rfl
  | cons c s ih =>
    rcases spanName_cons afterLetter c with ⟨next, hnext⟩ | hends
    · rw [hnext]
      exact congrArg (c :: ·) (ih next)
    · rw [hends]
      rfl

/-- A sign that is no name character and no mark is in no run. -/
theorem spanName_cons_sign (afterLetter : Bool) (sign : Char) (s : Text)
    (hname : isNameChar sign = false) (hmark : isMark sign = false) :
    spanName afterLetter (sign :: s) = ([], sign :: s) := by
  rw [spanName, if_neg (by simp [hname]), if_neg (by simp [hmark])]

/-- In front of such a sign a run ends as at the end of the text. -/
theorem spanName_append_cons (afterLetter : Bool) (s : Text) (sign : Char) (t : Text)
    (hname : isNameChar sign = false) (hmark : isMark sign = false) :
    spanName afterLetter (s ++ sign :: t) =
      ((spanName afterLetter s).1, (spanName afterLetter s).2 ++ sign :: t) := by
  induction s generalizing afterLetter with
  | nil => exact spanName_cons_sign afterLetter sign t hname hmark
  | cons c s ih =>
    rw [List.cons_append]
    rcases spanName_cons afterLetter c with ⟨next, hnext⟩ | hends
    · rw [hnext, hnext, ih]
    · rw [hends, hends]
      rfl

/-- A run begins with a name character. -/
theorem IsNameRun.isNameChar_head {c : Char} {s : Text} (h : IsNameRun (c :: s)) :
    isNameChar c = true := by
  rw [← Bool.not_eq_false]
  intro hname
  rw [IsNameRun, spanName, if_neg (by simp [hname]), if_neg (by simp)] at h
  contradiction

/-- A run at the end of a text is read as a whole, wherever the reading begins: it stops in front of
the run, or goes on to the end. -/
theorem spanName_append_run {run : Text} (hrun : IsNameRun run) (hne : run ≠ [])
    (afterLetter : Bool) (front : Text) :
    ((spanName afterLetter front).2 ≠ [] ∧ spanName afterLetter (front ++ run) =
        ((spanName afterLetter front).1, (spanName afterLetter front).2 ++ run)) ∨
      spanName afterLetter (front ++ run) = (front ++ run, []) := by
  induction front generalizing afterLetter with
  | nil =>
    right
    obtain ⟨c, s, rfl⟩ := List.exists_cons_of_ne_nil hne
    have hsame : spanName afterLetter (c :: s) = spanName false (c :: s) := by
      rw [spanName, spanName, if_pos hrun.isNameChar_head, if_pos hrun.isNameChar_head]
    have hall := spanName_eq false (c :: s)
    rw [hrun, List.append_nil] at hall
    rw [List.nil_append, hsame]
    exact Prod.ext hall hrun
  | cons c front ih =>
    rw [List.cons_append]
    rcases spanName_cons afterLetter c with ⟨next, hnext⟩ | hends
    · rw [hnext, hnext]
      rcases ih next with ⟨hstops, heq⟩ | heq
      · left
        rw [heq]
        exact ⟨hstops, rfl⟩
      · right
        rw [heq]
    · left
      rw [hends, hends]
      exact ⟨List.cons_ne_nil c front, rfl⟩

/-! ## Names in front of a parenthesis -/

/-- A run makes a name if without one space at its end it has two characters, marks apart, and ends
in no space or hyphen. -/
theorem nameOfRun?_eq_some_iff {run name : Text} :
    nameOfRun? run = some name ↔ name = dropEndSpace run ∧ 2 ≤ (name.filter (!isMark ·)).length ∧
      name.getLast? ≠ some ' ' ∧ name.getLast? ≠ some '-' := by
  unfold nameOfRun?
  dsimp only
  by_cases hlength : ((dropEndSpace run).filter (!isMark ·)).length < 2
  · rw [if_pos hlength]
    constructor
    · intro h
      contradiction
    · rintro ⟨rfl, htwo, -⟩
      exact absurd hlength (Nat.not_lt.mpr htwo)
  · rw [if_neg hlength]
    by_cases hlast : (dropEndSpace run).getLast? = some ' ' ∨ (dropEndSpace run).getLast? = some '-'
    · rw [if_pos hlast]
      constructor
      · intro h
        contradiction
      · rintro ⟨rfl, -, hspace, hhyphen⟩
        exact absurd hlast (not_or.mpr ⟨hspace, hhyphen⟩)
    · rw [if_neg hlast, Option.some_inj]
      constructor
      · rintro rfl
        exact ⟨rfl, Nat.le_of_not_lt hlength, not_or.mp hlast⟩
      · rintro ⟨rfl, -⟩
        rfl

/-- What makes a name has characters. -/
theorem ne_nil_of_nameOfRun? {run name : Text} (h : nameOfRun? run = some name) :
    run ≠ [] ∧ name ≠ [] := by
  obtain ⟨hdrop, htwo, -⟩ := nameOfRun?_eq_some_iff.mp h
  have hname : name ≠ [] := by
    rintro rfl
    contradiction
  refine ⟨?_, hname⟩
  rintro rfl
  exact hname hdrop

/-- A longer run makes a longer name. -/
theorem nameOfRun?_append {run name : Text} (h : nameOfRun? run = some name) (front : Text) :
    nameOfRun? (front ++ run) = some (front ++ name) := by
  obtain ⟨hrun, hname⟩ := ne_nil_of_nameOfRun? h
  obtain ⟨hdrop, htwo, hspace, hhyphen⟩ := nameOfRun?_eq_some_iff.mp h
  have hlast {s : Text} (hs : s ≠ []) : (front ++ s).getLast? = s.getLast? := by
    rw [List.getLast?_append, List.getLast?_eq_some_getLast hs, Option.some_or]
  refine nameOfRun?_eq_some_iff.mpr ⟨?_, ?_, ?_, ?_⟩
  · rw [hdrop]
    unfold dropEndSpace Text.dropLast?
    rw [hlast hrun, List.dropLast_append_of_ne_nil hrun]
    by_cases hend : run.getLast? = some ' '
    · rw [if_pos hend, if_pos hend]
      rfl
    · rw [if_neg hend, if_neg hend]
      rfl
  · rw [List.filter_append, List.length_append]
    exact Nat.le_add_left_of_le htwo
  · rwa [hlast hname]
  · rwa [hlast hname]

/-- A run and the parenthesis behind it begin a qualified name if the run makes a name and the
parenthesis opens with a run. -/
theorem qualifiedName?_of_run {s run inside : Text} (h : spanName false s = (run, '(' :: inside)) :
    qualifiedName? s = if (spanName false inside).1.isEmpty then none
      else (nameOfRun? run).map fun name => (name, spanName false inside) := by
  rw [qualifiedName?, h]
  rfl

/-! ## Rewriting qualified names -/

/-- Without a parenthesis there is no qualified name. -/
theorem qualifiedName?_of_not_mem {s : Text} (h : '(' ∉ s) : qualifiedName? s = none := by
  have hrest : '(' ∉ (spanName false s).2 := by
    intro hmem
    apply h
    rw [← spanName_eq false s]
    exact List.mem_append_right _ hmem
  unfold qualifiedName?
  split
  rename_i run rest heq
  rw [heq] at hrest
  split
  · simp at hrest
  · rfl

/-- Where no qualified name begins, the run there is passed over, or one character if there is no
run. -/
theorem joinQualifiersWithin_of_none (steps : Nat) {c : Char} {s : Text}
    (h : qualifiedName? (c :: s) = none) :
    joinQualifiersWithin (steps + 1) (c :: s) =
      if (spanName false (c :: s)).1.isEmpty then c :: joinQualifiersWithin steps s
      else (spanName false (c :: s)).1 ++ joinQualifiersWithin steps (spanName false (c :: s)).2 := by
  rw [joinQualifiersWithin, h]

/-- Where a qualified name begins, it is rewritten, and the rest of its line is dropped. -/
theorem joinQualifiersWithin_of_some (steps : Nat) {s name qualifier rest : Text}
    (h : qualifiedName? s = some (name, qualifier, rest)) :
    joinQualifiersWithin (steps + 1) s = name ++ ", ".toList ++ qualifier ++
      joinQualifiersWithin steps (rest.dropWhile (· != '\n')) := by
  cases s with
  | nil => contradiction
  | cons c s => rw [joinQualifiersWithin, h]

/-- A text without a parenthesis is left alone. -/
theorem joinQualifiersWithin_of_not_mem (steps : Nat) {s : Text} (h : '(' ∉ s) :
    joinQualifiersWithin steps s = s := by
  induction steps generalizing s with
  | zero => rfl
  | succ steps ih =>
    cases s with
    | nil => rfl
    | cons c s =>
      have hall := spanName_eq false (c :: s)
      rw [joinQualifiersWithin_of_none steps (qualifiedName?_of_not_mem h)]
      by_cases hempty : (spanName false (c :: s)).1.isEmpty = true
      · rw [if_pos hempty, ih fun hmem => h (List.mem_cons_of_mem c hmem)]
      · rw [if_neg hempty, ih fun hmem => h (hall ▸ List.mem_append_right _ hmem), hall]

/-- What stands in front of the run that ends at the parenthesis is passed over piece by piece. -/
theorem joinQualifiersWithin_skip (steps : Nat) {front tail : Text} (hopen : '(' ∉ front)
    (hstops : (spanName false front).2 ≠ [])
    (hspan : spanName false (front ++ tail) =
      ((spanName false front).1, (spanName false front).2 ++ tail)) :
    ∃ skipped left, front = skipped ++ left ∧ skipped ≠ [] ∧
      joinQualifiersWithin (steps + 1) (front ++ tail) =
        skipped ++ joinQualifiersWithin steps (left ++ tail) := by
  have hall := spanName_eq false front
  have hnone : qualifiedName? (front ++ tail) = none := by
    unfold qualifiedName?
    rw [hspan]
    obtain ⟨c, rest, hrest⟩ := List.exists_cons_of_ne_nil hstops
    have hc : c ≠ '(' := by
      rintro rfl
      apply hopen
      rw [← hall, hrest]
      simp
    rw [hrest, List.cons_append]
    dsimp only
    split
    · rename_i heq
      exact absurd (List.cons.inj heq).1 hc
    · rfl
  cases front with
  | nil => exact absurd rfl hstops
  | cons c front =>
    rw [List.cons_append] at hspan hnone
    rw [List.cons_append, joinQualifiersWithin_of_none steps hnone, hspan]
    by_cases hempty : (spanName false (c :: front)).1.isEmpty = true
    · rw [if_pos hempty]
      exact ⟨[c], front, rfl, List.cons_ne_nil c [], rfl⟩
    · rw [if_neg hempty]
      exact ⟨_, _, hall.symm, by simpa using hempty, rfl⟩

/-- What a place leaves of itself in a qualifier that is rewritten: the run of name characters it
begins with, and behind that whole lines only. -/
def keptOf (inside : Text) : Text :=
  (spanName false inside).1 ++ (spanName false inside).2.dropWhile (· != '\n')

section Open

variable {inside : Text} (hinside : '(' ∉ inside)

include hinside

/-- Behind a run that makes a name the parenthesis becomes a comma. -/
theorem joinQualifiersWithin_joined {steps : Nat} {front run name : Text}
    (hopen : '(' ∉ front ++ run) (hsteps : (front ++ run).length ≤ steps) (hrun : IsNameRun run)
    (hname : nameOfRun? run = some name) (hqualifier : (spanName false inside).1 ≠ []) :
    joinQualifiersWithin steps (front ++ run ++ '(' :: inside) =
      front ++ name ++ ", ".toList ++ keptOf inside := by
  obtain ⟨hne, -⟩ := ne_nil_of_nameOfRun? hname
  induction steps generalizing front with
  | zero =>
    have hnil := List.length_eq_zero_iff.mp (Nat.le_zero.mp hsteps)
    exact absurd (List.append_eq_nil_iff.mp hnil).2 hne
  | succ steps ih =>
    have hspan := spanName_append_cons false (front ++ run) '(' inside (by decide) (by decide)
    rcases spanName_append_run hrun hne false front with ⟨hstops, hbefore⟩ | hthrough
    · -- The run is not reached yet: something in front of it is passed over.
      rw [hbefore, List.append_assoc, List.append_assoc] at hspan
      obtain ⟨skipped, left, rfl, hskipped, heq⟩ := joinQualifiersWithin_skip steps
        (fun hmem => hopen (List.mem_append_left _ hmem)) hstops hspan
      rw [List.append_assoc, heq, ← List.append_assoc left, ih]
      · simp
      · rw [List.append_assoc] at hopen
        exact fun hmem => hopen (List.mem_append_right _ hmem)
      · have hpos := List.length_pos_of_ne_nil hskipped
        simp only [List.length_append] at hsteps ⊢
        omega
    · -- Everything in front of the parenthesis is one run.
      rw [hthrough] at hspan
      have hread := qualifiedName?_of_run hspan
      rw [if_neg (by simpa using hqualifier), nameOfRun?_append hname front,
        Option.map_some] at hread
      have hrest : '(' ∉ (spanName false inside).2.dropWhile (· != '\n') := by
        intro hmem
        apply hinside
        rw [← spanName_eq false inside]
        exact List.mem_append_right _ ((List.dropWhile_sublist _).subset hmem)
      rw [joinQualifiersWithin_of_some steps hread, joinQualifiersWithin_of_not_mem steps hrest,
        keptOf]
      simp

/-- A parenthesis with no name in front of it stays. -/
theorem joinQualifiersWithin_parenthesis (steps : Nat) :
    joinQualifiersWithin steps ('(' :: inside) = '(' :: inside := by
  cases steps with
  | zero => rfl
  | succ steps =>
    have hspan := spanName_cons_sign false '(' inside (by decide) (by decide)
    have hread : qualifiedName? ('(' :: inside) = none := by
      rw [qualifiedName?_of_run hspan]
      exact ite_self none
    rw [joinQualifiersWithin_of_none steps hread, hspan,
      joinQualifiersWithin_of_not_mem steps hinside]
    rfl

/-- Behind a text that ends in no name the parenthesis stays. -/
theorem joinQualifiersWithin_kept {steps : Nat} {x : Text} (hopen : '(' ∉ x)
    (hnone : (spanName false inside).1 = [] ∨
      ∀ front run, x = front ++ run → IsNameRun run → nameOfRun? run = none) :
    joinQualifiersWithin steps (x ++ '(' :: inside) = x ++ '(' :: inside := by
  induction steps generalizing x with
  | zero => rfl
  | succ steps ih =>
    have hspan := spanName_append_cons false x '(' inside (by decide) (by decide)
    by_cases hstops : (spanName false x).2 = []
    · -- All of the text is one run, and makes no name.
      have hall := spanName_eq false x
      rw [hstops, List.append_nil] at hall
      rw [hstops, hall, List.nil_append] at hspan
      have hread : qualifiedName? (x ++ '(' :: inside) = none := by
        rw [qualifiedName?_of_run hspan]
        rcases hnone with hempty | hnone
        · rw [hempty]
          rfl
        · rw [hnone [] x rfl hstops, Option.map_none, ite_self]
      cases x with
      | nil => exact joinQualifiersWithin_parenthesis hinside (steps + 1)
      | cons c x =>
        rw [List.cons_append] at hread hspan ⊢
        rw [joinQualifiersWithin_of_none steps hread, hspan,
          joinQualifiersWithin_parenthesis hinside steps]
        rfl
    · obtain ⟨skipped, left, rfl, -, heq⟩ := joinQualifiersWithin_skip steps hopen hstops hspan
      rw [heq, ih, List.append_assoc]
      · exact fun hmem => hopen (List.mem_append_right _ hmem)
      · apply hnone.imp_right
        intro h front run hrun
        exact h (skipped ++ front) run (by rw [hrun, List.append_assoc])

end Open

/-! ## The second place as a qualifier -/

/-- A text ends in a name: in a run of at least two characters, marks apart, of which the last is
neither a space nor a hyphen. -/
def EndsInName (s : Text) : Prop :=
  ∃ front run, s = front ++ run ∧ IsNameRun run ∧ 2 ≤ (run.filter (!isMark ·)).length ∧
    run.getLast? ≠ some ' ' ∧ run.getLast? ≠ some '-'

/-- A space at its end leaves a run a run. -/
theorem isNameRun_append_space (s : Text) : IsNameRun (s ++ [' ']) ↔ IsNameRun s := by
  unfold IsNameRun
  generalize false = afterLetter
  induction s generalizing afterLetter with
  | nil =>
    apply iff_of_true
    · rw [List.nil_append, spanName, if_pos (by decide)]
      rfl
    · rfl
  | cons c s ih =>
    rw [List.cons_append]
    rcases spanName_cons afterLetter c with ⟨next, hnext⟩ | hends
    · rw [hnext, hnext]
      exact ih next
    · rw [hends, hends]
      exact iff_of_false (List.cons_ne_nil _ _) (List.cons_ne_nil _ _)

/-- A run in front of one space makes a name of itself. -/
theorem nameOfRun?_append_space {run : Text} (htwo : 2 ≤ (run.filter (!isMark ·)).length)
    (hspace : run.getLast? ≠ some ' ') (hhyphen : run.getLast? ≠ some '-') :
    nameOfRun? (run ++ [' ']) = some run := by
  refine nameOfRun?_eq_some_iff.mpr ⟨?_, htwo, hspace, hhyphen⟩
  rw [dropEndSpace, Text.dropLast?_concat]
  rfl

/-- A text ends in a name if behind it, one space and a parenthesis make a name of a run. -/
theorem endsInName_of_nameOfRun? {s front run name : Text} (hs : s ++ [' '] = front ++ run)
    (hrun : IsNameRun run) (hname : nameOfRun? run = some name) : EndsInName s := by
  obtain ⟨hne, -⟩ := ne_nil_of_nameOfRun? hname
  rcases List.eq_nil_or_concat run with rfl | ⟨run, c, rfl⟩
  · contradiction
  · rw [List.concat_eq_append] at hs hrun hname
    rw [← List.append_assoc] at hs
    obtain ⟨rfl, hc⟩ := List.append_inj' hs rfl
    obtain rfl : ' ' = c := List.cons.inj hc |>.1
    obtain ⟨rfl, htwo, hspace, hhyphen⟩ := nameOfRun?_eq_some_iff.mp hname
    rw [dropEndSpace, Text.dropLast?_concat, Option.getD_some] at htwo hspace hhyphen
    exact ⟨front, run, rfl, (isNameRun_append_space run).mp hrun, htwo, hspace, hhyphen⟩

section Second

variable {name place : Text} (hname : '(' ∉ name) (hplace : '(' ∉ place)

include hname hplace

/-- The second place qualifies those below as name and place, if it ends in a name and the place
begins with one. -/
theorem joinQualifiers_joined (hends : EndsInName name) (hbegins : (spanName false place).1 ≠ []) :
    joinQualifiers (parenthesized name place) =
      Text.trim (name ++ ", ".toList ++ keptOf (place ++ [')'])) := by
  obtain ⟨front, run, rfl, hrun, htwo, hspace, hhyphen⟩ := hends
  have hread := nameOfRun?_append_space htwo hspace hhyphen
  have hinside : '(' ∉ place ++ [')'] := by simpa using hplace
  have hspan := spanName_append_cons false place ')' [] (by decide) (by decide)
  rw [joinQualifiers, parenthesized_eq, List.append_assoc front run,
    joinQualifiersWithin_joined hinside (by simpa using hname) (by simp)
      ((isNameRun_append_space run).mpr hrun) hread (by rwa [hspan])]

/-- Otherwise its parentheses stay. -/
theorem joinQualifiersWithin_parenthesized (steps : Nat)
    (h : ¬ (EndsInName name ∧ (spanName false place).1 ≠ [])) :
    joinQualifiersWithin steps (parenthesized name place) = parenthesized name place := by
  have hspan := spanName_append_cons false place ')' [] (by decide) (by decide)
  rw [parenthesized_eq]
  apply joinQualifiersWithin_kept (by simpa using hplace) (by simpa using hname)
  by_cases hbegins : (spanName false place).1 = []
  · left
    rwa [hspan]
  · right
    intro front run heq hrun
    rw [Option.eq_none_iff_forall_ne_some]
    intro other hother
    exact h ⟨endsInName_of_nameOfRun? heq hrun hother, hbegins⟩

end Second

/-- A text begins with a run if it begins with a name character. -/
theorem spanName_ne_nil_iff (s : Text) :
    (spanName false s).1 ≠ [] ↔ ∃ c ∈ s.head?, isNameChar c = true := by
  cases s with
  | nil => simp [spanName]
  | cons c s =>
    rw [spanName]
    by_cases hname : isNameChar c = true
    · simp [hname]
    · simp [hname]

/-- The closing parenthesis is behind the run, and kept with what follows a line break. -/
theorem keptOf_closed (place : Text) :
    keptOf (place ++ [')']) = (spanName false place).1 ++
      ((spanName false place).2 ++ [')']).dropWhile (· != '\n') := by
  rw [keptOf, spanName_append_cons false place ')' [] (by decide) (by decide)]

/-- A place that is one run keeps all of itself. -/
theorem keptOf_of_isNameRun {place : Text} (h : IsNameRun place) :
    keptOf (place ++ [')']) = place := by
  have hall := spanName_eq false place
  rw [h, List.append_nil] at hall
  rw [keptOf_closed, h, hall]
  exact List.append_nil place

/-- Of any other place something is lost, or the closing parenthesis is kept. -/
theorem keptOf_of_not_isNameRun {place : Text} (h : ¬ IsNameRun place) :
    (keptOf (place ++ [')'])).length < place.length ∨ ')' ∈ keptOf (place ++ [')']) := by
  have hall := spanName_eq false place
  rw [keptOf_closed]
  by_cases hlines : ((spanName false place).2 ++ [')']).dropWhile (· != '\n') = []
  · left
    have hpos := List.length_pos_of_ne_nil h
    have hlength := congrArg List.length hall
    rw [List.length_append] at hlength
    rw [hlines, List.append_nil]
    omega
  · right
    obtain ⟨dropped, hdropped⟩ := List.dropWhile_suffix (l := (spanName false place).2 ++ [')'])
      (· != '\n')
    have hlast := congrArg List.getLast? hdropped
    rw [List.getLast?_append, List.getLast?_eq_some_getLast hlines, List.getLast?_concat] at hlast
    have hmem := List.getLast_mem hlines
    rw [Option.some.inj hlast] at hmem
    exact List.mem_append_right _ hmem

section Qualifier

variable {name place : Text} (hname : Text.IsTrimmed name) (hnonempty : name ≠ [])

include hname hnonempty

/-- What begins like a trimmed name has no white space in front. -/
theorem isBlank_head_append (rest : Text) : ∀ c ∈ (name ++ rest).head?, isBlank c = false := by
  intro c hc
  obtain ⟨d, tail, rfl⟩ := List.exists_cons_of_ne_nil hnonempty
  exact hname.head c hc

/-- A name with a place in parentheses is trimmed. -/
theorem trim_parenthesized : Text.trim (parenthesized name place) = parenthesized name place := by
  rw [parenthesized, List.append_assoc, List.append_assoc]
  apply Text.trim_eq_self (isBlank_head_append hname hnonempty _)
  intro c hc
  rw [← List.append_assoc, ← List.append_assoc, List.getLast?_concat] at hc
  obtain rfl := Option.some.inj hc
  decide

/-- What qualifies the names below is name and place exactly if the place is one run. -/
theorem trim_keptOf_eq_iff (hplace : Text.IsTrimmed place) (hplaced : place ≠ [])
    (hclosed : ')' ∉ name ∧ ')' ∉ place) :
    Text.trim (name ++ ", ".toList ++ keptOf (place ++ [')'])) = name ++ ", ".toList ++ place ↔
      IsNameRun place := by
  constructor
  · intro heq
    by_contra hrun
    rcases keptOf_of_not_isNameRun hrun with hshorter | hkept
    · have hlength := (Text.trim_isInfix (name ++ ", ".toList ++ keptOf (place ++ [')']))).length_le
      rw [heq] at hlength
      simp only [List.length_append] at hlength
      omega
    · have hmem : ')' ∈ Text.trim (name ++ ", ".toList ++ keptOf (place ++ [')'])) :=
        Text.mem_trim (List.mem_append_right _ hkept) (by decide)
      rw [heq] at hmem
      simp [hclosed] at hmem
  · intro hrun
    rw [keptOf_of_isNameRun hrun, List.append_assoc]
    apply Text.trim_eq_self (isBlank_head_append hname hnonempty _)
    intro c hc
    rw [← List.append_assoc, List.getLast?_append, List.getLast?_eq_some_getLast hplaced] at hc
    apply hplace.last c
    rwa [List.getLast?_eq_some_getLast hplaced]

end Qualifier

/-- No state keeps its parentheses. -/
theorem abbreviation?_of_kept {place : Text} (hopen : '(' ∈ place)
    (hkept : joinQualifiers place = place) : abbreviation? place = none := by
  have hstates : ∀ entry ∈ abbreviations, '(' ∈ entry.1.toList →
      joinQualifiers entry.1.toList ≠ entry.1.toList := by decide
  rw [abbreviation?_eq_none_iff]
  rintro entry hentry rfl
  exact hstates entry hentry hopen hkept

/-! ## Chains of three names -/

/-- The places of a chain of three clean names without parentheses, of which the first is no state.
The third is qualified by the second and the first, as in `c (b, a)`, exactly if the second ends in
a name and the first consists of name characters.  Otherwise part of the first name is lost, or the
second keeps its parentheses inside those of the third. -/
theorem qualifyChain_third {first second third : Text}
    (hclean : ∀ name ∈ [first, second, third], cleanHeading name = name)
    (hne : ∀ name ∈ [first, second, third], name ≠ [])
    (hfree : ∀ name ∈ [first, second, third], '(' ∉ name ∧ ')' ∉ name ∧ '#' ∉ name)
    (hkept : ∀ name ∈ [first, second, third], isSkipped name = false)
    (hstate : abbreviation? first = none) :
    ∃ qualifier, qualifyChain (Text.join ['#'] [first, second, third]) =
        [first, parenthesized second first, parenthesized third qualifier] ∧
      (qualifier = second ++ ", ".toList ++ first ↔ EndsInName second ∧ IsNameRun first) ∧
      (EndsInName second ∧ (∃ c ∈ first.head?, isNameChar c = true) →
        qualifier = Text.trim (second ++ ", ".toList ++ keptOf (first ++ [')']))) ∧
      (¬ (EndsInName second ∧ ∃ c ∈ first.head?, isNameChar c = true) →
        qualifier = parenthesized second first) := by
  have htrimmed (name : Text) (h : name ∈ [first, second, third]) : Text.IsTrimmed name :=
    ((cleanHeading_eq_self_iff name).mp (hclean name h)).trimmed
  have hfirst : first ∈ [first, second, third] := by simp
  have hsecond : second ∈ [first, second, third] := by simp
  obtain ⟨hopenFirst, hclosedFirst, -⟩ := hfree first hfirst
  obtain ⟨hopenSecond, hclosedSecond, -⟩ := hfree second hsecond
  have hthird := hfree third (by simp)
  have hchild : qualify first second = parenthesized second first :=
    qualify_unqualified hclosedSecond hstate
  have hchain := qualifyChain_names hclean (fun name h => (hfree name h).2.2)
    fun name h => hkept name (List.mem_cons_of_mem first h)
  rw [hchild, List.map_singleton] at hchain
  rw [← spanName_ne_nil_iff]
  by_cases hjoined : EndsInName second ∧ (spanName false first).1 ≠ []
  · have hqualifier := joinQualifiers_joined hopenSecond hopenFirst hjoined.1 hjoined.2
    have hcomma : ',' ∈ Text.trim (second ++ ", ".toList ++ keptOf (first ++ [')'])) :=
      Text.mem_trim (by simp) (by decide)
    rw [hqualifier, qualify_unqualified hthird.2.1 (abbreviation?_of_comma hcomma)] at hchain
    refine ⟨_, hchain, ?_, fun _ => rfl, fun h => absurd hjoined h⟩
    rw [trim_keptOf_eq_iff (htrimmed second hsecond) (hne second hsecond) (htrimmed first hfirst)
      (hne first hfirst) ⟨hclosedSecond, hclosedFirst⟩]
    exact (and_iff_right hjoined.1).symm
  · have hqualifier : joinQualifiers (parenthesized second first) = parenthesized second first := by
      rw [joinQualifiers, joinQualifiersWithin_parenthesized hopenSecond hopenFirst _ hjoined,
        trim_parenthesized (htrimmed second hsecond) (hne second hsecond)]
    have hnone : abbreviation? (parenthesized second first) = none :=
      abbreviation?_of_kept (by simp [parenthesized]) hqualifier
    rw [hqualifier, qualify_unqualified hthird.2.1 hnone] at hchain
    refine ⟨_, hchain, iff_of_false ?_ ?_, fun h => absurd h hjoined, fun _ => rfl⟩
    · intro heq
      have hlength := congrArg List.length heq
      simp [parenthesized] at hlength
    · rintro ⟨hends, hrun⟩
      refine hjoined ⟨hends, ?_⟩
      have hall := spanName_eq false first
      rw [hrun, List.append_nil] at hall
      rw [hall]
      exact hne first hfirst

/-- Digits and a comma in the second name do no harm in front of its end. -/
theorem kaisermuehlen_joined : ∃ first second third, first = "Österreich".toList ∧
    second = "Wien, 22. Bezirk".toList ∧ third = "Kaisermühlen".toList ∧
      (∀ name ∈ [first, second, third], cleanHeading name = name ∧ name ≠ [] ∧
        ('(' ∉ name ∧ ')' ∉ name ∧ '#' ∉ name) ∧ isSkipped name = false) ∧
      abbreviation? first = none ∧ EndsInName second ∧ IsNameRun first ∧
      qualifyChain (Text.join ['#'] [first, second, third]) =
        [first, parenthesized second first,
          parenthesized third (second ++ ", ".toList ++ first)] := by
  refine ⟨_, _, _, rfl, rfl, rfl, ?_⟩
  have hnames : ∀ name ∈ ["Österreich".toList, "Wien, 22. Bezirk".toList, "Kaisermühlen".toList],
      cleanHeading name = name ∧ name ≠ [] ∧ ('(' ∉ name ∧ ')' ∉ name ∧ '#' ∉ name) ∧
        isSkipped name = false := by decide
  have hstate : abbreviation? "Österreich".toList = none := by decide
  have hends : EndsInName "Wien, 22. Bezirk".toList :=
    ⟨"Wien, 22".toList, ". Bezirk".toList, by decide,
      isNameRun_of_forall (List.all_eq_true.mp (by decide)), by decide, by decide,
      by decide⟩
  have hrun : IsNameRun "Österreich".toList :=
    isNameRun_of_forall (List.all_eq_true.mp (by decide))
  obtain ⟨qualifier, hchain, hiff, -⟩ := qualifyChain_third (fun name h => (hnames name h).1)
    (fun name h => (hnames name h).2.1) (fun name h => (hnames name h).2.2.1)
    (fun name h => (hnames name h).2.2.2) hstate
  rw [hiff.mpr ⟨hends, hrun⟩] at hchain
  exact ⟨hnames, hstate, hends, hrun, hchain⟩

/-- What stands behind an apostrophe in the first name is lost below the second. -/
theorem cocody_lost : ∃ first second third, first = "Côte d'Ivoire".toList ∧
    second = "Abidjan".toList ∧ third = "Cocody".toList ∧
      (∀ name ∈ [first, second, third], cleanHeading name = name ∧ name ≠ [] ∧
        ('(' ∉ name ∧ ')' ∉ name ∧ '#' ∉ name) ∧ isSkipped name = false) ∧
      abbreviation? first = none ∧ abbreviation? (second ++ ", ".toList ++ first) = none ∧
      qualifyChain (Text.join ['#'] [first, second, third]) =
        [first, parenthesized second first, "Cocody (Abidjan, Côte d)".toList] ∧
      parenthesized third (second ++ ", ".toList ++ first) ≠ "Cocody (Abidjan, Côte d)".toList := by
  refine ⟨_, _, _, rfl, rfl, rfl, ?_⟩
  decide

end Region
end Shelfmark
