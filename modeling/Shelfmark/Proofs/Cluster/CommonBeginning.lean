import Mathlib.Data.List.Forall2
import Shelfmark.Cluster.Summary
import Shelfmark.Proofs.Character.Case
import Shelfmark.Proofs.Text.Separator
import Shelfmark.Proofs.Text.Span

/-!
# Clusters - The common beginning of values

The values of a cluster agree loosely on a number of positions: case does not matter there, and
a period may stand for a space.  Their common beginning is cut in front of the last space that
the first value has among these positions; without such a space it is all of them.

Main results:

- Theorem `looselyEqual_iff`: when characters may stand for each other.
- Theorem `le_commonLength_iff`: the positions on which the values agree.
- Theorem `sharedSpace_iff`: the spaces among them.
- Theorem `commonBeginning_cases`: where the common beginning ends.
- Theorem `spaces_iff`: when all values have a space behind it.
-/

namespace Shelfmark
namespace Cluster

open Character (fold)
open NaturalOrder (isIgnorable looselyEqual)

/-! ## Loose agreement -/

/-- What decides whether a character may stand for another one: its fold, and for periods and
spaces one sign. -/
def loose (c : Char) : Char :=
  if isIgnorable c then ' ' else fold c

/-- Folding makes no periods and spaces, and changes none. -/
theorem isIgnorable_fold (c : Char) : isIgnorable (fold c) = isIgnorable c := by
  rw [Bool.eq_iff_iff]
  simp only [isIgnorable, Bool.or_eq_true, beq_iff_eq, Character.fold_eq_iff (Or.inl rfl),
    Character.fold_eq_iff (Or.inr rfl)]

/-- Only periods and spaces stand for a space. -/
theorem loose_eq_space_iff {c : Char} : loose c = ' ' ↔ isIgnorable c = true := by
  unfold loose
  split
  · rename_i h
    exact iff_of_true rfl h
  · rename_i h
    refine iff_of_false (fun hfold => h ?_) h
    rw [(Character.fold_eq_iff (Or.inl rfl)).mp hfold]
    rfl

/-- Characters may stand for each other exactly if the same decides about both. -/
theorem looselyEqual_iff {c d : Char} : looselyEqual c d = true ↔ loose c = loose d := by
  by_cases hsame : isIgnorable c = isIgnorable d
  · unfold looselyEqual loose
    rw [hsame]
    cases isIgnorable d <;> simp
  · -- Then neither stands for the other, because folding leaves both what they are.
    have hfold : fold c ≠ fold d := by
      intro h
      rw [← isIgnorable_fold c, ← isIgnorable_fold d, h] at hsame
      exact hsame rfl
    have hloose : loose c ≠ loose d := by
      intro h
      rw [Bool.eq_iff_iff, ← loose_eq_space_iff, ← loose_eq_space_iff, h] at hsame
      exact hsame Iff.rfl
    refine iff_of_false (fun h => ?_) hloose
    rcases Bool.or_eq_true_iff.mp h with hboth | hequal
    · obtain ⟨hc, hd⟩ := Bool.and_eq_true_iff.mp hboth
      exact hsame (hc.trans hd.symm)
    · exact hfold (beq_iff_eq.mp hequal)

/-- Texts of one length that agree at every position, but for case and for periods in the place
of spaces. -/
def LooselyAgree (s t : Text) : Prop :=
  List.Forall₂ (fun c d => looselyEqual c d = true) s t

/-- Texts agree exactly if the same decides about their characters, one by one. -/
theorem looselyAgree_iff {s t : Text} : LooselyAgree s t ↔ s.map loose = t.map loose := by
  rw [← List.forall₂_eq_eq_eq, List.forall₂_map_left_iff, List.forall₂_map_right_iff]
  unfold LooselyAgree
  simp only [looselyEqual_iff]

/-- A text agrees with itself. -/
theorem LooselyAgree.refl (s : Text) : LooselyAgree s s :=
  looselyAgree_iff.mpr rfl

/-- Texts that agree are equally long. -/
theorem LooselyAgree.length_eq {s t : Text} (h : LooselyAgree s t) : s.length = t.length :=
  List.Forall₂.length_eq h

/-- A text that agrees with the beginning of another one agrees with it when it is continued in
the same way. -/
theorem LooselyAgree.append_drop {s t : Text} (h : LooselyAgree s (t.take s.length)) :
    LooselyAgree (s ++ t.drop s.length) t := by
  have hwhole : LooselyAgree (s ++ t.drop s.length) (t.take s.length ++ t.drop s.length) :=
    List.rel_append h (LooselyAgree.refl (t.drop s.length))
  rwa [List.take_append_drop] at hwhole

/-- Where a text has a character, one that agrees with it has a character that may stand for
it. -/
theorem LooselyAgree.exists_getElem? {s t : Text} (h : LooselyAgree s t) {n : Nat} {c : Char}
    (hc : s[n]? = some c) : ∃ d, t[n]? = some d ∧ looselyEqual c d = true := by
  induction h generalizing n with
  | nil => contradiction
  | cons hcd _ ih =>
    cases n with
    | zero => exact ⟨_, rfl, Option.some.inj hc ▸ hcd⟩
    | succ n => exact ih hc

/-- In the place of a space stands a space or a period. -/
theorem eq_space_or_period {c : Char} (h : looselyEqual ' ' c = true) : c = ' ' ∨ c = '.' := by
  have hspace : isIgnorable ' ' = true := rfl
  have hloose := looselyEqual_iff.mp h
  rw [loose, if_pos hspace, eq_comm, loose_eq_space_iff, isIgnorable, Bool.or_eq_true,
    beq_iff_eq, beq_iff_eq] at hloose
  exact hloose.symm

/-! ## Common positions -/

/-- The first value has a number of positions, and agrees with all others on them. -/
def Shares (first : Text) (others : List Text) (n : Nat) : Prop :=
  n ≤ first.length ∧ ∀ value ∈ others, LooselyAgree (first.take n) (value.take n)

/-- Two texts agree on as many positions as are counted. -/
theorem le_agreement_iff {limit n : Nat} {a b : Text} :
    n ≤ agreement limit a b ↔
      n ≤ limit ∧ n ≤ a.length ∧ LooselyAgree (a.take n) (b.take n) := by
  unfold agreement LooselyAgree
  induction a generalizing limit n b with
  | nil => cases n <;> simp
  | cons c a ih =>
    cases n with
    | zero => simp
    | succ n =>
      cases b with
      | nil => simp
      | cons d b =>
        cases limit with
        | zero => simp
        | succ limit =>
          cases hcd : looselyEqual c d with
          | true => simp [hcd, ih]
          | false => simp [hcd]

/-- The first value agrees with each of the others on as many positions as are left. -/
theorem le_foldl_agreement_iff {first : Text} {others : List Text} {limit n : Nat} :
    n ≤ others.foldl (fun length other => agreement length first other) limit ↔
      n ≤ limit ∧ ∀ value ∈ others,
        n ≤ first.length ∧ LooselyAgree (first.take n) (value.take n) := by
  induction others generalizing limit with
  | nil => simp
  | cons value others ih =>
    rw [List.foldl_cons, ih, le_agreement_iff, and_assoc, List.forall_mem_cons]

/-- The values agree on as many positions as are counted. -/
theorem le_commonLength_iff {first : Text} {others : List Text} {n : Nat} :
    n ≤ commonLength first others ↔ Shares first others n := by
  rw [commonLength, le_foldl_agreement_iff]
  exact and_congr_right fun hn => forall₂_congr fun _ _ => and_iff_right hn

/-! ## Common spaces -/

/-- The values agree through a space of the first. -/
def SharedSpace (first : Text) (others : List Text) (n : Nat) : Prop :=
  first[n]? = some ' ' ∧ Shares first others (n + 1)

/-- The last space of the first value through which the values agree. -/
structure LastSharedSpace (first : Text) (others : List Text) (n : Nat) : Prop where
  shared : SharedSpace first others n
  last : ∀ m, SharedSpace first others m → m ≤ n

section CommonBeginning

variable {first : Text} {others : List Text} {n : Nat}

/-- There is only one last space. -/
theorem LastSharedSpace.eq {m : Nat} (h : LastSharedSpace first others n)
    (h' : LastSharedSpace first others m) : n = m :=
  Nat.le_antisymm (h'.last n h.shared) (h.last m h'.shared)

/-- The values agree through the spaces among their common positions. -/
theorem sharedSpace_iff :
    SharedSpace first others n ↔ (first.take (commonLength first others))[n]? = some ' ' := by
  rw [SharedSpace, ← le_commonLength_iff, List.getElem?_take]
  split
  · rename_i hlt
    exact and_iff_left hlt
  · rename_i hlt
    exact iff_of_false (fun h => hlt h.2) (by simp)

/-- A text is cut in front of its last space. -/
theorem cutAtLastSpace_append (s : Text) {t : Text} (h : ' ' ∉ t) :
    cutAtLastSpace (s ++ ' ' :: t) = s := by
  have hsplit : s ++ ' ' :: t = (s ++ [' ']) ++ t := by simp
  simp only [cutAtLastSpace, Text.afterLast?_append_cons s h]
  rw [hsplit, Text.before_append, List.dropLast_concat]

/-- A text without spaces is not cut. -/
theorem cutAtLastSpace_of_not_mem {s : Text} (h : ' ' ∉ s) : cutAtLastSpace s = s := by
  simp only [cutAtLastSpace, Text.afterLast?_of_not_mem h]

/-- The common beginning ends in front of the last space through which the values agree, or else
where they stop to agree. -/
theorem commonBeginning_cases (first : Text) (others : List Text) :
    (∃ n, LastSharedSpace first others n ∧ commonBeginning first others = first.take n) ∨
      (∀ n, ¬ SharedSpace first others n) ∧
        commonBeginning first others = first.take (commonLength first others) := by
  simp only [sharedSpace_iff]
  by_cases hspace : ' ' ∈ first.take (commonLength first others)
  · obtain ⟨u, t, hsplit, ht⟩ := Text.exists_of_mem hspace
    have hcut : u <+: first.take (commonLength first others) := ⟨' ' :: t, hsplit.symm⟩
    have hu : u = first.take u.length :=
      List.prefix_iff_eq_take.mp (hcut.trans (List.take_prefix _ first))
    refine Or.inl ⟨u.length, ⟨?_, fun m hm => ?_⟩, ?_⟩
    · rw [sharedSpace_iff, hsplit]
      simp
    · -- A later space would stand among those characters that have none.
      rw [sharedSpace_iff, hsplit] at hm
      by_contra hlt
      obtain ⟨k, rfl⟩ := Nat.exists_eq_add_of_lt (Nat.lt_of_not_le hlt)
      rw [List.getElem?_append_right (by omega)] at hm
      have hk : u.length + k + 1 - u.length = k + 1 := by omega
      rw [hk, List.getElem?_cons_succ] at hm
      exact ht (List.mem_of_getElem? hm)
    · rw [commonBeginning, hsplit, cutAtLastSpace_append u ht]
      exact hu
  · refine Or.inr ⟨fun n hn => hspace (List.mem_of_getElem? hn), ?_⟩
    rw [commonBeginning, cutAtLastSpace_of_not_mem hspace]

/-- In front of the last space through which the values agree ends the common beginning. -/
theorem commonBeginning_of_lastSharedSpace (h : LastSharedSpace first others n) :
    commonBeginning first others = first.take n := by
  rcases commonBeginning_cases first others with ⟨m, hm, hcut⟩ | ⟨hnone, -⟩
  · rw [hcut, h.eq hm]
  · exact absurd h.shared (hnone n)

/-- The common beginning is as long as that space is far from the front. -/
theorem LastSharedSpace.length_eq (h : LastSharedSpace first others n) :
    (commonBeginning first others).length = n := by
  have hlt := (List.getElem?_eq_some_iff.mp h.shared.1).1
  rw [commonBeginning_of_lastSharedSpace h, List.length_take]
  exact Nat.min_eq_left (Nat.le_of_lt hlt)

/-- Where the values agree through no space the common beginning is all that they agree on. -/
theorem le_length_commonBeginning_iff (h : ∀ n, ¬ SharedSpace first others n) (n : Nat) :
    n ≤ (commonBeginning first others).length ↔ Shares first others n := by
  rcases commonBeginning_cases first others with ⟨m, hm, -⟩ | ⟨-, hwhole⟩
  · exact absurd hm.shared (h m)
  · have hle := (le_commonLength_iff.mp (Nat.le_refl (commonLength first others))).1
    rw [hwhole, List.length_take, Nat.min_eq_left hle, le_commonLength_iff]

/-- The values agree on their common beginning. -/
theorem shares_commonBeginning (first : Text) (others : List Text) :
    Shares first others (commonBeginning first others).length := by
  rw [← le_commonLength_iff]
  rcases commonBeginning_cases first others with ⟨n, hn, hcut⟩ | ⟨-, hwhole⟩
  · have hle := le_commonLength_iff.mpr hn.shared.2
    rw [hcut]
    exact Nat.le_trans (List.length_take_le n first) (Nat.le_of_succ_le hle)
  · rw [hwhole]
    exact List.length_take_le _ first

/-- The common beginning is one of the first value. -/
theorem commonBeginning_eq_take (first : Text) (others : List Text) :
    commonBeginning first others = first.take (commonBeginning first others).length := by
  rcases commonBeginning_cases first others with ⟨n, -, hcut⟩ | ⟨-, hwhole⟩
  · rw [hcut]
    exact List.prefix_iff_eq_take.mp (List.take_prefix n first)
  · rw [hwhole]
    exact List.prefix_iff_eq_take.mp (List.take_prefix _ first)

/-- In the place of a space through which the values agree every value has a space or a
period. -/
theorem SharedSpace.space_or_period (h : SharedSpace first others n) {value : Text}
    (hvalue : value ∈ first :: others) : value[n]? = some ' ' ∨ value[n]? = some '.' := by
  rcases List.mem_cons.mp hvalue with rfl | hother
  · exact Or.inl h.1
  · have htake (s : Text) : (s.take (n + 1))[n]? = s[n]? := by
      rw [List.getElem?_take, if_pos (Nat.lt_succ_self n)]
    obtain ⟨d, hd, hequal⟩ := (h.2.2 value hother).exists_getElem? ((htake first).trans h.1)
    rw [htake] at hd
    rcases eq_space_or_period hequal with rfl | rfl
    · exact Or.inl hd
    · exact Or.inr hd

/-- Every value begins with the common beginning, loosely. -/
theorem looselyAgree_commonBeginning {value : Text} (h : value ∈ first :: others) :
    LooselyAgree (commonBeginning first others)
      (value.take (commonBeginning first others).length) := by
  rcases List.mem_cons.mp h with rfl | hother
  · rw [← commonBeginning_eq_take]
    exact LooselyAgree.refl _
  · have hagree := (shares_commonBeginning first others).2 value hother
    rwa [← commonBeginning_eq_take] at hagree

/-- Texts that agree do so with one more space behind each. -/
theorem LooselyAgree.take_succ {s t : Text} (h : LooselyAgree (s.take n) (t.take n))
    (hs : s[n]? = some ' ') (ht : t[n]? = some ' ') :
    LooselyAgree (s.take (n + 1)) (t.take (n + 1)) := by
  rw [List.take_add_one, List.take_add_one, hs, ht]
  exact List.rel_append h (LooselyAgree.refl [' '])

/-- All values have a space behind their common beginning exactly where they agree through a
space, and all have a space in the place of the last. -/
theorem spaces_iff :
    (∀ value ∈ first :: others, value[(commonBeginning first others).length]? = some ' ') ↔
      ∃ n, LastSharedSpace first others n ∧ ∀ value ∈ others, value[n]? = some ' ' := by
  constructor
  · intro h
    obtain ⟨hfirst, hothers⟩ := List.forall_mem_cons.mp h
    rcases commonBeginning_cases first others with ⟨n, hn, -⟩ | ⟨hnone, -⟩
    · rw [hn.length_eq] at hothers
      exact ⟨n, hn, hothers⟩
    · -- The values would agree through that space.
      have hshares := (shares_commonBeginning first others).2
      have hlt := (List.getElem?_eq_some_iff.mp hfirst).1
      exact absurd ⟨hfirst, hlt, fun value hvalue =>
        (hshares value hvalue).take_succ hfirst (hothers value hvalue)⟩ (hnone _)
  · rintro ⟨n, hn, hothers⟩
    rw [hn.length_eq]
    exact List.forall_mem_cons.mpr ⟨hn.shared.1, hothers⟩

end CommonBeginning

end Cluster
end Shelfmark
