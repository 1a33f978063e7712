import Mathlib.Data.List.SplitBy
import Shelfmark.Text.Basic

/-!
# Text - Runs of digits and what is between them

A text falls into maximal runs, of digits and of other characters in turn.  Nothing else falls into
the same runs: pieces of one kind each, of which no two neighbours are of the same kind, are the
runs of the text they make up.

Main results:

- Theorem `runs_eq_iff`: the runs of a text are the only pieces in turn that make it up.
- Theorem `Alternate.of_forall₂`: what keeps the kinds of runs keeps them runs.
-/

namespace Shelfmark
namespace Text

/-! ## Runs -/

/-- The maximal runs of a text: digits, and characters that are no digits. -/
def runs (s : Text) : List Text :=
  s.splitBy fun c d => c.isDigit == d.isDigit

/-- A run: at least one character, and either all of them are digits or none is. -/
structure IsRun (digits : Bool) (run : Text) : Prop where
  ne_nil : run ≠ []
  isDigit : ∀ c ∈ run, c.isDigit = digits

/-- What kind of run it is. -/
theorem IsRun.all_isDigit {digits : Bool} {run : Text} (h : IsRun digits run) :
    run.all Char.isDigit = digits := by
  cases digits with
  | true => exact List.all_eq_true.mpr h.isDigit
  | false =>
    obtain ⟨c, s, rfl⟩ := List.exists_cons_of_ne_nil h.ne_nil
    rw [List.all_cons, h.isDigit c List.mem_cons_self, Bool.false_and]

/-- A text is a run where all neighbours are of the same kind. -/
theorem isRun_iff_isChain {run : Text} :
    IsRun (run.all Char.isDigit) run ↔
      run ≠ [] ∧ run.IsChain fun c d => (c.isDigit == d.isDigit) = true := by
  constructor
  · intro h
    have hany : run.IsChain fun _ _ => True := (List.pairwise_of_forall fun _ _ => trivial).isChain
    refine ⟨h.ne_nil, hany.imp_of_mem_imp fun c d hc hd _ => ?_⟩
    rw [h.isDigit c hc, h.isDigit d hd, beq_self_eq_true]
  · rintro ⟨hne, hchain⟩
    obtain ⟨c, s, rfl⟩ := List.exists_cons_of_ne_nil hne
    have hsame : ∀ d ∈ c :: s, d.isDigit = c.isDigit :=
      hchain.induction _ _ (fun c d hcd hc => (beq_iff_eq.mp hcd).symm.trans hc) fun _ => rfl
    have hrun : IsRun c.isDigit (c :: s) := ⟨hne, hsame⟩
    rwa [hrun.all_isDigit]

/-- Where two runs meet, characters of different kinds meet exactly if the runs are of different
kinds. -/
theorem border_iff {a b : Text} (ha : IsRun (a.all Char.isDigit) a)
    (hb : IsRun (b.all Char.isDigit) b) :
    (∃ hne hne', ((a.getLast hne).isDigit == (b.head hne').isDigit) = false) ↔
      a.all Char.isDigit ≠ b.all Char.isDigit := by
  have hlast := ha.isDigit _ (List.getLast_mem ha.ne_nil)
  have hhead := hb.isDigit _ (List.head_mem hb.ne_nil)
  constructor
  · rintro ⟨_, _, h⟩
    rwa [hlast, hhead, beq_eq_false_iff_ne] at h
  · intro h
    refine ⟨ha.ne_nil, hb.ne_nil, ?_⟩
    rwa [hlast, hhead, beq_eq_false_iff_ne]

/-! ## Pieces in turn -/

/-- Runs of which no two neighbours are of the same kind. -/
structure Alternate (pieces : List Text) : Prop where
  isRun : ∀ piece ∈ pieces, IsRun (piece.all Char.isDigit) piece
  kinds : (pieces.map fun piece => piece.all Char.isDigit).IsChain (· ≠ ·)

variable {piece : Text} {pieces : List Text}

/-- Behind the first piece the pieces are in turn as well. -/
theorem Alternate.tail (h : Alternate (piece :: pieces)) : Alternate pieces where
  isRun next hnext := h.isRun next (List.mem_cons_of_mem piece hnext)
  kinds := h.kinds.tail

/-- What follows a piece begins with a character of the other kind. -/
theorem Alternate.isDigit_head? (h : Alternate (piece :: pieces)) :
    ∀ c ∈ pieces.flatten.head?, c.isDigit = !piece.all Char.isDigit := by
  cases pieces with
  | nil => simp
  | cons next pieces =>
    have hnext := h.isRun next (by simp)
    have hother : piece.all Char.isDigit ≠ next.all Char.isDigit :=
      (List.isChain_cons_cons.mp h.kinds).1
    obtain ⟨c, s, hcons⟩ := List.exists_cons_of_ne_nil hnext.ne_nil
    have hc := hnext.isDigit c (hcons ▸ List.mem_cons_self)
    intro d hd
    rw [List.flatten_cons, hcons, List.cons_append, List.head?_cons, Option.mem_some_iff] at hd
    rw [← hd, hc]
    exact Bool.eq_not_of_ne hother.symm

/-- Runs of the same kinds as pieces in turn are in turn as well. -/
theorem Alternate.of_forall₂ (h : Alternate pieces) {others : List Text}
    (hothers : List.Forall₂ (fun piece other => IsRun (piece.all Char.isDigit) other)
      pieces others) :
    Alternate others := by
  have hkinds : others.map (fun other => other.all Char.isDigit) =
      pieces.map fun piece => piece.all Char.isDigit := by
    clear h
    induction hothers with
    | nil => rfl
    | cons hrun _ ih => rw [List.map_cons, List.map_cons, ih, hrun.all_isDigit]
  refine ⟨?_, hkinds ▸ h.kinds⟩
  clear h hkinds
  induction hothers with
  | nil => simp
  | cons hrun _ ih =>
    refine List.forall_mem_cons.mpr ⟨?_, ih⟩
    rwa [hrun.all_isDigit]

/-- The runs of a text are the only pieces in turn that make it up. -/
theorem runs_eq_iff {s : Text} : runs s = pieces ↔ s = pieces.flatten ∧ Alternate pieces := by
  rw [runs, List.splitBy_eq_iff]
  refine and_congr_right fun _ => ?_
  constructor
  · rintro ⟨hnil, hchain, hborder⟩
    have hrun : ∀ piece ∈ pieces, IsRun (piece.all Char.isDigit) piece := fun piece hpiece =>
      isRun_iff_isChain.mpr ⟨fun h => hnil (h ▸ hpiece), hchain piece hpiece⟩
    refine ⟨hrun, (List.isChain_map _).mpr (hborder.imp_of_mem_imp fun a b ha hb => ?_)⟩
    exact (border_iff (hrun a ha) (hrun b hb)).mp
  · intro h
    have hchain := (List.isChain_map _).mp h.kinds
    refine ⟨fun hnil => (h.isRun [] hnil).ne_nil rfl, fun piece hpiece => ?_,
      hchain.imp_of_mem_imp fun a b ha hb => ?_⟩
    · exact (isRun_iff_isChain.mp (h.isRun piece hpiece)).2
    · exact (border_iff (h.isRun a ha) (h.isRun b hb)).mpr

/-- The runs of a text are in turn. -/
theorem alternate_runs (s : Text) : Alternate (runs s) :=
  (runs_eq_iff.mp rfl).2

/-- The runs of a text make it up. -/
theorem flatten_runs (s : Text) : (runs s).flatten = s :=
  (runs_eq_iff.mp rfl).1.symm

end Text
end Shelfmark
