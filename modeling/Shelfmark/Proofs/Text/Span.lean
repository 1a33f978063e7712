import Mathlib.Data.List.Basic
import Shelfmark.Text.Span

/-!
# Text - What a search finds

Both kinds of search ask a question about ends of the text, so what they find is the
answer to that question at one of these ends.  A search answers `none` only where
every end it looks at does.

Main results:

- Theorem `exists_of_leftmost?`: the leftmost answer is that of some end of the text.
- Theorem `leftmost?_eq_none_iff`: there is no leftmost answer where no end has one.
- Theorem `furthest?_append`: an answer behind a whole run is the furthest.
- Theorem `before_append_self`: a text is what stands in front of one of its ends, and that
  end.
-/

namespace Shelfmark
namespace Text

variable {α : Type} {answer : Text → Option α}

/-! ## The leftmost answer -/

/-- An answer at the front is the leftmost. -/
theorem leftmost?_of_some {s : Text} {a : α} (h : answer s = some a) :
    leftmost? answer s = some a := by
  cases s with
  | nil => exact h
  | cons c s => rw [leftmost?, h]

/-- Without an answer at the front the search goes on behind the first character. -/
theorem leftmost?_of_none {c : Char} {s : Text} (h : answer (c :: s) = none) :
    leftmost? answer (c :: s) = leftmost? answer s := by
  rw [leftmost?, h]

/-- The leftmost answer is the answer at some end of the text. -/
theorem exists_of_leftmost? {s : Text} {a : α} (h : leftmost? answer s = some a) :
    ∃ t, t <:+ s ∧ answer t = some a := by
  induction s with
  | nil => exact ⟨[], List.suffix_rfl, h⟩
  | cons c s ih =>
    cases hhere : answer (c :: s) with
    | some b =>
      rw [leftmost?_of_some hhere] at h
      exact ⟨c :: s, List.suffix_rfl, hhere.trans h⟩
    | none =>
      rw [leftmost?_of_none hhere] at h
      obtain ⟨t, hsuffix, ht⟩ := ih h
      exact ⟨t, hsuffix.trans (List.suffix_cons c s), ht⟩

/-- There is no leftmost answer exactly where no end of the text has one. -/
theorem leftmost?_eq_none_iff {s : Text} :
    leftmost? answer s = none ↔ ∀ t, t <:+ s → answer t = none := by
  induction s with
  | nil =>
    constructor
    · intro h t ht
      rw [List.eq_nil_of_suffix_nil ht]
      exact h
    · intro h
      exact h [] List.suffix_rfl
  | cons c s ih =>
    constructor
    · intro h t ht
      cases hhere : answer (c :: s) with
      | some b =>
        rw [leftmost?_of_some hhere] at h
        contradiction
      | none =>
        rw [leftmost?_of_none hhere] at h
        rcases List.suffix_cons_iff.mp ht with rfl | ht
        · exact hhere
        · exact ih.mp h t ht
    · intro h
      rw [leftmost?_of_none (h (c :: s) List.suffix_rfl)]
      exact ih.mpr fun t ht => h t (ht.trans (List.suffix_cons c s))

/-! ## The furthest answer -/

section Furthest

variable {p : Char → Bool}

/-- The furthest answer is the answer at some end of the text. -/
theorem exists_of_furthest? {s : Text} {a : α} (h : furthest? p answer s = some a) :
    ∃ t, t <:+ s ∧ answer t = some a := by
  induction s with
  | nil => exact ⟨[], List.suffix_rfl, h⟩
  | cons c s ih =>
    rw [furthest?] at h
    split at h
    · split at h
      · rename_i b hbeyond
        obtain ⟨t, hsuffix, ht⟩ := ih (hbeyond.trans h)
        exact ⟨t, hsuffix.trans (List.suffix_cons c s), ht⟩
      · exact ⟨c :: s, List.suffix_rfl, h⟩
    · exact ⟨c :: s, List.suffix_rfl, h⟩

/-- Where the run has ended, only the place reached is left. -/
theorem furthest?_of_ended {s : Text} (h : ∀ c ∈ s.head?, p c = false) :
    furthest? p answer s = answer s := by
  cases s with
  | nil => rfl
  | cons c s =>
    rw [furthest?, h c (by simp)]
    rfl

/-- An answer behind a whole run is the furthest. -/
theorem furthest?_append {run s : Text} {a : α} (hrun : ∀ c ∈ run, p c)
    (hs : ∀ c ∈ s.head?, p c = false) (h : answer s = some a) :
    furthest? p answer (run ++ s) = some a := by
  induction run with
  | nil => exact (furthest?_of_ended hs).trans h
  | cons c run ih =>
    rw [List.cons_append, furthest?, hrun c (by simp), ih fun d hd => hrun d (by simp [hd])]
    rfl

/-- Where no place along a run has an answer there is no furthest one. -/
theorem furthest?_append_eq_none {run s : Text} (hs : ∀ c ∈ s.head?, p c = false)
    (h : ∀ t, t <:+ run → answer (t ++ s) = none) : furthest? p answer (run ++ s) = none := by
  induction run with
  | nil => exact (furthest?_of_ended hs).trans (h [] List.suffix_rfl)
  | cons c run ih =>
    have hlater := ih fun t ht => h t (ht.trans (List.suffix_cons c run))
    have hhere := h (c :: run) List.suffix_rfl
    rw [List.cons_append] at hhere ⊢
    rw [furthest?, hlater, hhere, ite_self]

end Furthest

/-! ## The text in front of an end -/

/-- What stands in front of an end of a text. -/
@[simp] theorem before_append (s t : Text) : (s ++ t).before t = s := by
  simp [before]

/-- What stands in front of an end and that end make up the text. -/
theorem before_append_self {s t : Text} (h : t <:+ s) : s.before t ++ t = s := by
  obtain ⟨u, rfl⟩ := h
  rw [before_append]

/-- A part and what follows it make up the text from the part on. -/
theorem Span.text_append_rest {span : Span} (h : span.rest <:+ span.start) :
    span.text ++ span.rest = span.start :=
  before_append_self h

/-- An end that begins with a character of another kind lies behind the whole run. -/
theorem suffix_dropWhile {p : Char → Bool} {s t : Text} (h : t <:+ s)
    (hhead : ∀ c ∈ t.head?, p c = false) : t <:+ s.dropWhile p := by
  induction s with
  | nil => exact h
  | cons c s ih =>
    rw [List.dropWhile_cons]
    split
    · rename_i hc
      rcases List.suffix_cons_iff.mp h with rfl | h
      · rw [hhead c (by simp)] at hc
        contradiction
      · exact ih h
    · exact h

end Text
end Shelfmark
