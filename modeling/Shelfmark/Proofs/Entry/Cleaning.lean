import Shelfmark.Proofs.Entry.NormalForm
import Shelfmark.Proofs.Entry.Recognition

/-!
# Entries - Cleaning and the normal form

Cleaning turns signs into spaces and puts blanks in order once more, so a cleaned entry is
trimmed, in capitals and has its blanks in order.  The gap behind the class letters is not closed
again: where other signs stood between letters and number, cleaning leaves a space, and that is
all that a cleaned entry may lack of the normal form.

Main results:

- Theorem `normalSpelling_cleaned`: a cleaned entry lacks nothing but a closed class gap.
- Theorem `trimEnd_settle_plainText`: what signs and the text behind them are cleaned to.
- Theorem `opensGap_cleaned_iff`: when a cleaned entry has a class gap.
- Theorem `scheme_of_breaksClass`: only call numbers of no known scheme come to have one.
-/

namespace Shelfmark

open Character (isBlank)
open CallNumber.Lc (ClassNumber)

namespace Entry

open Text (InCapitals IsTrimmed Settled)

/-! ## What cleaning keeps -/

/-- Cleaning keeps a value in capitals. -/
theorem inCapitals_cleaned {entry : Entry} (h : InCapitals entry.value) :
    InCapitals entry.cleaned.value := by
  intro c hc
  rw [value_cleaned] at hc
  have hsettle := (Text.trim_isInfix _).subset hc
  have hspace : Character.upper ' ' = [' '] := Character.upper_eq_self (by decide) rfl
  rcases mem_of_mem_collapseBlanks ((closePeriodsFrom_sublist false _).subset hsettle) with
    hplain | rfl
  · obtain ⟨a, ha, rfl⟩ := List.mem_map.mp hplain
    split
    · exact h a ((Text.trim_isInfix _).subset ha)
    · exact hspace
  · exact hspace

/-- Cleaning puts blanks in order. -/
theorem settled_cleaned (entry : Entry) : Settled entry.cleaned.value :=
  (settled_settle _).of_isInfix (Text.trim_isInfix _)

/-- A cleaned entry lacks nothing of the normal spelling but a closed class gap. -/
theorem normalSpelling_cleaned {entry : Entry} (h : InCapitals entry.value) :
    normalSpelling entry.cleaned.value = closeClassGap entry.cleaned.value :=
  normalSpelling_of_settled (Text.isTrimmed_trim _) (inCapitals_cleaned h) (settled_cleaned entry)

/-! ## Plain signs and others -/

/-- Signs that are not plain become spaces. -/
theorem plainText_append_of_not_plain {s : Text} (h : ∀ c ∈ s, isPlain c = false) (t : Text) :
    plainText (s ++ t) = List.replicate s.length ' ' ++ plainText t := by
  induction s with
  | nil => rfl
  | cons c s ih =>
    have hrest := ih fun d hd => h d (by simp [hd])
    rw [plainText] at hrest ⊢
    rw [List.cons_append, List.map_cons, hrest, h c (by simp)]
    rfl

/-- A plain sign stays. -/
theorem plainText_cons {c : Char} (h : isPlain c = true) (s : Text) :
    plainText (c :: s) = c :: plainText s := by
  rw [plainText, List.map_cons, h]
  rfl

/-- A plain sign is no blank. -/
theorem isBlank_of_isPlain {c : Char} (h : isPlain c = true) : isBlank c = false := by
  rcases Bool.or_eq_true_iff.mp h with halnum | hpoint
  · rw [Bool.eq_false_iff]
    intro hblank
    rw [Character.isAlphanum_of_isBlank hblank] at halnum
    contradiction
  · rw [beq_iff_eq.mp hpoint]
    exact Character.isBlank_point

/-- A text that begins with another character than a blank does when its blanks are put in
order. -/
theorem head?_settle {s : Text} (h : ∀ c ∈ s.head?, isBlank c = false) :
    (settle s).head? = s.head? := by
  have hcollapsed := head?_collapseBlanks h
  rw [settle, closePeriods, head?_closePeriodsFrom false (by rwa [hcollapsed]), hcollapsed]

/-- Spaces in front of another character do not count once the text is trimmed. -/
theorem trim_settle_spaces (n : Nat) {c : Char} (hc : isBlank c = false) (t : Text) :
    (settle (List.replicate n ' ' ++ c :: t)).trim = (settle (c :: t)).trim := by
  have hhead : ∀ d ∈ (c :: t : Text).head?, isBlank d = false := by simpa using hc
  cases n with
  | zero => rfl
  | succ n =>
    by_cases hpoint : c = '.'
    · subst hpoint
      rw [settle, settle, closePeriods, closePeriods, collapseBlanks_spaces n hhead,
        collapseBlanks_cons hc, closePeriodsFrom_space_period, closePeriodsFrom_cons hc]
      rfl
    · rw [settle_spaces hhead n (by simpa using hpoint), Text.trim, Text.trimStart,
        List.dropWhile_cons_of_pos Character.isBlank_space]
      rfl

/-- A text falls into a front without plain signs and a rest that begins with one. -/
theorem exists_front (s : Text) :
    ∃ front rest, s = front ++ rest ∧ (∀ c ∈ front, isPlain c = false) ∧
      ∀ c ∈ rest.head?, isPlain c = true := by
  refine ⟨s.takeWhile (!isPlain ·), s.dropWhile (!isPlain ·), ?_, fun c hc => ?_, fun c hc => ?_⟩
  · exact List.takeWhile_append_dropWhile.symm
  · simpa using List.mem_takeWhile_imp hc
  · have hnot := List.head?_dropWhile_not (!isPlain ·) s
    rw [Option.mem_def.mp hc] at hnot
    simpa using hnot

section Front

variable {c : Char} (hc : isPlain c = true) (t : Text)

include hc

/-- A plain sign stays in front when what follows is put in order. -/
theorem exists_settle_plain : ∃ u, settle (c :: t) = c :: u := by
  have hhead : ∀ d ∈ (c :: t : Text).head?, isBlank d = false := by
    simpa using isBlank_of_isPlain hc
  exact List.head?_eq_some_iff.mp (head?_settle hhead)

/-- Spaces in front of a plain sign other than a period become one. -/
theorem exists_settle_spaces_plain (n : Nat) (hpoint : c ≠ '.') :
    ∃ u, settle (List.replicate (n + 1) ' ' ++ c :: t) = ' ' :: c :: u := by
  obtain ⟨u, hu⟩ := exists_settle_plain hc t
  refine ⟨u, ?_⟩
  rw [settle_spaces (by simpa using isBlank_of_isPlain hc) n (by simpa using hpoint), hu]

omit hc in
/-- Spaces in front of a period are removed, whatever follows. -/
theorem exists_settle_spaces_point (n : Nat) :
    ∃ u, settle (List.replicate (n + 1) ' ' ++ '.' :: t) = '.' :: u := by
  rw [settle, closePeriods, collapseBlanks_spaces n (by simp),
    collapseBlanks_cons Character.isBlank_point, closePeriodsFrom_space_period]
  exact ⟨_, rfl⟩

end Front

/-- What signs that are not plain and the text behind them are cleaned to: nothing, the first
plain sign, or a space and that sign. -/
theorem trimEnd_settle_plainText {gap t : Text} (hgap : ∀ c ∈ gap, isPlain c = false)
    (ht : ∀ c ∈ t.head?, isPlain c = true) :
    t = [] ∧ (settle (plainText (gap ++ t))).trimEnd = [] ∨
      ∃ c rest u, t = c :: rest ∧
        ((gap = [] ∨ c = '.') ∧ (settle (plainText (gap ++ t))).trimEnd = c :: u ∨
          (gap ≠ [] ∧ c ≠ '.') ∧ (settle (plainText (gap ++ t))).trimEnd = ' ' :: c :: u) := by
  have hkeep (front u : Text) {c : Char} (hc : isPlain c = true) :
      Text.trimEnd (front ++ c :: u) = front ++ c :: Text.trimEnd u := by
    have hlast : ∀ d ∈ (front ++ [c]).getLast?, isBlank d = false := by
      simpa using isBlank_of_isPlain hc
    simpa using Text.trimEnd_append hlast u
  rw [plainText_append_of_not_plain hgap]
  cases t with
  | nil =>
    left
    refine ⟨rfl, ?_⟩
    cases gap with
    | nil => rfl
    | cons g gap =>
      have hone : Text.trimEnd [' '] = [] := by simp [Text.trimEnd, Text.dropEndWhile]
      have hspaces := settle_spaces (t := []) (by simp) gap.length (by simp)
      rw [List.length_cons, plainText, List.map_nil, hspaces]
      exact hone
  | cons c rest =>
    right
    have hc := ht c rfl
    rw [plainText_cons hc]
    cases gap with
    | nil =>
      obtain ⟨u, hu⟩ := exists_settle_plain hc (plainText rest)
      refine ⟨c, rest, Text.trimEnd u, rfl, Or.inl ⟨Or.inl rfl, ?_⟩⟩
      rw [List.length_nil, List.replicate_zero, List.nil_append, hu]
      exact hkeep [] u hc
    | cons g gap =>
      by_cases hpoint : c = '.'
      · subst hpoint
        obtain ⟨u, hu⟩ := exists_settle_spaces_point (plainText rest) gap.length
        refine ⟨'.', rest, Text.trimEnd u, rfl, Or.inl ⟨Or.inr rfl, ?_⟩⟩
        rw [List.length_cons, hu]
        exact hkeep [] u hc
      · obtain ⟨u, hu⟩ := exists_settle_spaces_plain hc (plainText rest) gap.length hpoint
        refine ⟨c, rest, Text.trimEnd u, rfl, Or.inr ⟨⟨by simp, hpoint⟩, ?_⟩⟩
        rw [List.length_cons, hu]
        exact hkeep [' '] u hc

/-- Signs other than letters, digits and periods stand in front of a digit. -/
def SignsBeforeDigit (s : Text) : Prop :=
  ∃ gap d rest, s = gap ++ d :: rest ∧ gap ≠ [] ∧ (∀ c ∈ gap, isPlain c = false) ∧
    d.isDigit = true

/-- Cleaning leaves a space in front of a digit exactly where other signs stood there. -/
theorem space_trimEnd_settle_iff (s : Text) :
    (∃ d rest, (settle (plainText s)).trimEnd = ' ' :: d :: rest ∧ d.isDigit = true) ↔
      SignsBeforeDigit s := by
  constructor
  · rintro ⟨d, rest, htext, hd⟩
    obtain ⟨gap, t, rfl, hgap, ht⟩ := exists_front s
    rcases trimEnd_settle_plainText hgap ht with
      ⟨-, hnil⟩ | ⟨c, rest', u, rfl, ⟨-, hfirst⟩ | ⟨⟨hne, -⟩, hspace⟩⟩
    · rw [hnil] at htext
      contradiction
    · obtain ⟨rfl, -⟩ := List.cons.inj (hfirst.symm.trans htext)
      exact absurd (ht ' ' rfl) (by decide)
    · obtain ⟨-, htail⟩ := List.cons.inj (hspace.symm.trans htext)
      obtain ⟨rfl, -⟩ := List.cons.inj htail
      exact ⟨gap, c, rest', rfl, hne, hgap, hd⟩
  · rintro ⟨gap, d, rest, rfl, hne, hgap, hd⟩
    have hplain := isPlain_of_isDigit hd
    have hpoint : d ≠ '.' := by
      rintro rfl
      contradiction
    rcases trimEnd_settle_plainText (t := d :: rest) hgap (by simpa using hplain) with
      ⟨hnil, -⟩ | ⟨c, rest', u, hcons, hcase⟩
    · contradiction
    · obtain ⟨rfl, -⟩ := List.cons.inj hcons
      rcases hcase with ⟨hgap' | hpoint', -⟩ | ⟨-, hspace⟩
      · exact absurd hgap' hne
      · exact absurd hpoint' hpoint
      · exact ⟨d, u, hspace, hd⟩

/-- Cleaning puts no capital in front. -/
theorem head?_trimEnd_settle {s : Text} (h : ∀ c ∈ s.head?, c.isUpper = false) :
    ∀ c ∈ (settle (plainText s)).trimEnd.head?, c.isUpper = false := by
  obtain ⟨gap, t, rfl, hgap, ht⟩ := exists_front s
  intro d hd
  rcases trimEnd_settle_plainText hgap ht with
    ⟨-, hnil⟩ | ⟨c, rest, u, rfl, ⟨hcase, hfirst⟩ | ⟨-, hspace⟩⟩
  · rw [hnil] at hd
    contradiction
  · rw [hfirst] at hd
    obtain rfl := Option.some.inj hd
    rcases hcase with rfl | rfl
    · exact h c rfl
    · rfl
  · rw [hspace] at hd
    obtain rfl := Option.some.inj hd
    rfl

/-! ## The gap behind the class letters -/

/-- Signs other than letters, digits and periods stand between one to three class letters and a
digit, and only such signs in front of them. -/
def BreaksClass (s : Text) : Prop :=
  ∃ front letters gap d rest, s = front ++ (letters ++ (gap ++ d :: rest)) ∧
    (∀ c ∈ front, isPlain c = false) ∧
    letters ≠ [] ∧ letters.length ≤ 3 ∧ (∀ c ∈ letters, c.isUpper = true) ∧
    gap ≠ [] ∧ (∀ c ∈ gap, isPlain c = false) ∧ d.isDigit = true

/-- One to three class letters stand in front of such signs and a digit. -/
def ClassBeforeSigns (s : Text) : Prop :=
  ∃ letters t, s = letters ++ t ∧ letters ≠ [] ∧ letters.length ≤ 3 ∧
    (∀ c ∈ letters, c.isUpper = true) ∧ SignsBeforeDigit t

/-- Behind a front without plain signs the class and its gap are where the plain signs begin. -/
theorem breaksClass_append_iff {front body : Text} (hfront : ∀ c ∈ front, isPlain c = false)
    (hbody : ∀ c ∈ body.head?, isPlain c = true) :
    BreaksClass (front ++ body) ↔ ClassBeforeSigns body := by
  constructor
  · rintro ⟨front', letters, gap, d, rest, htext, hfront', hne, hlength, hletters, hgap⟩
    obtain ⟨c, letters, rfl⟩ := List.exists_cons_of_ne_nil hne
    have hplain := isPlain_of_isUpper (hletters c (by simp))
    -- Both readings have the same front: the signs up to the first plain one.
    obtain ⟨-, hdrop⟩ := Text.takeWhile_run (p := (!isPlain ·)) (s := front) (t := body)
      (by simpa using hfront) (by simpa using hbody)
    obtain ⟨-, hdrop'⟩ := Text.takeWhile_run (p := (!isPlain ·)) (s := front')
      (t := c :: letters ++ (gap ++ d :: rest)) (by simpa using hfront') (by simpa using hplain)
    rw [htext, hdrop'] at hdrop
    exact ⟨c :: letters, gap ++ d :: rest, hdrop.symm, hne, hlength, hletters,
      gap, d, rest, rfl, hgap⟩
  · rintro ⟨letters, _, rfl, hne, hlength, hletters, gap, d, rest, rfl, hgap⟩
    exact ⟨front, letters, gap, d, rest, rfl, hfront, hne, hlength, hletters, hgap⟩

/-- A plain sign stays in front of what is cleaned. -/
theorem trim_settle_cons {c : Char} (hc : isPlain c = true) (t : Text) :
    ∃ u, (settle (c :: t)).trim = c :: u := by
  have hblank : ∀ d ∈ [c], isBlank d = false := by simpa using isBlank_of_isPlain hc
  obtain ⟨u, hu⟩ := exists_settle_plain hc t
  refine ⟨Text.trimEnd u, ?_⟩
  rw [hu]
  exact Text.trim_append (s := [c]) (by simp) (by simpa using hblank) (by simpa using hblank) u

/-- Capitals at the front stay there when the text is cleaned. -/
theorem trim_settle_capitals {letters : Text} (hne : letters ≠ [])
    (hletters : ∀ c ∈ letters, c.isUpper = true) (t : Text) :
    (settle (plainText (letters ++ t))).trim = letters ++ (settle (plainText t)).trimEnd := by
  have hblank : ∀ c ∈ letters, isBlank c = false := fun c hc =>
    Character.isBlank_of_isUpper (hletters c hc)
  have hkeep : plainText (letters ++ t) = letters ++ plainText t := by
    have hself : ∀ c ∈ letters, (if isPlain c then c else ' ') = c := fun c hc =>
      if_pos (isPlain_of_isUpper (hletters c hc))
    rw [plainText, List.map_append, List.map_congr_left hself, List.map_id', plainText]
  have hsettle : settle (letters ++ plainText t) = letters ++ settle (plainText t) := by
    refine settle_append hblank (fun hpoint => ?_) _
    have hupper := hletters '.' (List.mem_of_getLast? hpoint)
    contradiction
  rw [hkeep, hsettle]
  exact Text.trim_append hne (fun c hc => hblank c (List.mem_of_head? hc))
    (fun c hc => hblank c (List.mem_of_getLast? hc)) _

/-- A cleaned text with a class gap begins with a capital, and did before it was cleaned. -/
theorem exists_capital_of_opensGap {s : Text} (hs : ∀ c ∈ s.head?, isPlain c = true)
    (h : OpensGap (settle (plainText s)).trim) : ∃ c rest, s = c :: rest ∧ c.isUpper = true := by
  obtain ⟨letters, d, rest, htext, hne, -, hletters, -⟩ := h
  obtain ⟨a, letters, rfl⟩ := List.exists_cons_of_ne_nil hne
  cases s with
  | nil => exact absurd htext.symm (List.cons_ne_nil a _)
  | cons c s =>
    obtain ⟨u, hu⟩ := trim_settle_cons (hs c rfl) (plainText s)
    rw [plainText_cons (hs c rfl), hu] at htext
    obtain ⟨rfl, -⟩ := List.cons.inj htext
    exact ⟨c, s, rfl, hletters c (by simp)⟩

/-- No capital stands where signs begin. -/
theorem SignsBeforeDigit.head_isUpper {s : Text} (h : SignsBeforeDigit s) :
    ∀ c ∈ s.head?, c.isUpper = false := by
  obtain ⟨gap, d, rest, rfl, hne, hsigns, -⟩ := h
  obtain ⟨g, gap, rfl⟩ := List.exists_cons_of_ne_nil hne
  intro c hc
  obtain rfl := Option.some.inj hc
  have hplain := hsigns g (by simp)
  rw [Bool.eq_false_iff]
  intro hg
  rw [isPlain_of_isUpper hg] at hplain
  contradiction

/-- A text that begins with a plain sign has a class gap when it is cleaned exactly where other
signs stood between class letters and number. -/
theorem opensGap_trim_settle_iff {s : Text} (hs : ∀ c ∈ s.head?, isPlain c = true) :
    OpensGap (settle (plainText s)).trim ↔ ClassBeforeSigns s := by
  constructor
  · intro hopens
    have hsplit : s.takeWhile Char.isUpper ++ s.dropWhile Char.isUpper = s :=
      List.takeWhile_append_dropWhile
    have hupper : ∀ c ∈ s.takeWhile Char.isUpper, c.isUpper = true := fun c hc =>
      List.mem_takeWhile_imp hc
    have hrest : ∀ c ∈ (s.dropWhile Char.isUpper).head?, c.isUpper = false := by
      intro c hc
      have hnot := List.head?_dropWhile_not Char.isUpper s
      rwa [Option.mem_def.mp hc] at hnot
    have hne : s.takeWhile Char.isUpper ≠ [] := by
      obtain ⟨c, rest, rfl, hc⟩ := exists_capital_of_opensGap hs hopens
      rw [List.takeWhile_cons_of_pos hc]
      exact List.cons_ne_nil c _
    rw [← hsplit, trim_settle_capitals hne hupper,
      opensGap_append_iff hne hupper (head?_trimEnd_settle hrest),
      space_trimEnd_settle_iff] at hopens
    exact ⟨_, _, hsplit.symm, hne, hopens.1, hupper, hopens.2⟩
  · rintro ⟨letters, t, rfl, hne, hlength, hletters, hgap⟩
    rw [trim_settle_capitals hne hletters,
      opensGap_append_iff hne hletters (head?_trimEnd_settle hgap.head_isUpper),
      space_trimEnd_settle_iff]
    exact ⟨hlength, hgap⟩

/-- A cleaned entry has a class gap exactly where signs that are cleaned away stood between class
letters and number. -/
theorem opensGap_cleaned_iff {entry : Entry} (htrimmed : IsTrimmed entry.value) :
    OpensGap entry.cleaned.value ↔ BreaksClass entry.value := by
  obtain ⟨front, body, hvalue, hfront, hbody⟩ := exists_front entry.value
  have hclean : entry.cleaned.value = (settle (plainText body)).trim := by
    rw [value_cleaned, htrimmed.trim_eq, hvalue, plainText_append_of_not_plain hfront]
    cases body with
    | nil =>
      cases hn : front.length with
      | zero => rfl
      | succ n =>
        have hone : Text.trim [' '] = [] := by simp [Text.trim, Text.trimStart, Text.trimEnd,
          Text.dropEndWhile]
        have hspaces := settle_spaces (t := []) (by simp) n (by simp)
        rw [plainText, List.map_nil, hspaces]
        exact hone
    | cons c body =>
      have hc := hbody c rfl
      rw [plainText_cons hc, trim_settle_spaces _ (isBlank_of_isPlain hc)]
  rw [hclean, hvalue, breaksClass_append_iff hfront hbody, opensGap_trim_settle_iff hbody]

/-- No class gap stands where a class number or a digit begins a text. -/
theorem not_opensGap_of_recognised {entry : Entry} (h : IsNormal entry.value)
    (hknown : entry.scheme ≠ .unknown) : ¬ OpensGap entry.cleaned.value := by
  change Scheme.detect entry.value ≠ .unknown at hknown
  have hspelling := normalSpelling_eq_self_iff.mpr h
  cases hscheme : Scheme.detect entry.value with
  | lc =>
    obtain ⟨number, n, t, htext, -⟩ := Scheme.exists_spaced_of_isLc
      (Scheme.detect_eq_lc_iff.mp hscheme)
    have hvalue : entry.value = number.spaced 0 ++ settle t :=
      hspelling.symm.trans (normalSpelling_spaced htext)
    obtain ⟨d, digits, hdigits, hd⟩ := number.exists_cons
    have hclosed : entry.cleaned.value =
        number.letters ++ d :: (digits ++ (settle (plainText (settle t))).trimEnd) := by
      rw [cleaned_spaced h.trimmed hvalue, Nat.zero_min, number.spaced_zero, ClassNumber.text, hdigits,
        List.append_assoc, List.cons_append]
    rw [hclosed, opensGap_append_iff number.ne_nil number.isUpper
      (by simpa using Character.isUpper_of_isDigit hd)]
    rintro ⟨-, e, rest, hspace, -⟩
    obtain ⟨rfl, -⟩ := List.cons.inj hspace
    contradiction
  | dewey =>
    obtain ⟨d, t, htext, hd⟩ := Scheme.exists_digit_of_detect hscheme
    rw [h.trimmed.trim_eq] at htext
    rw [cleaned_digit h.trimmed htext hd]
    rintro ⟨letters, e, rest, hcons, hne, -, hletters, -⟩
    obtain ⟨c, letters, rfl⟩ := List.exists_cons_of_ne_nil hne
    obtain ⟨rfl, -⟩ := List.cons.inj hcons
    have hupper := hletters d (by simp)
    rw [Character.isUpper_of_isDigit hd] at hupper
    contradiction
  | unknown => exact absurd hscheme hknown

/-- A call number whose class is broken is of no known scheme. -/
theorem scheme_of_breaksClass {entry : Entry} (h : IsNormal entry.value)
    (hbreaks : BreaksClass entry.value) : entry.scheme = .unknown := by
  by_contra hknown
  exact not_opensGap_of_recognised h hknown ((opensGap_cleaned_iff h.trimmed).mpr hbreaks)

end Entry
end Shelfmark
