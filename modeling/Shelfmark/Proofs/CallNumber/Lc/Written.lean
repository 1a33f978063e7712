import Shelfmark.Proofs.CallNumber.Lc.Class
import Shelfmark.Proofs.CallNumber.Lc.FirstCutter

/-!
# Call numbers - Spacing around cutters

A Library of Congress number is written in many ways.  The gaps in front of its cutters can
have any number of spaces, with or without a point, a suffix can stand between class number and
cutter, and what follows the last cutter can be any text behind any number of spaces.

Spacing has no part in what is read.  A search passes over the class number, and then over
the suffix and the gap before it looks for anything; searches that begin later never see them.

Main results:

- Theorem `headEnds_append`: the heads of a text that a class number begins.
- Theorem `AsksCutter.search_eq_searchFrom`: a search depends only on what stands behind the
  first gap.
-/

namespace Shelfmark
namespace CallNumber
namespace Lc

open Text (Span leftmost? furthest?)

/-! ## Call numbers with any spacing -/

/-- The text behind a last cutter: spaces and then a text.  Without spaces it does not go on
with the digits of the cutter. -/
structure Trailer where
  spaces : Nat
  rest : Text
  head : ∀ c ∈ rest.head?, c ≠ ' ' ∧ (spaces = 0 → c.isDigit = false)

/-- No end of a text begins with a point and a cutter. -/
def Unpointed (s : Text) : Prop :=
  ∀ t, t <:+ s → atPointedCutter t = false

/-- What stands behind a first cutter: any text, or a second cutter and a text without a pointed
cutter, or a suffix with a pointed cutter and any text. -/
inductive WrittenEnding where
  | trailer (trailer : Trailer)
  | cutter (gap : Gap) (cutter : Cutter) (trailer : Trailer) (unpointed : Unpointed trailer.rest)
  | dated (suffix : Suffix) (spaces : Nat) (cutter : Cutter) (trailer : Trailer)

/-- A first cutter and what stands around it. -/
structure WrittenTail where
  gap : Gap
  cutter : Cutter
  ending : WrittenEnding

/-- A gap that keeps what follows it apart from the suffix in front of it, if there is one. -/
def Gap.SetsApart (gap : Gap) (suffix : Option Suffix) : Prop :=
  suffix.isSome → 0 < gap.spaces ∨ gap.point = true

/-- A class number, perhaps a suffix, and perhaps cutters and a text behind them. -/
structure Written where
  number : ClassNumber
  suffix : Option Suffix
  tail : Option WrittenTail
  apart : ∀ t ∈ tail, t.gap.SetsApart suffix

/-- A text behind a last cutter. -/
def Trailer.text (trailer : Trailer) : Text :=
  List.replicate trailer.spaces ' ' ++ trailer.rest

/-- What stands behind a first cutter. -/
def WrittenEnding.text : WrittenEnding → Text
  | trailer t => t.text
  | cutter gap c t _ => gap.text ++ (c.text ++ t.text)
  | dated suffix spaces c t => suffix.text ++ (Gap.text ⟨spaces, true⟩ ++ (c.text ++ t.text))

/-- A first cutter and its surroundings. -/
def WrittenTail.text (tail : WrittenTail) : Text :=
  tail.gap.text ++ (tail.cutter.text ++ tail.ending.text)

/-- A call number as it is written. -/
def Written.text (written : Written) : Text :=
  written.number.text ++ (suffixText written.suffix ++ (written.tail.map WrittenTail.text).getD [])

/-- The text behind the last cutter. -/
def WrittenEnding.last : WrittenEnding → Trailer
  | trailer t => t
  | cutter _ _ t _ => t
  | dated _ _ _ t => t

/-- The text behind the last cutter, if there is a cutter. -/
def Written.trailer? (written : Written) : Option Trailer :=
  written.tail.map fun tail => tail.ending.last

/-! ## Standard spacing -/

/-- A gap without the spaces in front of its point, or with one space if it has no point. -/
def Gap.closed (gap : Gap) : Gap :=
  ⟨if gap.point then 0 else min gap.spaces 1, gap.point⟩

/-- At most one space in front of the text. -/
def Trailer.standard (trailer : Trailer) : Trailer where
  spaces := min trailer.spaces 1
  rest := trailer.rest
  head c hc := ⟨(trailer.head c hc).1, fun h => (trailer.head c hc).2 (by omega)⟩

/-- One space in front of a suffix. -/
def Suffix.standard (suffix : Suffix) : Suffix :=
  { suffix with spaces := 1, spaces_pos := Nat.one_pos }

/-- No gap in front of a second cutter, or only the point. -/
def WrittenEnding.standard : WrittenEnding → WrittenEnding
  | trailer t => .trailer t.standard
  | cutter _ c t unpointed => .cutter ⟨0, false⟩ c t.standard unpointed
  | dated suffix _ c t => .dated suffix.standard 0 c t.standard

/-- A point in front of a first cutter. -/
def WrittenTail.standard (tail : WrittenTail) : WrittenTail :=
  ⟨⟨0, true⟩, tail.cutter, tail.ending.standard⟩

/-- The call number with the spacing that is usual in print. -/
def Written.standard (written : Written) : Written where
  number := written.number
  suffix := written.suffix.map Suffix.standard
  tail := written.tail.map WrittenTail.standard
  apart t ht _ := by
    obtain ⟨u, -, rfl⟩ := Option.map_eq_some_iff.mp ht
    exact Or.inr rfl

/-! ## The text behind a last cutter -/

/-- Neither spaces nor a text that follows a cutter go on with its digits. -/
theorem Trailer.head_text (trailer : Trailer) :
    ∀ c ∈ trailer.text.head?, c.isDigit = false := by
  intro c hc
  unfold text at hc
  cases hspaces : trailer.spaces with
  | zero =>
    rw [hspaces] at hc
    exact (trailer.head c hc).2 hspaces
  | succ n =>
    rw [hspaces, List.replicate_succ] at hc
    have hspace : ' ' = c := by simpa using hc
    exact hspace ▸ rfl

/-- The spaces in front of a text are passed over. -/
theorem Trailer.skipSpaces_text (trailer : Trailer) : skipSpaces trailer.text = trailer.rest :=
  skipSpaces_replicate trailer.spaces fun c hc => (trailer.head c hc).1

/-- Where there are not two spaces there is nothing to change. -/
theorem Trailer.text_standard {trailer : Trailer} (h : trailer.spaces ≤ 1) :
    trailer.standard.text = trailer.text := by
  change List.replicate (min trailer.spaces 1) ' ' ++ trailer.rest = trailer.text
  rw [Nat.min_eq_left h]
  rfl

/-- What stands behind a last cutter is trimmed. -/
theorem Trailer.trim_text (trailer : Trailer) : trailer.text.trim = trailer.rest.trim := by
  rw [Text.trim, Text.trim, Text.trimStart, Text.trimStart, text,
    List.dropWhile_append_of_pos Text.isBlank_of_mem_spaces]

/-! ## Heads behind a class number -/

/-- Where no capital stands no head begins. -/
theorem headEnds_append_of_forall {s : Text} (t : Text) (h : ∀ c ∈ s, c.isUpper = false) :
    headEnds (s ++ t) = headEnds t := by
  induction s with
  | nil => rfl
  | cons c s ih =>
    have hnone : skipClassNumber? (c :: (s ++ t)) = none := by
      have hempty : ((c :: (s ++ t)).take 4).takeWhile Char.isUpper = [] := by
        rw [List.take_succ_cons, List.takeWhile_cons_of_neg (by simp [h c (by simp)])]
      simp only [skipClassNumber?, hempty]
      rfl
    rw [List.cons_append, headEnds, ih fun d hd => h d (by simp [hd]), classEnds, hnone]
    rfl

/-- No class number reaches from a text without joints into another text. -/
theorem skipClassNumber?_append {s t : Text} (hne : s ≠ []) (h : joints s = 0)
    (ht : ∀ c ∈ t.head?, c.isUpper = false ∧ c.isDigit = false) :
    skipClassNumber? (s ++ t) = none := by
  rw [Option.eq_none_iff_forall_ne_some]
  intro rest hrest
  obtain ⟨letters, last, u, hsplit, hletters, hupper, hdigit, -⟩ := exists_of_skipClassNumber? hrest
  have hcapital {c : Char} {v : Text} (hv : t = c :: v) (hc : c.isUpper = true) : False := by
    rw [(ht c (by simp [hv])).1] at hc
    contradiction
  rcases List.append_eq_append_iff.mp hsplit with ⟨v, hv, rfl⟩ | ⟨v, rfl, hv⟩
  · -- The capitals go on in the second text.
    cases v with
    | nil => exact hcapital rfl hupper
    | cons c v => exact hcapital rfl (hletters c (by simp [hv]))
  · cases v with
    | nil => exact hcapital hv.symm hupper
    | cons c v =>
      obtain ⟨rfl, rfl⟩ := List.cons.inj hv
      cases v with
      | nil =>
        -- The digit would be the first character of the second text.
        obtain ⟨d, hd, hisDigit⟩ := (Option.any_eq_true _ _).mp hdigit
        rw [(ht d hd).2] at hisDigit
        contradiction
      | cons d v =>
        have hjoint := joints_cons_of_digit (s := d :: v) hupper hdigit
        have hle := joints_le_of_suffix (List.suffix_append letters (last :: d :: v))
        omega

/-- Where there is no joint no head begins. -/
theorem headEnds_append_of_joints {s t : Text} (h : joints s = 0)
    (ht : ∀ c ∈ t.head?, c.isUpper = false ∧ c.isDigit = false) :
    headEnds (s ++ t) = headEnds t := by
  induction s with
  | nil => rfl
  | cons c s ih =>
    have hnone : skipClassNumber? (c :: (s ++ t)) = none :=
      skipClassNumber?_append (s := c :: s) (by simp) h ht
    rw [joints] at h
    rw [List.cons_append, headEnds, ih (by omega), classEnds, hnone]
    rfl

/-- The ends of a head with a class number in front of `t`. -/
def endsBehindNumber (t : Text) : List Text :=
  (if t.head? = some ' ' then wordEnds (skipSpaces t) else []) ++ [t]

/-- The heads of a text that a class number begins: they begin at one of the class letters, or
behind the number. -/
theorem headEnds_append (number : ClassNumber) {t : Text} (h : NumberEnds t) :
    headEnds (number.text ++ t) =
      (List.replicate number.letters.length (endsBehindNumber t)).flatten ++ headEnds t := by
  obtain ⟨letters, isUpper, ne_nil, length_le, whole, fraction⟩ := number
  induction letters with
  | nil => exact absurd rfl ne_nil
  | cons c letters ih =>
    let number : ClassNumber := ⟨c :: letters, isUpper, ne_nil, length_le, whole, fraction⟩
    have hclass : classEnds (number.text ++ t) = endsBehindNumber t := by
      rw [classEnds, number.skip h]
      rfl
    have hcons : headEnds (number.text ++ t) =
        endsBehindNumber t ++ headEnds (letters ++ number.digits ++ t) := by
      rw [← hclass]
      rfl
    have hrest : headEnds (letters ++ number.digits ++ t) =
        (List.replicate letters.length (endsBehindNumber t)).flatten ++ headEnds t := by
      cases letters with
      | nil =>
        refine headEnds_append_of_forall t fun d hd => ?_
        rcases number.isDecimal.digit_or_point d hd with hdigit | rfl
        · exact Character.isUpper_of_isDigit hdigit
        · rfl
      | cons d letters =>
        exact ih (fun x hx => isUpper x (by simp [hx])) (by simp) (Nat.le_of_succ_le length_le)
    calc headEnds (number.text ++ t)
        = endsBehindNumber t ++ headEnds (letters ++ number.digits ++ t) := hcons
      _ = endsBehindNumber t ++ ((List.replicate letters.length (endsBehindNumber t)).flatten ++
            headEnds t) := by rw [hrest]
      _ = (List.replicate (c :: letters).length (endsBehindNumber t)).flatten ++ headEnds t := by
        rw [List.length_cons, List.replicate_succ, List.flatten_cons, List.append_assoc]

/-- A cutter as a class number. -/
def Cutter.number (cutter : Cutter) : ClassNumber where
  letters := [cutter.letter]
  isUpper := by simp [cutter.isUpper]
  ne_nil := by simp
  length_le := by simp
  whole := cutter.digits
  fraction := none

/-- The heads of a text that a cutter begins. -/
theorem headEnds_cutter (cutter : Cutter) {t : Text} (h : NumberEnds t) :
    headEnds (cutter.text ++ t) = endsBehindNumber t ++ headEnds t := by
  have hends : headEnds (cutter.text ++ t) =
      (List.replicate 1 (endsBehindNumber t)).flatten ++ headEnds t := headEnds_append cutter.number h
  rw [hends, List.replicate_one, List.flatten_singleton]

/-- There is no capital in a gap. -/
theorem Gap.isUpper_eq_false (gap : Gap) : ∀ c ∈ gap.text, c.isUpper = false := by
  intro c hc
  unfold text pointText at hc
  rcases List.mem_append.mp hc with hc | hc
  · rw [(List.mem_replicate.mp hc).2]
    rfl
  · split at hc
    · rw [List.mem_singleton.mp hc]
      rfl
    · contradiction

/-- A gap and a cutter begin no word. -/
theorem wordEnds_gap (gap : Gap) (cutter : Cutter) (t : Text) :
    wordEnds (skipSpaces (gap.text ++ (cutter.text ++ t))) = [] := by
  have hnone := gap.behindWord?_cutter some cutter t
  rw [behindWord?_eq_findSome?, List.findSome?_eq_none_iff] at hnone
  exact List.eq_nil_iff_forall_not_mem.mpr fun u hu => absurd (hnone u hu) (by simp)

/-- A head that is followed by a gap and a cutter ends there. -/
theorem endsBehindNumber_gap (gap : Gap) (cutter : Cutter) (t : Text) :
    endsBehindNumber (gap.text ++ (cutter.text ++ t)) = [gap.text ++ (cutter.text ++ t)] := by
  rw [endsBehindNumber, wordEnds_gap, ite_self]
  rfl

/-! ## Searches -/

/-- The answer behind the first gap, or else behind a head that begins later. -/
def searchFrom {α : Type} (answer : Text → Option α) (t : Text) : Option α :=
  (answer t).or ((headEnds t).findSome? fun u => answer (skipGap u))

/-- The first answer along a list that is repeated. -/
theorem findSome?_flatten_replicate {α β : Type} {n : Nat} (hn : 0 < n) (l : List α)
    (f : α → Option β) : (List.replicate n l).flatten.findSome? f = l.findSome? f := by
  obtain ⟨n, rfl⟩ := Nat.exists_eq_succ_of_ne_zero (Nat.ne_of_gt hn)
  induction n with
  | zero => simp
  | succ n ih =>
    rw [List.replicate_succ, List.flatten_cons, List.findSome?_append, ih (Nat.succ_pos n),
      Option.or_self]

/-- A question that has an answer only where a cutter stands. -/
def AsksCutter {α : Type} (answer : Text → Option α) : Prop :=
  ∀ s : Text, skipCutter? s = none → answer s = none

/-- A cutter begins with a capital. -/
theorem skipCutter?_eq_none {s : Text} (h : ∀ c ∈ s.head?, c.isUpper = false) :
    skipCutter? s = none := by
  cases s with
  | nil => rfl
  | cons c s => simp [skipCutter?, h c rfl]

/-- There is no cutter in a text without joints. -/
theorem skipCutter?_append {c : Char} {s t : Text} (h : joints (c :: s) = 0)
    (ht : ∀ d ∈ t.head?, d.isDigit = false) : skipCutter? (c :: (s ++ t)) = none := by
  rw [joints] at h
  rw [skipCutter?]
  split
  · rename_i hupper
    have hdigit : (s ++ t).head?.any Char.isDigit = false := by
      cases s with
      | nil =>
        cases t with
        | nil => rfl
        | cons d t => exact ht d rfl
      | cons d s =>
        rw [Bool.eq_false_iff]
        intro hdigit
        have hd : d.isDigit = true := hdigit
        simp [hupper, hd] at h
    rw [skipDigits?, hdigit]
    rfl
  · rfl

/-- A suffix, a gap and a cutter end a number. -/
theorem numberEnds_suffixText (suffix : Option Suffix) (gap : Gap) (cutter : Cutter) (t : Text) :
    NumberEnds (suffixText suffix ++ (gap.text ++ (cutter.text ++ t))) := by
  cases suffix with
  | none => exact gap.numberEnds cutter t
  | some suffix =>
    obtain ⟨n, hn⟩ := suffix.exists_text (gap.text ++ (cutter.text ++ t))
    rw [suffixText, Option.map_some, Option.getD_some, hn]
    simp [NumberEnds, Text.dropFirst]

/-- A gap that keeps a suffix apart ends its word. -/
theorem Gap.SetsApart.head_text {gap : Gap} {suffix : Suffix} (h : gap.SetsApart (some suffix))
    (t : Text) : ∀ c ∈ (gap.text ++ t).head?, c = ' ' ∨ c = '.' := by
  intro c hc
  unfold Gap.text Gap.pointText at hc
  cases hspaces : gap.spaces with
  | succ n =>
    rw [hspaces, List.replicate_succ] at hc
    exact Or.inl (Option.some.inj hc).symm
  | zero =>
    have hpoint : gap.point = true := (h rfl).resolve_left (by omega)
    rw [hspaces, hpoint] at hc
    exact Or.inr (Option.some.inj hc).symm

/-- A space and a point end a word, and are neither capitals nor digits. -/
theorem spaceOrPoint {c : Char} (h : c = ' ' ∨ c = '.') :
    isWordChar c = false ∧ c.isUpper = false ∧ c.isDigit = false := by
  rcases h with rfl | rfl <;> decide

/-- Digits are no gap. -/
theorem Digits.head_append (digits : Digits) (t : Text) :
    ∀ c ∈ (digits.text ++ t).head?, c.isUpper = false ∧ c ≠ ' ' ∧ c ≠ '.' := by
  obtain ⟨d, s, hcons, hd⟩ := digits.exists_cons
  intro c hc
  rw [hcons] at hc
  obtain rfl : d = c := Option.some.inj hc
  refine ⟨Character.isUpper_of_isDigit hd, ?_, ?_⟩
  · rintro rfl
    contradiction
  · rintro rfl
    contradiction

/-- A suffix begins with a space, and behind its spaces with its word. -/
theorem Suffix.skipSpaces_append (suffix : Suffix) (t : Text) :
    (suffix.text ++ t).head? = some ' ' ∧
      skipSpaces (suffix.text ++ t) = suffix.word ++ t := by
  constructor
  · obtain ⟨n, hn⟩ := suffix.exists_text t
    rw [hn]
    rfl
  · obtain ⟨d, s, hword, hd⟩ := suffix.exists_cons
    rw [text, List.append_assoc]
    refine skipSpaces_replicate suffix.spaces fun c hc => ?_
    rw [hword] at hc
    obtain rfl : d = c := Option.some.inj hc
    rintro rfl
    contradiction

/-- What is asked behind a suffix is asked behind its first character and the word characters that
follow. -/
theorem Suffix.exists_behindWord? {α : Type} (suffix : Suffix) (answer : Text → Option α)
    (rest : Text) : ∃ s, s <:+ suffix.word ∧
      behindWord? answer (suffix.word ++ rest) = furthest? isWordChar answer (s ++ rest) := by
  obtain ⟨d, s, hcons, hd⟩ := suffix.exists_cons
  refine ⟨s, ⟨[d], hcons.symm⟩, ?_⟩
  rw [hcons, List.cons_append, behindWord?.eq_def]
  exact if_pos (by simp [startsPlainWord, hd])

/-- The answer behind a suffix as a word, if there is one. -/
theorem Suffix.behindWord?_append {α : Type} (suffix : Suffix) {answer : Text → Option α}
    {rest : Text} {a : α} (hend : ∀ c ∈ rest.head?, c = ' ' ∨ c = '.')
    (h : answer rest = some a) : behindWord? answer (suffix.word ++ rest) = some a := by
  obtain ⟨s, hs, hword⟩ := suffix.exists_behindWord? answer rest
  rw [hword]
  exact Text.furthest?_append
    (fun c hc => (isWordChar_of_capitalOrDigit (suffix.capitalOrDigit c (hs.subset hc))).1)
    (fun c hc => (spaceOrPoint (hend c hc)).1) h

section Search

variable {α : Type} {answer : Text → Option α} (hcutter : AsksCutter answer)

include hcutter

/-- Where a suffix stands, or its word goes on, there is no answer. -/
theorem AsksCutter.word_eq_none {suffix : Suffix} {c : Char} {s : Text} (h : c :: s <:+ suffix.word)
    {rest : Text} (hend : ∀ d ∈ rest.head?, d = ' ' ∨ d = '.') :
    answer (skipGap (c :: s ++ rest)) = none := by
  have hskip : skipGap (c :: s ++ rest) = c :: s ++ rest :=
    Gap.skip_text ⟨0, false⟩ fun d hd => by
      obtain rfl : c = d := Option.some.inj hd
      exact (isWordChar_of_capitalOrDigit (suffix.capitalOrDigit c (h.subset (by simp)))).2.2
  have hjoints : joints (c :: s) = 0 := by
    have hle := joints_le_of_suffix h
    rw [suffix.unjointed] at hle
    omega
  rw [hskip]
  exact hcutter _ (skipCutter?_append hjoints fun d hd => (spaceOrPoint (hend d hd)).2.2)

/-- Behind a suffix as a word the answer at its end counts. -/
theorem AsksCutter.behindWord?_suffix (suffix : Suffix) {rest : Text}
    (hend : ∀ c ∈ rest.head?, c = ' ' ∨ c = '.') :
    behindWord? (fun u => answer (skipGap u)) (suffix.word ++ rest) = answer (skipGap rest) := by
  cases hanswer : answer (skipGap rest) with
  | some a => exact suffix.behindWord?_append hend hanswer
  | none =>
    obtain ⟨s, hs, hword⟩ := suffix.exists_behindWord? (fun u => answer (skipGap u)) rest
    rw [hword]
    refine Text.furthest?_append_eq_none (fun c hc => (spaceOrPoint (hend c hc)).1) fun u hu => ?_
    cases u with
    | nil => exact hanswer
    | cons e u => exact hcutter.word_eq_none (hu.trans hs) hend

/-- Behind a number, a suffix and a gap the answer at the cutter counts. -/
theorem AsksCutter.findSome?_endsBehindNumber {suffix : Option Suffix} {gap : Gap}
    (hapart : gap.SetsApart suffix) (cutter : Cutter) (t : Text) :
    (endsBehindNumber (suffixText suffix ++ (gap.text ++ (cutter.text ++ t)))).findSome?
        (fun u => answer (skipGap u)) = answer (cutter.text ++ t) := by
  cases suffix with
  | none =>
    rw [suffixText, Option.map_none, Option.getD_none, List.nil_append, endsBehindNumber_gap,
      List.findSome?_singleton, gap.skip_cutter]
  | some suffix =>
    have hend := hapart.head_text (cutter.text ++ t)
    have hword := hcutter.behindWord?_suffix suffix hend
    rw [behindWord?_eq_findSome?, gap.skip_cutter] at hword
    obtain ⟨hspace, hskip⟩ := suffix.skipSpaces_append (gap.text ++ (cutter.text ++ t))
    have hfront : answer (skipGap (suffix.text ++ (gap.text ++ (cutter.text ++ t)))) = none := by
      obtain ⟨d, s, hcons, hd⟩ := suffix.exists_cons
      have hpoint : d ≠ '.' := by
        rintro rfl
        contradiction
      rw [skipGap, hskip, hcons, List.cons_append, Text.dropFirst, if_neg hpoint]
      refine hcutter _ (skipCutter?_eq_none fun c hc => ?_)
      exact Option.some.inj hc ▸ Character.isUpper_of_isDigit hd
    rw [suffixText, Option.map_some, Option.getD_some, endsBehindNumber, if_pos hspace, hskip,
      List.findSome?_append, hword, List.findSome?_singleton, hfront, Option.or_none]

/-- A search that passes over gaps depends only on what stands behind the first gap. -/
theorem AsksCutter.search_eq_searchFrom (number : ClassNumber) {suffix : Option Suffix} {gap : Gap}
    (hapart : gap.SetsApart suffix) (cutter : Cutter) (t : Text) :
    leftmost? (behindClass? fun s => answer (skipGap s))
        (number.text ++ (suffixText suffix ++ (gap.text ++ (cutter.text ++ t)))) =
      searchFrom answer (cutter.text ++ t) := by
  have hgap : headEnds (gap.text ++ (cutter.text ++ t)) = headEnds (cutter.text ++ t) :=
    headEnds_append_of_forall _ gap.isUpper_eq_false
  have hlater : headEnds (suffixText suffix ++ (gap.text ++ (cutter.text ++ t))) =
      headEnds (cutter.text ++ t) := by
    rw [← hgap]
    cases suffix with
    | none => rfl
    | some suffix =>
      exact headEnds_append_of_joints (joints_suffixText (some suffix)) fun c hc =>
        (spaceOrPoint (hapart.head_text _ c hc)).2
  rw [leftmost?_behindClass?_eq_findSome?,
    headEnds_append number (numberEnds_suffixText suffix gap cutter t), hlater,
    List.findSome?_append, findSome?_flatten_replicate (List.length_pos_iff.mpr number.ne_nil),
    hcutter.findSome?_endsBehindNumber hapart]
  rfl

end Search

end Lc
end CallNumber
end Shelfmark
