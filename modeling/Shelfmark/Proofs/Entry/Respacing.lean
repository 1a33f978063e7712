import Shelfmark.Proofs.Character.Blank
import Shelfmark.Proofs.Entry.NormalForm
import Shelfmark.Proofs.NaturalOrder

/-!
# Entries - Call numbers with other spacing

Call numbers with the same words may have other blanks between them.  A run of blanks at either
end or beside a period leaves nothing in the normal spelling, and every other run leaves a space -
but a blank on its own stays what it is, so that a tab or a no-break space between two words tells
call numbers apart that a space would not.

Main results:

- Theorem `settledBehind_run`: what a run of blanks leaves in the normal spelling.
- Theorem `ofText_respaced_iff`: call numbers with the same words make the same entry exactly when
  their runs of blanks leave the same.
-/

namespace Shelfmark
namespace Entry

open Character (isBlank)
open NaturalOrder (counted counted_append isIgnorable)

/-! ## Runs of blanks -/

/-- Some blanks in a row. -/
structure IsBlankRun (run : Text) : Prop where
  ne_nil : run ≠ []
  blank : ∀ c ∈ run, isBlank c = true

/-- What a run of blanks is replaced by: a blank on its own stays. -/
def remains : Text → Char
  | [c] => c
  | _ => ' '

/-- A blank remains. -/
theorem isBlank_remains {run : Text} (h : ∀ c ∈ run, isBlank c = true) :
    isBlank (remains run) = true := by
  unfold remains
  split
  · exact h _ List.mem_cons_self
  · exact Character.isBlank_space

/-- Of a run of blanks one remains. -/
theorem collapseBlanks_run {run : Text} (h : IsBlankRun run) :
    collapseBlanks run = [remains run] := by
  obtain ⟨c, rest, rfl⟩ := List.exists_cons_of_ne_nil h.ne_nil
  have hblank := h.blank
  clear h
  induction rest generalizing c with
  | nil => simp [collapseBlanks_eq, remains]
  | cons d rest ih =>
    rw [collapseBlanks_cons_cons, hblank c (by simp), hblank d (by simp),
      ih d fun e he => hblank e (List.mem_cons_of_mem c he)]
    rfl

/-- What a run of blanks leaves between two characters: nothing beside a period or at either end
of the text. -/
def shown (front : Option Char) (run : Text) (back : Option Char) : Text :=
  if front.all (· == '.') || back.all (· == '.') then [] else [remains run]

/-! ## Spelling behind a character -/

/-- A text begins with no blank if its first character is none. -/
theorem head_not_blank {c : Char} (h : isBlank c = false) (s : Text) :
    ∀ d ∈ (c :: s).head?, isBlank d = false :=
  fun _ hd => Option.some.inj hd ▸ h

/-- The normal spelling of what stands behind a character, or at the front of a text if there is
none, but for the gap behind the class letters. -/
def settledBehind (front : Option Char) (s : Text) : Text :=
  closePeriodsFrom (front.all (· == '.')) (collapseBlanks (Text.upper s.trimEnd))

/-- Behind a period or not, a first character that is no blank stays. -/
theorem closePeriodsFrom_head (afterPeriod other : Bool) {s : Text}
    (h : ∀ c ∈ s.head?, isBlank c = false) :
    closePeriodsFrom afterPeriod s = closePeriodsFrom other s := by
  cases s with
  | nil => rfl
  | cons c s => rw [closePeriodsFrom_cons (h c rfl), closePeriodsFrom_cons (h c rfl)]

section Character

variable {c : Char} (h : isBlank c = false)

include h

/-- The uppercase form of a character that is no blank has none. -/
theorem not_blank_upper : ∀ d ∈ Character.upper c, isBlank d = false :=
  fun _ hd => Character.isBlank_of_mem_upper hd h

/-- The first capital of a character that is no blank is none, and a period just where the
character is one. -/
theorem exists_upper :
    ∃ d word, Character.upper c = d :: word ∧ isBlank d = false ∧ (d == '.') = (c == '.') := by
  obtain ⟨d, word, hform⟩ := List.exists_cons_of_ne_nil (Character.upper_ne_nil c)
  have hmem : d ∈ Character.upper c := hform ▸ List.mem_cons_self
  exact ⟨d, word, hform, not_blank_upper h d hmem, Character.period_of_mem_upper hmem⟩

/-- The end of a text is trimmed behind each of its characters other than blanks. -/
theorem trimEnd_char (s : Text) : Text.trimEnd (c :: s) = c :: s.trimEnd :=
  Text.trimEnd_append (s := [c]) (by simpa using h) s

/-- What follows the capitals of a character that is no blank is spelled behind it. -/
theorem settledBehind_char (front : Option Char) (s : Text) :
    settledBehind front (c :: s) = Character.upper c ++ settledBehind (some c) s := by
  have hupper : Text.upper (c :: s.trimEnd) = Character.upper c ++ Text.upper s.trimEnd :=
    List.flatMap_cons
  have hblank := not_blank_upper h
  rw [settledBehind, settledBehind, trimEnd_char h, hupper, collapseBlanks_piece hblank]
  obtain ⟨word, last, hform⟩ : ∃ word last, Character.upper c = word ++ [last] :=
    ⟨_, _, (List.dropLast_append_getLast (Character.upper_ne_nil c)).symm⟩
  have hlast : (last == '.') = (c == '.') :=
    Character.period_of_mem_upper (by rw [hform]; exact List.mem_concat_self)
  rw [hform] at hblank ⊢
  rw [List.append_assoc, List.singleton_append,
    closePeriodsFrom_append _ _ (fun d hd => hblank d (by simp [hd])) (hblank last (by simp)), hlast]
  simp

end Character

section Run

variable {run : Text} (hrun : IsBlankRun run)

include hrun

/-- The blank that remains is removed beside a period. -/
theorem closePeriodsFrom_run (afterPeriod : Bool) {c : Char} (hc : isBlank c = false) (s : Text) :
    closePeriodsFrom afterPeriod (collapseBlanks run ++ c :: s) =
      (if afterPeriod || c == '.' then [] else [remains run]) ++
        closePeriodsFrom afterPeriod (c :: s) := by
  have hhead := head_not_blank hc s
  rw [collapseBlanks_run hrun, List.singleton_append, closePeriodsFrom_eq,
    isBlank_remains hrun.blank, List.head?_cons, Option.some_beq_some, Bool.true_and]
  split
  · exact closePeriodsFrom_head false afterPeriod hhead
  · rw [closePeriodsFrom_head (remains run == '.') afterPeriod hhead]
    rfl

/-- A run of blanks leaves what is shown of it in front of the rest. -/
theorem settledBehind_run {s : Text} (hs : ∀ c ∈ s.head?, isBlank c = false)
    (front : Option Char) :
    settledBehind front (run ++ s) = shown front run s.head? ++ settledBehind front s := by
  cases s with
  | nil =>
    have htrim : Text.trimEnd (run ++ []) = Text.trimEnd [] := by
      simpa using Text.trimEnd_append_blank [] hrun.blank
    rw [settledBehind, htrim]
    simp [shown, settledBehind]
  | cons c s =>
    have hc := hs c rfl
    have htrim : Text.trimEnd (run ++ c :: s) = run ++ Text.trimEnd (c :: s) := by
      rw [trimEnd_char hc]
      simpa using Text.trimEnd_append (s := run ++ [c]) (by simpa using hc) s
    have hupper : Text.upper (run ++ Text.trimEnd (c :: s)) =
        run ++ Text.upper (Text.trimEnd (c :: s)) := by
      rw [Text.upper, List.flatMap_append]
      congr 1
      exact Text.InCapitals.upper_eq fun d hd => Character.upper_of_isBlank (hrun.blank d hd)
    obtain ⟨d, word, hform, hd, hpoint⟩ := exists_upper hc
    have hfirst : Text.upper (Text.trimEnd (c :: s)) =
        d :: (word ++ Text.upper (Text.trimEnd s)) := by
      rw [trimEnd_char hc, Text.upper, List.flatMap_cons, hform]
      rfl
    rw [settledBehind, settledBehind, htrim, hupper, hfirst,
      collapseBlanks_append (head_not_blank hd _), collapseBlanks_cons hd,
      closePeriodsFrom_run hrun _ hd, hpoint]
    rfl

end Run

/-- A normal spelling is what is spelled at the front of a text, without the gap behind the class
letters. -/
theorem normalSpelling_eq (raw : Text) :
    normalSpelling raw = closeClassGap (settledBehind none raw) := by
  have hstart : settledBehind none raw.trimStart = settle raw.trim.upper := by
    apply closePeriodsFrom_head
    exact (isTrimmed_collapseBlanks (Text.isTrimmed_trim raw).upper).head
  have hsplit : raw.takeWhile isBlank ++ raw.trimStart = raw := List.takeWhile_append_dropWhile
  have hnormal : normalSpelling raw = closeClassGap (settle raw.trim.upper) := rfl
  rw [hnormal, ← hstart]
  by_cases hnil : raw.takeWhile isBlank = []
  · rw [hnil, List.nil_append] at hsplit
    rw [hsplit]
  · have hrun : IsBlankRun (raw.takeWhile isBlank) := ⟨hnil, fun c hc => List.mem_takeWhile_imp hc⟩
    have hfront := settledBehind_run hrun (Text.head?_trimStart raw) none
    rw [hsplit] at hfront
    rw [hfront]
    rfl

/-! ## The same words -/

/-- Two texts that differ in their runs of blanks only, where a run stands behind one character, or
at the front, and in front of another, or at the end.  The relation says which runs may stand for
each other there. -/
inductive RespacedBy (may : Option Char → Text → Text → Option Char → Prop) :
    Option Char → Text → Text → Prop where
  | nil {front : Option Char} : RespacedBy may front [] []
  | char {front : Option Char} {c : Char} {s t : Text} (hc : isBlank c = false)
      (h : RespacedBy may (some c) s t) : RespacedBy may front (c :: s) (c :: t)
  | run {front : Option Char} {run other s t : Text} (hrun : IsBlankRun run)
      (hother : IsBlankRun other) (hs : ∀ c ∈ s.head?, isBlank c = false)
      (hmay : may front run other s.head?) (h : RespacedBy may front s t) :
      RespacedBy may front (run ++ s) (other ++ t)

/-- Each run of blanks in a text stands for some run in the other, and the rest is the same. -/
def SameWords (s t : Text) : Prop :=
  RespacedBy (fun _ _ _ _ => True) none s t

/-- Two runs leave the same between two characters: these are a period or an end of the text, or
the same blank remains. -/
def LeaveSame (front : Option Char) (run other : Text) (back : Option Char) : Prop :=
  shown front run back = shown front other back

/-- Besides, the runs that stand for each other leave the same. -/
def SpacedAlike (s t : Text) : Prop :=
  RespacedBy LeaveSame none s t

namespace RespacedBy

variable {may : Option Char → Text → Text → Option Char → Prop} {front : Option Char} {s t : Text}

/-- A word stands in both texts. -/
theorem word (word : Text) (hword : word.all (!isBlank ·) = true)
    (h : RespacedBy may (word.getLast?.or front) s t) :
    RespacedBy may front (word ++ s) (word ++ t) := by
  induction word generalizing front with
  | nil => exact h
  | cons c word ih =>
    obtain ⟨hc, hword⟩ := Bool.and_eq_true_iff.mp (List.all_cons ▸ hword)
    have hlast : (c :: word).getLast?.or front = word.getLast?.or (some c) := by
      rw [List.getLast?_cons]
      cases word.getLast? <;> rfl
    rw [hlast] at h
    exact .char (by simpa using hc) (ih hword h)

/-- If one of the texts begins with no blank, the other begins with the same character. -/
theorem head?_eq (h : RespacedBy may front s t) (hs : ∀ c ∈ s.head?, isBlank c = false) :
    t.head? = s.head? := by
  cases h with
  | nil => rfl
  | char => rfl
  | @run _ run _ _ _ hrun =>
    obtain ⟨c, rest, rfl⟩ := List.exists_cons_of_ne_nil hrun.ne_nil
    have hblank := hrun.blank c List.mem_cons_self
    rw [hs c rfl] at hblank
    contradiction

/-- Runs of blanks that leave the same do not change the normal spelling. -/
theorem settledBehind_eq (h : RespacedBy LeaveSame front s t) :
    settledBehind front s = settledBehind front t := by
  induction h with
  | nil => rfl
  | char hc _ ih => rw [settledBehind_char hc, settledBehind_char hc, ih]
  | run hrun hother hs hmay h ih =>
    have hhead := h.head?_eq hs
    rw [LeaveSame] at hmay
    rw [settledBehind_run hrun hs, settledBehind_run hother (hhead ▸ hs), hhead, hmay, ih]

end RespacedBy

/-! ## What the comparison sees -/

/-- The characters of a text that count in the comparison, without case. -/
def heard (s : Text) : Text :=
  (counted s).map Character.fold

/-- The pieces of a text are heard one by one. -/
theorem heard_append (s t : Text) : heard (s ++ t) = heard s ++ heard t := by
  rw [heard, counted_append, List.map_append]
  rfl

/-- Closing the gap behind the class letters is not heard. -/
theorem heard_closeClassGap (s : Text) : heard (closeClassGap s) = heard s := by
  rcases closeClassGap_spec s with hself | ⟨letters, rest, rfl, hclosed, -, -⟩
  · rw [hself]
  · have hspace : heard (' ' :: rest) = heard rest := rfl
    rw [hclosed, heard_append, heard_append, hspace]

/-- A character that is neither a blank nor a period is heard, and not as a blank. -/
theorem exists_heard_char {c : Char} (hc : isBlank c = false) (hpoint : c ≠ '.')
    (front : Option Char) (s : Text) :
    ∃ d rest, heard (settledBehind front (c :: s)) = d :: rest ∧ isBlank d = false := by
  obtain ⟨d, word, hform, hblank, hsame⟩ := exists_upper hc
  have hcounts : isIgnorable d = false := by
    rw [isIgnorable, hsame, Bool.or_eq_false_iff]
    constructor
    · exact beq_eq_false_iff_ne.mpr hpoint
    · rw [beq_eq_false_iff_ne]
      rintro rfl
      contradiction
  refine ⟨Character.fold d, heard (word ++ settledBehind (some c) s), ?_, ?_⟩
  · rw [settledBehind_char hc, hform, List.cons_append, heard, counted,
      List.filter_cons_of_pos (by simp [hcounts])]
    rfl
  · rw [Character.isBlank_fold, hblank]

/-- A blank is heard as it is, unless it is a space. -/
theorem heard_blank {b : Char} (h : isBlank b = true) :
    heard [b] = if b = ' ' then [] else [b] := by
  have hpoint : (b == '.') = false := by
    rw [beq_eq_false_iff_ne]
    rintro rfl
    contradiction
  by_cases hspace : b = ' '
  · rw [if_pos hspace, hspace]
    rfl
  · have hcounts : isIgnorable b = false := by
      rw [isIgnorable, hpoint, beq_eq_false_iff_ne.mpr hspace]
      rfl
    rw [if_neg hspace, heard, NaturalOrder.counted_eq_self (by simpa using hcounts),
      List.map_singleton, Character.fold_of_isBlank h]

/-- Which blank stands in front of other characters can be heard. -/
theorem eq_of_heard_blank {b b' d d' : Char} {s t : Text} (hb : isBlank b = true)
    (hb' : isBlank b' = true) (hd : isBlank d = false) (hd' : isBlank d' = false)
    (h : heard [b] ++ d :: s = heard [b'] ++ d' :: t) : b = b' ∧ d :: s = d' :: t := by
  have hrun {b : Char} (hb : isBlank b = true) : ∀ c ∈ heard [b], isBlank c = true := by
    intro c hc
    rw [heard_blank hb] at hc
    split at hc
    · contradiction
    · rwa [List.mem_singleton.mp hc]
  obtain ⟨htake, hdrop⟩ := Text.takeWhile_run (t := d :: s) (hrun hb) (by simpa using hd)
  obtain ⟨htake', hdrop'⟩ := Text.takeWhile_run (t := d' :: t) (hrun hb') (by simpa using hd')
  rw [h, htake', heard_blank hb, heard_blank hb'] at htake
  refine ⟨?_, hdrop.symm.trans (h ▸ hdrop')⟩
  split at htake <;> split at htake
  · rename_i hspace' hspace
    rw [hspace, hspace']
  · simp at htake
  · simp at htake
  · exact (List.singleton_inj.mp htake).symm

/-- Texts with the same words that are spelled so that they cannot be told apart have runs of
blanks that leave the same. -/
theorem RespacedBy.alike_of_heard {front : Option Char} {s t : Text}
    (h : RespacedBy (fun _ _ _ _ => True) front s t)
    (hheard : heard (settledBehind front s) = heard (settledBehind front t)) :
    RespacedBy LeaveSame front s t := by
  induction h with
  | nil => exact .nil
  | char hc _ ih =>
    rw [settledBehind_char hc, settledBehind_char hc, heard_append, heard_append] at hheard
    exact .char hc (ih (List.append_cancel_left hheard))
  | @run front run other s t hrun hother hs _ h ih =>
    have hhead := h.head?_eq hs
    rw [settledBehind_run hrun hs, settledBehind_run hother (hhead ▸ hs), hhead, heard_append,
      heard_append] at hheard
    by_cases hbeside : (front.all (· == '.') || s.head?.all (· == '.')) = true
    · -- Nothing is shown of either run.
      have hnone (run : Text) : shown front run s.head? = [] := if_pos hbeside
      rw [hnone, hnone] at hheard
      exact .run hrun hother hs (by rw [LeaveSame, hnone, hnone]) (ih hheard)
    · -- One blank is shown of each, in front of a character that is heard.
      have hone (run : Text) : shown front run s.head? = [remains run] := if_neg hbeside
      rw [Bool.or_eq_true, not_or] at hbeside
      obtain ⟨c, hback, hpoint⟩ : ∃ c, s.head? = some c ∧ c ≠ '.' := by
        simpa [Option.all_eq_true] using hbeside.2
      rw [hone, hone] at hheard
      obtain ⟨rest, rfl⟩ := List.head?_eq_some_iff.mp hback
      obtain ⟨other, rfl⟩ := List.head?_eq_some_iff.mp (hhead.trans hback)
      obtain ⟨d, word, hword, hd⟩ := exists_heard_char (hs c rfl) hpoint front rest
      obtain ⟨d', word', hword', hd'⟩ := exists_heard_char (hs c rfl) hpoint front other
      rw [hword, hword'] at hheard ih
      obtain ⟨hsame, hrest⟩ := eq_of_heard_blank (isBlank_remains hrun.blank)
        (isBlank_remains hother.blank) hd hd' hheard
      exact .run hrun hother hs (by rw [LeaveSame, hone, hone, hsame]) (ih hrest)

/-! ## The same entry -/

/-- Where all blanks are spaces, runs of them leave the same. -/
theorem RespacedBy.alike_of_spaces {front : Option Char} {s t : Text}
    (h : RespacedBy (fun _ _ _ _ => True) front s t)
    (hspaces : ∀ c ∈ s ++ t, isBlank c = true → c = ' ') :
    RespacedBy LeaveSame front s t := by
  induction h with
  | nil => exact .nil
  | char hc _ ih =>
    refine .char hc (ih fun d hd => hspaces d ?_)
    rcases List.mem_append.mp hd with hd | hd <;> simp [hd]
  | @run front run other s t hrun hother hs _ h ih =>
    have hremains {run : Text} (h : IsBlankRun run) (hrun : ∀ c ∈ run, isBlank c = true → c = ' ') :
        remains run = ' ' := by
      unfold remains
      split
      · exact hrun _ List.mem_cons_self (h.blank _ List.mem_cons_self)
      · rfl
    refine .run hrun hother hs ?_ (ih fun d hd => hspaces d ?_)
    · rw [LeaveSame, shown, shown, hremains hrun fun c hc => hspaces c (by simp [hc]),
        hremains hother fun c hc => hspaces c (by simp [hc])]
    · rcases List.mem_append.mp hd with hd | hd <;> simp [hd]

/-- Call numbers with the same words make the same entry exactly when their runs of blanks leave
the same, and they compare equal in no other case.  Where all blanks are spaces they do. -/
theorem ofText_respaced_iff (tag : Option Text) {raw other : Text} (h : SameWords raw other) :
    (ofText tag raw = ofText tag other ↔ SpacedAlike raw other) ∧
      ((ofText tag raw).same (ofText tag other) = true ↔ SpacedAlike raw other) ∧
      ((∀ c ∈ raw ++ other, isBlank c = true → c = ' ') → ofText tag raw = ofText tag other) := by
  have hentry (halike : SpacedAlike raw other) : ofText tag raw = ofText tag other := by
    rw [ofText, ofText, normalSpelling_eq, normalSpelling_eq, halike.settledBehind_eq]
  have halike (hsame : (ofText tag raw).same (ofText tag other) = true) :
      SpacedAlike raw other := by
    have hheard : heard (normalSpelling raw) = heard (normalSpelling other) :=
      (same_withValue_iff tag).mp hsame
    rw [normalSpelling_eq, normalSpelling_eq, heard_closeClassGap, heard_closeClassGap] at hheard
    exact h.alike_of_heard hheard
  have hrefl (hequal : ofText tag raw = ofText tag other) :
      (ofText tag raw).same (ofText tag other) = true := by
    rw [hequal]
    exact same_equivalence.refl _
  refine ⟨⟨fun hequal => halike (hrefl hequal), hentry⟩,
    ⟨halike, fun h => hrefl (hentry h)⟩, fun hspaces => hentry ?_⟩
  exact h.alike_of_spaces hspaces

/-- A space is a run of blanks. -/
theorem space_run : IsBlankRun [' '] :=
  ⟨by simp, List.all_eq_true.mp (by decide)⟩

/-- A tab is a run of blanks. -/
theorem tab_run : IsBlankRun ['\t'] :=
  ⟨by simp, List.all_eq_true.mp (by decide)⟩

/-- Tabs are put for spaces in a longer run and beside a period, where they leave the same. -/
theorem tabs_respaced : ∃ raw other, raw = "PS  3511 .A3".toList ∧
    other = "PS\t 3511\t.A3".toList ∧ SameWords raw other ∧ SpacedAlike raw other ∧
      ofText (some "LC".toList) raw = ofText (some "LC".toList) other := by
  have hspaced {may : Option Char → Text → Text → Option Char → Prop}
      (hclass : may (some 'S') [' ', ' '] ['\t', ' '] (some '3'))
      (hpoint : may (some '1') [' '] ['\t'] (some '.')) :
      RespacedBy may none "PS  3511 .A3".toList "PS\t 3511\t.A3".toList := by
    have hspaces : IsBlankRun [' ', ' '] := ⟨by simp, List.all_eq_true.mp (by decide)⟩
    have htabbed : IsBlankRun ['\t', ' '] := ⟨by simp, List.all_eq_true.mp (by decide)⟩
    refine .word ['P', 'S'] (by decide) ?_
    refine .run hspaces htabbed (head_not_blank (by decide) _) hclass ?_
    refine .word ['3', '5', '1', '1'] (by decide) ?_
    refine .run space_run tab_run (head_not_blank (by decide) _) hpoint ?_
    exact .word ['.', 'A', '3'] (by decide) .nil
  have hwords : SameWords "PS  3511 .A3".toList "PS\t 3511\t.A3".toList := hspaced trivial trivial
  have halike : SpacedAlike "PS  3511 .A3".toList "PS\t 3511\t.A3".toList := hspaced rfl rfl
  exact ⟨_, _, rfl, rfl, hwords, halike,
    (ofText_respaced_iff (some "LC".toList) hwords).1.mpr halike⟩

/-- A tab between two words is not a space, and the call numbers are in different clusters. -/
theorem tab_not_alike : ∃ raw other, raw = "QA76 J38".toList ∧ other = "QA76\tJ38".toList ∧
    SameWords raw other ∧ (ofText none raw).value ≠ (ofText none other).value ∧
      (ofText none raw).same (ofText none other) = false ∧
      (ofText none raw).clusterKey 5 ≠ (ofText none other).clusterKey 5 := by
  refine ⟨_, _, rfl, rfl, ?_, by decide⟩
  refine .word ['Q', 'A', '7', '6'] (by decide) ?_
  refine .run space_run tab_run (head_not_blank (by decide) _) trivial ?_
  exact .word ['J', '3', '8'] (by decide) .nil

end Entry
end Shelfmark
