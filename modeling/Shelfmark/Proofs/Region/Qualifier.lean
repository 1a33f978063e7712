import Shelfmark.Proofs.Region.Chain
import Shelfmark.Proofs.Text.Span

/-!
# Regions - Qualifiers that name the place above

A name may come with a qualifier that names the place above it already, alone or in a list.  Such a
name is left alone - unless the place above is a state.  A state is abbreviated and added before
the qualifier is looked at, so that no abbreviation is ever recognised as one: below Texas,
`Austin (Tex.)` becomes `Austin (Tex.) (Tex.)`.

Main results:

- Theorem `Text.includes_iff`: a text includes another as a run of its characters.
- Theorem `qualify_parenthesized`: a name is left alone whose qualifier names a place that is no
  state.
- Theorem `qualifyChain_qualified`: below a place that its qualifier names a name stays exactly if
  that place is no state.
-/

namespace Shelfmark

namespace Text

/-- A text includes another exactly if that is a run of its characters. -/
theorem includes_iff {part s : Text} : includes part s = true ↔ part <:+: s := by
  induction s with
  | nil => rw [includes, List.isEmpty_iff, List.infix_nil]
  | cons c s ih =>
    rw [includes, Bool.or_eq_true, List.isPrefixOf_iff_prefix, ih, List.infix_cons_iff]

/-- A last character is dropped. -/
theorem dropLast?_concat (s : Text) (c : Char) : dropLast? c (s ++ [c]) = some s := by
  simp [dropLast?]

/-- Only a last character is dropped. -/
theorem eq_of_dropLast? {s t : Text} {c : Char} (h : dropLast? c s = some t) : s = t ++ [c] := by
  unfold dropLast? at h
  by_cases hlast : s.getLast? = some c
  · rw [if_pos hlast] at h
    rw [← Option.some.inj h]
    exact (List.dropLast_append_getLast? c hlast).symm
  · rw [if_neg hlast] at h
    contradiction

end Text

namespace Region

/-! ## Runs of name characters -/

/-- A text of letters with their marks, periods, hyphens and spaces. -/
def IsNameRun (s : Text) : Prop :=
  (spanName false s).2 = []

/-- Letters, periods, hyphens and spaces are such a text in any order. -/
theorem isNameRun_of_forall {s : Text} (h : ∀ c ∈ s, isNameChar c = true) : IsNameRun s := by
  have hspan : spanName false (s ++ []) = (s, []) := spanName_append false h (by simp)
  rw [List.append_nil] at hspan
  rw [IsNameRun, hspan]

/-- A run of name characters has no others but marks. -/
theorem isNameChar_or_isMark {afterLetter : Bool} {s : Text} (h : (spanName afterLetter s).2 = []) :
    ∀ c ∈ s, isNameChar c = true ∨ Character.isMark c = true := by
  induction s generalizing afterLetter with
  | nil => simp
  | cons c s ih =>
    rw [spanName] at h
    split at h
    · rename_i hname
      exact List.forall_mem_cons.mpr ⟨Or.inl hname, ih h⟩
    · split at h
      · rename_i hmark
        exact List.forall_mem_cons.mpr ⟨Or.inr (Bool.and_eq_true_iff.mp hmark).2, ih h⟩
      · contradiction

namespace IsNameRun

variable {s : Text} (h : IsNameRun s)

include h

/-- A sign that is neither a name character nor a mark does not stand in a run of these. -/
theorem not_mem {sign : Char} (hname : isNameChar sign = false)
    (hmark : Character.isMark sign = false) : sign ∉ s := by
  intro hmem
  rcases isNameChar_or_isMark h sign hmem with htrue | htrue
  · rw [hname] at htrue
    contradiction
  · rw [hmark] at htrue
    contradiction

/-- A run of name characters is a name if there is one. -/
theorem isName_iff : isName s = true ↔ s ≠ [] := by
  have hempty : (spanName false s).2.isEmpty = true := List.isEmpty_iff.mpr h
  rw [isName, hempty, Bool.and_true, Bool.not_eq_true', List.isEmpty_eq_false_iff]

end IsNameRun

/-! ## Qualifiers that name a place -/

/-- No kind of place is a list. -/
theorem typeWords_no_list :
    ∀ known ∈ typeWords, Text.includes " and ".toList known.toList = false := by
  decide

/-- A qualifier that names another place than a state, but is not its name, is no kind of
place. -/
theorem isTypeWord_of_contains {qualifier parent : Text} (hqualifier : IsNameRun qualifier)
    (hstate : abbreviation? parent = none) (hnames : equalsOrContains qualifier parent = true)
    (hne : qualifier ≠ parent) : isTypeWord qualifier = false := by
  have hcomma : ',' ∉ qualifier := hqualifier.not_mem (by decide) (by decide)
  have hlist : " and ".toList <:+: qualifier := by
    simp only [equalsOrContains, hstate, Bool.or_eq_true, beq_iff_eq, Text.includes_iff] at hnames
    rcases hnames with (((hsame | hbehind) | hfront) | hlisted) | habbreviation
    · exact absurd hsame hne
    · exact (List.prefix_append _ parent).isInfix.trans hbehind
    · exact (List.suffix_append parent _).isInfix.trans hfront
    · exact absurd (hlisted.subset (by simp)) hcomma
    · contradiction
  rw [Bool.eq_false_iff]
  intro hword
  obtain ⟨known, hknown, hsame⟩ := List.any_eq_true.mp hword
  have hnone := typeWords_no_list known hknown
  rw [beq_iff_eq.mp hsame, Text.includes_iff.mpr hlist] at hnone
  contradiction

/-- The parenthesis of a qualifier stands behind a space. -/
theorem parenthesized_eq (name qualifier : Text) :
    parenthesized name qualifier = (name ++ [' ']) ++ '(' :: (qualifier ++ [')']) := by
  simp [parenthesized]

/-- The parenthesis of a qualifier is the last character. -/
theorem parenthesized_concat (name qualifier : Text) :
    parenthesized name qualifier = name ++ [' '] ++ '(' :: qualifier ++ [')'] := by
  simp [parenthesized]

/-- No parenthesis stands in front of that of a qualifier. -/
theorem IsNameRun.not_mem_append_space {name : Text} (h : IsNameRun name) :
    '(' ∉ name ++ [' '] := by
  have hnot : '(' ∉ name := h.not_mem (by decide) (by decide)
  simpa using hnot

/-- Empty parentheses are no typed qualifier. -/
theorem qualifyTyped_nil {name : Text} (h : IsNameRun name) (parent : Text) :
    qualifyTyped (parenthesized name []) parent = parenthesized name [] := by
  have hcut : Text.cut? '(' (parenthesized name []) = some (name ++ [' '], [')']) := by
    rw [parenthesized_eq, Text.cut?_eq_some_iff]
    exact ⟨rfl, h.not_mem_append_space⟩
  have hnone : TypedName.ofText? (parenthesized name []) = none := by
    rw [TypedName.ofText?, hcut]
    rfl
  rw [qualifyTyped, hnone]

/-- Parentheses at the end of a line are a single qualifier if they hold a name. -/
theorem hasSingleQualifier_concat {front inside : Text} (hline : '\n' ∉ front)
    (hopen : '(' ∉ inside) :
    hasSingleQualifier (front ++ '(' :: inside ++ [')']) = isName inside := by
  have hlast : Text.afterLast? '(' (front ++ '(' :: inside ++ [')']) = some (inside ++ [')']) := by
    rw [List.append_assoc]
    exact Text.afterLast?_append_cons front (by simpa using hopen)
  have hbefore : Text.before (front ++ '(' :: inside ++ [')']) (inside ++ [')']) =
      front ++ ['('] := by
    rw [List.append_cons front '(' inside, List.append_assoc _ inside, Text.before_append]
  have hfront : (front ++ ['(']).contains '\n' = false := by simpa using hline
  rw [hasSingleQualifier, hlast]
  dsimp only
  rw [hbefore, hfront, Text.dropLast?_concat]
  rfl

/-- How a place is added to what stands between the first parenthesis of a name and the last. -/
theorem qualifySingle_concat {front : Text} (hfront : '(' ∉ front) (qualifier parent : Text) :
    qualifySingle (front ++ '(' :: qualifier ++ [')']) parent =
      if qualifier ≠ parent ∧ isTypeWord qualifier = true then
        parenthesized (dropEndSpace front) (parent ++ " : ".toList ++ qualifier)
      else if equalsOrContains qualifier parent then front ++ '(' :: qualifier ++ [')']
      else front ++ '(' :: (qualifier ++ (", ".toList ++ parent)) ++ [')'] := by
  have hcut : Text.cut? '(' (front ++ '(' :: qualifier ++ [')']) =
      some (front, qualifier ++ [')']) := by
    rw [Text.cut?_eq_some_iff]
    exact ⟨List.append_assoc front _ _, hfront⟩
  rw [qualifySingle, hcut]
  dsimp only [Option.getD_some]
  rw [Text.dropLast?_concat, List.dropLast_concat]
  simp only [Option.getD_some, List.append_assoc, List.cons_append]

section Qualified

variable {name qualifier parent : Text} (hname : IsNameRun name) (hqualifier : IsNameRun qualifier)

include hname hqualifier

/-- Parentheses around a run of name characters are a single qualifier if there is one. -/
theorem hasSingleQualifier_parenthesized :
    hasSingleQualifier (parenthesized name qualifier) = isName qualifier := by
  have hline : '\n' ∉ name ++ [' '] := by
    have hnot : '\n' ∉ name := hname.not_mem (by decide) (by decide)
    simpa using hnot
  rw [parenthesized_concat]
  exact hasSingleQualifier_concat hline (hqualifier.not_mem (by decide) (by decide))

variable (hstate : abbreviation? parent = none)
  (hnames : equalsOrContains qualifier parent = true)

include hstate hnames

/-- A single qualifier that names the place above is left alone. -/
theorem qualifySingle_parenthesized :
    qualifySingle (parenthesized name qualifier) parent = parenthesized name qualifier := by
  have htype : ¬ (qualifier ≠ parent ∧ isTypeWord qualifier = true) := by
    rintro ⟨hne, hword⟩
    rw [isTypeWord_of_contains hqualifier hstate hnames hne] at hword
    contradiction
  rw [parenthesized_concat, qualifySingle_concat hname.not_mem_append_space, if_neg htype,
    if_pos hnames]

/-- A name is left alone if its qualifier names the place above, which is no state. -/
theorem qualify_parenthesized :
    qualify parent (parenthesized name qualifier) = parenthesized name qualifier := by
  have hclosed : (parenthesized name qualifier).dropLast? ')' =
      some (name ++ " (".toList ++ qualifier) := Text.dropLast?_concat _ _
  have hopen : (parenthesized name qualifier).contains '(' = true := by
    simp [parenthesized]
  rw [qualify, hstate, hclosed]
  dsimp only
  rw [hopen, hasSingleQualifier_parenthesized hname hqualifier]
  by_cases hnil : qualifier = []
  · rw [hnil]
    exact qualifyTyped_nil hname parent
  · rw [hqualifier.isName_iff.mpr hnil]
    exact qualifySingle_parenthesized hname hqualifier hstate hnames

end Qualified

/-! ## Chains of a place and a qualified name -/

/-- A name with a qualifier is never left out of a chain. -/
theorem isSkipped_parenthesized (name qualifier : Text) :
    isSkipped (parenthesized name qualifier) = false := by
  have hopen : ∀ known ∈ skippedPlaces, '(' ∉ known.toList := by decide
  rw [Bool.eq_false_iff]
  intro hskipped
  obtain ⟨known, hknown, hsame⟩ := List.any_eq_true.mp hskipped
  apply hopen known hknown
  rw [beq_iff_eq.mp hsame]
  simp [parenthesized]

/-- A chain of a place and a name with a qualifier. -/
theorem qualifyChain_pair {parent name qualifier : Text} (hparent : cleanHeading parent = parent)
    (hsingle : '#' ∉ parent) (hname : IsNameRun name) (hqualifier : IsNameRun qualifier)
    (hchild : cleanHeading (parenthesized name qualifier) = parenthesized name qualifier) :
    qualifyChain (parent ++ '#' :: parenthesized name qualifier) =
      [parent, qualify parent (parenthesized name qualifier)] := by
  have hlast : '#' ∉ parenthesized name qualifier := by
    have hfront : '#' ∉ name := hname.not_mem (by decide) (by decide)
    have hinside : '#' ∉ qualifier := hqualifier.not_mem (by decide) (by decide)
    simp [parenthesized, hfront, hinside]
  have hnames : chainNames (parent ++ '#' :: parenthesized name qualifier) =
      [parent, parenthesized name qualifier] := by
    rw [chainNames, Text.pieces_append hsingle, Text.pieces_of_not_mem hlast]
    simp only [List.map_cons, List.map_nil, hparent, hchild]
  rw [qualifyChain, hnames]
  dsimp only
  rw [List.filter_cons_of_pos (by simp [isSkipped_parenthesized])]
  rfl

/-- Below a place that its qualifier names already, a name stays exactly if that place is no state.
Below a state the abbreviation is added, be it the qualifier or not. -/
theorem qualifyChain_qualified {parent name qualifier : Text}
    (hparent : cleanHeading parent = parent) (hsingle : '#' ∉ parent) (hname : IsNameRun name)
    (hqualifier : IsNameRun qualifier)
    (hchild : cleanHeading (parenthesized name qualifier) = parenthesized name qualifier)
    (hnames : equalsOrContains qualifier parent = true) :
    ∃ place, qualifyChain (parent ++ '#' :: parenthesized name qualifier) = [parent, place] ∧
      (place = parenthesized name qualifier ↔ abbreviation? parent = none) ∧
      ∀ abbreviation, abbreviation? parent = some abbreviation →
        place = parenthesized (parenthesized name qualifier) abbreviation := by
  refine ⟨_, qualifyChain_pair hparent hsingle hname hqualifier hchild, ?_⟩
  cases hstate : abbreviation? parent with
  | none =>
    constructor
    · exact iff_of_true (qualify_parenthesized hname hqualifier hstate hnames) rfl
    · intro abbreviation habbreviation
      contradiction
  | some abbreviation =>
    have hadded : qualify parent (parenthesized name qualifier) =
        parenthesized (parenthesized name qualifier) abbreviation := by
      rw [qualify, hstate]
    constructor
    · refine iff_of_false (fun hsame => ?_) (by simp)
      have hlength := congrArg List.length (hadded.symm.trans hsame)
      simp [parenthesized] at hlength
    · rintro other hother
      rw [hadded, Option.some.inj hother]

/-- A qualifier that lists the place above among others is left alone. -/
theorem newport_qualified : ∃ parent name qualifier, parent = "Wales".toList ∧
    name = "Newport".toList ∧ qualifier = "England and Wales".toList ∧
      cleanHeading parent = parent ∧ '#' ∉ parent ∧ IsNameRun name ∧ IsNameRun qualifier ∧
      cleanHeading (parenthesized name qualifier) = parenthesized name qualifier ∧
      equalsOrContains qualifier parent = true ∧ abbreviation? parent = none ∧
      qualifyChain (parent ++ '#' :: parenthesized name qualifier) =
        [parent, parenthesized name qualifier] := by
  have hparent : cleanHeading "Wales".toList = "Wales".toList := by decide
  have hsingle : '#' ∉ "Wales".toList := by decide
  have hname : IsNameRun "Newport".toList :=
    isNameRun_of_forall (List.all_eq_true.mp (by decide))
  have hqualifier : IsNameRun "England and Wales".toList :=
    isNameRun_of_forall (List.all_eq_true.mp (by decide))
  have hchild : cleanHeading (parenthesized "Newport".toList "England and Wales".toList) =
      parenthesized "Newport".toList "England and Wales".toList := by decide
  have hnames : equalsOrContains "England and Wales".toList "Wales".toList = true := by
    decide
  have hstate : abbreviation? "Wales".toList = none := by decide
  obtain ⟨place, hchain, hstays, -⟩ :=
    qualifyChain_qualified hparent hsingle hname hqualifier hchild hnames
  rw [hstays.mpr hstate] at hchain
  exact ⟨_, _, _, rfl, rfl, rfl, hparent, hsingle, hname, hqualifier, hchild, hnames, hstate,
    hchain⟩

/-- Austin in Texas is qualified once more below Texas. -/
theorem austin_qualified_twice : ∃ parent name qualifier, parent = "Texas".toList ∧
    name = "Austin".toList ∧ qualifier = "Tex.".toList ∧ cleanHeading parent = parent ∧
      '#' ∉ parent ∧ (name ++ qualifier).all isNameChar = true ∧
      cleanHeading (parenthesized name qualifier) = parenthesized name qualifier ∧
      isSkipped (parenthesized name qualifier) = false ∧
      equalsOrContains qualifier parent = true ∧
      qualifyChain (parent ++ '#' :: parenthesized name qualifier) ≠
        [parent, parenthesized name qualifier] := by
  refine ⟨_, _, _, rfl, rfl, rfl, ?_⟩
  decide

end Region
end Shelfmark
