import Shelfmark.Proofs.Region.Name
import Shelfmark.Proofs.Text.Separator
import Shelfmark.Region.Chain

/-!
# Regions - Qualification along a chain

Each later name of a chain should be qualified by the name before it.  That holds for the second
name and for the third, whose qualifier is the second name together with the first.  All names
further down carry the same qualifier as the third: they are qualified by the second name of the
chain, whatever stands between.

Main results:

- Theorem `joinQualifiers_parenthesized`: a qualified name as it qualifies others.
- Theorem `qualifyChain_join`: the places of a chain of plain names.
- Theorem `inTurn_qualifyChain_iff`: each place is qualified by the one before it in chains of up
  to three names, and in no others.
- Theorem `fourthName_not_inTurn`: a fourth name is qualified by the second.
-/

namespace Shelfmark
namespace Region

open Character (isLetter)

/-! ## Qualifying a plain name -/

/-- What is not in the list of states is none. -/
theorem abbreviation?_eq_none_iff {place : Text} :
    abbreviation? place = none ↔ ∀ entry ∈ abbreviations, entry.1.toList ≠ place := by
  unfold abbreviation?
  rw [Option.map_eq_none_iff, List.find?_eq_none]
  simp only [beq_iff_eq]

/-- A list of names is no state. -/
theorem abbreviation?_of_comma {place : Text} (h : ',' ∈ place) : abbreviation? place = none := by
  have hcomma : ∀ entry ∈ abbreviations, ',' ∉ entry.1.toList := by decide +kernel
  rw [abbreviation?_eq_none_iff]
  rintro entry hentry rfl
  exact hcomma entry hentry h

/-- A name without a closing parenthesis takes a place that is no state as its qualifier. -/
theorem qualify_unqualified {parent name : Text} (hname : ')' ∉ name)
    (hparent : abbreviation? parent = none) : qualify parent name = parenthesized name parent := by
  have hbracket : name.dropLast? ')' = none :=
    if_neg fun hlast => hname (List.mem_of_getLast? hlast)
  rw [qualify, hparent, hbracket]

/-- A plain name with a plain qualifier qualifies other names as a list of the two. -/
theorem joinQualifiers_parenthesized {name qualifier : Text} (hname : PlainName name)
    (hqualifier : PlainName qualifier) :
    joinQualifiers (parenthesized name qualifier) = name ++ ", ".toList ++ qualifier := by
  have hread : qualifiedName? (parenthesized name qualifier) = some (name, qualifier, [')']) :=
    hname.qualifiedName?_append hqualifier []
  have htrimmed : Text.IsTrimmed (name ++ ", ".toList ++ qualifier) := by
    constructor
    · intro c hc
      obtain ⟨d, rest, rfl⟩ := List.exists_cons_of_ne_nil hname.ne_nil
      exact hname.isTrimmed.head c hc
    · intro c hc
      have hlast := List.getLast?_eq_some_getLast hqualifier.ne_nil
      rw [List.getLast?_append, hlast] at hc
      refine hqualifier.isTrimmed.last c ?_
      rwa [hlast]
  unfold joinQualifiers
  cases hcons : parenthesized name qualifier with
  | nil => simp [parenthesized] at hcons
  | cons c s =>
    rw [hcons] at hread
    have hnothing (steps : Nat) : joinQualifiersWithin steps ([')'].dropWhile (· != '\n')) = [] := by
      cases steps with
      | zero => rfl
      | succ steps => rfl
    rw [List.length_cons, joinQualifiersWithin, hread]
    dsimp only
    rw [hnothing, List.append_nil, htrimmed.trim_eq]

/-! ## Chains of plain names -/

/-- The places of a chain of clean names that are all kept: the second is qualified by the first,
and all others by the second as it qualifies names below it. -/
theorem qualifyChain_names {first second : Text} {below : List Text}
    (hclean : ∀ name ∈ first :: second :: below, cleanHeading name = name)
    (hsingle : ∀ name ∈ first :: second :: below, '#' ∉ name)
    (hkept : ∀ name ∈ second :: below, isSkipped name = false) :
    qualifyChain (Text.join ['#'] (first :: second :: below)) =
      first :: qualify first second ::
        below.map (qualify (joinQualifiers (qualify first second))) := by
  have hnames : chainNames (Text.join ['#'] (first :: second :: below)) =
      first :: second :: below := by
    rw [chainNames, Text.pieces_join (by simp) hsingle]
    exact (List.map_congr_left hclean).trans (List.map_id' _)
  have hfilter : (second :: below).filter (!isSkipped ·) = second :: below :=
    List.filter_eq_self.mpr fun name hname => by
      rw [hkept name hname]
      rfl
  rw [qualifyChain, hnames]
  dsimp only
  rw [hfilter]

section Chain

variable {first second : Text} {below : List Text}
  (hplain : ∀ name ∈ first :: second :: below, PlainName name)
  (hkept : ∀ name ∈ first :: second :: below, isSkipped name = false)
  (hstate : ∀ name ∈ first :: second :: below, abbreviation? name = none)

include hplain hkept hstate

/-- In a chain of plain names the second is qualified by the first, and all others by the second
together with the first. -/
theorem qualifyChain_join :
    qualifyChain (Text.join ['#'] (first :: second :: below)) =
      first :: parenthesized second first ::
        below.map fun name => parenthesized name (second ++ ", ".toList ++ first) := by
  have hfirst := hplain first (by simp)
  have hsecond := hplain second (by simp)
  have hnot {sign : Char} (hsign : isLetter sign = false) (hspace : sign ≠ ' ') :
      ∀ name ∈ first :: second :: below, sign ∉ name :=
    fun name hname => (hplain name hname).not_mem hsign hspace
  have hclosed : ∀ name ∈ first :: second :: below, ')' ∉ name := hnot (by decide) (by decide)
  have hchild : qualify first second = parenthesized second first :=
    qualify_unqualified (hclosed second (by simp)) (hstate first (by simp))
  have hbelow : below.map (qualify (second ++ ", ".toList ++ first)) =
      below.map fun name => parenthesized name (second ++ ", ".toList ++ first) :=
    List.map_congr_left fun name hname =>
      qualify_unqualified (hclosed name (by simp [hname])) (abbreviation?_of_comma (by simp))
  rw [qualifyChain_names (fun name hname => (hplain name hname).cleanHeading_eq)
    (hnot (by decide) (by decide)) fun name hname => hkept name (List.mem_cons_of_mem first hname),
    hchild, joinQualifiers_parenthesized hsecond hfirst, hbelow]

end Chain

/-! ## Qualification in turn -/

/-- A name is qualified by a place if its qualifier is that place or goes on behind it. -/
def QualifiedBy (previous name place : Text) : Prop :=
  ∃ qualifier, place = parenthesized name qualifier ∧
    (qualifier = previous ∨ (previous ++ ", ".toList) <+: qualifier)

/-- The names of a chain behind `previous` are each qualified by the name before it. -/
inductive InTurn : Text → List Text → List Text → Prop
  | nil (previous : Text) : InTurn previous [] []
  | cons {previous name place : Text} {names places : List Text} :
      QualifiedBy previous name place → InTurn name names places →
        InTurn previous (name :: names) (place :: places)

/-- What a name in parentheses is qualified by can be read off its qualifier. -/
theorem qualifiedBy_parenthesized_iff {previous name qualifier : Text} :
    QualifiedBy previous name (parenthesized name qualifier) ↔
      qualifier = previous ∨ (previous ++ ", ".toList) <+: qualifier := by
  constructor
  · rintro ⟨other, hplace, hother⟩
    obtain rfl : qualifier = other := by simpa [parenthesized] using hplace
    exact hother
  · intro h
    exact ⟨qualifier, rfl, h⟩

/-- A list of plain names goes on behind no plain name but its first. -/
theorem eq_of_prefix_list {previous second first : Text} (hprevious : PlainName previous)
    (hsecond : PlainName second)
    (h : (previous ++ ", ".toList) <+: second ++ ", ".toList ++ first) : previous = second := by
  have hcomma {name : Text} (hname : PlainName name) : ',' ∉ name :=
    hname.not_mem (by decide) (by decide)
  obtain ⟨rest, hrest⟩ := h
  have hpieces := congrArg (Text.pieces ',') hrest
  have hlist : ", ".toList = [',', ' '] := rfl
  simp only [hlist, List.append_assoc, List.cons_append, List.nil_append,
    Text.pieces_append (hcomma hprevious), Text.pieces_append (hcomma hsecond),
    List.cons.injEq] at hpieces
  exact hpieces.1

/-- In a chain of different plain names, of which none is a state, the second is qualified by the
first and all below by these two; so each is qualified by the name before it exactly in chains of
up to three names. -/
theorem inTurn_qualifyChain_iff {first second : Text} {below : List Text}
    (hplain : ∀ name ∈ first :: second :: below, PlainName name)
    (hkept : ∀ name ∈ first :: second :: below, isSkipped name = false)
    (hstate : ∀ name ∈ first :: second :: below, abbreviation? name = none)
    (hdistinct : (first :: second :: below).Nodup) :
    ∃ places, qualifyChain (Text.join ['#'] (first :: second :: below)) = first :: places ∧
      places = parenthesized second first ::
        below.map (parenthesized · (second ++ ", ".toList ++ first)) ∧
      (InTurn first (second :: below) places ↔ below.length ≤ 1) := by
  refine ⟨_, qualifyChain_join hplain hkept hstate, rfl, ?_⟩
  have hchild : QualifiedBy first second (parenthesized second first) :=
    qualifiedBy_parenthesized_iff.mpr (.inl rfl)
  constructor
  · intro h
    match below with
    | [] => exact Nat.zero_le 1
    | [_] => exact Nat.le_refl 1
    | third :: fourth :: rest =>
      -- The qualifier of the fourth name begins with the second, and should begin with the third.
      obtain - | ⟨-, - | ⟨-, - | ⟨hfourth, -⟩⟩⟩ := h
      have hthird : PlainName third := hplain third (by simp)
      have hne : third ≠ second := by
        rintro rfl
        simp at hdistinct
      rcases qualifiedBy_parenthesized_iff.mp hfourth with heq | hprefix
      · refine absurd (heq ▸ ?_) (hthird.not_mem (c := ',') (by decide) (by decide))
        simp
      · exact absurd (eq_of_prefix_list hthird (hplain second (by simp)) hprefix) hne
  · intro hlength
    match below with
    | [] => exact .cons hchild (.nil second)
    | [third] =>
      refine .cons hchild (.cons ?_ (.nil third))
      exact qualifiedBy_parenthesized_iff.mpr (.inr (List.prefix_append _ first))

/-- A part of a city is qualified by the city, and the city by the country. -/
theorem threeNames_inTurn :
    let names := ["Germany", "Berlin", "Prenzlauer Berg"].map String.toList
    (∀ name ∈ names, PlainName name) ∧ (∀ name ∈ names, isSkipped name = false) ∧
      (∀ name ∈ names, abbreviation? name = none) ∧ names.Nodup ∧
      ∃ places, qualifyChain (Text.join ['#'] names) = "Germany".toList :: places ∧
        places = ["Berlin (Germany)", "Prenzlauer Berg (Berlin, Germany)"].map String.toList ∧
        InTurn "Germany".toList names.tail places := by
  have hplain : ∀ name ∈ ["Germany", "Berlin", "Prenzlauer Berg"].map String.toList,
      PlainName name := by decide +kernel
  have hkept : ∀ name ∈ ["Germany", "Berlin", "Prenzlauer Berg"].map String.toList,
      isSkipped name = false := by decide +kernel
  have hstate : ∀ name ∈ ["Germany", "Berlin", "Prenzlauer Berg"].map String.toList,
      abbreviation? name = none := by decide +kernel
  have hdistinct : (["Germany", "Berlin", "Prenzlauer Berg"].map String.toList).Nodup := by
    decide +kernel
  obtain ⟨places, hchain, hplaces, hturn⟩ := inTurn_qualifyChain_iff hplain hkept hstate hdistinct
  exact ⟨hplain, hkept, hstate, hdistinct, places, hchain, hplaces, hturn.mpr (Nat.le_refl 1)⟩

/-- A fourth name is qualified by the second, and not by the third above it. -/
theorem fourthName_not_inTurn :
    let names := ["Germany", "Berlin", "Mitte", "Tiergarten"].map String.toList
    (∀ name ∈ names, PlainName name ∧ isSkipped name = false ∧ abbreviation? name = none) ∧
      names.Nodup ∧ names.map cleanHeading = names ∧
      ¬ InTurn "Germany".toList names.tail (qualifyChain (Text.join ['#'] names)).tail := by
  have hnames : ∀ name ∈ ["Germany", "Berlin", "Mitte", "Tiergarten"].map String.toList,
      PlainName name ∧ isSkipped name = false ∧ abbreviation? name = none := by decide +kernel
  refine ⟨hnames, by decide +kernel, by decide +kernel, ?_⟩
  have hchain : qualifyChain
      (Text.join ['#'] (["Germany", "Berlin", "Mitte", "Tiergarten"].map String.toList)) = _ :=
    qualifyChain_join (fun name hname => (hnames name hname).1)
      (fun name hname => (hnames name hname).2.1) fun name hname => (hnames name hname).2.2
  rw [hchain]
  intro h
  obtain - | ⟨-, - | ⟨-, - | ⟨hfourth, -⟩⟩⟩ := h
  exact absurd (qualifiedBy_parenthesized_iff.mp hfourth) (by decide +kernel)

end Region
end Shelfmark
