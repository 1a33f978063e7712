import Shelfmark.Proofs.Record.Once
import Shelfmark.Proofs.Region.Joining
import Shelfmark.Region.Facet

/-!
# Regions - Facet values that name a place

A heading that cleaning empties is left out of the facet, but a name of a chain is not.  It is
qualified like any other, and its value is a blank and the qualifier.  The same becomes of a name
that qualification itself empties: a closing parenthesis, or a kind of place in parentheses.  All
other values begin as the heading or name does that they are made of.

Main results:

- Theorem `qualify_keeps`: a name that is not emptied stays at the front of its value.
- Theorem `named_qualifyChain_iff`: every value of a chain begins with a name exactly if the chain
  has no gap.
- Theorem `facetValues_named_iff`: the values of a record, and when all of them begin with a name.
- Theorem `texas_unnamed`: a separator at the end of a chain makes a value without a name.
-/

namespace Shelfmark

namespace Region

open Character (isBlank)
open Text (IsTrimmed)

/-! ## Values with a name -/

/-- A value begins with a name: it is not empty, and it does not begin with white space. -/
def Named (value : Text) : Prop :=
  ∃ c ∈ value.head?, isBlank c = false

-- Without this instance all characters would be searched.
instance (value : Text) : Decidable (Named value) :=
  decidable_of_iff (value.head?.any (!isBlank ·) = true) (by simp [Named, Option.any_eq_true])

/-- A value is a qualifier in parentheses and nothing else. -/
def IsQualifierAlone (value : Text) : Prop :=
  ∃ qualifier, value.trim = '(' :: qualifier ++ [')'] ∧ '(' ∉ qualifier ∧ ')' ∉ qualifier

/-- A trimmed text begins with a name if it is not empty. -/
theorem named_iff_ne_nil {s : Text} (h : IsTrimmed s) : Named s ↔ s ≠ [] := by
  constructor
  · rintro ⟨c, hc, -⟩ rfl
    contradiction
  · intro hne
    obtain ⟨c, rest, rfl⟩ := List.exists_cons_of_ne_nil hne
    exact ⟨c, rfl, h.head c rfl⟩

/-- Without a name a qualifier stands behind a blank. -/
theorem not_named_parenthesized (qualifier : Text) : ¬ Named (parenthesized [] qualifier) := by
  rintro ⟨c, hc, hblank⟩
  obtain rfl : ' ' = c := Option.some.inj hc
  contradiction

/-- A text with a closing parenthesis at the end is a qualifier alone if the first character opens
that parenthesis and there are no others. -/
theorem isQualifierAlone_concat_iff {s : Text}
    (hhead : ∀ c ∈ (s ++ [')']).head?, isBlank c = false) :
    IsQualifierAlone (s ++ [')']) ↔
      ∃ qualifier, s = '(' :: qualifier ∧ '(' ∉ qualifier ∧ ')' ∉ qualifier := by
  have htrim : (s ++ [')']).trim = s ++ [')'] := by
    apply Text.trim_eq_self hhead
    intro c hc
    rw [List.getLast?_concat] at hc
    obtain rfl := Option.some.inj hc
    decide
  unfold IsQualifierAlone
  rw [htrim]
  simp only [List.append_left_inj]

/-- A qualifier behind a name is not alone. -/
theorem not_isQualifierAlone_parenthesized {name : Text} (h : Named name) (qualifier : Text) :
    ¬ IsQualifierAlone (parenthesized name qualifier) := by
  obtain ⟨c, hc, hblank⟩ := h
  obtain ⟨rest, rfl⟩ := List.head?_eq_some_iff.mp hc
  have hhead : ∀ d ∈ (parenthesized (c :: rest) qualifier).head?, isBlank d = false := by
    intro d hd
    obtain rfl : c = d := Option.some.inj hd
    exact hblank
  rw [parenthesized] at hhead ⊢
  rw [isQualifierAlone_concat_iff hhead]
  rintro ⟨inside, heq, hopen, -⟩
  obtain ⟨-, rfl⟩ := List.cons.inj heq
  exact hopen (by simp)

/-! ## What becomes of a name -/

/-- A value begins as the name does that it is made of, and is a qualifier alone only if the name
is. -/
structure KeepsName (name value : Text) : Prop where
  /-- The value begins as the name does. -/
  head_eq : value.head? = name.head?
  /-- The value is no more of a qualifier alone than the name. -/
  alone : IsQualifierAlone value → IsQualifierAlone name

/-- A name is kept by what leaves it as it is. -/
theorem KeepsName.refl (name : Text) : KeepsName name name :=
  ⟨rfl, id⟩

/-- A name is kept with it at the front, or a part of it, and any qualifier behind. -/
theorem keepsName_parenthesized {name front : Text} (hname : IsTrimmed name)
    (hfront : front <+: name) (hne : front ≠ []) (qualifier : Text) :
    KeepsName name (parenthesized front qualifier) := by
  obtain ⟨c, rest, rfl⟩ := List.exists_cons_of_ne_nil hne
  obtain ⟨back, rfl⟩ := hfront
  have hnamed : Named (c :: rest) := ⟨c, rfl, hname.head c rfl⟩
  exact ⟨rfl, fun h => absurd h (not_isQualifierAlone_parenthesized hnamed qualifier)⟩

/-- A name is kept with one more place in its parentheses. -/
theorem keepsName_listed {front qualifier : Text}
    (hname : IsTrimmed (front ++ '(' :: qualifier ++ [')'])) (added : Text) :
    KeepsName (front ++ '(' :: qualifier ++ [')'])
      (front ++ '(' :: (qualifier ++ added) ++ [')']) := by
  have hhead : (front ++ '(' :: (qualifier ++ added) ++ [')']).head? =
      (front ++ '(' :: qualifier ++ [')']).head? := by
    cases front with
    | nil => rfl
    | cons c front => rfl
  refine ⟨hhead, ?_⟩
  rw [isQualifierAlone_concat_iff hname.head,
    isQualifierAlone_concat_iff fun c hc => hname.head c (hhead ▸ hc)]
  rintro ⟨inside, heq, hopen, hclosed⟩
  cases front with
  | nil =>
    obtain ⟨-, rfl⟩ := List.cons.inj heq
    rw [List.mem_append, not_or] at hopen hclosed
    exact ⟨qualifier, rfl, hopen.1, hclosed.1⟩
  | cons c front =>
    obtain ⟨-, rfl⟩ := List.cons.inj heq
    exact absurd (by simp) hopen

/-! ## Names that are emptied -/

/-- Qualification by a place leaves nothing of a name: it is empty, or, below a place that is no
state, a closing parenthesis or another kind of place in parentheses. -/
inductive Nameless (parent : Text) : Text → Prop
  | empty : Nameless parent []
  | parenthesis : abbreviation? parent = none → Nameless parent [')']
  | kind {kind : Text} : abbreviation? parent = none → isName kind = true →
      isTypeWord kind = true → kind ≠ parent → Nameless parent ('(' :: kind ++ [')'])

/-- A kind of place has no parenthesis in its name. -/
theorem not_mem_of_isTypeWord {kind : Text} (h : isTypeWord kind = true) : '(' ∉ kind := by
  have hopen : ∀ known ∈ typeWords, '(' ∉ known.toList := by decide
  obtain ⟨known, hknown, hsame⟩ := List.any_eq_true.mp h
  exact beq_iff_eq.mp hsame ▸ hopen known hknown

/-- A kind of place in parentheses is a single qualifier if it consists of name characters. -/
theorem hasSingleQualifier_kind {kind : Text} (h : isTypeWord kind = true) :
    hasSingleQualifier ('(' :: kind ++ [')']) = isName kind :=
  hasSingleQualifier_concat List.not_mem_nil (not_mem_of_isTypeWord h)

/-- What is left without a space at the end is the front of a text. -/
theorem dropEndSpace_isPrefix (s : Text) : dropEndSpace s <+: s := by
  unfold dropEndSpace Text.dropLast?
  by_cases hspace : s.getLast? = some ' '
  · rw [if_pos hspace]
    exact List.dropLast_prefix s
  · rw [if_neg hspace]
    exact List.prefix_rfl

/-- Without a space at its end something is left of a name. -/
theorem dropEndSpace_ne_nil {s : Text} (h : Named s) : dropEndSpace s ≠ [] := by
  obtain ⟨c, hc, hblank⟩ := h
  obtain ⟨rest, rfl⟩ := List.head?_eq_some_iff.mp hc
  unfold dropEndSpace Text.dropLast?
  by_cases hspace : (c :: rest).getLast? = some ' '
  · rw [if_pos hspace]
    cases rest with
    | nil =>
      obtain rfl : c = ' ' := Option.some.inj hspace
      contradiction
    | cons d rest => exact List.cons_ne_nil c _
  · rw [if_neg hspace]
    exact List.cons_ne_nil c rest

/-- A name whose parentheses hold a single name is kept, unless it is a kind of place alone. -/
theorem qualifySingle_keeps {parent front qualifier : Text} (hstate : abbreviation? parent = none)
    (hname : IsTrimmed (front ++ '(' :: qualifier ++ [')'])) (hfront : '(' ∉ front)
    (hsingle : hasSingleQualifier (front ++ '(' :: qualifier ++ [')']) = true)
    (hkept : ¬ Nameless parent (front ++ '(' :: qualifier ++ [')'])) :
    KeepsName (front ++ '(' :: qualifier ++ [')'])
      (qualifySingle (front ++ '(' :: qualifier ++ [')']) parent) := by
  rw [qualifySingle_concat hfront]
  by_cases htype : qualifier ≠ parent ∧ isTypeWord qualifier = true
  · rw [if_pos htype]
    cases front with
    | nil =>
      rw [List.nil_append, hasSingleQualifier_kind htype.2] at hsingle
      exact absurd (.kind hstate hsingle htype.2 htype.1) hkept
    | cons c front =>
      have hnamed : Named (c :: front) := ⟨c, rfl, hname.head c rfl⟩
      have hprefix : c :: front <+: c :: front ++ '(' :: qualifier ++ [')'] :=
        ⟨'(' :: qualifier ++ [')'], (List.append_assoc _ _ _).symm⟩
      exact keepsName_parenthesized hname ((dropEndSpace_isPrefix _).trans hprefix)
        (dropEndSpace_ne_nil hnamed) _
  · rw [if_neg htype]
    by_cases hnames : equalsOrContains qualifier parent = true
    · rw [if_pos hnames]
      exact KeepsName.refl _
    · rw [if_neg hnames]
      exact keepsName_listed hname _

/-- The name in front of a typed qualifier is the front of the text. -/
theorem front_prefix_of_ofText? {s : Text} {typed : TypedName}
    (h : TypedName.ofText? s = some typed) : typed.front <+: s := by
  simp only [TypedName.ofText?, Option.bind_eq_some_iff, Prod.exists] at h
  obtain ⟨front, inside, hcut, inner, -, place, kind, -, hread⟩ := h
  obtain ⟨rfl, -⟩ := Text.cut?_eq_some_iff.mp hcut
  split at hread
  · split at hread
    · obtain rfl := Option.some.inj hread
      exact List.prefix_append front _
    · contradiction
  · contradiction

/-- A name with a typed qualifier is kept, and so is what only looks like one. -/
theorem qualifyTyped_keeps {name : Text} (hname : IsTrimmed name) (parent : Text) :
    KeepsName name (qualifyTyped name parent) := by
  unfold qualifyTyped
  cases htyped : TypedName.ofText? name with
  | none => exact KeepsName.refl name
  | some typed =>
    dsimp only
    cases hrun : nameOfRun? typed.front with
    | none => exact KeepsName.refl name
    | some front =>
      obtain ⟨-, hne⟩ := ne_nil_of_nameOfRun? hrun
      obtain ⟨rfl, -⟩ := nameOfRun?_eq_some_iff.mp hrun
      have hprefix : dropEndSpace typed.front <+: name :=
        (dropEndSpace_isPrefix typed.front).trans (front_prefix_of_ofText? htyped)
      exact keepsName_parenthesized hname hprefix hne _

/-- A name that is not emptied stays at the front of its value. -/
theorem qualify_keeps {parent name : Text} (hname : IsTrimmed name)
    (hkept : ¬ Nameless parent name) : KeepsName name (qualify parent name) := by
  have hne : name ≠ [] := by
    rintro rfl
    exact hkept .empty
  unfold qualify
  -- A state is added behind any name; below another place the parentheses of the name decide.
  cases hstate : abbreviation? parent with
  | some abbreviation => exact keepsName_parenthesized hname List.prefix_rfl hne abbreviation
  | none =>
    cases hclosed : name.dropLast? ')' with
    | none => exact keepsName_parenthesized hname List.prefix_rfl hne parent
    | some before =>
      obtain rfl := Text.eq_of_dropLast? hclosed
      dsimp only
      by_cases hopen : '(' ∈ before
      · obtain ⟨front, qualifier, rfl, hfront⟩ := List.eq_append_cons_of_mem hopen
        rw [if_neg (by simp)]
        by_cases hsingle : hasSingleQualifier (front ++ '(' :: qualifier ++ [')']) = true
        · rw [if_pos hsingle]
          exact qualifySingle_keeps hstate hname hfront hsingle hkept
        · rw [if_neg hsingle]
          exact qualifyTyped_keeps hname parent
      · rw [if_pos (by simpa using hopen)]
        refine keepsName_parenthesized hname (List.prefix_append before [')']) ?_ parent
        rintro rfl
        exact hkept (.parenthesis hstate)

/-- Of a name that is emptied its value has the qualifier only. -/
theorem Nameless.qualify_eq {parent name : Text} (h : Nameless parent name) :
    ∃ qualifier, qualify parent name = parenthesized [] qualifier := by
  cases h with
  | empty =>
    unfold qualify
    cases abbreviation? parent with
    | some abbreviation => exact ⟨abbreviation, rfl⟩
    | none => exact ⟨parent, rfl⟩
  | parenthesis hstate =>
    refine ⟨parent, ?_⟩
    rw [qualify, hstate]
    rfl
  | @kind kind hstate hkind hword hne =>
    refine ⟨parent ++ " : ".toList ++ kind, ?_⟩
    have hsingle : qualifySingle ('(' :: kind ++ [')']) parent =
        parenthesized [] (parent ++ " : ".toList ++ kind) :=
      (qualifySingle_concat List.not_mem_nil kind parent).trans (if_pos ⟨hne, hword⟩)
    rw [qualify, hstate, Text.dropLast?_concat]
    dsimp only
    rw [if_neg (by simp), hasSingleQualifier_kind hword, if_pos hkind, hsingle]

/-- A value begins with a name exactly if the name was not emptied. -/
theorem named_qualify_iff {parent name : Text} (hname : IsTrimmed name) :
    Named (qualify parent name) ↔ ¬ Nameless parent name := by
  constructor
  · rintro hnamed hnameless
    obtain ⟨qualifier, heq⟩ := hnameless.qualify_eq
    rw [heq] at hnamed
    exact not_named_parenthesized qualifier hnamed
  · intro hkept
    have hne : name ≠ [] := by
      rintro rfl
      exact hkept .empty
    rw [Named, (qualify_keeps hname hkept).head_eq]
    exact (named_iff_ne_nil hname).mpr hne

/-! ## Chains with a gap -/

/-- The names of a chain below the first, those that are left out apart, each with the place that
qualifies it. -/
def links (chain : Text) : List (Text × Text) :=
  match chainNames chain with
  | [] => []
  | first :: names =>
    match names.filter (!isSkipped ·) with
    | [] => []
    | second :: below => (first, second) :: below.map (joinQualifiers (qualify first second), ·)

/-- The places of a chain are its first name and the others, qualified. -/
theorem qualifyChain_eq (chain : Text) : ∃ first, (chainNames chain).head? = some first ∧
    qualifyChain chain = first :: (links chain).map fun link => qualify link.1 link.2 := by
  unfold qualifyChain links
  cases hnames : chainNames chain with
  | nil => exact absurd (List.map_eq_nil_iff.mp hnames) (Text.pieces_ne_nil '#' chain)
  | cons first names =>
    refine ⟨first, rfl, ?_⟩
    dsimp only
    cases names.filter (!isSkipped ·) with
    | nil => rfl
    | cons second below => simp

/-- What is qualified in a chain is one of its names. -/
theorem mem_chainNames_of_mem_links {chain : Text} {link : Text × Text} (h : link ∈ links chain) :
    link.2 ∈ chainNames chain := by
  unfold links at h
  cases hnames : chainNames chain with
  | nil =>
    rw [hnames] at h
    contradiction
  | cons first names =>
    have hkept : ∀ name ∈ names.filter (!isSkipped ·), name ∈ first :: names :=
      fun name hname => List.mem_cons_of_mem first (List.mem_filter.mp hname).1
    rw [hnames] at h
    dsimp only at h
    cases hfilter : names.filter (!isSkipped ·) with
    | nil =>
      rw [hfilter] at h
      contradiction
    | cons second below =>
      rw [hfilter] at h hkept
      rcases List.mem_cons.mp h with rfl | hbelow
      · exact hkept second List.mem_cons_self
      · obtain ⟨name, hname, rfl⟩ := List.mem_map.mp hbelow
        exact hkept name (List.mem_cons_of_mem second hname)

/-- The names of a chain are trimmed. -/
theorem isTrimmed_of_mem_chainNames {chain name : Text} (h : name ∈ chainNames chain) :
    IsTrimmed name := by
  obtain ⟨piece, -, rfl⟩ := List.mem_map.mp h
  exact (isClean_cleanHeading piece).trimmed

/-- A chain has a gap if its first name is empty, or if one of the others is emptied. -/
def HasGap (chain : Text) : Prop :=
  (chainNames chain).head? = some [] ∨ ∃ link ∈ links chain, Nameless link.1 link.2

/-- Every value of a chain begins with a name exactly if the chain has no gap. -/
theorem named_qualifyChain_iff (chain : Text) :
    (∀ value ∈ qualifyChain chain, Named value) ↔ ¬ HasGap chain := by
  obtain ⟨first, hfirst, heq⟩ := qualifyChain_eq chain
  have htrimmed : IsTrimmed first := isTrimmed_of_mem_chainNames (List.mem_of_head? hfirst)
  have hlinks : (∀ link ∈ links chain, Named (qualify link.1 link.2)) ↔
      ∀ link ∈ links chain, ¬ Nameless link.1 link.2 :=
    forall₂_congr fun link hlink =>
      named_qualify_iff (isTrimmed_of_mem_chainNames (mem_chainNames_of_mem_links hlink))
  rw [heq, List.forall_mem_cons, List.forall_mem_map, named_iff_ne_nil htrimmed, hlinks, HasGap,
    hfirst, Option.some_inj, not_or]
  simp only [not_exists, not_and]

/-- In a chain without a gap only a qualifier alone makes one. -/
theorem exists_alone_of_mem_qualifyChain {chain value : Text} (hgap : ¬ HasGap chain)
    (hvalue : value ∈ qualifyChain chain) (halone : IsQualifierAlone value) :
    ∃ name ∈ chainNames chain, IsQualifierAlone name := by
  obtain ⟨first, hfirst, heq⟩ := qualifyChain_eq chain
  rw [heq] at hvalue
  rcases List.mem_cons.mp hvalue with rfl | hvalue
  · exact ⟨value, List.mem_of_head? hfirst, halone⟩
  · obtain ⟨link, hlink, rfl⟩ := List.mem_map.mp hvalue
    have hname := mem_chainNames_of_mem_links hlink
    have hkept : ¬ Nameless link.1 link.2 := fun h => hgap (Or.inr ⟨link, hlink, h⟩)
    exact ⟨link.2, hname, (qualify_keeps (isTrimmed_of_mem_chainNames hname) hkept).alone halone⟩

/-! ## The facet -/

section Facet

variable (reader : FieldReader) (fields : FieldSpecs)

/-- The names that a record gives: its headings, cleaned, and the names of its chains. -/
def givenNames : List Text :=
  places reader fields ++ (reader.listValues fields.regionSubdivisions).flatMap chainNames

/-- The values are those of the record, each once, and the cleaned headings come first in their
order. -/
structure IsFacet (values : List Text) : Prop where
  /-- No value is listed twice. -/
  nodup : values.Nodup
  /-- The headings come first, each where the record has it first. -/
  headings_first : (places reader fields).eraseDups <+: values
  /-- Nothing is left out or added. -/
  mem_iff : ∀ value, value ∈ values ↔ value ∈ places reader fields ∨ value ∈ chained reader fields

variable {reader fields}

/-- The facet has the values of the record, if there are any. -/
theorem facetOf?_eq_some_iff {values : List Text} : facetOf? reader fields = some values ↔
    (places reader fields ++ chained reader fields).eraseDups = values ∧ values ≠ [] := by
  unfold facetOf?
  cases (places reader fields ++ chained reader fields).eraseDups with
  | nil =>
    constructor
    · intro h
      contradiction
    · rintro ⟨rfl, hne⟩
      exact absurd rfl hne
  | cons value rest =>
    rw [Option.some_inj]
    constructor
    · rintro rfl
      exact ⟨rfl, List.cons_ne_nil value rest⟩
    · rintro ⟨heq, -⟩
      exact heq

/-- There is no facet exactly if there is no value. -/
theorem facetOf?_eq_none_iff :
    facetOf? reader fields = none ↔ places reader fields = [] ∧ chained reader fields = [] := by
  rw [← List.append_eq_nil_iff, List.eq_nil_iff_forall_not_mem, Option.eq_none_iff_forall_ne_some]
  constructor
  · intro hnone value hvalue
    rw [← List.mem_eraseDups] at hvalue
    exact hnone _ (facetOf?_eq_some_iff.mpr ⟨rfl, List.ne_nil_of_mem hvalue⟩)
  · intro hempty values hsome
    obtain ⟨rfl, hne⟩ := facetOf?_eq_some_iff.mp hsome
    obtain ⟨value, hvalue⟩ := List.exists_mem_of_ne_nil _ hne
    exact hempty value (List.mem_eraseDups.mp hvalue)

/-- The headings that are not left out begin with a name. -/
theorem named_of_mem_places {value : Text} (h : value ∈ places reader fields) : Named value := by
  obtain ⟨hmem, hne⟩ := List.mem_filter.mp h
  obtain ⟨heading, -, rfl⟩ := List.mem_map.mp hmem
  rw [named_iff_ne_nil (isClean_cleanHeading heading).trimmed]
  simpa using hne

/-- The values of the facet are those of the record. -/
theorem isFacet_of_facetOf? {values : List Text} (h : facetOf? reader fields = some values) :
    IsFacet reader fields values := by
  obtain ⟨rfl, -⟩ := facetOf?_eq_some_iff.mp h
  constructor
  · exact (listsOnce_eraseDups _).nodup
  · rw [List.eraseDups_append]
    exact List.prefix_append _ _
  · intro value
    rw [List.mem_eraseDups, List.mem_append]

/-- All values of the record begin with a name exactly if no chain has a gap. -/
theorem IsFacet.named_iff {values : List Text} (h : IsFacet reader fields values) :
    (∀ value ∈ values, Named value) ↔
      ∀ chain ∈ reader.listValues fields.regionSubdivisions, ¬ HasGap chain := by
  constructor
  · intro hnamed chain hchain
    rw [← named_qualifyChain_iff]
    intro value hvalue
    have hchained : value ∈ chained reader fields := List.mem_flatMap.mpr ⟨chain, hchain, hvalue⟩
    exact hnamed value ((h.mem_iff value).mpr (Or.inr hchained))
  · intro hgap value hvalue
    rcases (h.mem_iff value).mp hvalue with hplace | hchained
    · exact named_of_mem_places hplace
    · obtain ⟨chain, hchain, hmem⟩ := List.mem_flatMap.mp hchained
      exact (named_qualifyChain_iff chain).mpr (hgap chain hchain) value hmem

/-- A value of the record that is a qualifier alone comes from a gap, or the record gives one. -/
theorem IsFacet.gap_or_given {values : List Text} (h : IsFacet reader fields values) {value : Text}
    (hvalue : value ∈ values) (halone : IsQualifierAlone value) :
    (∃ chain ∈ reader.listValues fields.regionSubdivisions, HasGap chain) ∨
      ∃ name ∈ givenNames reader fields, IsQualifierAlone name := by
  rcases (h.mem_iff value).mp hvalue with hplace | hchained
  · exact Or.inr ⟨value, List.mem_append_left _ hplace, halone⟩
  · obtain ⟨chain, hchain, hmem⟩ := List.mem_flatMap.mp hchained
    by_cases hgap : HasGap chain
    · exact Or.inl ⟨chain, hchain, hgap⟩
    · obtain ⟨name, hname, halone⟩ := exists_alone_of_mem_qualifyChain hgap hmem halone
      have hgiven : name ∈ givenNames reader fields :=
        List.mem_append_right _ (List.mem_flatMap.mpr ⟨chain, hchain, hname⟩)
      exact Or.inr ⟨name, hgiven, halone⟩

end Facet

/-- The facet of a record is missing exactly if there is no value.  Its values are different, and
the cleaned headings come first.  All of them begin with a name exactly if no chain has a gap, and
without a gap none is a qualifier alone but what the record gives as one. -/
theorem facetValues_named_iff (reader : FieldReader) (fields : FieldSpecs) :
    (facetOf? reader fields = none ↔ places reader fields = [] ∧ chained reader fields = []) ∧
      ∀ values ∈ facetOf? reader fields, values ≠ [] ∧ IsFacet reader fields values ∧
        ((∀ value ∈ values, Named value) ↔
          ∀ chain ∈ reader.listValues fields.regionSubdivisions, ¬ HasGap chain) ∧
        ∀ value ∈ values, IsQualifierAlone value →
          (∃ chain ∈ reader.listValues fields.regionSubdivisions, HasGap chain) ∨
            ∃ name ∈ givenNames reader fields, IsQualifierAlone name := by
  refine ⟨facetOf?_eq_none_iff, ?_⟩
  intro values hvalues
  obtain ⟨-, hne⟩ := facetOf?_eq_some_iff.mp hvalues
  have hfacet : IsFacet reader fields values := isFacet_of_facetOf? hvalues
  exact ⟨hne, hfacet, hfacet.named_iff, fun value hvalue => hfacet.gap_or_given hvalue⟩

/-- A city in a chain of its own is listed behind the headings, and no chain has a gap. -/
theorem austin_named :
    let record : Record :=
      { fields := [("651a".toList, ["Texas.".toList, "Mexico".toList]),
          ("650z'#'".toList, ["Texas#Austin".toList, "Mexico".toList])] }
    facet? record {} = some (["Texas", "Mexico", "Austin (Tex.)"].map String.toList) ∧
      ∀ chain ∈ ["Texas#Austin", "Mexico"].map String.toList, ¬ HasGap chain := by
  intro record
  have hfacet : facet? record {} =
      some (["Texas", "Mexico", "Austin (Tex.)"].map String.toList) := by decide
  have hnamed : ∀ value ∈ ["Texas", "Mexico", "Austin (Tex.)"].map String.toList, Named value := by
    decide
  have hchains : record.reader.listValues (FieldSpecs.regionSubdivisions {}) =
      ["Texas#Austin", "Mexico"].map String.toList := by decide
  obtain ⟨-, hvalues⟩ := facetValues_named_iff record.reader {}
  obtain ⟨-, -, hiff, -⟩ := hvalues _ hfacet
  exact ⟨hfacet, hchains ▸ hiff.mp hnamed⟩

/-- A separator at the end of a chain makes a qualifier that is the whole value. -/
theorem texas_unnamed :
    let record : Record := { fields := [("650z'#'".toList, ["Texas#".toList])] }
    facet? record {} = some (["Texas", " (Tex.)"].map String.toList) ∧
      ¬ Named " (Tex.)".toList ∧ IsQualifierAlone " (Tex.)".toList :=
  ⟨by decide, by decide, "Tex.".toList, by decide, by decide, by decide⟩

end Region
end Shelfmark
