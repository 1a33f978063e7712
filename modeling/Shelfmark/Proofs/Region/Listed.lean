import Shelfmark.Proofs.Region.Qualifier

/-!
# Regions - Qualifiers that list places

A qualifier may list several places, with commas between them and perhaps "and" in front of the
last.  Whether it names a place is asked of the text: the place is looked for behind a comma, behind
"and" and in front of "and", and its ends are not looked at.  So the first place of a list is not
found in front of a comma, and a place is found that a listed name only begins with, or that a name
in front of "and" ends with.

Main results:

- Theorem `Text.cons_infix_append_cons_iff`: what begins with a separator occurs at one of them.
- Theorem `append_and_inj`: a text without the word "and" is read off what stands in front of it.
- Theorem `comma_infix_iff`: what is found behind a comma.
- Theorem `equalsOrContains_listed_iff`: the places that a list is found to name.
- Theorem `wales_overlooked`: the first place of a list is overlooked in front of a comma.
-/

namespace Shelfmark

/-! ## Occurrences at a separator -/

namespace Text

section Separator

variable {separator : Char} {s t u : Text}

/-- What begins with a separator occurs at the first one or behind it. -/
theorem cons_infix_append_cons_iff (h : separator ∉ s) :
    (separator :: u) <:+: s ++ separator :: t ↔ u <+: t ∨ (separator :: u) <:+: t := by
  induction s with
  | nil => rw [List.nil_append, List.infix_cons_iff, List.cons_prefix_cons, and_iff_right rfl]
  | cons c s ih =>
    obtain ⟨hc, hs⟩ := not_or.mp (mt List.mem_cons.mpr h)
    rw [List.cons_append, List.infix_cons_iff, List.cons_prefix_cons, ih hs]
    exact or_iff_right fun hfront => hc hfront.1

/-- What has no separator is in front of the first one as a whole. -/
theorem prefix_append_cons_iff (h : separator ∉ u) : u <+: s ++ separator :: t ↔ u <+: s := by
  constructor
  · intro hfront
    rcases List.prefix_or_prefix_of_prefix hfront (List.prefix_append s _) with hle | ⟨v, rfl⟩
    · exact hle
    · cases v with
      | nil => simp
      | cons c v =>
        rw [List.prefix_append_right_inj, List.cons_prefix_cons] at hfront
        exact absurd (by simp [hfront.1]) h
  · intro hfront
    exact hfront.trans (List.prefix_append s _)

/-- What has no separator is behind the last one as a whole. -/
theorem suffix_append_cons_iff (h : separator ∉ u) : u <:+ t ++ separator :: s ↔ u <:+ s := by
  have hreverse : separator ∉ u.reverse := by rwa [List.mem_reverse]
  rw [← List.reverse_prefix, ← List.reverse_prefix, List.reverse_append, List.reverse_cons,
    List.append_assoc, List.singleton_append, prefix_append_cons_iff hreverse]

/-! ## Pieces of a text -/

/-- A separator divides a text and its pieces. -/
theorem pieces_append_cons (separator : Char) (s t : Text) :
    pieces separator (s ++ separator :: t) = pieces separator s ++ pieces separator t := by
  induction s with
  | nil =>
    have hfirst : pieces separator [] = [[]] := rfl
    rw [List.nil_append, hfirst, pieces, if_pos rfl, List.singleton_append]
  | cons c s ih =>
    rw [List.cons_append, pieces, pieces, ih]
    split
    · rfl
    · cases hpieces : pieces separator s with
      | nil => exact absurd hpieces (pieces_ne_nil separator s)
      | cons piece rest => rfl

/-- A text is told by its pieces. -/
theorem join_pieces (separator : Char) (s : Text) : join [separator] (pieces separator s) = s := by
  induction s with
  | nil => rfl
  | cons c s ih =>
    rw [pieces]
    cases hpieces : pieces separator s with
    | nil => exact absurd hpieces (pieces_ne_nil separator s)
    | cons piece rest =>
      rw [hpieces] at ih
      unfold join at ih ⊢
      split
      · rename_i hc
        rw [List.intercalate_cons_cons, ih, hc]
        rfl
      · cases rest with
        | nil =>
          rw [List.intercalate_singleton] at ih ⊢
          rw [ih]
        | cons next rest =>
          rw [List.intercalate_cons_cons] at ih ⊢
          rw [← ih]
          rfl

/-- A character at the end makes no piece that is without it. -/
theorem mem_pieces_of_concat {c : Char} (hc : c ≠ separator) {word : Text} (hword : c ∉ word)
    (h : word ∈ pieces separator (s ++ [c])) : word ∈ pieces separator s := by
  by_cases hmem : separator ∈ s
  · obtain ⟨front, back, rfl, hback⟩ := exists_of_mem hmem
    have hlast : separator ∉ back ++ [c] := by simp [hback, hc.symm]
    rw [List.append_assoc, List.cons_append, pieces_append_cons, pieces_of_not_mem hlast] at h
    rw [pieces_append_cons]
    rcases List.mem_append.mp h with hfront | hpiece
    · exact List.mem_append_left _ hfront
    · rw [List.mem_singleton.mp hpiece] at hword
      simp at hword
  · have hlast : separator ∉ s ++ [c] := by simp [hmem, hc.symm]
    rw [pieces_of_not_mem hlast, List.mem_singleton] at h
    rw [h] at hword
    simp at hword

end Separator

end Text

namespace Region

/-! ## Lists of places -/

/-- A text has no "and" among its words. -/
def NoAnd (s : Text) : Prop :=
  "and".toList ∉ Text.pieces ' ' s

/-- A place that can be listed has a name, without commas and without the word "and". -/
structure IsListable (place : Text) : Prop where
  ne_nil : place ≠ []
  no_comma : ',' ∉ place
  noAnd : NoAnd place

-- Without this instance all texts would be searched.
instance (place : Text) : Decidable (IsListable place) :=
  decidable_of_iff (place ≠ [] ∧ ',' ∉ place ∧ "and".toList ∉ Text.pieces ' ' place)
    ⟨fun h => ⟨h.1, h.2.1, h.2.2⟩, fun h => ⟨h.ne_nil, h.no_comma, h.noAnd⟩⟩

/-- Places with commas between them. -/
def commas (places : List Text) : Text :=
  Text.join ", ".toList places

/-- A list of places: the last one stands behind `final`, and the others have commas between
them. -/
def listed (final : Text) (places : List Text) : Text :=
  if places.dropLast = [] then places.getLast?.getD []
  else commas places.dropLast ++ final ++ places.getLast?.getD []

/-- A place on its own is the list of it. -/
theorem listed_singleton (final place : Text) : listed final [place] = place :=
  rfl

/-- The last place of several stands behind `final`. -/
theorem listed_concat (final : Text) {front : List Text} (hfront : front ≠ []) (last : Text) :
    listed final (front ++ [last]) = commas front ++ final ++ last := by
  rw [listed, List.dropLast_concat, if_neg hfront, List.getLast?_concat, Option.getD_some]

/-- A place on its own has no commas around it. -/
theorem commas_singleton (place : Text) : commas [place] = place := by
  rw [commas, Text.join, List.intercalate_singleton]

/-- The first place stands in front of a comma. -/
theorem commas_cons_cons (place next : Text) (places : List Text) :
    commas (place :: next :: places) = place ++ ", ".toList ++ commas (next :: places) :=
  List.intercalate_cons_cons

/-- The last place stands behind a comma. -/
theorem commas_concat {front : List Text} (hfront : front ≠ []) (last : Text) :
    commas (front ++ [last]) = commas front ++ ", ".toList ++ last := by
  induction front with
  | nil => contradiction
  | cons place front ih =>
    cases front with
    | nil => rw [List.singleton_append, commas_cons_cons, commas_singleton, commas_singleton]
    | cons next front =>
      rw [List.cons_append, List.cons_append, commas_cons_cons, commas_cons_cons,
        ← List.cons_append, ih (List.cons_ne_nil _ _)]
      simp only [List.append_assoc]

/-- With a comma in front of the last place there are commas throughout. -/
theorem listed_commas (places : List Text) : listed ", ".toList places = commas places := by
  rcases List.eq_nil_or_concat places with rfl | ⟨front, last, rfl⟩
  · rfl
  · by_cases hfront : front = []
    · rw [hfront, List.concat_eq_append, List.nil_append, listed_singleton, commas_singleton]
    · rw [List.concat_eq_append, listed_concat _ hfront, commas_concat hfront]

/-! ## The word "and" -/

/-- A text with "and" between spaces has that word. -/
theorem pieces_and (s t : Text) : Text.pieces ' ' (s ++ " and ".toList ++ t) =
    Text.pieces ' ' s ++ "and".toList :: Text.pieces ' ' t := by
  have hword : s ++ " and ".toList ++ t = s ++ ' ' :: ("and".toList ++ ' ' :: t) := by simp
  have hand : ' ' ∉ "and".toList := by decide
  rw [hword, Text.pieces_append_cons, Text.pieces_append hand]

/-- A text without the word has it nowhere between spaces. -/
theorem NoAnd.not_isInfix {s : Text} (h : NoAnd s) : ¬ " and ".toList <:+: s := by
  rintro ⟨front, back, rfl⟩
  apply h
  rw [pieces_and]
  simp

/-- A text without the word is read off what stands in front of it, and so is what stands
behind. -/
theorem append_and_inj {s t u v : Text} (hs : NoAnd s) (ht : NoAnd t)
    (h : u ++ " and ".toList ++ v = s ++ " and ".toList ++ t) : u = s ∧ v = t := by
  have hpieces := congrArg (Text.pieces ' ') h
  rw [pieces_and, pieces_and] at hpieces
  obtain ⟨hfront, -, hback⟩ := (List.append_cons_inj_of_notMem hs ht).mp hpieces.symm
  constructor
  · rw [← Text.join_pieces ' ' u, ← hfront, Text.join_pieces]
  · rw [← Text.join_pieces ' ' v, ← hback, Text.join_pieces]

/-- Commas do not make the word. -/
theorem noAnd_commas {places : List Text} (h : ∀ place ∈ places, IsListable place) :
    NoAnd (commas places) := by
  induction places with
  | nil =>
    have hempty : Text.pieces ' ' (commas []) = [[]] := rfl
    simp [NoAnd, hempty]
  | cons place places ih =>
    obtain ⟨hplace, hplaces⟩ := List.forall_mem_cons.mp h
    cases places with
    | nil =>
      rw [commas_singleton]
      exact hplace.noAnd
    | cons next places =>
      have hcomma : place ++ ", ".toList ++ commas (next :: places) =
          (place ++ [',']) ++ ' ' :: commas (next :: places) := by simp
      rw [commas_cons_cons, hcomma, NoAnd, Text.pieces_append_cons, List.mem_append, not_or]
      constructor
      · exact fun hmem => hplace.noAnd (Text.mem_pieces_of_concat (by decide) (by decide) hmem)
      · exact ih hplaces

/-- A text without the word that begins a text with it ends within it. -/
theorem NoAnd.prefix_append_and_iff {u : Text} (hu : NoAnd u) (s t : Text) :
    u <+: s ++ " and ".toList ++ t ↔ u <+: s ++ " an".toList := by
  have hsplit : s ++ " and ".toList ++ t = s ++ " an".toList ++ 'd' :: ' ' :: t := by simp
  rw [hsplit]
  constructor
  · intro hfront
    rcases List.prefix_or_prefix_of_prefix hfront (List.prefix_append _ _) with hle | ⟨v, rfl⟩
    · exact hle
    · -- From the last letter on the word is there.
      rw [List.prefix_append_right_inj, List.prefix_cons_iff] at hfront
      rcases hfront with rfl | ⟨v, rfl, hrest⟩
      · simp
      · rw [List.prefix_cons_iff] at hrest
        rcases hrest with rfl | ⟨w, rfl, -⟩
        · have hword : s ++ " an".toList ++ ['d'] = s ++ ' ' :: "and".toList := by simp
          rw [NoAnd, hword, Text.pieces_append_cons, List.mem_append, not_or] at hu
          exact absurd (by decide) hu.2
        · have hword : s ++ " an".toList ++ 'd' :: ' ' :: w = s ++ " and ".toList ++ w := by simp
          rw [NoAnd, hword, pieces_and] at hu
          exact absurd (by simp) hu
  · intro hfront
    exact hfront.trans (List.prefix_append _ _)

/-! ## Behind a comma -/

/-- A place of several that is not the first is the second or behind it. -/
theorem exists_behind_first_iff {first next : Text} {rest : List Text}
    {p : Text → List Text → Prop} :
    (∃ (front : List Text) (name : Text) (back : List Text),
        first :: next :: rest = front ++ name :: back ∧ front ≠ [] ∧ p name back) ↔
      p next rest ∨ ∃ (front : List Text) (name : Text) (back : List Text),
        next :: rest = front ++ name :: back ∧ front ≠ [] ∧ p name back := by
  constructor
  · rintro ⟨front, name, back, hsplit, hne, hp⟩
    obtain ⟨place, front, rfl⟩ := List.exists_cons_of_ne_nil hne
    obtain ⟨-, hrest⟩ := List.cons.inj hsplit
    by_cases hfront : front = []
    · subst hfront
      obtain ⟨rfl, rfl⟩ := List.cons.inj hrest
      exact Or.inl hp
    · exact Or.inr ⟨front, name, back, hrest, hfront, hp⟩
  · rintro (hp | ⟨front, name, back, hsplit, -, hp⟩)
    · exact ⟨[first], next, rest, rfl, List.cons_ne_nil _ _, hp⟩
    · exact ⟨first :: front, name, back, congrArg (first :: ·) hsplit, List.cons_ne_nil _ _, hp⟩

/-- The first comma stands behind the first place. -/
theorem commas_append_eq (first next : Text) (rest : List Text) (tail : Text) :
    commas (first :: next :: rest) ++ tail =
      first ++ ',' :: ' ' :: (commas (next :: rest) ++ tail) := by
  simp [commas_cons_cons]

/-- What has no comma begins a list of places if the first one begins with it, together with what
follows if it is the only one. -/
theorem prefix_commas_iff {place : Text} (hplace : ',' ∉ place) (next : Text) (rest : List Text)
    (tail : Text) :
    place <+: commas (next :: rest) ++ tail ↔ place <+: next ++ if rest = [] then tail else [] := by
  cases rest with
  | nil => rw [commas_singleton, if_pos rfl]
  | cons third rest =>
    rw [commas_append_eq, Text.prefix_append_cons_iff hplace, if_neg (List.cons_ne_nil _ _),
      List.append_nil]

/-- What is found behind a comma is behind the first one or further back. -/
theorem comma_infix_cons_iff {first : Text} (hfirst : ',' ∉ first) (place next : Text)
    (rest : List Text) (tail : Text) :
    (", ".toList ++ place) <:+: commas (first :: next :: rest) ++ tail ↔
      place <+: commas (next :: rest) ++ tail ∨
        (", ".toList ++ place) <:+: commas (next :: rest) ++ tail := by
  have hpattern : ", ".toList ++ place = ',' :: ' ' :: place := by simp
  have hspace : ',' ≠ ' ' := by decide
  rw [commas_append_eq, hpattern, Text.cons_infix_append_cons_iff hfirst, List.cons_prefix_cons,
    and_iff_right rfl, List.infix_cons_iff, List.cons_prefix_cons]
  simp [hspace]

/-- A place is found behind a comma if a name begins with it that is not the first, the last one
together with what follows the names. -/
theorem comma_infix_iff {places : List Text} (h : ∀ name ∈ places, ',' ∉ name)
    {place tail : Text} (hplace : ',' ∉ place) (htail : ',' ∉ tail) :
    (", ".toList ++ place) <:+: commas places ++ tail ↔
      ∃ (front : List Text) (name : Text) (back : List Text),
        places = front ++ name :: back ∧ front ≠ [] ∧
          place <+: name ++ if back = [] then tail else [] := by
  have hnone {s : Text} (hs : ',' ∉ s) : ¬ (", ".toList ++ place) <:+: s := fun hoccurs =>
    hs (hoccurs.subset (by simp))
  induction places with
  | nil => exact iff_of_false (hnone htail) (by simp)
  | cons first places ih =>
    obtain ⟨hfirst, hplaces⟩ := List.forall_mem_cons.mp h
    cases places with
    | nil =>
      refine iff_of_false (hnone ?_) ?_
      · rw [commas_singleton]
        simp [hfirst, htail]
      · rintro ⟨front, name, back, hsplit, hne, -⟩
        have hlength := congrArg List.length hsplit
        have hpos := List.length_pos_iff.mpr hne
        simp only [List.length_cons, List.length_nil, List.length_append] at hlength
        omega
    | cons next rest =>
      have hsecond := or_congr (prefix_commas_iff hplace next rest tail) (ih hplaces)
      have hbehind := (comma_infix_cons_iff hfirst place next rest tail).trans hsecond
      exact hbehind.trans (exists_behind_first_iff
        (p := fun name back => place <+: name ++ if back = [] then tail else [])).symm

/-! ## Places that are found -/

section Found

variable {place : Text} (hplace : IsListable place)

include hplace

/-- A place is found in a list with commas throughout if it is listed alone, or if a name begins
with it that is not the first. -/
theorem equalsOrContains_commas_iff {places : List Text} (hne : places ≠ [])
    (h : ∀ name ∈ places, IsListable name) :
    equalsOrContains (commas places) place = true ↔ places = [place] ∨
      (∃ name ∈ places.tail, place <+: name) ∨ abbreviation? place = some (commas places) := by
  have hand : ¬ " and ".toList <:+: commas places := (noAnd_commas h).not_isInfix
  have hbehind : ¬ (" and ".toList ++ place) <:+: commas places := fun hoccurs =>
    hand ((List.prefix_append _ place).isInfix.trans hoccurs)
  have hfront : ¬ (place ++ " and ".toList) <:+: commas places := fun hoccurs =>
    hand ((List.suffix_append place _).isInfix.trans hoccurs)
  have halone : commas places = place ↔ places = [place] := by
    constructor
    · rintro rfl
      match places with
      | [name] => rw [commas_singleton]
      | first :: next :: rest =>
        have hcomma := hplace.no_comma
        rw [commas_cons_cons] at hcomma
        simp at hcomma
    · rintro rfl
      exact commas_singleton place
  have hcommas : (", ".toList ++ place) <:+: commas places ↔
      ∃ name ∈ places.tail, place <+: name := by
    have hfound := comma_infix_iff (fun name hname => (h name hname).no_comma) hplace.no_comma
      (List.not_mem_nil : ',' ∉ [])
    simp only [List.append_nil, ite_self] at hfound
    rw [hfound]
    constructor
    · rintro ⟨front, name, back, rfl, hfront, hbegins⟩
      obtain ⟨first, front, rfl⟩ := List.exists_cons_of_ne_nil hfront
      exact ⟨name, by simp, hbegins⟩
    · rintro ⟨name, hname, hbegins⟩
      obtain ⟨first, rest, rfl⟩ := List.exists_cons_of_ne_nil hne
      obtain ⟨front, back, rfl⟩ := List.append_of_mem hname
      exact ⟨first :: front, name, back, rfl, List.cons_ne_nil _ _, hbegins⟩
  simp only [equalsOrContains, Bool.or_eq_true, beq_iff_eq, Text.includes_iff, hbehind, hfront,
    or_false, halone, hcommas, or_assoc]

/-- The names behind a comma in front of "and" are all but the first.  To the last of them the first
letters of the word count as well. -/
theorem comma_infix_and_iff {front : List Text} {name last : Text}
    (h : ∀ other ∈ front ++ [name], IsListable other) (hlast : IsListable last) :
    (", ".toList ++ place) <:+: commas (front ++ [name]) ++ " and ".toList ++ last ↔
      (front ≠ [] ∧ place <+: name ++ " an".toList) ∨ ∃ other ∈ front.tail, place <+: other := by
  have htail : ',' ∉ " and ".toList ++ last := by
    have hnot := hlast.no_comma
    simpa using hnot
  have hand := hplace.noAnd.prefix_append_and_iff name last
  rw [List.append_assoc] at hand ⊢
  rw [comma_infix_iff (fun other hother => (h other hother).no_comma) hplace.no_comma htail]
  constructor
  · rintro ⟨before, other, back, hsplit, hne, hbegins⟩
    rcases List.eq_nil_or_concat back with rfl | ⟨back, end', rfl⟩
    · obtain ⟨rfl, rfl⟩ := List.append_singleton_inj.mp hsplit
      rw [if_pos rfl, hand] at hbegins
      exact Or.inl ⟨hne, hbegins⟩
    · rw [List.concat_eq_append, ← List.cons_append, ← List.append_assoc] at hsplit
      obtain ⟨rfl, -⟩ := List.append_singleton_inj.mp hsplit
      obtain ⟨first, before, rfl⟩ := List.exists_cons_of_ne_nil hne
      rw [if_neg (by simp), List.append_nil] at hbegins
      exact Or.inr ⟨other, by simp, hbegins⟩
  · rintro (⟨hne, hbegins⟩ | ⟨other, hother, hbegins⟩)
    · refine ⟨front, name, [], rfl, hne, ?_⟩
      rw [if_pos rfl, hand]
      exact hbegins
    · obtain ⟨first, rest, rfl⟩ := List.exists_cons_of_ne_nil (List.ne_nil_of_mem
        (List.mem_of_mem_tail hother))
      obtain ⟨before, back, rfl⟩ := List.append_of_mem hother
      refine ⟨first :: before, other, back ++ [name], by simp, List.cons_ne_nil _ _, ?_⟩
      rw [if_neg (by simp), List.append_nil]
      exact hbegins

/-- What ends a list of names ends the last of them, or is it with the space in front. -/
theorem suffix_commas_iff (front : List Text) (name : Text) :
    place <:+ commas (front ++ [name]) ↔
      place <:+ name ∨ (front ≠ [] ∧ place = ' ' :: name) := by
  by_cases hfront : front = []
  · subst hfront
    simp [commas_singleton]
  · have hcomma : commas front ++ ", ".toList ++ name = commas front ++ ',' :: ' ' :: name := by
      simp
    rw [commas_concat hfront, hcomma, Text.suffix_append_cons_iff hplace.no_comma,
      List.suffix_cons_iff, or_comm, and_iff_right hfront]

/-- A place is found in a list with "and" if the last name begins with it, if the name in front of
"and" ends with it, or if one of the names behind a comma begins with it.  To the name in front of
"and" the space before it counts as well, and the first letters of the word behind it. -/
theorem equalsOrContains_and_iff {front : List Text} {name last : Text}
    (h : ∀ other ∈ front ++ [name], IsListable other) (hlast : IsListable last) :
    equalsOrContains (commas (front ++ [name]) ++ " and ".toList ++ last) place = true ↔
      place <+: last ∨ (place <:+ name ∨ (front ≠ [] ∧ place = ' ' :: name)) ∨
        ((front ≠ [] ∧ place <+: name ++ " an".toList) ∨ ∃ other ∈ front.tail, place <+: other) ∨
        abbreviation? place = some (commas (front ++ [name]) ++ " and ".toList ++ last) := by
  have hfrontAnd := noAnd_commas h
  have halone : commas (front ++ [name]) ++ " and ".toList ++ last ≠ place := by
    rintro rfl
    exact hplace.noAnd.not_isInfix ⟨_, _, rfl⟩
  have hbehind : (" and ".toList ++ place) <:+:
      commas (front ++ [name]) ++ " and ".toList ++ last ↔ place <+: last := by
    constructor
    · rintro ⟨u, v, heq⟩
      rw [← List.append_assoc, List.append_assoc _ place] at heq
      exact ⟨v, (append_and_inj hfrontAnd hlast.noAnd heq).2⟩
    · rintro ⟨v, rfl⟩
      exact ⟨commas (front ++ [name]), v, by simp⟩
  have hfront : (place ++ " and ".toList) <:+:
      commas (front ++ [name]) ++ " and ".toList ++ last ↔ place <:+ commas (front ++ [name]) := by
    constructor
    · rintro ⟨u, v, heq⟩
      rw [← List.append_assoc] at heq
      exact ⟨u, (append_and_inj hfrontAnd hlast.noAnd heq).1⟩
    · rintro ⟨u, hu⟩
      exact ⟨u, last, by rw [← hu]; simp⟩
  simp only [equalsOrContains, Bool.or_eq_true, beq_iff_eq, Text.includes_iff, hbehind, hfront,
    halone, false_or, suffix_commas_iff hplace, comma_infix_and_iff hplace h hlast, or_assoc]

end Found

/-- A place is found at the name in front of "and" if it is an end of that name; behind a comma, if
the name begins with it.  There the space before the name counts as well, and the first letters of
the word behind it. -/
def NamedBeforeAnd (places : List Text) (place : Text) : Prop :=
  ∃ front name last, places = front ++ [name, last] ∧
    (place <:+ name ∨ (front ≠ [] ∧ (place = ' ' :: name ∨ place <+: name ++ " an".toList)))

/-- The last two places of a list are told by it. -/
theorem namedBeforeAnd_iff {front : List Text} {name last place : Text} :
    NamedBeforeAnd (front ++ [name, last]) place ↔
      place <:+ name ∨ (front ≠ [] ∧ (place = ' ' :: name ∨ place <+: name ++ " an".toList)) := by
  constructor
  · rintro ⟨before, other, end', hsplit, hfound⟩
    obtain ⟨rfl, hpair⟩ := List.append_inj' hsplit rfl
    obtain ⟨rfl, -⟩ := List.cons.inj hpair
    exact hfound
  · exact fun hfound => ⟨front, name, last, rfl, hfound⟩

/-- A name begins with a place, and it is not the first of the list. -/
theorem exists_mem_tail_iff {front : List Text} {name last place : Text} :
    (∃ other ∈ (front ++ [name, last]).tail, place <+: other) ↔
      place <+: last ∨ (front ≠ [] ∧ place <+: name) ∨ ∃ other ∈ front.tail, place <+: other := by
  cases front with
  | nil => simp
  | cons first front =>
    simp only [List.cons_append, List.tail_cons, List.mem_append, List.mem_cons, List.not_mem_nil,
      or_false, or_and_right, exists_or, exists_eq_left, ne_eq, reduceCtorEq, not_false_eq_true,
      true_and]
    rw [or_comm, or_assoc, or_left_comm]

/-- The places that a list with "and" is found to name. -/
theorem equalsOrContains_listed_and_iff {places : List Text} (hne : places ≠ [])
    (hplaces : ∀ name ∈ places, IsListable name) {place : Text} (hplace : IsListable place) :
    equalsOrContains (listed " and ".toList places) place = true ↔
      places = [place] ∨ (∃ name ∈ places.tail, place <+: name) ∨ NamedBeforeAnd places place ∨
        abbreviation? place = some (listed " and ".toList places) := by
  rcases List.eq_nil_or_concat places with rfl | ⟨front, last, rfl⟩
  · contradiction
  rw [List.concat_eq_append] at *
  rcases List.eq_nil_or_concat front with rfl | ⟨front, name, rfl⟩
  · have hnone : ¬ NamedBeforeAnd [last] place := by
      rintro ⟨front, name, end', hsplit, -⟩
      have hlength := congrArg List.length hsplit
      simp only [List.length_append, List.length_cons, List.length_nil] at hlength
      omega
    have hfound := equalsOrContains_commas_iff hplace hne hplaces
    rw [List.nil_append, commas_singleton] at hfound
    rw [List.nil_append, listed_singleton, hfound, or_iff_right hnone]
  · obtain ⟨hfront, hlast⟩ := List.forall_mem_append.mp hplaces
    rw [List.concat_eq_append] at *
    have hpair : front ++ [name] ++ [last] = front ++ [name, last] := by simp
    rw [listed_concat _ (by simp), equalsOrContains_and_iff hplace hfront (hlast last (by simp)),
      hpair, exists_mem_tail_iff, namedBeforeAnd_iff]
    have hmore : place <+: name → place <+: name ++ " an".toList :=
      fun hbegins => hbegins.trans (List.prefix_append _ _)
    have htwo : front ++ [name, last] ≠ [place] := by
      intro hsplit
      have hlength := congrArg List.length hsplit
      simp only [List.length_append, List.length_cons, List.length_nil] at hlength
      omega
    rw [or_iff_right htwo]
    grind

/-- Which places a list of places is found to name, besides a state of which it is the abbreviation:
those that a name begins with, other than the first, and in front of "and" those that the name ends
with.  So of the places listed only the first can be overlooked, and only in front of a comma. -/
theorem equalsOrContains_listed_iff {final : Text}
    (hfinal : final = ", ".toList ∨ final = " and ".toList) {places : List Text} (hne : places ≠ [])
    (hplaces : ∀ name ∈ places, IsListable name) {place : Text} (hplace : IsListable place) :
    (equalsOrContains (listed final places) place = true ↔
      places = [place] ∨ (∃ name ∈ places.tail, place <+: name) ∨
        (final = " and ".toList ∧ NamedBeforeAnd places place) ∨
        abbreviation? place = some (listed final places)) ∧
      (place ∈ places → equalsOrContains (listed final places) place = false →
        place ∉ places.tail ∧ (place ++ ", ".toList) <+: listed final places) := by
  have hfound : equalsOrContains (listed final places) place = true ↔
      places = [place] ∨ (∃ name ∈ places.tail, place <+: name) ∨
        (final = " and ".toList ∧ NamedBeforeAnd places place) ∨
        abbreviation? place = some (listed final places) := by
    rcases hfinal with rfl | rfl
    · have hcomma : ", ".toList ≠ " and ".toList := by decide
      rw [listed_commas, equalsOrContains_commas_iff hplace hne hplaces]
      simp only [hcomma, false_and, false_or]
    · rw [equalsOrContains_listed_and_iff hne hplaces hplace, and_iff_right rfl]
  refine ⟨hfound, fun hmem hnot => ?_⟩
  rw [← Bool.not_eq_true, hfound] at hnot
  simp only [not_or] at hnot
  obtain ⟨halone, hbehind, hand, -⟩ := hnot
  have htail : place ∉ places.tail := fun hmem => hbehind ⟨place, hmem, List.prefix_rfl⟩
  refine ⟨htail, ?_⟩
  -- It is the first of several names, and "and" does not follow it.
  match places with
  | [name] => exact absurd (by rw [List.mem_singleton.mp hmem]) halone
  | [name, last] =>
    obtain rfl : place = name := (List.mem_cons.mp hmem).resolve_right htail
    rcases hfinal with rfl | rfl
    · rw [listed_commas, commas_cons_cons]
      exact List.prefix_append _ _
    · exact absurd ⟨rfl, [], place, last, rfl, Or.inl List.suffix_rfl⟩ hand
  | name :: next :: third :: rest =>
    obtain rfl : place = name := (List.mem_cons.mp hmem).resolve_right htail
    have hcomma : listed final (place :: next :: third :: rest) =
        place ++ ", ".toList ++ (commas (next :: (third :: rest).dropLast) ++ final ++
          (third :: rest).getLast?.getD []) := by
      simp [listed, commas_cons_cons]
    rw [hcomma]
    exact List.prefix_append _ _

/-- The name between a comma and "and" is found. -/
theorem scotland_found : ∃ places place,
    places = ["England", "Scotland", "Wales"].map String.toList ∧ place = "Scotland".toList ∧
    listed " and ".toList places = "England, Scotland and Wales".toList ∧ places ≠ [] ∧
    (∀ name ∈ places, IsListable name) ∧ IsListable place ∧
    equalsOrContains (listed " and ".toList places) place = true := by
  have hne : ["England", "Scotland", "Wales"].map String.toList ≠ [] := by simp
  have hplaces : ∀ name ∈ ["England", "Scotland", "Wales"].map String.toList, IsListable name := by
    decide
  have hplace : IsListable "Scotland".toList := by decide
  obtain ⟨hfound, -⟩ := equalsOrContains_listed_iff (Or.inr rfl) hne hplaces hplace
  exact ⟨_, _, rfl, rfl, by decide, hne, hplaces, hplace,
    hfound.mpr (Or.inr (Or.inl ⟨_, by simp, List.prefix_rfl⟩))⟩

/-- The first of two places with a comma between them is overlooked.  Behind a comma a longer name
is taken for it. -/
theorem wales_overlooked : ∃ place, place = "Wales".toList ∧
    (∀ name ∈ ["Wales", "England", "Walesby"].map String.toList, IsListable name) ∧
    abbreviation? place = none ∧
    listed ", ".toList [place, "England".toList] = "Wales, England".toList ∧
    equalsOrContains "Wales, England".toList place = false ∧
    listed ", ".toList ["England".toList, "Walesby".toList] = "England, Walesby".toList ∧
    equalsOrContains "England, Walesby".toList place = true :=
  ⟨_, rfl, by decide, by decide, by decide, by decide, by decide, by decide⟩

end Region
end Shelfmark
