import Shelfmark.Proofs.CallNumber.Dewey
import Shelfmark.Proofs.CallNumber.Scheme
import Shelfmark.Proofs.ShelfKey.Reverse
import Shelfmark.Proofs.ShelfKey.ShelfOrder

/-!
# Shelf keys - Browsing backwards

Reverse keys do not tell punctuation apart, so two keys are in the opposite order as long
as punctuation does not decide between them.  It does not where keys have their spaces and
points in the same columns: up to the first difference they agree, and there at least one
of them has a digit or a capital.

Keys of well-formed call numbers are such keys.  Their class numbers and cutters are
equally wide, and a Dewey number has no point behind the class number.

Main results:

- Theorem `compare_columns`: aligned keys are in the order of their columns.
- Theorem `aligned_lcKey`: keys of printed Library of Congress numbers are aligned.
- Theorem `reverse_bytes_descend`: reverse keys descend exactly where the columns of the
  shelf keys ascend, and well-formed call numbers always browse backwards.
-/

namespace Shelfmark
namespace ShelfKey

open CallNumber.Lc (Cutter Digits Ending IsPrinted Printed Tail Year)
open Number (scaled)

/-! ## Characters -/

/-- A digit or a capital. -/
def OnRow (c : Char) : Prop :=
  c.isUpper = true ∨ c.isDigit = true

/-- What the characters up to the last capital count as. -/
theorem plainChar_ofNat : ∀ n < 91, plainChar (Char.ofNat n) =
    if (Char.ofNat n).isUpper || (Char.ofNat n).isDigit then Char.ofNat n else ' ' := by
  decide +kernel

/-- Up to the last capital, only digits and capitals count as themselves. -/
theorem plainChar_eq {c : Char} (h : c.toNat < 91) :
    plainChar c = if c.isUpper || c.isDigit then c else ' ' := by
  have htable := plainChar_ofNat c.toNat h
  rwa [Char.ofNat_toNat] at htable

/-- A digit or capital counts as itself, and stands behind spaces and points. -/
theorem OnRow.plainChar_eq {c : Char} (h : OnRow c) : plainChar c = c ∧ 48 ≤ c.toNat := by
  have hrange : 48 ≤ c.toNat ∧ c.toNat < 91 := by
    rcases h with h | h
    · have := Character.isUpper_iff.mp h
      omega
    · have := Character.isDigit_iff.mp h
      omega
  have hrow : (c.isUpper || c.isDigit) = true := by
    rwa [Bool.or_eq_true]
  rw [ShelfKey.plainChar_eq hrange.2, if_pos hrow]
  exact ⟨rfl, hrange.1⟩

/-- A printed character is on the row, or it counts as a space. -/
theorem onRow_or_plainChar {c : Char} (h : IsPrinted c) :
    OnRow c ∨ plainChar c = ' ' ∧ c.toNat < 48 := by
  rcases h with h | h | rfl | rfl
  · exact Or.inl (Or.inl h)
  · exact Or.inl (Or.inr h)
  · exact Or.inr ⟨plainChar_eq (by decide), by decide⟩
  · exact Or.inr ⟨plainChar_eq (by decide), by decide⟩

/-- A character on the row keeps its place among printed ones. -/
theorem compare_plainChar {c d : Char} (hc : IsPrinted c) (hd : IsPrinted d)
    (h : OnRow c ∨ OnRow d) : compare (plainChar c) (plainChar d) = compare c d := by
  have hspace : ' '.toNat = 32 := rfl
  rcases onRow_or_plainChar hc with hrow | ⟨hplain, hlow⟩
  · obtain ⟨hself, hhigh⟩ := hrow.plainChar_eq
    rcases onRow_or_plainChar hd with hrow' | ⟨hplain', hlow'⟩
    · rw [hself, hrow'.plainChar_eq.1]
    · rw [hself, hplain', Character.compare_eq, Character.compare_eq, hspace,
        Nat.compare_eq_gt.mpr (show 32 < c.toNat by omega),
        Nat.compare_eq_gt.mpr (show d.toNat < c.toNat by omega)]
  · rcases onRow_or_plainChar hd with hrow' | ⟨-, hlow'⟩
    · obtain ⟨hself', hhigh'⟩ := hrow'.plainChar_eq
      rw [hself', hplain, Character.compare_eq, Character.compare_eq, hspace,
        Nat.compare_eq_lt.mpr (show 32 < d.toNat by omega),
        Nat.compare_eq_lt.mpr (show c.toNat < d.toNat by omega)]
    · rcases h with h | h
      · have := h.plainChar_eq.2
        omega
      · have := h.plainChar_eq.2
        omega

/-! ## Aligned keys -/

/-- Up to the first difference texts agree, and there one of them has a digit or a capital. -/
inductive Aligned : Text → Text → Prop
  | nil (t : Text) : Aligned [] t
  | cons_nil (c : Char) (s : Text) : Aligned (c :: s) []
  | same (c : Char) {s t : Text} : Aligned s t → Aligned (c :: s) (c :: t)
  | differ {c d : Char} (s t : Text) : c ≠ d → OnRow c ∨ OnRow d → Aligned (c :: s) (d :: t)

/-- Equally long aligned columns in front keep texts aligned. -/
theorem Aligned.append {a b s t : Text} (h : Aligned a b) (hlength : a.length = b.length)
    (hrest : Aligned s t) : Aligned (a ++ s) (b ++ t) := by
  induction h with
  | nil t =>
    rw [List.eq_nil_of_length_eq_zero hlength.symm]
    exact hrest
  | cons_nil c s => contradiction
  | same c _ ih => exact .same c (ih (Nat.succ.inj hlength))
  | differ s t hne hrow => exact .differ _ _ hne hrow

/-- Texts of digits, capitals and spaces are aligned. -/
theorem aligned_of_forall {s t : Text} (hs : ∀ c ∈ s, OnRow c ∨ c = ' ')
    (ht : ∀ c ∈ t, OnRow c ∨ c = ' ') : Aligned s t := by
  induction s generalizing t with
  | nil => exact .nil t
  | cons c s ih =>
    cases t with
    | nil => exact .cons_nil c s
    | cons d t =>
      by_cases hcd : c = d
      · subst hcd
        exact .same c (ih (fun x hx => hs x (by simp [hx])) fun x hx => ht x (by simp [hx]))
      · refine .differ s t hcd ?_
        rcases hs c (by simp) with hc | rfl
        · exact Or.inl hc
        · exact Or.inr ((ht d (by simp)).resolve_right (Ne.symm hcd))

/-- Decimals are aligned if what follows their points is, however many digits are in front. -/
theorem aligned_decimal {whole whole' s t : Text} (hwhole : ∀ c ∈ whole, c.isDigit)
    (hwhole' : ∀ c ∈ whole', c.isDigit) (hrest : Aligned s t) :
    Aligned (whole ++ '.' :: s) (whole' ++ '.' :: t) := by
  induction whole generalizing whole' with
  | nil =>
    cases whole' with
    | nil => exact .same '.' hrest
    | cons d whole' =>
      have hd : d.isDigit = true := hwhole' d (by simp)
      refine .differ s _ ?_ (Or.inr (Or.inr hd))
      rintro rfl
      exact absurd hd (by decide)
  | cons c whole ih =>
    have hc : c.isDigit = true := hwhole c (by simp)
    cases whole' with
    | nil =>
      refine .differ _ t ?_ (Or.inl (Or.inr hc))
      rintro rfl
      exact absurd hc (by decide)
    | cons d whole' =>
      by_cases hcd : c = d
      · subst hcd
        exact .same c (ih (fun x hx => hwhole x (by simp [hx])) fun x hx => hwhole' x (by simp [hx]))
      · exact .differ _ _ hcd (Or.inl (Or.inr hc))

/-- Fixed numbers are aligned with all that follows them. -/
theorem aligned_fixed {before places : Nat} (hplaces : places ≠ 0) (m n : Nat) {s t : Text}
    (hrest : Aligned s t) : Aligned (fixed before places m ++ s) (fixed before places n ++ t) := by
  obtain ⟨hwhole, hfraction⟩ := Number.FixedPoint.isDigit_of_mem m places
  obtain ⟨hwhole', hfraction'⟩ := Number.FixedPoint.isDigit_of_mem n places
  unfold fixed
  rw [if_neg hplaces, if_neg hplaces, List.append_assoc, List.append_assoc, List.cons_append,
    List.cons_append]
  refine aligned_decimal (Number.isDigit_of_mem_padZeros hwhole)
    (Number.isDigit_of_mem_padZeros hwhole') (Aligned.append ?_ ?_ hrest)
  · exact aligned_of_forall (fun c hc => Or.inl (Or.inr (hfraction c hc)))
      fun c hc => Or.inl (Or.inr (hfraction' c hc))
  · rw [Number.FixedPoint.length_fraction, Number.FixedPoint.length_fraction]

/-- A fixed number is printed with digits and points. -/
theorem isPrinted_fixed (before places n : Nat) : ∀ c ∈ fixed before places n, IsPrinted c := by
  obtain ⟨hwhole, hfraction⟩ := Number.FixedPoint.isDigit_of_mem n places
  refine List.forall_mem_append.mpr ⟨fun c hc => ?_, fun c hc => ?_⟩
  · exact Or.inr (Or.inl (Number.isDigit_of_mem_padZeros hwhole c hc))
  · split at hc
    · contradiction
    · rcases List.mem_cons.mp hc with rfl | hc
      · exact Or.inr (Or.inr (Or.inr rfl))
      · exact Or.inr (Or.inl (hfraction c hc))

/-! ## The order of columns -/

/-- Aligned keys keep their order when only what characters count as is compared. -/
theorem compare_map_plainChar {a b : Text} (h : Aligned a b) (ha : ∀ c ∈ a, IsPrinted c)
    (hb : ∀ c ∈ b, IsPrinted c) :
    compare (a.map plainChar) (b.map plainChar) = compare a b := by
  induction h with
  | nil t => cases t <;> rfl
  | cons_nil c s => rfl
  | same c _ ih =>
    have hself (c : Char) : compare c c = .eq := Std.ReflCmp.compare_self
    rw [List.map_cons, List.map_cons, List.compare_cons_cons, List.compare_cons_cons,
      ih (fun x hx => ha x (by simp [hx])) fun x hx => hb x (by simp [hx]), hself, hself]
  | @differ c d s t hne hrow =>
    have hhead := compare_plainChar (ha c (by simp)) (hb d (by simp)) hrow
    have hdecides : compare c d ≠ .eq := fun heq => hne (Std.compare_eq_iff_eq.mp heq)
    rw [List.map_cons, List.map_cons, List.compare_cons_cons, List.compare_cons_cons, hhead]
    cases hcompare : compare c d with
    | lt => rfl
    | eq => contradiction
    | gt => rfl

/-- A key that its columns can hold: printed characters, not too many, and at the end a digit
or a capital. -/
structure Fitting (key : Text) : Prop where
  isPrinted : ∀ c ∈ key, IsPrinted c
  onRow_getLast? : ∀ c ∈ key.getLast?, OnRow c
  length_le : key.length ≤ reverseLength

/-- Aligned keys are in the order of their columns. -/
theorem compare_columns {a b : Text} (h : Aligned a b) (ha : Fitting a) (hb : Fitting b) :
    compare (columns a) (columns b) = compare a b := by
  have hlow {key : Text} (hkey : Fitting key) : ∀ c ∈ key.map plainChar, 32 ≤ c.toNat := by
    intro c hc
    obtain ⟨d, hd, rfl⟩ := List.mem_map.mp hc
    rcases onRow_or_plainChar (hkey.isPrinted d hd) with hrow | ⟨hspace, -⟩
    · obtain ⟨hself, hhigh⟩ := hrow.plainChar_eq
      rw [hself]
      omega
    · rw [hspace]
      decide
  have hlast {key : Text} (hkey : Fitting key) :
      ∀ c ∈ (key.map plainChar).getLast?, c ≠ ' ' := by
    intro c hc
    rw [List.getLast?_map] at hc
    obtain ⟨d, hd, rfl⟩ := Option.map_eq_some_iff.mp hc
    obtain ⟨hself, hhigh⟩ := (hkey.onRow_getLast? d hd).plainChar_eq
    rw [hself]
    rintro rfl
    contradiction
  rw [columns, columns, Text.compare_padEnd_of_getLast (hlow ha) (hlow hb) (hlast ha) (hlast hb)
    (by simpa using ha.length_le) (by simpa using hb.length_le)]
  exact compare_map_plainChar h ha.isPrinted hb.isPrinted

/-- Aligned keys in ascending order have reverse keys in descending order. -/
theorem reverse_gt_of_lt {a b : Text} (h : Aligned a b) (ha : Fitting a) (hb : Fitting b)
    (hlt : compare a b = .lt) : compare (reverse a) (reverse b) = .gt := by
  rw [compare_reverse ha.length_le hb.length_le, Std.OrientedOrd.eq_swap, compare_columns h ha hb,
    hlt]
  rfl

/-! ## Library of Congress keys -/

/-- A cutter is aligned with a cutter, with all that follows them. -/
theorem aligned_cutterKey (a b : Cutter) {s t : Text} (hrest : Aligned s t) :
    Aligned (cutterKey a ++ s) (cutterKey b ++ t) := by
  have hnumber : Aligned (fixed 1 6 (scaled 6 [] a.digits.text) ++ s)
      (fixed 1 6 (scaled 6 [] b.digits.text) ++ t) := aligned_fixed (by omega) _ _ hrest
  unfold cutterKey
  by_cases hletter : a.letter = b.letter
  · rw [hletter]
    exact .same b.letter hnumber
  · exact .differ _ _ hletter (Or.inl (Or.inl a.isUpper))

/-- A year in a key has digits only. -/
theorem isDigit_yearKey (digits : Digits) : ∀ c ∈ yearKey digits, c.isDigit = true := by
  obtain ⟨hwhole, -⟩ := Number.FixedPoint.isDigit_of_mem (Number.ofDigits digits.text) 0
  unfold yearKey fixed
  rw [if_pos rfl, List.append_nil]
  exact Number.isDigit_of_mem_padZeros hwhole

/-- Years that may be absent are aligned. -/
theorem aligned_spaced_years (a b : Option Year) :
    Aligned (spaced (a.map fun year => yearKey year.digits).toList)
      (spaced (b.map fun year => yearKey year.digits).toList) := by
  have hrow (year : Option Year) :
      ∀ c ∈ spaced (year.map fun year => yearKey year.digits).toList, OnRow c ∨ c = ' ' := by
    cases year with
    | none => simp [spaced]
    | some y =>
      intro c hc
      have hmem : c = ' ' ∨ c ∈ yearKey y.digits := by simpa [spaced] using hc
      exact hmem.symm.imp_left fun h => Or.inr (isDigit_yearKey y.digits c h)
  exact aligned_of_forall (hrow a) (hrow b)

/-- A year is aligned with a cutter: the first characters differ. -/
theorem aligned_yearKey_cutterKey (digits : Digits) (cutter : Cutter) (s t : Text) :
    Aligned (yearKey digits ++ s) (cutterKey cutter ++ t) ∧
      Aligned (cutterKey cutter ++ t) (yearKey digits ++ s) := by
  obtain ⟨d, u, hcons, hd⟩ : ∃ d u, yearKey digits = d :: u ∧ d.isDigit = true :=
    fixed_eq_cons (by omega) 0 (Number.ofDigits digits.text)
  have hne : d ≠ cutter.letter := by
    rintro rfl
    have hupper := cutter.isUpper
    rw [Character.isUpper_of_isDigit hd] at hupper
    contradiction
  rw [hcons]
  exact ⟨.differ _ _ hne (Or.inl (Or.inr hd)), .differ _ _ hne.symm (Or.inr (Or.inr hd))⟩

/-- Endings are aligned. -/
theorem aligned_ending (a b : Ending) :
    Aligned (spaced (endingComponents a)) (spaced (endingComponents b)) := by
  cases a with
  | nothing => exact .nil _
  | year y =>
    cases b with
    | nothing => exact .cons_nil _ _
    | year z => exact aligned_spaced_years (some y) (some z)
    | cutter gap d z => exact .same ' ' (aligned_yearKey_cutterKey y.digits d _ _).1
  | cutter gap c y =>
    cases b with
    | nothing => exact .cons_nil _ _
    | year z => exact .same ' ' (aligned_yearKey_cutterKey z.digits c _ _).2
    | cutter gap' d z => exact .same ' ' (aligned_cutterKey c d (aligned_spaced_years y z))

/-- What stands behind the class is aligned. -/
theorem aligned_tail (a b : Option Tail) :
    Aligned (spaced (tailComponents a)) (spaced (tailComponents b)) := by
  cases a with
  | none => exact .nil _
  | some tail =>
    cases b with
    | none => exact .cons_nil _ _
    | some tail' =>
      exact .same ' ' (aligned_cutterKey tail.cutter tail'.cutter
        (aligned_ending tail.ending tail'.ending))

/-- What holds of a space and of the characters of all components holds of these with spaces in
front. -/
theorem forall_mem_spaced {P : Char → Prop} (hspace : P ' ') {components : List Text}
    (h : ∀ component ∈ components, ∀ c ∈ component, P c) : ∀ c ∈ spaced components, P c := by
  intro c hc
  obtain ⟨component, hcomponent, hmem⟩ := List.mem_flatMap.mp hc
  rcases List.mem_cons.mp hmem with rfl | hmem
  · exact hspace
  · exact h component hcomponent c hmem

/-- What holds of a space and of all capitals holds of the letters in their columns. -/
theorem forall_mem_letterColumns {P : Char → Prop} (hspace : P ' ')
    (hcapital : ∀ c : Char, c.isUpper = true → P c) (printed : Printed) :
    ∀ c ∈ Text.padEnd letterColumns printed.number.letters, P c :=
  List.forall_mem_append.mpr ⟨fun c hc => hcapital c (printed.number.isUpper c hc),
    fun _ hc => (List.mem_replicate.mp hc).2 ▸ hspace⟩

/-- Keys of printed call numbers are aligned. -/
theorem aligned_lcKey (a b : Printed) : Aligned (lcKey a) (lcKey b) := by
  have hletters : ∀ printed : Printed,
      ∀ c ∈ Text.padEnd letterColumns printed.number.letters, OnRow c ∨ c = ' ' :=
    forall_mem_letterColumns (Or.inr rfl) fun c hc => Or.inl (Or.inl hc)
  unfold lcKey
  rw [List.append_assoc, List.append_assoc]
  refine (aligned_of_forall (hletters a) (hletters b)).append ?_ ?_
  · rw [length_letterColumns, length_letterColumns]
  · exact aligned_fixed (by omega) _ _ (aligned_tail a.tail b.tail)

/-! ### Their characters and their length -/

/-- A cutter in a key. -/
theorem cutterKey_spec {c : Cutter} (h : c.digits.text.length ≤ 6) :
    (cutterKey c).length = 9 ∧ ∀ d ∈ cutterKey c, IsPrinted d := by
  constructor
  · rw [cutterKey, List.length_cons, length_fixed (by omega) (scaled_cutter_lt h)]
    rfl
  · exact List.forall_mem_cons.mpr ⟨Or.inl c.isUpper, isPrinted_fixed 1 6 _⟩

/-- A year in a key. -/
theorem yearKey_spec {digits : Digits} (h : digits.text.length ≤ 6) :
    (yearKey digits).length = 6 ∧ ∀ d ∈ yearKey digits, IsPrinted d := by
  constructor
  · rw [yearKey, length_fixed (by omega) (ofDigits_year_lt h)]
    rfl
  · exact isPrinted_fixed 6 0 _

/-- Not many components stand behind the class, and each is short. -/
theorem tailComponents_spec {printed : Printed} (h : Fits printed) :
    (tailComponents printed.tail).length ≤ 3 ∧ ∀ component ∈ tailComponents printed.tail,
      component.length ≤ 9 ∧ ∀ c ∈ component, IsPrinted c := by
  have hcutter {c : Cutter} (h : c.digits.text.length ≤ 6) :
      (cutterKey c).length ≤ 9 ∧ ∀ d ∈ cutterKey c, IsPrinted d :=
    (cutterKey_spec h).imp_left Nat.le_of_eq
  have hyear {digits : Digits} (h : digits.text.length ≤ 6) :
      (yearKey digits).length ≤ 9 ∧ ∀ d ∈ yearKey digits, IsPrinted d :=
    (yearKey_spec h).imp_left fun hlength => by omega
  cases htail : printed.tail with
  | none => simp [tailComponents]
  | some tail =>
    have hfirst := hcutter (h.cutter tail htail)
    have hfits := h.ending tail htail
    cases hending : tail.ending with
    | nothing => simpa [tailComponents, endingComponents, hending] using hfirst
    | year y =>
      rw [hending] at hfits
      simpa [tailComponents, endingComponents, hending] using ⟨hfirst, hyear hfits⟩
    | cutter gap c y =>
      rw [hending] at hfits
      cases y with
      | none =>
        simpa [tailComponents, endingComponents, hending] using ⟨hfirst, hcutter hfits.1⟩
      | some year =>
        simpa [tailComponents, endingComponents, hending] using
          ⟨hfirst, hcutter hfits.1, hyear (hfits.2 year rfl)⟩

/-- Components of limited length make a text of limited length. -/
theorem length_spaced_le {components : List Text} {n : Nat}
    (h : ∀ component ∈ components, component.length ≤ n) :
    (spaced components).length ≤ components.length * (n + 1) := by
  induction components with
  | nil => simp [spaced]
  | cons component components ih =>
    have hrest := ih fun x hx => h x (by simp [hx])
    have hfirst := h component (by simp)
    rw [spaced_cons, List.length_append, List.length_append, List.length_singleton,
      List.length_cons, Nat.succ_mul]
    omega

/-- Keys of printed call numbers fit into the columns. -/
theorem fitting_lcKey {printed : Printed} (h : Fits printed) : Fitting (lcKey printed) := by
  obtain ⟨hfew, hcomponents⟩ := tailComponents_spec h
  have hspace : IsPrinted ' ' := Or.inr (Or.inr (Or.inl rfl))
  refine ⟨?_, fun c hc => Or.inr ((endsWithDigit_lcKey printed).isDigit c hc), ?_⟩
  · refine List.forall_mem_append.mpr ⟨List.forall_mem_append.mpr ⟨?_, ?_⟩, ?_⟩
    · exact forall_mem_letterColumns hspace (fun _ => Or.inl) printed
    · exact isPrinted_fixed 4 6 _
    · exact forall_mem_spaced hspace fun component hcomponent =>
        (hcomponents component hcomponent).2
  · have hnumber : (numberKey printed.number).length = 11 := by
      rw [numberKey, length_fixed (by omega) (scaled_number_lt h)]
      rfl
    have htail := length_spaced_le fun component hcomponent =>
      (hcomponents component hcomponent).1
    have hmost : (tailComponents printed.tail).length * (9 + 1) ≤ 3 * (9 + 1) :=
      Nat.mul_le_mul_right _ hfew
    rw [lcKey, List.length_append, List.length_append, length_letterColumns, hnumber,
      letterColumns, reverseLength]
    omega

/-! ## Dewey keys -/

/-- The components of a Dewey key behind the class number. -/
def deweyComponents (parts : CallNumber.Dewey) : List Text :=
  [parts.cutter, parts.cutterSuffix].filterMap id

section Dewey

variable {raw : Text} {parts : CallNumber.Dewey} (h : CallNumber.Dewey.parse? raw = some parts)

include h

/-- What reads as a Dewey number has a key: the class number with fixed digits, and the parts
behind it as they stand. -/
theorem dewey?_of_parse? :
    ∃ n, dewey? raw = .ok (fixed 3 8 n ++ spaced (deweyComponents parts)) := by
  obtain ⟨whole, fraction, hdecimal, hlength, hdigits⟩ := CallNumber.Dewey.isDecimal_of_parse? h
  obtain ⟨n, hnumber⟩ := exists_number_decimalText 3 8 hdecimal (by omega) hlength
  have hwritten : number parts.classDigits deweyClassWidth = .ok (fixed 3 8 n) := by
    rw [hdigits]
    exact hnumber
  exact ⟨n, by simp only [dewey?, h, hwritten]; rfl⟩

/-- A part behind the class number ends with a character that is no blank. -/
theorem getLast?_of_mem_deweyComponents : ∀ component ∈ deweyComponents parts,
    ∃ c ∈ component.getLast?, Character.isBlank c = false := by
  intro component hcomponent
  have hmem : parts.cutter = some component ∨ parts.cutterSuffix = some component := by
    obtain ⟨part, hpart, hsome⟩ := List.mem_filterMap.mp hcomponent
    rcases List.mem_cons.mp hpart with rfl | hpart
    · exact Or.inl hsome
    · exact Or.inr (List.mem_singleton.mp hpart ▸ hsome)
  rcases hmem with hcutter | hsuffix
  · exact CallNumber.Dewey.getLast?_cutter_of_parse? h component hcutter
  · exact CallNumber.Dewey.getLast?_cutterSuffix_of_parse? h component hsuffix

end Dewey

/-- What components end with a text with components ends with, or else the text itself. -/
theorem getLast?_spaced {P : Char → Prop} {components : List Text} {s : Text}
    (hs : ∀ c ∈ s.getLast?, P c)
    (h : ∀ component ∈ components, ∃ c ∈ component.getLast?, P c) :
    ∀ c ∈ (s ++ spaced components).getLast?, P c := by
  induction components generalizing s with
  | nil => simpa [spaced] using hs
  | cons component components ih =>
    obtain ⟨d, hd, hP⟩ := h component (by simp)
    have hlast : ∀ c ∈ (s ++ ([' '] ++ component)).getLast?, P c := by
      intro c hc
      have hcd : d = c := by
        simpa [List.getLast?_append, List.getLast?_cons, Option.mem_def.mp hd] using hc
      exact hcd ▸ hP
    rw [spaced_cons, ← List.append_assoc [' '], ← List.append_assoc]
    exact ih hlast fun x hx => h x (by simp [hx])

/-! ## Well-formed call numbers -/

/-- A well-formed call number: a Library of Congress number that is printed from parts whose
digits fit, in either case and with white space around it, or a Dewey number with only
digits, capitals and spaces behind the class number and a key that is not too long. -/
inductive WellFormed : Text → Prop
  | lc {raw : Text} (printed : Printed) (fits : Fits printed)
      (text : raw.trim.upper = printed.text) : WellFormed raw
  | dewey {raw : Text} (parts : CallNumber.Dewey)
      (parse : CallNumber.Dewey.parse? raw = some parts)
      (plain : ∀ component ∈ deweyComponents parts, ∀ c ∈ component, OnRow c ∨ c = ' ')
      (short : (dewey raw).length ≤ reverseLength) : WellFormed raw

/-- The key of a call number depends on its parts only. -/
theorem lc?_congr {a b : Text} (h : CallNumber.Lc.parse a = CallNumber.Lc.parse b) :
    lc? a = lc? b := by
  unfold lc?
  rw [h]

section Lc

variable {raw : Text} {printed : Printed} (h : raw.trim.upper = printed.text)

include h

/-- The key of a printed call number in any case and with white space around it. -/
theorem lc_of_upper (hfits : Fits printed) : lc raw = lcKey printed := by
  have hparse : CallNumber.Lc.parse raw = CallNumber.Lc.parse printed.text := by
    rw [CallNumber.Lc.parse_text, ← CallNumber.Lc.ofUpper_text, ← h]
    rfl
  unfold lc
  rw [lc?_congr hparse, lc?_text hfits]

/-- A printed call number is no Dewey number. -/
theorem detect_ne_dewey : Scheme.detect raw ≠ .dewey := by
  have hnot : Scheme.isDewey raw = false := Scheme.isDewey_eq_false fun c hc =>
    printed.number.head_text _ c (by rwa [h] at hc)
  unfold Scheme.detect
  rw [hnot]
  split <;> simp

end Lc

/-- The key of a well-formed call number, in either scheme. -/
inductive KeyForm : Scheme → Text → Prop
  | lc (printed : Printed) (fits : Fits printed) : KeyForm .lc (lcKey printed)
  | dewey (n : Nat) (components : List Text)
      (plain : ∀ component ∈ components, ∀ c ∈ component, OnRow c ∨ c = ' ')
      (fitting : Fitting (fixed 3 8 n ++ spaced components)) :
      KeyForm .dewey (fixed 3 8 n ++ spaced components)

/-- A Dewey key that is not too long fits into the columns. -/
theorem fitting_dewey {n : Nat} {components : List Text}
    (hplain : ∀ component ∈ components, ∀ c ∈ component, OnRow c ∨ c = ' ')
    (hends : ∀ component ∈ components, ∃ c ∈ component.getLast?, Character.isBlank c = false)
    (hlength : (fixed 3 8 n ++ spaced components).length ≤ reverseLength) :
    Fitting (fixed 3 8 n ++ spaced components) := by
  have hprinted {c : Char} (h : OnRow c ∨ c = ' ') : IsPrinted c := by
    rcases h with (h | h) | h
    · exact Or.inl h
    · exact Or.inr (Or.inl h)
    · exact Or.inr (Or.inr (Or.inl h))
  refine ⟨?_, getLast?_spaced ?_ ?_, hlength⟩
  · exact List.forall_mem_append.mpr ⟨isPrinted_fixed 3 8 n, fun c hc =>
      hprinted (forall_mem_spaced (Or.inr rfl) hplain c hc)⟩
  · exact fun c hc => Or.inr ((endsWithDigit_fixed (by omega) 8 n).isDigit c hc)
  · intro component hcomponent
    obtain ⟨c, hc, hblank⟩ := hends component hcomponent
    refine ⟨c, hc, (hplain component hcomponent c (List.mem_of_getLast? hc)).resolve_right ?_⟩
    rintro rfl
    exact absurd hblank (by simp)

/-- The key of a well-formed call number has the form of its scheme. -/
theorem keyForm_of_wellFormed {raw key : Text} (h : WellFormed raw)
    (hkey : ofCallNumber? raw = some key) : KeyForm (Scheme.detect raw) key := by
  unfold ofCallNumber? at hkey
  cases h with
  | lc printed fits text =>
    cases hscheme : Scheme.detect raw with
    | lc =>
      rw [hscheme] at hkey
      obtain rfl := Option.some.inj hkey
      rw [lc_of_upper text fits]
      exact .lc printed fits
    | dewey => exact absurd hscheme (detect_ne_dewey text)
    | unknown =>
      rw [hscheme] at hkey
      cases hkey
  | dewey parts parse plain short =>
    obtain ⟨n, hwritten⟩ := dewey?_of_parse? parse
    have hvalue : dewey raw = fixed 3 8 n ++ spaced (deweyComponents parts) := by
      rw [dewey, hwritten]
    rw [CallNumber.Dewey.detect_of_parse? parse] at hkey ⊢
    obtain rfl := Option.some.inj hkey
    rw [hvalue] at short ⊢
    exact .dewey n _ plain (fitting_dewey plain (getLast?_of_mem_deweyComponents parse) short)

/-- Keys of one scheme are aligned and fit into the columns. -/
theorem aligned_of_keyForm {scheme : Scheme} {a b : Text} (ha : KeyForm scheme a)
    (hb : KeyForm scheme b) : Aligned a b ∧ Fitting a ∧ Fitting b := by
  cases ha with
  | lc printed fits =>
    cases hb with
    | lc printed' fits' =>
      exact ⟨aligned_lcKey printed printed', fitting_lcKey fits, fitting_lcKey fits'⟩
  | dewey n components plain fitting =>
    cases hb with
    | dewey n' components' plain' fitting' =>
      refine ⟨aligned_fixed (by omega) n n' ?_, fitting, fitting'⟩
      exact aligned_of_forall (forall_mem_spaced (Or.inr rfl) plain)
        (forall_mem_spaced (Or.inr rfl) plain')

/-! ## Reverse keys of call numbers -/

/-- For two call numbers of one scheme with keys of any kind, the reverse keys are in
descending order if the columns of the keys ascend without continuing one another, and for
keys no longer than a reverse key only then.  If both call numbers are well formed, the
reverse keys descend wherever the keys ascend. -/
theorem reverse_bytes_descend {a b ka kb : Text} (ha : ofCallNumber? a = some ka)
    (hb : ofCallNumber? b = some kb) (hscheme : Scheme.detect a = Scheme.detect b) :
    (compare (columns ka).bytes (columns kb).bytes = .lt → ¬ columns ka <+: columns kb →
      compare (reverse ka).bytes (reverse kb).bytes = .gt) ∧
    (ka.length ≤ reverseLength → kb.length ≤ reverseLength →
      (compare (reverse ka).bytes (reverse kb).bytes = .gt ↔
        compare (columns ka).bytes (columns kb).bytes = .lt)) ∧
    (WellFormed a → WellFormed b → compare ka.bytes kb.bytes = .lt →
      compare (reverse ka).bytes (reverse kb).bytes = .gt) := by
  simp only [Text.compare_bytes]
  refine ⟨reverse_gt_of_columns, fun hka hkb => ?_, fun hwa hwb hlt => ?_⟩
  · rw [compare_reverse hka hkb]
    exact Std.OrientedCmp.gt_iff_lt
  · have hforma := keyForm_of_wellFormed hwa ha
    have hformb := keyForm_of_wellFormed hwb hb
    rw [← hscheme] at hformb
    obtain ⟨haligned, hfita, hfitb⟩ := aligned_of_keyForm hforma hformb
    exact reverse_gt_of_lt haligned hfita hfitb hlt

/-- The cutter `S7` comes behind `S64`, and in reverse in front of it. -/
theorem reverse_dewey_descends :
    compare (reverse "813.54000000 S64".toList).bytes
      (reverse "813.54000000 S7 1999".toList).bytes = .gt := by
  have hparse : CallNumber.Dewey.parse? "813.54 S64".toList =
      some ⟨"813.54".toList, some "S64".toList, none⟩ := by decide +kernel
  have hparse' : CallNumber.Dewey.parse? "813.54 S7 1999".toList =
      some ⟨"813.54".toList, some "S7".toList, some "1999".toList⟩ := by decide +kernel
  have hkey : ofCallNumber? "813.54 S64".toList = some "813.54000000 S64".toList := by
    decide +kernel
  have hkey' : ofCallNumber? "813.54 S7 1999".toList = some "813.54000000 S7 1999".toList := by
    decide +kernel
  have hscheme : Scheme.detect "813.54 S64".toList = Scheme.detect "813.54 S7 1999".toList := by
    decide +kernel
  refine (reverse_bytes_descend hkey hkey' hscheme).2.2 (.dewey _ hparse ?_ ?_)
    (.dewey _ hparse' ?_ ?_) ?_
  · simp [deweyComponents, OnRow]
  · decide +kernel
  · simp [deweyComponents, OnRow]
  · decide +kernel
  · decide +kernel

/-- A space and a point in one column are told apart by the shelf keys and not by the reverse
keys. -/
theorem reverse_not_descending :
    Scheme.detect "A1 .B2 V 3".toList = .lc ∧ Scheme.detect "A1 .B2 V.3".toList = .lc ∧
      ofCallNumber? "A1 .B2 V 3".toList = some "A   0001.000000 B0.200000 V 000003".toList ∧
      ofCallNumber? "A1 .B2 V.3".toList = some "A   0001.000000 B0.200000 V.000003".toList ∧
      compare (Text.bytes "A   0001.000000 B0.200000 V 000003".toList)
        (Text.bytes "A   0001.000000 B0.200000 V.000003".toList) = .lt ∧
      compare (reverse "A   0001.000000 B0.200000 V 000003".toList).bytes
        (reverse "A   0001.000000 B0.200000 V.000003".toList).bytes ≠ .gt := by
  decide +kernel

end ShelfKey
end Shelfmark
