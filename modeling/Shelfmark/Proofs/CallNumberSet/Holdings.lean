import Shelfmark.Proofs.CallNumberSet.Gathering
import Shelfmark.Proofs.Entry.Respacing
import Shelfmark.Proofs.Record.Once

/-!
# Call numbers of a record - Holdings once

A holdings value that is read twice, with the same scheme and the same call number, is listed once.
The two are looked at before the call number is brought into its normal spelling, and so two
spellings of one call number remain side by side: `PS3511 .A3` and `PS3511.A3` make two entries,
and no comparison tells them apart.

Main results:

- Theorem `heard_normalSpelling`: where all blanks are spaces, the normal spelling of a text is
  heard as its capitals are.
- Theorem `holdings_distinct_iff`: the holdings are distinct exactly when no two that differ as
  they are read make the same entry.
-/

namespace Shelfmark

open Character (isBlank)

/-! ## Spelling that is not heard -/

namespace Entry

/-- All blanks of a text are spaces. -/
def SpacesOnly (s : Text) : Prop :=
  ∀ c ∈ s, isBlank c = true → c = ' '

/-- A space is not heard in front of a text. -/
theorem heard_space (s : Text) : heard (' ' :: s) = heard s :=
  rfl

/-- A character is heard in front of what follows it. -/
theorem heard_cons (c : Char) (s : Text) : heard (c :: s) = heard [c] ++ heard s :=
  heard_append [c] s

namespace SpacesOnly

variable {s : Text}

/-- The pieces of a text with spaces only have spaces only. -/
theorem of_subset {t : Text} (h : SpacesOnly s) (hsub : t ⊆ s) : SpacesOnly t :=
  fun c hc => h c (hsub hc)

/-- A text with spaces only has spaces only in capitals. -/
theorem upper (h : SpacesOnly s) : SpacesOnly s.upper := by
  intro d hd hblank
  obtain ⟨c, hc, hform⟩ := List.mem_flatMap.mp hd
  have hc' : isBlank c = true := by
    by_contra hnot
    rw [Character.isBlank_of_mem_upper hform (by simpa using hnot)] at hblank
    contradiction
  rw [Character.upper_of_isBlank hc', List.mem_singleton] at hform
  rw [hform]
  exact h c hc hc'

/-- It makes no difference that runs of spaces are replaced by one. -/
theorem heard_collapseBlanks (h : SpacesOnly s) : heard (collapseBlanks s) = heard s := by
  induction s with
  | nil => rfl
  | cons c s ih =>
    have hs : SpacesOnly s := h.of_subset (List.subset_cons_self c s)
    rw [collapseBlanks_eq]
    split
    · rename_i hblank
      obtain ⟨hc, hnext⟩ := Bool.and_eq_true_iff.mp hblank
      cases s with
      | nil => contradiction
      | cons d s =>
        -- The blank that stands for the rest of the run is a space, and gives way to this one.
        obtain ⟨e, t, hrest, he⟩ := exists_collapseBlanks hnext s
        have hspace : e = ' ' := by
          rcases mem_of_mem_collapseBlanks (hrest ▸ List.mem_cons_self) with hmem | hspace
          · exact hs e hmem he
          · exact hspace
        rw [h c List.mem_cons_self hc, heard_space (d :: s), ← ih hs, hrest, hspace]
        rfl
    · rw [heard_cons c (Entry.collapseBlanks s), heard_cons c s, ih hs]

/-- It makes no difference that spaces beside periods are removed. -/
theorem heard_closePeriodsFrom (h : SpacesOnly s) (afterPeriod : Bool) :
    heard (closePeriodsFrom afterPeriod s) = heard s := by
  induction s generalizing afterPeriod with
  | nil => rfl
  | cons c s ih =>
    have hs : SpacesOnly s := h.of_subset (List.subset_cons_self c s)
    rw [closePeriodsFrom_eq]
    split
    · rename_i hblank
      rw [h c List.mem_cons_self (Bool.and_eq_true_iff.mp hblank).1, heard_space, ih hs]
    · rw [heard_cons c (closePeriodsFrom _ s), heard_cons c s, ih hs]

/-- Runs of spaces are replaced by spaces. -/
theorem collapseBlanks (h : SpacesOnly s) : SpacesOnly (collapseBlanks s) := by
  intro c hc hblank
  rcases mem_of_mem_collapseBlanks hc with hmem | hspace
  · exact h c hmem hblank
  · exact hspace

end SpacesOnly

/-- Where all blanks are spaces, the normal spelling of a trimmed text is heard as its capitals
are. -/
theorem heard_normalSpelling {raw : Text} (htrim : raw.trim = raw) (h : SpacesOnly raw) :
    heard (normalSpelling raw) = heard raw.upper := by
  have hcollapsed := h.upper.collapseBlanks.heard_closePeriodsFrom false
  rw [normalSpelling, heard_closeClassGap, htrim, closePeriods, hcollapsed,
    h.upper.heard_collapseBlanks]

/-- An entry is heard as its tag, if there is one, in front of its value. -/
theorem identity_withValue (tag : Option Text) (value : Text) :
    (withValue tag value).identity =
      ((tag.bind Text.nonempty?).elim [] fun tag => heard (tag ++ [':'])) ++ heard value := by
  unfold identity display withValue
  cases tag.bind Text.nonempty? with
  | none => rfl
  | some tag =>
    change heard (tag ++ ':' :: value) = heard (tag ++ [':']) ++ heard value
    rw [← heard_append, List.append_assoc]
    rfl

/-- Where all blanks are spaces, an entry is heard as its tag and the capitals of its text. -/
theorem identity_ofText {raw : Text} (tag : Option Text) (htrim : raw.trim = raw)
    (h : SpacesOnly raw) : (ofText tag raw).identity = (withValue tag raw.upper).identity := by
  rw [ofText, identity_withValue, identity_withValue, heard_normalSpelling htrim h]

end Entry

/-! ## The holdings of a record -/

namespace CallNumberSet

/-- The schemes and call numbers that the holdings values of a record give, as they are read. -/
def holdingsRead (reader : FieldReader) (options : Options) : List (Text × Text) :=
  (reader.listValues options.fields.holdings).filterMap (holding? options)

/-- The entry for a scheme and a call number. -/
def entryOf (holding : Text × Text) : Entry :=
  Entry.ofText (some holding.1) holding.2

/-- What is heard of a scheme and a call number in capitals, if the call number is not respelled. -/
def heardAsRead (holding : Text × Text) : Text :=
  (Entry.withValue (some holding.1) (Text.upper holding.2)).identity

/-- The call numbers that are read are trimmed. -/
theorem trim_of_mem_holdingsRead {reader : FieldReader} {options : Options}
    {holding : Text × Text} (h : holding ∈ holdingsRead reader options) :
    holding.2.trim = holding.2 := by
  obtain ⟨value, -, hread⟩ := List.mem_filterMap.mp h
  obtain ⟨name, written, -, -, -, -, -, hnumber⟩ := holding?_eq_some_iff.mp hread
  rw [← hnumber]
  exact (Text.isTrimmed_trim written).trim_eq

/-- Among values that are all different, no two have the same image under a relation exactly when
it relates none to another. -/
theorem pairwise_not_iff {α : Type} {values : List α} (hnodup : values.Nodup) {r : α → α → Prop}
    (hsymm : ∀ a b, r a b → r b a) :
    (values.Pairwise fun a b => ¬ r a b) ↔ ∀ a ∈ values, ∀ b ∈ values, r a b → a = b := by
  constructor
  · intro hpair a ha b hb hab
    by_contra hne
    have : Std.Symm fun a b => ¬ r a b := ⟨fun x y hnot hyx => hnot (hsymm y x hyx)⟩
    exact hpair.forall ha hb hne hab
  · intro hall
    exact hnodup.imp_of_mem fun {a b} ha hb hne hab => hne (hall a ha b hb hab)

/-- The holdings of a record.  Its entries are made, one by one and in order of first occurrence,
of the schemes and call numbers that are read, each pair of them once, and every holdings value
with a scheme and a call number has its entry among them.  They are distinct exactly when no two
different pairs make the same entry; where all blanks are spaces, two pairs do exactly when their
counted characters in capitals agree up to case. -/
theorem holdings_distinct_iff (reader : FieldReader) (options : Options) :
    let holdings := (ofReader reader options).holdings
    let read := holdingsRead reader options
    (∃ firsts, ListsOnce read firsts ∧ holdings = firsts.map entryOf) ∧
      (∀ value ∈ reader.listValues options.fields.holdings, ∀ name written : Text,
        value = name ++ ':' :: written → ':' ∉ name → name.trim ≠ [] → written.trim ≠ [] →
          entryOf (options.resolveScheme name.trim, written.trim) ∈ holdings) ∧
      ((holdings.Pairwise fun a b => ¬ a.same b = true) ↔
        ∀ h ∈ read, ∀ h' ∈ read, (entryOf h).same (entryOf h') = true → h = h') ∧
      ∀ h ∈ read, ∀ h' ∈ read, Entry.SpacesOnly h.2 → Entry.SpacesOnly h'.2 →
        ((entryOf h).same (entryOf h') = true ↔ heardAsRead h = heardAsRead h') := by
  intro holdings read
  have honce : ListsOnce read read.eraseDups := listsOnce_eraseDups read
  have hmade : holdings = read.eraseDups.map entryOf := map_ofRaw_readHoldings reader options
  refine ⟨⟨_, honce, hmade⟩, ?_, ?_, ?_⟩
  · intro value hvalue name written hsplit hcolon hname hwritten
    have hread : (options.resolveScheme name.trim, written.trim) ∈ read :=
      List.mem_filterMap.mpr ⟨value, hvalue, holding?_eq_some_iff.mpr
        ⟨name, written, hsplit, hcolon, hname, hwritten, rfl, rfl⟩⟩
    rw [hmade]
    exact List.mem_map_of_mem ((honce.mem_iff _).mpr hread)
  · have hsymm (h h' : Text × Text) (hsame : (entryOf h).same (entryOf h') = true) :
        (entryOf h').same (entryOf h) = true := Entry.same_equivalence.symm hsame
    rw [hmade, List.pairwise_map, pairwise_not_iff honce.nodup hsymm]
    simp only [honce.mem_iff]
  · intro h hh h' hh' hspaces hspaces'
    rw [Entry.same_iff_identity_eq, entryOf, entryOf,
      Entry.identity_ofText _ (trim_of_mem_holdingsRead hh) hspaces,
      Entry.identity_ofText _ (trim_of_mem_holdingsRead hh') hspaces']
    rfl

/-- A space in front of a period separates two spellings of one call number. -/
theorem spacedHolding_not_distinct :
    let record := Record.withField {} "999wa':'".toList
      ["LC:PS3511 .A3".toList, "LC:PS3511.A3".toList]
    ¬ (ofRecord record {}).holdings.Pairwise fun a b => ¬ a.same b = true := by
  decide

end CallNumberSet
end Shelfmark
