import Shelfmark.Entry
import Shelfmark.Proofs.Character.Case
import Shelfmark.Proofs.Text.Order

/-!
# Natural order - The laws of an order

Members of a cluster, sorted listings and listings without repetition all rest on
the natural order being a total preorder.  The comparison of single tokens is none
on arbitrary tokens, because a run without digits has no first character; on the
tokens of a text it agrees with `Token.order`, which is lawful throughout.

Main results:

- Theorem `natural_eq_compareLex_order`: the natural order is the lexicographic
  order of tokens under a lawful comparison.
- Theorem `natural_eq_eq_iff`: texts are equal in the natural order exactly when
  they fold to the same text.
- Theorem `lawful_orders`: natural order, normed order and the order of entries are
  total preorders, with their equalities described character by character.
-/

namespace Shelfmark
namespace NaturalOrder

open Character (fold fold_of_isDigit isDigit_fold isDigit_iff)

/-! ## Comparisons in general -/

/-- Values compared by what a function makes of them are as lawfully compared as that. -/
theorem transCmp_comap {α β : Type} (cmp : β → β → Ordering) [Std.TransCmp cmp] (f : α → β) :
    Std.TransCmp fun a b => cmp (f a) (f b) where
  eq_swap := Std.OrientedCmp.eq_swap
  isLE_trans := Std.TransCmp.isLE_trans

/-- Lexicographic comparison only looks at elements of the two lists. -/
theorem compareLex_congr {α : Type} {f g : α → α → Ordering} {xs ys : List α}
    (h : ∀ x ∈ xs, ∀ y ∈ ys, f x y = g x y) :
    List.compareLex f xs ys = List.compareLex g xs ys := by
  induction xs generalizing ys with
  | nil => cases ys <;> rfl
  | cons x xs ih =>
    cases ys with
    | nil => rfl
    | cons y ys =>
      rw [List.compareLex_cons_cons, List.compareLex_cons_cons, h x (by simp) y (by simp),
        ih fun x hx y hy => h x (by simp [hx]) y (by simp [hy])]

/-- A common first part decides nothing. -/
theorem compareLex_append_left {α : Type} {cmp : α → α → Ordering} [Std.ReflCmp cmp]
    (xs ys zs : List α) :
    List.compareLex cmp (xs ++ ys) (xs ++ zs) = List.compareLex cmp ys zs := by
  induction xs with
  | nil => rfl
  | cons x xs ih =>
    have hself : cmp x x = .eq := Std.ReflCmp.compare_self
    rw [List.cons_append, List.cons_append, List.compareLex_cons_cons, hself, ih]
    rfl

/-! ## Runs of digits -/

/-- A run is its leading zeros followed by its significant digits. -/
theorem replicate_append_significant (run : Text) :
    List.replicate (run.length - (significant run).length) '0' ++ significant run = run := by
  induction run with
  | nil => rfl
  | cons c run ih =>
    by_cases hzero : c = '0'
    · subst hzero
      have hle : (significant run).length ≤ run.length :=
        (List.dropWhile_suffix _).length_le
      have hsig : significant ('0' :: run) = significant run := rfl
      rw [hsig, List.length_cons, Nat.sub_add_comm hle, List.replicate_succ, List.cons_append, ih]
    · have hsig : significant (c :: run) = c :: run := by simp [significant, hzero]
      simp [hsig]

/-- Runs compare by three keys, one after the other. -/
theorem compareNumbers_eq_compareLex :
    compareNumbers =
      compareLex (compareOn fun run => (significant run).length)
        (compareLex (compareOn significant) (compareOn List.length)) :=
  rfl

/-- The comparison of runs is a total preorder. -/
instance : Std.TransCmp compareNumbers := by
  rw [compareNumbers_eq_compareLex]
  infer_instance

/-- Runs that compare equal are spelled alike: the value fixes the significant digits, and the
length then fixes the zeros in front of them. -/
instance : Std.LawfulEqCmp compareNumbers where
  eq_of_compare {a b} h := by
    simp only [compareNumbers, Ordering.then_eq_eq] at h
    obtain ⟨-, hdigits, hlength⟩ := h
    have hdigits := Std.LawfulEqOrd.eq_of_compare hdigits
    have hlength := Std.LawfulEqOrd.eq_of_compare hlength
    rw [← replicate_append_significant a, ← replicate_append_significant b, hdigits, hlength]

/-! ## Tokens -/

/-- A token as it occurs in a text: a run holds at least one digit and digits only, and no other
token is a digit. -/
def Token.WellFormed : Token → Prop
  | number run => run ≠ [] ∧ ∀ c ∈ run, c.isDigit
  | other c => c.isDigit = false

/-- Putting a character in front keeps the tokens well formed. -/
theorem Token.wellFormed_push (c : Char) {row : List Token} (h : ∀ t ∈ row, t.WellFormed) :
    ∀ t ∈ Token.push c row, t.WellFormed := by
  unfold Token.push
  split
  · rename_i hdigit
    split
    · rename_i run rest
      intro t ht
      rcases List.mem_cons.mp ht with rfl | ht
      · have hrun := h (number run) (by simp)
        refine ⟨by simp, fun d hd => ?_⟩
        rcases List.mem_cons.mp hd with rfl | hd
        · exact hdigit
        · exact hrun.2 d hd
      · exact h t (by simp [ht])
    · intro t ht
      rcases List.mem_cons.mp ht with rfl | ht
      · exact ⟨by simp, by simpa using hdigit⟩
      · exact h t ht
  · rename_i hdigit
    intro t ht
    rcases List.mem_cons.mp ht with rfl | ht
    · simpa [WellFormed, isDigit_fold] using hdigit
    · exact h t ht

/-- The tokens of a text are well formed. -/
theorem wellFormed_of_mem_tokens {s : Text} : ∀ t ∈ tokens s, t.WellFormed := by
  induction s with
  | nil => simp [tokens]
  | cons c s ih => exact Token.wellFormed_push c ih

/-- The text of a token, folded. -/
def Token.text : Token → Text
  | number run => run
  | other c => [c]

/-- The tokens of a text spell the folded text. -/
theorem flatMap_text_tokens (s : Text) : (tokens s).flatMap Token.text = s.map fold := by
  induction s with
  | nil => rfl
  | cons c s ih =>
    change (Token.push c (tokens s)).flatMap Token.text = fold c :: s.map fold
    rw [← ih]
    unfold Token.push
    split
    · rename_i hdigit
      rw [fold_of_isDigit hdigit]
      split
      · rename_i hrow
        simp [hrow, Token.text]
      · simp [Token.text]
    · simp [Token.text]

/-- Characters that fold alike act alike in front of a row of tokens. -/
theorem Token.push_congr {c d : Char} (h : fold c = fold d) (row : List Token) :
    Token.push c row = Token.push d row := by
  have hdigit : c.isDigit = d.isDigit := by rw [← isDigit_fold c, h, isDigit_fold d]
  unfold Token.push
  rw [hdigit]
  split
  · rename_i hd
    have hcd : c = d := by
      rw [← fold_of_isDigit (hdigit.trans hd), h, fold_of_isDigit hd]
    rw [hcd]
  · rw [h]

/-- Two texts have the same tokens exactly when they fold to the same text. -/
theorem tokens_eq_iff {a b : Text} : tokens a = tokens b ↔ a.map fold = b.map fold := by
  constructor
  · intro h
    rw [← flatMap_text_tokens a, h, flatMap_text_tokens b]
  · intro h
    induction a generalizing b with
    | nil =>
      have hnil : b = [] := by simpa using h.symm
      rw [hnil]
    | cons c a ih =>
      cases b with
      | nil => simp at h
      | cons d b =>
        simp only [List.map_cons, List.cons.injEq] at h
        change Token.push c (tokens a) = Token.push d (tokens b)
        rw [Token.push_congr h.1, ih h.2]

/-! ## A lawful comparison of tokens -/

/-- The character by which a token is told from a token of the other kind.  All digits stand at
one place of the code, so any of them serves for a run. -/
def Token.lead : Token → Char
  | number _ => '0'
  | other c => c

/-- The digits of a token. -/
def Token.digits : Token → Text
  | number run => run
  | other _ => []

/-- Tokens compared by their leads first and as numbers if these agree. -/
def Token.order : Token → Token → Ordering :=
  compareLex (compareOn Token.lead) (fun t u => compareNumbers t.digits u.digits)

/-- The comparison of tokens by lead and digits is a total preorder. -/
instance : Std.TransCmp Token.order :=
  have : Std.TransCmp fun t u : Token => compareNumbers t.digits u.digits :=
    transCmp_comap compareNumbers Token.digits
  inferInstanceAs (Std.TransCmp (compareLex _ _))

/-- A character that is no digit compares with all digits alike, and equals none of them. -/
theorem compare_isDigit {d c : Char} (hd : d.isDigit) (hc : c.isDigit = false) :
    Ord.compare d c = Ord.compare '0' c ∧ Ord.compare c d = Ord.compare c '0' ∧
      Ord.compare '0' c ≠ .eq := by
  have hrange := isDigit_iff.mp hd
  have hother : ¬ (48 ≤ c.toNat ∧ c.toNat ≤ 57) := by
    intro h
    simp [isDigit_iff.mpr h] at hc
  have hzero : '0'.toNat = 48 := rfl
  simp only [Character.compare_eq, hzero]
  by_cases hbelow : c.toNat < 48
  · have h₁ : Ord.compare d.toNat c.toNat = .gt := Nat.compare_eq_gt.mpr (by omega)
    have h₂ : Ord.compare 48 c.toNat = .gt := Nat.compare_eq_gt.mpr (by omega)
    have h₃ : Ord.compare c.toNat d.toNat = .lt := Nat.compare_eq_lt.mpr (by omega)
    have h₄ : Ord.compare c.toNat 48 = .lt := Nat.compare_eq_lt.mpr (by omega)
    simp [h₁, h₂, h₃, h₄]
  · have h₁ : Ord.compare d.toNat c.toNat = .lt := Nat.compare_eq_lt.mpr (by omega)
    have h₂ : Ord.compare 48 c.toNat = .lt := Nat.compare_eq_lt.mpr (by omega)
    have h₃ : Ord.compare c.toNat d.toNat = .gt := Nat.compare_eq_gt.mpr (by omega)
    have h₄ : Ord.compare c.toNat 48 = .gt := Nat.compare_eq_gt.mpr (by omega)
    simp [h₁, h₂, h₃, h₄]

/-- On well-formed tokens the comparison is the one by lead and digits. -/
theorem Token.compare_eq_order {t u : Token} (ht : t.WellFormed) (hu : u.WellFormed) :
    Token.compare t u = Token.order t u := by
  cases t with
  | number a =>
    cases u with
    | number b => simp [Token.compare, Token.order, compareLex, compareOn, lead, digits]
    | other d =>
      cases a with
      | nil => exact absurd rfl ht.1
      | cons c a =>
        obtain ⟨hdigit, -, hne⟩ := compare_isDigit (ht.2 c (by simp)) hu
        simp only [Token.compare, Token.order, compareLex, compareOn, lead, digits, List.head?_cons]
        change Ord.compare c d = _
        rw [hdigit]
        cases h : Ord.compare '0' d <;> simp_all
  | other c =>
    cases u with
    | number b =>
      cases b with
      | nil => exact absurd rfl hu.1
      | cons d b =>
        obtain ⟨-, hdigit, hne⟩ := compare_isDigit (hu.2 d (by simp)) ht
        have hne : Ord.compare c '0' ≠ .eq := fun h => hne (Std.OrientedCmp.eq_symm h)
        simp only [Token.compare, Token.order, compareLex, compareOn, lead, digits, List.head?_cons]
        change Ord.compare c d = _
        rw [hdigit]
        cases h : Ord.compare c '0' <;> simp_all
    | other d =>
      have hrefl : compareNumbers [] [] = .eq := Std.ReflCmp.compare_self
      simp [Token.compare, Token.order, compareLex, compareOn, lead, digits, hrefl]

/-- Well-formed tokens that compare equal are the same. -/
theorem Token.eq_of_order {t u : Token} (ht : t.WellFormed) (hu : u.WellFormed)
    (h : Token.order t u = .eq) : t = u := by
  rw [← Token.compare_eq_order ht hu] at h
  cases t with
  | number a =>
    cases u with
    | number b =>
      have hcompare : compareNumbers a b = .eq := h
      rw [Std.LawfulEqCmp.eq_of_compare hcompare]
    | other d =>
      cases a with
      | nil => exact absurd rfl ht.1
      | cons c a =>
        have hcompare : Ord.compare c d = .eq := h
        have hcd := Std.LawfulEqOrd.eq_of_compare hcompare
        have hc := ht.2 c (by simp)
        rw [hcd, show d.isDigit = false from hu] at hc
        contradiction
  | other c =>
    cases u with
    | number b =>
      cases b with
      | nil => exact absurd rfl hu.1
      | cons d b =>
        have hcompare : Ord.compare c d = .eq := h
        have hcd := Std.LawfulEqOrd.eq_of_compare hcompare
        have hd := hu.2 d (by simp)
        rw [← hcd, show c.isDigit = false from ht] at hd
        contradiction
    | other d =>
      have hcompare : Ord.compare c d = .eq := h
      rw [Std.LawfulEqOrd.eq_of_compare hcompare]

/-! ## Natural order -/

/-- The natural order is lexicographic under a lawful comparison of tokens. -/
theorem natural_eq_compareLex_order (a b : Text) :
    natural a b = List.compareLex Token.order (tokens a) (tokens b) :=
  compareLex_congr fun t ht u hu =>
    Token.compare_eq_order (wellFormed_of_mem_tokens t ht) (wellFormed_of_mem_tokens u hu)

/-- The natural order is a total preorder. -/
instance : Std.TransCmp natural where
  eq_swap {a b} := by
    rw [natural_eq_compareLex_order, natural_eq_compareLex_order]
    exact Std.OrientedCmp.eq_swap
  isLE_trans {a b c} hab hbc := by
    rw [natural_eq_compareLex_order] at hab hbc ⊢
    exact Std.TransCmp.isLE_trans hab hbc

/-- Lists of well-formed tokens that compare equal are the same. -/
theorem eq_of_compareLex_order {xs ys : List Token} (hxs : ∀ t ∈ xs, t.WellFormed)
    (hys : ∀ t ∈ ys, t.WellFormed) (h : List.compareLex Token.order xs ys = .eq) : xs = ys := by
  induction xs generalizing ys with
  | nil => exact (List.compareLex_nil_left_eq_eq.mp h).symm
  | cons x xs ih =>
    cases ys with
    | nil => simp [List.compareLex_cons_nil] at h
    | cons y ys =>
      rw [List.compareLex_cons_cons, Ordering.then_eq_eq] at h
      rw [Token.eq_of_order (hxs x (by simp)) (hys y (by simp)) h.1,
        ih (fun t ht => hxs t (by simp [ht])) (fun t ht => hys t (by simp [ht])) h.2]

/-- Two texts are equally long and agree character by character once case is folded. -/
def FoldAgree (a b : Text) : Prop :=
  a.length = b.length ∧ ∀ i (ha : i < a.length) (hb : i < b.length), fold a[i] = fold b[i]

/-- Texts agree up to case exactly when they fold to the same text. -/
theorem foldAgree_iff {a b : Text} : FoldAgree a b ↔ a.map fold = b.map fold := by
  constructor
  · rintro ⟨hlength, hchars⟩
    apply List.ext_getElem
    · simpa using hlength
    · intro i ha hb
      simpa using hchars i (by simpa using ha) (by simpa using hb)
  · intro h
    refine ⟨by simpa using congrArg List.length h, fun i ha hb => ?_⟩
    have hget : (a.map fold)[i]? = (b.map fold)[i]? := by rw [h]
    simpa [ha, hb] using hget

/-- Texts are equal in the natural order exactly when they fold to the same text. -/
theorem natural_eq_eq_iff {a b : Text} : natural a b = .eq ↔ a.map fold = b.map fold := by
  rw [natural_eq_compareLex_order, ← tokens_eq_iff]
  constructor
  · exact eq_of_compareLex_order wellFormed_of_mem_tokens wellFormed_of_mem_tokens
  · intro h
    rw [h]
    exact Std.ReflCmp.compare_self

/-! ## Normed order -/

/-- The text without the characters that do not count. -/
def counted (s : Text) : Text :=
  s.filter (!isIgnorable ·)

/-- The pieces of a text count one by one. -/
theorem counted_append (s t : Text) : counted (s ++ t) = counted s ++ counted t := by
  unfold counted
  exact List.filter_append s t

/-- A text without ignored characters counts as a whole. -/
theorem counted_eq_self {s : Text} (h : ∀ c ∈ s, isIgnorable c = false) : counted s = s :=
  List.filter_eq_self.mpr fun c hc => by simp [h c hc]

/-- Spaces do not count. -/
theorem counted_spaces (n : Nat) : counted (List.replicate n ' ') = [] :=
  List.filter_eq_nil_iff.mpr fun c hc => by
    rw [(List.mem_replicate.mp hc).2]
    decide

/-- Capitals are not ignored. -/
theorem isIgnorable_of_isUpper {c : Char} (h : c.isUpper) : isIgnorable c = false := by
  rw [isIgnorable, Bool.or_eq_false_iff]
  constructor <;> rw [beq_eq_false_iff_ne] <;> rintro rfl <;> contradiction

/-- Digits are not ignored. -/
theorem isIgnorable_of_isDigit {c : Char} (h : c.isDigit) : isIgnorable c = false := by
  rw [isIgnorable, Bool.or_eq_false_iff]
  constructor <;> rw [beq_eq_false_iff_ne] <;> rintro rfl <;> contradiction

/-- The normed order is a total preorder. -/
instance : Std.TransCmp normed :=
  transCmp_comap natural counted

/-- Texts are equal in the normed order exactly when their counted characters fold to the same
text. -/
theorem normed_eq_eq_iff {a b : Text} :
    normed a b = .eq ↔ (counted a).map fold = (counted b).map fold :=
  natural_eq_eq_iff

end NaturalOrder

/-! ## The order of entries -/

open NaturalOrder

namespace Entry

/-- The order of entries is a total preorder. -/
instance : Std.TransCmp Entry.compare :=
  transCmp_comap normed Entry.display

/-- What makes an entry the call number it is: its counted characters without case. -/
def identity (entry : Entry) : Text :=
  (counted entry.display).map Character.fold

/-- Entries are the same exactly when they compare equal. -/
theorem same_iff {a b : Entry} : a.same b = true ↔ a.compare b = .eq := by
  simp [same]

/-- Entries are the same exactly when their identities are. -/
theorem same_iff_identity_eq {a b : Entry} : a.same b = true ↔ a.identity = b.identity :=
  same_iff.trans normed_eq_eq_iff

/-- With the same tag, entries are the same exactly when the counted characters of their values
agree up to case. -/
theorem same_withValue_iff (tag : Option Text) {v w : Text} :
    (withValue tag v).same (withValue tag w) = true ↔
      (counted v).map Character.fold = (counted w).map Character.fold := by
  rw [same_iff_identity_eq]
  unfold identity display withValue
  cases tag.bind Text.nonempty? with
  | none => rfl
  | some tag =>
    have hdisplay (value : Text) : (counted (tag ++ ':' :: value)).map Character.fold =
        (counted (tag ++ [':'])).map Character.fold ++ (counted value).map Character.fold := by
      rw [← List.map_append, ← counted_append, List.append_assoc]
      rfl
    change (counted (tag ++ ':' :: v)).map _ = (counted (tag ++ ':' :: w)).map _ ↔ _
    rw [hdisplay v, hdisplay w]
    exact List.append_right_inj _

/-- Being the same call number is an equivalence of entries. -/
theorem same_equivalence : Equivalence fun a b : Entry => a.same b = true where
  refl _ := same_iff_identity_eq.mpr rfl
  symm h := same_iff_identity_eq.mpr (same_iff_identity_eq.mp h).symm
  trans h h' := same_iff_identity_eq.mpr
    ((same_iff_identity_eq.mp h).trans (same_iff_identity_eq.mp h'))

/-- Entries are the same exactly when they compare alike with every entry. -/
theorem same_iff_forall_compare {a b : Entry} :
    a.same b = true ↔ ∀ c, a.compare c = b.compare c ∧ c.compare a = c.compare b := by
  rw [same_iff]
  constructor
  · intro h c
    exact ⟨Std.TransCmp.congr_left h, Std.TransCmp.congr_right h⟩
  · intro h
    rw [(h b).1]
    exact Std.ReflCmp.compare_self

end Entry

/-- Natural order, normed order and the order of entries are total preorders.  Equality is
agreement up to case in the first, agreement of the counted characters in the second, and among
entries an equivalence that no comparison can tell apart. -/
theorem lawful_orders :
    (Std.TransCmp natural ∧ ∀ a b, natural a b = .eq ↔ FoldAgree a b) ∧
      (Std.TransCmp normed ∧
        ∀ a b, normed a b = .eq ↔
          FoldAgree (a.filter fun c => !isIgnorable c) (b.filter fun c => !isIgnorable c)) ∧
      Std.TransCmp Entry.compare ∧
      (Equivalence fun a b : Entry => a.same b = true) ∧
      ∀ a b : Entry,
        a.same b = true ↔ ∀ c, a.compare c = b.compare c ∧ c.compare a = c.compare b := by
  refine ⟨⟨inferInstance, fun a b => ?_⟩, ⟨inferInstance, fun a b => ?_⟩, inferInstance,
    Entry.same_equivalence, fun a b => Entry.same_iff_forall_compare⟩
  · rw [natural_eq_eq_iff, foldAgree_iff]
  · rw [normed_eq_eq_iff, foldAgree_iff]
    rfl

end Shelfmark
