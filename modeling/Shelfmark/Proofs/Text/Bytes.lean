import Mathlib.Tactic.SplitIfs
import Shelfmark.Proofs.Text.Order

/-!
# Text - Order of bytes

Shelf keys are stored and sorted as bytes in UTF-8.  The encoding keeps the order: a
greater code point has a greater first byte, or else agrees with the smaller one up to a
byte that is greater.

Main results:

- Theorem `compare_utf8EncodeChar`: the first different character decides.
- Theorem `compare_bytes`: the order of bytes is the order of code points.
-/

namespace Shelfmark
namespace Text

/-- The bytes of a text in UTF-8. -/
def bytes (s : Text) : List UInt8 :=
  s.flatMap String.utf8EncodeChar

/-- Bytes that are less or equal decide in this order. -/
theorem compare_byte_cons {m n : Nat} {s t : List UInt8} (hm : m < 256) (hn : n < 256)
    (h : m < n ∨ m = n ∧ compare s t = .lt) :
    compare (UInt8.ofNat m :: s) (UInt8.ofNat n :: t) = .lt := by
  rw [List.compare_cons_cons]
  rcases h with h | ⟨rfl, h⟩
  · have hlt : UInt8.ofNat m < UInt8.ofNat n := by
      rw [UInt8.lt_iff_toNat_lt, UInt8.toNat_ofNat_of_lt' hm, UInt8.toNat_ofNat_of_lt' hn]
      exact h
    have hcompare : compare (UInt8.ofNat m) (UInt8.ofNat n) = .lt := if_pos hlt
    rw [hcompare]
    rfl
  · have hself : compare (UInt8.ofNat m) (UInt8.ofNat m) = .eq := Std.ReflCmp.compare_self
    rw [hself, h]
    rfl

/-! ## Characters -/

/-- The first byte of a code point: it also tells how many more there are. -/
def leadByte (n : Nat) : Nat :=
  if n ≤ 0x7f then n
  else if n ≤ 0x7ff then n / 64 % 0x20 + 0xc0
  else if n ≤ 0xffff then n / 4096 % 0x10 + 0xe0
  else n / 262144 % 0x08 + 0xf0

/-- Six bits of a code point as one of the bytes behind the first. -/
def trailByte (n : Nat) : UInt8 :=
  UInt8.ofNat (n % 0x40 + 0x80)

/-- The bytes behind the first. -/
def trailBytes (n : Nat) : List UInt8 :=
  if n ≤ 0x7f then []
  else if n ≤ 0x7ff then [trailByte n]
  else if n ≤ 0xffff then [trailByte (n / 64), trailByte n]
  else [trailByte (n / 4096), trailByte (n / 64), trailByte n]

/-- A character is encoded as its first byte and those behind it. -/
theorem utf8EncodeChar_eq (c : Char) :
    String.utf8EncodeChar c = UInt8.ofNat (leadByte c.toNat) :: trailBytes c.toNat := by
  have hval : c.val.toNat = c.toNat := rfl
  simp only [String.utf8EncodeChar, hval, leadByte, trailBytes]
  split_ifs <;> rfl

/-- Bytes behind the first keep the order of what they encode. -/
theorem compare_trailByte {m n : Nat} {s t : List UInt8}
    (h : m % 64 < n % 64 ∨ m % 64 = n % 64 ∧ compare s t = .lt) :
    compare (trailByte m :: s) (trailByte n :: t) = .lt := by
  refine compare_byte_cons (by omega) (by omega) ?_
  rcases h with h | ⟨h, hrest⟩
  · exact Or.inl (by omega)
  · exact Or.inr ⟨by omega, hrest⟩

section CodePoints

variable {m n : Nat} (h : m < n) (hn : n < 0x110000)

include h hn

/-- A greater code point has no smaller first byte. -/
theorem leadByte_le : leadByte m ≤ leadByte n := by
  unfold leadByte
  split_ifs <;> omega

/-- Of code points with the same first byte the greater one has the greater bytes behind it. -/
theorem compare_trailBytes (hlead : leadByte m = leadByte n) (s t : List UInt8) :
    compare (trailBytes m ++ s) (trailBytes n ++ t) = .lt := by
  unfold leadByte at hlead
  unfold trailBytes
  -- The same first byte means the same number of bytes.
  split_ifs at hlead ⊢ <;> try omega
  · exact compare_trailByte (Or.inl (by omega))
  · by_cases hmiddle : m / 64 % 64 = n / 64 % 64
    · exact compare_trailByte (Or.inr ⟨hmiddle, compare_trailByte (Or.inl (by omega))⟩)
    · exact compare_trailByte (Or.inl (by omega))
  · by_cases hhigh : m / 4096 % 64 = n / 4096 % 64
    · by_cases hmiddle : m / 64 % 64 = n / 64 % 64
      · exact compare_trailByte
          (Or.inr ⟨hhigh, compare_trailByte (Or.inr ⟨hmiddle, compare_trailByte (Or.inl (by omega))⟩)⟩)
      · exact compare_trailByte (Or.inr ⟨hhigh, compare_trailByte (Or.inl (by omega))⟩)
    · exact compare_trailByte (Or.inl (by omega))

end CodePoints

/-- The first different character decides, whatever follows. -/
theorem compare_utf8EncodeChar {c d : Char} (h : c.toNat < d.toNat) (s t : List UInt8) :
    compare (String.utf8EncodeChar c ++ s) (String.utf8EncodeChar d ++ t) = .lt := by
  have hd : d.toNat < 0x110000 := by
    have hvalid : d.toNat < 0xd800 ∨ 0xdfff < d.toNat ∧ d.toNat < 0x110000 := d.valid
    omega
  have hbyte {n : Nat} (hn : n < 0x110000) : leadByte n < 256 := by
    unfold leadByte
    split_ifs <;> omega
  rw [utf8EncodeChar_eq, utf8EncodeChar_eq, List.cons_append, List.cons_append]
  refine compare_byte_cons (hbyte (by omega)) (hbyte hd) ?_
  rcases Nat.lt_or_eq_of_le (leadByte_le h hd) with hlt | heq
  · exact Or.inl hlt
  · exact Or.inr ⟨heq, compare_trailBytes h hd heq s t⟩

/-! ## Texts -/

/-- The order of bytes is the order of code points. -/
theorem compare_bytes (s t : Text) : compare s.bytes t.bytes = compare s t := by
  induction s generalizing t with
  | nil =>
    cases t with
    | nil => rfl
    | cons d t =>
      rw [bytes, bytes, List.flatMap_cons, utf8EncodeChar_eq]
      rfl
  | cons c s ih =>
    cases t with
    | nil =>
      rw [bytes, bytes, List.flatMap_cons, utf8EncodeChar_eq]
      rfl
    | cons d t =>
      have ht := ih t
      unfold bytes at ht ⊢
      rw [List.compare_cons_cons, Character.compare_eq, List.flatMap_cons, List.flatMap_cons]
      rcases Nat.lt_trichotomy c.toNat d.toNat with h | h | h
      · rw [compare_utf8EncodeChar h, Nat.compare_eq_lt.mpr h]
        rfl
      · obtain rfl := Char.toNat_inj.mp h
        rw [compare_append_left, ht, Nat.compare_eq_eq.mpr h]
        rfl
      · rw [Std.OrientedOrd.eq_swap, compare_utf8EncodeChar h, Nat.compare_eq_gt.mpr h]
        rfl

end Text
end Shelfmark
