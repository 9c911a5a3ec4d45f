import Mathlib.Data.List.Basic
import TenantReports.Proofs.Text.Utf8

/-!
# The order of texts

**Texts are in the same order as their octets**: whichever of two texts has the smaller character
where they first differ also has the smaller octet where their octets first differ.

* `encodeNat_lt`: the octets of a greater character are greater, whatever follows.
* `ofString_lt_iff`: so are the octets of a greater text, and of no other.
-/

namespace TenantReports.Text.Utf8

/-- Of two sequences of octets the one with the smaller first octet is smaller; if the first octets
are the same, what follows decides. -/
theorem octets_lt {a b : Nat} {s t : List UInt8} (le : a ≤ b) (small : b < 256)
    (follows : a = b → s < t) : UInt8.ofNat a :: s < UInt8.ofNat b :: t := by
  rw [List.cons_lt_cons_iff, UInt8.lt_iff_toNat_lt, toNat_ofNat_of_lt small,
    toNat_ofNat_of_lt (Nat.lt_of_le_of_lt le small)]
  rcases Nat.lt_or_eq_of_le le with less | same
  · exact .inl less
  · exact .inr ⟨congrArg _ same, follows same⟩

/-- **The octets of a greater character are greater**: it takes more of them, and then the first one
is greater already, or as many, and then they are its digits. -/
theorem encodeNat_lt {m n : Nat} (less : m < n) (valid : n < 0x110000) (s t : List UInt8) :
    encodeNat m ++ s < encodeNat n ++ t := by
  unfold encodeNat
  by_cases one : n < 0x80
  · rw [if_pos one, if_pos (by omega)]
    exact octets_lt (by omega) (by omega) fun same => by omega
  rw [if_neg one]
  by_cases two : n < 0x800
  · rw [if_pos two]
    by_cases fewer : m < 0x80
    · rw [if_pos fewer]
      exact octets_lt (by omega) (by omega) fun same => by omega
    · rw [if_neg fewer, if_pos (by omega)]
      exact octets_lt (by omega) (by omega) fun first =>
        octets_lt (by omega) (by omega) fun second => by omega
  rw [if_neg two]
  by_cases three : n < 0x10000
  · rw [if_pos three]
    by_cases fewer : m < 0x800
    · rw [if_pos fewer]
      split <;> exact octets_lt (by omega) (by omega) fun same => by omega
    · rw [if_neg (by omega), if_neg fewer, if_pos (by omega)]
      exact octets_lt (by omega) (by omega) fun first =>
        octets_lt (by omega) (by omega) fun second =>
          octets_lt (by omega) (by omega) fun third => by omega
  rw [if_neg three]
  by_cases fewer : m < 0x10000
  · rw [if_pos fewer]
    split_ifs <;> exact octets_lt (by omega) (by omega) fun same => by omega
  · rw [if_neg (by omega), if_neg (by omega), if_neg fewer]
    exact octets_lt (by omega) (by omega) fun first =>
      octets_lt (by omega) (by omega) fun second =>
        octets_lt (by omega) (by omega) fun third =>
          octets_lt (by omega) (by omega) fun fourth => by omega

/-- **The octets of a greater text are greater.** -/
theorem encode_lt {s t : List Char} (less : s < t) : encode s < encode t := by
  induction s generalizing t with
  | nil =>
    cases t with
    | nil => exact absurd less (List.not_lt_nil _)
    | cons d t =>
      rw [encode_nil, encode_cons]
      cases octets : encodeNat d.toNat with
      | nil => exact absurd octets (encodeNat_ne_nil _)
      | cons first rest => exact List.nil_lt_cons _ _
  | cons c s ih =>
    cases t with
    | nil => exact absurd less (List.not_lt_nil _)
    | cons d t =>
      rw [encode_cons, encode_cons]
      rcases List.cons_lt_cons_iff.mp less with smaller | ⟨rfl, rest⟩
      · exact encodeNat_lt smaller (toNat_lt d) _ _
      · exact List.append_left_lt (ih rest)

/-- **Texts are in the order of their octets.** -/
theorem ofString_lt_iff {a b : String} : ofString a < ofString b ↔ a < b := by
  constructor
  · intro less
    by_contra other
    rcases Std.le_iff_lt_or_eq.mp (String.not_lt.mp other) with greater | rfl
    · exact List.lt_asymm less (encode_lt greater)
    · exact List.lt_irrefl _ less
  · exact fun less => encode_lt less

end TenantReports.Text.Utf8
