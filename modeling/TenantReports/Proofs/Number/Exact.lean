import Mathlib.Algebra.Order.Field.Rat
import Mathlib.Tactic.NormNum
import Mathlib.Tactic.Positivity
import TenantReports.Proofs.Json.Literals
import TenantReports.Proofs.Number.Padded

/-!
# Decimals as numbers

A `Decimal` and a `Fixed` stand for rational numbers. **A sum of decimals of 96 bits is exact when
it is a decimal of 96 bits**, and so is a change of places when there are enough of them.

* `Fixed.value_toDecimal_eq`, `Fixed.legible_toDecimal`: what is written of a `Fixed`.
* `Fixed.Representable`: sizes of decimals of 96 bits.
* `Fixed.size_add?`: sums; `Fixed.representable_of_le`: parts of them.
* `Fixed.size_rescale`, `Fixed.rescale_bounded`: other places.
-/

namespace TenantReports.Number

/-- The number that a decimal stands for. -/
def Decimal.value (d : Decimal) : ℚ :=
  (if d.negative then -1 else 1) * (d.significand * 10 ^ d.scale)

/-- A zero is the same number with a sign and without. -/
theorem Decimal.value_unsignedZero (d : Decimal) : d.unsignedZero.value = d.value := by
  unfold Decimal.unsignedZero
  split
  · rename_i zero
    have nothing : d.significand = 0 := by
      rw [Decimal.significand, zero.1, zero.2.1]
      rfl
    have same : ({ d with negative := false } : Decimal).significand = d.significand := rfl
    rw [Decimal.value, Decimal.value, same, nothing, Nat.cast_zero, zero_mul, zero_mul, mul_zero,
      mul_zero]
  · rfl

namespace Fixed

variable {a b r x : Fixed} {sum places : Nat} {q : ℚ}

/-- The size of a decimal, whatever its sign. -/
def size (x : Fixed) : ℚ :=
  x.coefficient / 10 ^ x.places

/-- The number that a decimal is. -/
def value (x : Fixed) : ℚ :=
  (if x.negative then -1 else 1) * x.size

/-! ### What is written -/

theorem places_le_length (x : Fixed) :
    x.places + 1 ≤ (padded (x.places + 1) x.coefficient).length := by
  rw [padded, List.length_append, List.length_replicate]
  omega

theorem length_fraction (x : Fixed) : x.toDecimal.fraction.length = x.places := by
  have enough := places_le_length x
  rw [toDecimal]
  dsimp only
  rw [List.length_drop]
  omega

/-- **What is written is the number.** -/
theorem value_toDecimal_eq (x : Fixed) : x.toDecimal.value = x.value := by
  have scale : x.toDecimal.scale = -(x.places : ℤ) := by
    rw [value_eq_of_exponent_none x.toDecimal rfl, length_fraction]
  have sign : x.toDecimal.negative = x.negative := rfl
  rw [Decimal.value, value, size, scale, value_toDecimal, sign, zpow_neg, zpow_natCast,
    div_eq_mul_inv]

/-- What is written has at least one digit before the point, and no zero before others. -/
theorem whole_toDecimal (x : Fixed) : x.toDecimal.whole = ['0'] ∨
    x.toDecimal.whole ≠ [] ∧ x.toDecimal.whole.head? ≠ some '0' := by
  have enough := places_le_length x
  rw [toDecimal]
  dsimp only
  by_cases short : (digits x.coefficient).length ≤ x.places
  · -- There are zeros before the digits, just as many that one of them is before the point.
    left
    have length : (padded (x.places + 1) x.coefficient).length = x.places + 1 := by
      rw [padded, List.length_append, List.length_replicate]
      omega
    have zeros : x.places + 1 - (digits x.coefficient).length =
        (x.places - (digits x.coefficient).length) + 1 := by
      omega
    rw [length, Nat.add_sub_cancel_left, padded, zeros, List.replicate_succ]
    rfl
  · have unpadded : padded (x.places + 1) x.coefficient = digits x.coefficient := by
      rw [padded, Nat.sub_eq_zero_of_le (Nat.not_le.mp short), List.replicate_zero, List.nil_append]
    rw [unpadded]
    have kept : 0 < (digits x.coefficient).length - x.places :=
      Nat.sub_pos_of_lt (Nat.not_le.mp short)
    have head : ((digits x.coefficient).take ((digits x.coefficient).length - x.places)).head? =
        (digits x.coefficient).head? := by
      rw [List.head?_take, if_neg (Nat.ne_of_gt kept)]
    rcases Nat.eq_zero_or_pos x.coefficient with zero | positive
    · left
      have single : digits x.coefficient = ['0'] := by
        rw [zero]
        rfl
      have noPlaces : x.places = 0 := by
        rw [single] at short
        exact Nat.lt_one_iff.mp (Nat.not_le.mp short)
      rw [single, noPlaces]
      rfl
    · right
      refine ⟨fun empty => ?_, head ▸ Json.head?_digits positive⟩
      rw [empty] at head
      exact absurd (List.head?_eq_none_iff.mp head.symm) Nat.toDigits_ne_nil

/-- **What is written is a number of JSON.** -/
theorem legible_toDecimal (x : Fixed) : Json.Legible x.toDecimal where
  whole := whole_toDecimal x
  digits c member := by
    have joined : x.toDecimal.whole ++ x.toDecimal.fraction =
        padded (x.places + 1) x.coefficient :=
      List.take_append_drop _ _
    rw [joined] at member
    exact isDigit_of_mem_padded member
  exponent _ _ none := nomatch none

/-! ### Sums -/

/-- Sizes of decimals, compared by whole numbers. -/
theorem div_eq_div_places {c p d places : ℕ} :
    (c : ℚ) / 10 ^ p = d / 10 ^ places ↔ c * 10 ^ places = d * 10 ^ p := by
  rw [div_eq_div_iff (by positivity) (by positivity)]
  norm_cast

/-- **A size that decimals of 96 bits have.** -/
def Representable (q : ℚ) : Prop :=
  ∃ c p : ℕ, c < bound ∧ q = c / 10 ^ p

/-- A sum that decimals of 96 bits have is one after its last zeros are left out. -/
theorem exists_zeros_of_representable (representable : Representable (sum / 10 ^ places)) :
    ∃ lost ≤ places, ∃ c < bound, sum = c * 10 ^ lost := by
  obtain ⟨c, p, small, same⟩ := representable
  have cross : sum * 10 ^ p = c * 10 ^ places := div_eq_div_places.mp same
  by_cases few : p ≤ places
  · refine ⟨places - p, Nat.sub_le _ _, c, small, ?_⟩
    apply Nat.eq_of_mul_eq_mul_right (show 0 < 10 ^ p by positivity)
    rw [cross, mul_assoc, pow_sub_mul_pow 10 few]
  · have whole : sum * 10 ^ (p - places) = c := by
      apply Nat.eq_of_mul_eq_mul_right (show 0 < 10 ^ places by positivity)
      rw [← cross, mul_assoc, pow_sub_mul_pow 10 (Nat.le_of_not_le few)]
    refine ⟨0, Nat.zero_le _, sum, ?_, by rw [pow_zero, mul_one]⟩
    calc sum ≤ sum * 10 ^ (p - places) := Nat.le_mul_of_pos_right _ (by positivity)
      _ < bound := whole ▸ small

theorem roundHalfEven_mul (c : Nat) {d : Nat} (positive : 0 < d) :
    roundHalfEven (c * d) d = c := by
  have halves : ¬(d < 2 * 0 ∨ d = 2 * 0 ∧ c % 2 = 1) := by omega
  rw [roundHalfEven]
  simp only [Nat.mul_div_cancel _ positive, Nat.mul_mod_left, if_neg halves]

/-- **Only zeros are left out of a sum** that a decimal of 96 bits has. -/
theorem fit?_exact {kept left : Nat} (fits : fit? sum places = some (kept, left))
    (zeros : ∃ lost ≤ places, ∃ c < bound, sum = c * 10 ^ lost) :
    ∃ lost ≤ places, left = places - lost ∧ sum = kept * 10 ^ lost := by
  obtain ⟨all, enough, c, small, rfl⟩ := zeros
  obtain ⟨before, lost, after, split, found, earlier⟩ := List.findSome?_eq_some_iff.mp fits
  have member : lost ∈ List.range (places + 1) := split ▸ List.mem_append_right _ List.mem_cons_self
  have exact : ∀ other ≤ all, roundHalfEven (c * 10 ^ all) (Nat.pow 10 other) =
      c * 10 ^ (all - other) := by
    intro other less
    have parts : c * 10 ^ all = c * 10 ^ (all - other) * Nat.pow 10 other := by
      rw [Nat.pow_eq, mul_assoc, pow_sub_mul_pow 10 less]
    rw [parts]
    exact roundHalfEven_mul _ (Nat.pow_pos (by decide))
  -- Without all of its last zeros the sum fits, so no more than those are left out.
  have less : lost ≤ all := by
    by_contra more
    have among : all ∈ before := by
      have inside : all ∈ before ++ lost :: after :=
        split ▸ List.mem_range.mpr (Nat.lt_succ_of_le enough)
      rcases List.mem_append.mp inside with among | rest
      · exact among
      · have sorted := split ▸ List.pairwise_lt_range (n := places + 1)
        rcases List.mem_cons.mp rest with same | later
        · exact absurd (Nat.le_of_eq same.symm) more
        · have greater := (List.pairwise_cons.mp (List.pairwise_append.mp sorted).2.1).1 all later
          exact absurd (Nat.le_of_lt greater) more
    have none := earlier all among
    dsimp only at none
    rw [exact all (Nat.le_refl _), Nat.sub_self, pow_zero, mul_one, if_pos small] at none
    cases none
  dsimp only at found
  rw [exact lost less] at found
  split at found
  · cases found
    refine ⟨lost, Nat.le_of_lt_succ (List.mem_range.mp member), rfl, ?_⟩
    rw [mul_assoc, pow_sub_mul_pow 10 less]
  · cases found

/-- The coefficient for more places. -/
theorem size_widened (more : x.places ≤ places) :
    ((x.coefficient * Nat.pow 10 (places - x.places) : ℕ) : ℚ) / 10 ^ places = x.size := by
  rw [size, div_eq_div_places, Nat.pow_eq, mul_assoc, pow_sub_mul_pow 10 more]

/-- **A sum that a decimal of 96 bits has is exact.** -/
theorem size_add? (added : add? a b = some r) (representable : Representable (a.size + b.size)) :
    r.size = a.size + b.size := by
  unfold add? at added
  split at added
  · rename_i zero
    cases added
    rw [size.eq_1 a, zero, Nat.cast_zero, zero_div, zero_add]
  · split at added
    · rename_i zero
      cases added
      rw [size.eq_1 b, zero, Nat.cast_zero, zero_div, add_zero]
    · obtain ⟨⟨kept, left⟩, fits, rfl⟩ := Option.map_eq_some_iff.mp added
      have whole := size_widened (le_max_left a.places b.places)
      have part := size_widened (le_max_right a.places b.places)
      rw [← whole, ← part, ← add_div, ← Nat.cast_add] at representable ⊢
      obtain ⟨lost, less, same, sum⟩ :=
        fit?_exact fits (exists_zeros_of_representable representable)
      rw [sum, size, same, div_eq_div_places, mul_assoc, ← pow_add, Nat.add_sub_cancel' less]

/-- A sum that a decimal of 96 bits has is never refused. -/
theorem exists_add? (representable : Representable (a.size + b.size)) :
    ∃ r, add? a b = some r := by
  unfold add?
  split
  · exact ⟨b, rfl⟩
  · split
    · exact ⟨a, rfl⟩
    · have whole := size_widened (le_max_left a.places b.places)
      have part := size_widened (le_max_right a.places b.places)
      rw [← whole, ← part, ← add_div, ← Nat.cast_add] at representable
      obtain ⟨lost, less, c, small, sum⟩ := exists_zeros_of_representable representable
      have fits : roundHalfEven (c * 10 ^ lost) (Nat.pow 10 lost) < bound := by
        rw [Nat.pow_eq, roundHalfEven_mul c (by positivity)]
        exact small
      have fitted : (fit? (c * 10 ^ lost) (max a.places b.places)).isSome = true := by
        rw [fit?, List.findSome?_isSome_iff]
        refine ⟨lost, List.mem_range.mpr (Nat.lt_succ_of_le less), ?_⟩
        dsimp only
        rw [if_pos fits]
        rfl
      dsimp only
      rw [sum]
      obtain ⟨result, same⟩ := Option.isSome_iff_exists.mp fitted
      rw [same]
      exact ⟨_, rfl⟩

/-- Such a size is below the bound. -/
theorem Representable.lt_bound (representable : Representable q) : q < bound := by
  obtain ⟨c, p, small, rfl⟩ := representable
  calc (c : ℚ) / 10 ^ p ≤ c := div_le_self (by positivity) (one_le_pow₀ (by norm_num))
    _ < bound := by exact_mod_cast small

theorem bounded_add? (added : add? a b = some r) (first : a.coefficient < bound)
    (second : b.coefficient < bound) : r.coefficient < bound := by
  unfold add? at added
  split at added
  · cases added
    exact second
  · split at added
    · cases added
      exact first
    · obtain ⟨kept, fits, rfl⟩ := Option.map_eq_some_iff.mp added
      exact fit?_lt fits

/-- **The first digits of a size that decimals of 96 bits have are one of theirs, too**: whole ones,
or those before some place. -/
theorem representable_of_le {whole : ℚ} {c p : ℕ} (digits : whole = c / 10 ^ p) (less : whole ≤ q)
    (close : p = 0 ∨ q < whole + 1 / 10 ^ p) (representable : Representable q) :
    Representable whole := by
  obtain ⟨d, places, small, rfl⟩ := representable
  subst digits
  rw [div_le_div_iff₀ (by positivity) (by positivity)] at less
  have below : c * 10 ^ places ≤ d * 10 ^ p := by exact_mod_cast less
  by_cases few : p ≤ places
  · refine ⟨c, p, ?_, rfl⟩
    have shorter : c * 10 ^ (places - p) ≤ d := by
      apply Nat.le_of_mul_le_mul_right _ (show 0 < 10 ^ p by positivity)
      rw [mul_assoc, pow_sub_mul_pow 10 few]
      exact below
    calc c ≤ c * 10 ^ (places - p) := Nat.le_mul_of_pos_right _ (by positivity)
      _ ≤ d := shorter
      _ < bound := small
  · -- There are no digits after the place, so these are all.
    have close := close.resolve_left (by omega)
    rw [← add_div, div_lt_div_iff₀ (by positivity) (by positivity)] at close
    have above : d * 10 ^ p < (c + 1) * 10 ^ places := by exact_mod_cast close
    have more : 10 ^ (p - places) * 10 ^ places = 10 ^ p :=
      pow_sub_mul_pow 10 (Nat.le_of_not_le few)
    rw [← more, ← mul_assoc] at below above
    have same : c = d * 10 ^ (p - places) :=
      Nat.le_antisymm (Nat.le_of_mul_le_mul_right below (by positivity))
        (Nat.le_of_lt_succ (Nat.lt_of_mul_lt_mul_right above))
    refine ⟨d, places, small, ?_⟩
    rw [div_eq_div_places, same, mul_assoc, more]

/-! ### Other places -/

/-- Further places are zeros. -/
theorem lengthen_spec (more c : Nat) : (lengthen more c).1 = c * 10 ^ (lengthen more c).2 ∧
    (lengthen more c).2 ≤ more ∧ (c < bound → (lengthen more c).1 < bound) := by
  induction more generalizing c with
  | zero => exact ⟨(mul_one c).symm, Nat.le_refl _, id⟩
  | succ more ih =>
    rw [lengthen]
    split
    · rename_i fits
      obtain ⟨zeros, few, small⟩ := ih (c * 10)
      refine ⟨?_, Nat.succ_le_succ few, fun _ => small fits⟩
      rw [zeros, pow_succ', mul_assoc]
    · exact ⟨(mul_one c).symm, Nat.zero_le _, id⟩

/-- Zeros that are left out leave the rest. -/
theorem shorten_mul (c : Nat) {lost : Nat} (some : 0 < lost) :
    shorten (c * 10 ^ lost) lost = c := by
  have last : c * 10 ^ lost / Nat.pow 10 (lost - 1) % 10 = 0 := by
    have parts : c * 10 ^ lost = c * 10 * Nat.pow 10 (lost - 1) := by
      rw [Nat.pow_eq, mul_assoc, ← pow_succ', Nat.sub_add_cancel some]
    rw [parts, Nat.pow_eq, Nat.mul_div_cancel _ (Nat.pow_pos (by decide)), Nat.mul_mod_left]
  rw [shorten, last]
  exact Nat.mul_div_cancel _ (Nat.pow_pos (by decide))

theorem shorten_lt {c lost : Nat} (small : c < bound) (some : 0 < lost) :
    shorten c lost < bound := by
  have less : c / 10 ^ lost ≤ c / 10 ^ 1 :=
    Nat.div_le_div_left (Nat.pow_le_pow_right (by decide) some) (by decide)
  rw [shorten, Nat.pow_eq]
  unfold bound at small ⊢
  split <;> omega

/-- **Other places leave a decimal as it is**, if there are enough of them. -/
theorem size_rescale (enough : ∃ c p : ℕ, p ≤ places ∧ x.size = c / 10 ^ p) :
    (x.rescale places).size = x.size := by
  unfold rescale
  split
  · rename_i zero
    rw [size, size, zero, Nat.cast_zero, zero_div, zero_div]
  · split
    · rename_i fewer
      obtain ⟨c, p, few, same⟩ := enough
      have zeros : x.coefficient = c * 10 ^ (places - p) * 10 ^ (x.places - places) := by
        apply Nat.eq_of_mul_eq_mul_right (show 0 < 10 ^ p by positivity)
        rw [div_eq_div_places.mp same, mul_assoc, mul_assoc, ← pow_add, ← pow_add]
        congr 2
        omega
      have shorter := shorten_mul (c * 10 ^ (places - p)) (Nat.sub_pos_of_lt fewer)
      rw [← zeros] at shorter
      rw [size, size, shorter, zeros, div_eq_div_places, mul_assoc _ _ (10 ^ places),
        pow_sub_mul_pow 10 (Nat.le_of_lt fewer)]
    · obtain ⟨zeros, -, -⟩ := lengthen_spec (min places maxPlaces - x.places) x.coefficient
      dsimp only
      rw [size, size, zeros, div_eq_div_places, mul_assoc, ← pow_add, Nat.add_comm]

theorem negative_rescale (x : Fixed) (places : Nat) : (x.rescale places).negative = x.negative := by
  unfold rescale
  split
  · rfl
  · split <;> rfl

/-- With other places a decimal still fits 96 bits, and has no more places than it is to have. -/
theorem rescale_bounded (x : Fixed) (small : x.coefficient < bound) (places : Nat) :
    (x.rescale places).coefficient < bound ∧ (x.rescale places).places ≤ places := by
  unfold rescale
  split
  · rename_i zero
    exact ⟨small, Nat.min_le_left _ _⟩
  · split
    · rename_i fewer
      exact ⟨shorten_lt small (Nat.sub_pos_of_lt fewer), Nat.le_refl _⟩
    · rename_i more
      obtain ⟨-, few, fits⟩ := lengthen_spec (min places maxPlaces - x.places) x.coefficient
      refine ⟨fits small, ?_⟩
      dsimp only
      omega

end Fixed

end TenantReports.Number
