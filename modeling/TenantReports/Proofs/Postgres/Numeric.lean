import Mathlib.Algebra.Order.Field.Power
import Mathlib.Tactic.IntervalCases
import Mathlib.Tactic.Linarith
import Mathlib.Tactic.Ring
import TenantReports.Proofs.Json.Reading
import TenantReports.Proofs.Number.Exact
import TenantReports.Proofs.Postgres.Arrays

/-!
# Exact numbers keep their value

**An exact number that is accepted is answered with its value exactly when that is a decimal of 96
bits with no more places than the number is to show.** Any other number that is accepted is rounded.
Amounts of money are always exact.

* `Denotes`: that a JSON text is a number with a value.
* `Numeric.value`: the value of what is sent; `Numeric.Fits`: whether it can be kept.
* `size_sum?`: sums of digits.
* `SentNumeric`: an exact number as it is sent; `ofOctets_octets`: it is the number read.
* `exactNumbers_kept_iff`: columns of exact numbers, of arrays of them, and of money.
-/

namespace TenantReports.Postgres

open Json (Value)
open Number (Decimal Fixed)

variable {q : ℚ} {place : Nat} {name : String}

/-! ### Numbers in JSON -/

/-- **That the text of a value is a number of JSON**, and which number it is. -/
def Denotes (v : Value) (q : ℚ) : Prop :=
  ∃ d, Json.ofText? v.text = some (.number d) ∧ d.value = q

theorem denotes_exactNumber_iff (x : Fixed) : Denotes (exactNumber x).toJson q ↔ x.value = q := by
  have legible : Json.Legible x.toDecimal.unsignedZero := (Fixed.legible_toDecimal x).unsignedZero
  have read : Json.ofText? (exactNumber x).toJson.text = some (.number x.toDecimal.unsignedZero) :=
    Json.ofText?_text (v := .number x.toDecimal.unsignedZero) legible
  have kept : x.toDecimal.unsignedZero.value = x.value := by
    rw [Decimal.value_unsignedZero, Fixed.value_toDecimal_eq]
  unfold Denotes
  rw [read]
  constructor
  · rintro ⟨d, same, value⟩
    cases same
    rw [← kept, value]
  · intro value
    exact ⟨_, rfl, kept.trans value⟩

/-! ### What is sent -/

namespace Numeric

/-- The value of digits, the first of which counts a power of 10000. -/
def digitsValue : List Nat → Int → ℚ
  | [], _ => 0
  | digit :: digits, weight => digit * 10000 ^ weight + digitsValue digits (weight - 1)

/-- The size of a number, whatever its sign. -/
def size (n : Numeric) : ℚ :=
  digitsValue n.digits n.weight

/-- **The value of a number.** -/
def value (n : Numeric) : ℚ :=
  (if n.negative then -1 else 1) * n.size

/-- **Whether a number can be kept**: its size is a number of 96 bits over a power of ten, with no
more places than it is to show. -/
def Fits (n : Numeric) : Prop :=
  ∃ c p : ℕ, c < Fixed.bound ∧ p ≤ n.places ∧ n.size = c / 10 ^ p

/-- Whether all digits count powers of 10000 that decimals of 96 bits reach. -/
def InRange (n : Numeric) : Prop :=
  n.digits ≠ [] → n.weight ≤ maxWeight ∧ -maxWeight ≤ n.weight - n.digits.length + 1

variable {digits : List Nat} {weight : Int} {total part r : Fixed}

theorem digitsValue_nonneg (digits : List Nat) (weight : Int) : 0 ≤ digitsValue digits weight := by
  induction digits generalizing weight with
  | nil => exact le_refl 0
  | cons digit digits ih =>
    have others := ih (weight - 1)
    rw [digitsValue]
    positivity

/-- **Digits are worth less than one more of the power before them.** -/
theorem digitsValue_lt (small : ∀ digit ∈ digits, digit < 10000) (weight : Int) :
    digitsValue digits weight < 10000 ^ (weight + 1) := by
  induction digits generalizing weight with
  | nil =>
    rw [digitsValue]
    positivity
  | cons digit digits ih =>
    obtain ⟨first, rest⟩ := List.forall_mem_cons.mp small
    have others := ih rest (weight - 1)
    rw [sub_add_cancel] at others
    have digitLe : (digit : ℚ) ≤ 9999 := by exact_mod_cast Nat.le_of_lt_succ first
    have positive : (0 : ℚ) < 10000 ^ weight := by positivity
    rw [digitsValue, zpow_add_one₀ (by norm_num)]
    nlinarith

/-- A number of powers of 10000 is one over a power of ten, of which there is none if the powers are
whole. -/
theorem exists_places (s : ℕ) (weight : Int) : ∃ c p : ℕ, (s : ℚ) * 10000 ^ weight = c / 10 ^ p ∧
    (p = 0 ∨ (10000 : ℚ) ^ weight = 1 / 10 ^ p) := by
  by_cases whole : 0 ≤ weight
  · obtain ⟨k, rfl⟩ := Int.eq_ofNat_of_zero_le whole
    refine ⟨s * 10000 ^ k, 0, ?_, .inl rfl⟩
    rw [zpow_natCast]
    push_cast
    rw [pow_zero, div_one]
  · obtain ⟨k, negative⟩ := Int.eq_ofNat_of_zero_le (show 0 ≤ -weight by omega)
    have power : (10000 : ℚ) ^ weight = 1 / 10 ^ (4 * k) := by
      rw [← neg_neg weight, negative, zpow_neg, zpow_natCast, pow_mul, one_div]
      norm_num
    exact ⟨s, 4 * k, by rw [power, mul_one_div], .inr power⟩

/-! ### Sums of digits -/

/-- A digit that is counted has its value, and fits. -/
theorem size_part? {digit : Nat} (small : digit < 10000)
    (counted : part? digit weight = some part) :
    part.size = digit * 10000 ^ weight ∧ part.coefficient < Fixed.bound := by
  unfold part? at counted
  split at counted
  · cases counted
  · split at counted
    · rename_i zero
      cases counted
      exact ⟨by simp [Fixed.size, Fixed.zero, zero], by decide⟩
    · split at counted
      · rename_i whole
        dsimp only at counted
        split at counted
        · rename_i fits
          cases counted
          refine ⟨?_, fits⟩
          obtain ⟨k, rfl⟩ := Int.eq_ofNat_of_zero_le whole
          simp [Fixed.size]
        · cases counted
      · rename_i negative
        cases counted
        refine ⟨?_, Nat.lt_trans small (by decide)⟩
        obtain ⟨k, same⟩ := Int.eq_ofNat_of_zero_le (show 0 ≤ -weight by omega)
        obtain rfl : weight = -(k : ℤ) := by omega
        rw [Fixed.size, Int.natAbs_neg, Int.natAbs_natCast, zpow_neg, zpow_natCast, pow_mul,
          div_eq_mul_inv]
        norm_num

/-- A digit of a size that decimals of 96 bits have is counted, if its power is one they reach. -/
theorem exists_part? {digit : Nat} (least : -maxWeight ≤ weight) (greatest : weight ≤ maxWeight)
    (fits : (digit : ℚ) * 10000 ^ weight < Fixed.bound) :
    ∃ part, part? digit weight = some part := by
  unfold part?
  rw [if_neg (by omega)]
  split
  · exact ⟨_, rfl⟩
  · split
    · rename_i whole
      obtain ⟨k, rfl⟩ := Int.eq_ofNat_of_zero_le whole
      rw [zpow_natCast] at fits
      have small : digit * Nat.pow 10000 (k : ℤ).toNat < Fixed.bound := by
        exact_mod_cast fits
      exact ⟨_, if_pos small⟩
    · exact ⟨_, rfl⟩

/-- What a sum is worth after one more digit, in powers of the digit. -/
theorem add_digit {sum : ℚ} {s : ℕ} (before : sum = s * 10000 ^ (weight + 1)) (digit : Nat) :
    sum + digit * 10000 ^ weight = (s * 10000 + digit : ℕ) * 10000 ^ weight := by
  rw [before, zpow_add_one₀ (by norm_num)]
  push_cast
  ring

/-- **A size that decimals of 96 bits have is one after each of its digits.** -/
theorem representable_add_digit {sum : ℚ} {s digit : ℕ} (before : sum = s * 10000 ^ (weight + 1))
    (small : ∀ digit ∈ digits, digit < 10000)
    (representable : Fixed.Representable (sum + digitsValue (digit :: digits) weight)) :
    Fixed.Representable (sum + digit * 10000 ^ weight) := by
  obtain ⟨c, p, places, close⟩ := exists_places (s * 10000 + digit) weight
  have after := digitsValue_nonneg digits (weight - 1)
  have few := digitsValue_lt small (weight - 1)
  rw [sub_add_cancel] at few
  rw [digitsValue, ← add_assoc] at representable
  refine Fixed.representable_of_le ((add_digit before digit).trans places) (by linarith) ?_
    representable
  exact close.imp_right fun power => by linarith

/-- **One step of a sum**: with the digits that are left it comes to the same as before, and it is a
multiple of the power of the digit that was added. -/
structure Adds (total next : Fixed) (digit : Nat) (digits : List Nat) (weight : Int) : Prop where
  value : next.size + digitsValue digits (weight - 1) =
    total.size + digitsValue (digit :: digits) weight
  whole : ∃ s : ℕ, next.size = s * 10000 ^ (weight - 1 + 1)

theorem adds_of_add? {s digit : ℕ} {next : Fixed} (first : digit < 10000)
    (before : total.size = s * 10000 ^ (weight + 1))
    (soFar : Fixed.Representable (total.size + digit * 10000 ^ weight))
    (counted : part? digit weight = some part) (added : total.add? part = some next) :
    Adds total next digit digits weight := by
  have worth := (size_part? first counted).1
  rw [← worth] at soFar
  have exact := Fixed.size_add? added soFar
  rw [worth] at exact
  constructor
  · rw [exact, digitsValue, add_assoc]
  · refine ⟨s * 10000 + digit, ?_⟩
    rw [exact, sub_add_cancel, add_digit before]

/-- **Sums of digits are exact** if they are sizes of decimals of 96 bits. -/
theorem size_sum? (small : ∀ digit ∈ digits, digit < 10000)
    (before : ∃ s : ℕ, total.size = s * 10000 ^ (weight + 1))
    (representable : Fixed.Representable (total.size + digitsValue digits weight))
    (summed : sum? total digits weight = some r) :
    r.size = total.size + digitsValue digits weight := by
  induction digits generalizing total weight with
  | nil =>
    cases summed
    exact (add_zero _).symm
  | cons digit digits ih =>
    obtain ⟨first, rest⟩ := List.forall_mem_cons.mp small
    obtain ⟨s, multiple⟩ := before
    have soFar := representable_add_digit multiple rest representable
    rw [sum?] at summed
    obtain ⟨part, counted, summed⟩ := Option.bind_eq_some_iff.mp summed
    obtain ⟨next, added, summed⟩ := Option.bind_eq_some_iff.mp summed
    have adds : Adds total next digit digits weight :=
      adds_of_add? first multiple soFar counted added
    rw [← adds.value] at representable ⊢
    exact ih rest adds.whole representable summed

/-- They are never refused, if all powers are ones that those reach. -/
theorem exists_sum? (small : ∀ digit ∈ digits, digit < 10000)
    (before : ∃ s : ℕ, total.size = s * 10000 ^ (weight + 1))
    (representable : Fixed.Representable (total.size + digitsValue digits weight))
    (reached : digits ≠ [] → weight ≤ maxWeight ∧ -maxWeight ≤ weight - digits.length + 1) :
    ∃ r, sum? total digits weight = some r := by
  induction digits generalizing total weight with
  | nil => exact ⟨total, rfl⟩
  | cons digit digits ih =>
    obtain ⟨first, rest⟩ := List.forall_mem_cons.mp small
    obtain ⟨s, multiple⟩ := before
    obtain ⟨greatest, least⟩ := reached (List.cons_ne_nil _ _)
    rw [List.length_cons] at least
    push_cast at least
    have soFar := representable_add_digit multiple rest representable
    have fits : (digit : ℚ) * 10000 ^ weight < Fixed.bound := by
      have nonneg : 0 ≤ total.size := by
        rw [Fixed.size]
        positivity
      have below := soFar.lt_bound
      linarith
    obtain ⟨part, counted⟩ := exists_part? (by omega) greatest fits
    obtain ⟨next, added⟩ := Fixed.exists_add? ((size_part? first counted).1 ▸ soFar)
    have adds : Adds total next digit digits weight :=
      adds_of_add? first multiple soFar counted added
    rw [← adds.value] at representable
    obtain ⟨r, summed⟩ := ih rest adds.whole representable fun _ => ⟨by omega, by omega⟩
    refine ⟨r, ?_⟩
    rw [sum?, counted]
    simp only [Option.bind_eq_bind, Option.bind_some, added, summed]

theorem bounded_sum? (small : ∀ digit ∈ digits, digit < 10000)
    (bounded : total.coefficient < Fixed.bound) (summed : sum? total digits weight = some r) :
    r.coefficient < Fixed.bound := by
  induction digits generalizing total weight with
  | nil =>
    cases summed
    exact bounded
  | cons digit digits ih =>
    obtain ⟨first, rest⟩ := List.forall_mem_cons.mp small
    rw [sum?] at summed
    obtain ⟨part, counted, summed⟩ := Option.bind_eq_some_iff.mp summed
    obtain ⟨next, added, summed⟩ := Option.bind_eq_some_iff.mp summed
    exact ih rest (Fixed.bounded_add? added bounded (size_part? first counted).2) summed

/-! ### Numbers -/

theorem size_zero_add (n : Numeric) :
    Fixed.zero.size + digitsValue n.digits n.weight = n.size := by
  have nothing : Fixed.zero.size = 0 := by simp [Fixed.size, Fixed.zero]
  rw [nothing, zero_add, size]

theorem Fits.representable {n : Numeric} (fits : n.Fits) :
    Fixed.Representable (Fixed.zero.size + digitsValue n.digits n.weight) := by
  obtain ⟨c, p, small, -, same⟩ := fits
  exact ⟨c, p, small, (size_zero_add n).trans same⟩

/-- Zero is a multiple of any power. -/
theorem size_zero (weight : Int) : ∃ s : ℕ, Fixed.zero.size = s * 10000 ^ (weight + 1) :=
  ⟨0, by simp [Fixed.size, Fixed.zero]⟩

/-- What a number with digits becomes. -/
theorem toFixed_eq_ok_iff {n : Numeric} (some : n.digits ≠ []) : n.toFixed = .ok r ↔
    ∃ total, sum? Fixed.zero n.digits n.weight = .some total ∧
      r = { total with negative := n.negative }.rescale n.places := by
  unfold toFixed
  rw [if_neg (mt List.isEmpty_iff.mp some)]
  cases sum? Fixed.zero n.digits n.weight with
  | none => simp
  | some total => simp [eq_comm]

/-- **The decimal that a number becomes has its value exactly when the number fits.** -/
theorem value_toFixed_iff {n : Numeric} (small : ∀ digit ∈ n.digits, digit < 10000)
    (made : n.toFixed = .ok r) : r.value = n.value ↔ n.Fits := by
  by_cases empty : n.digits = []
  · have nothing : n.size = 0 := by rw [size, empty, digitsValue]
    have zero : r = Fixed.zero := by
      rw [toFixed, empty] at made
      exact (Except.ok.inj made).symm
    have fits : n.Fits := ⟨0, 0, by decide, Nat.zero_le _, by simp [nothing]⟩
    simp [zero, Fixed.value, Fixed.size, Fixed.zero, value, nothing, fits]
  · obtain ⟨total, summed, rfl⟩ := (toFixed_eq_ok_iff empty).mp made
    have sign := Fixed.negative_rescale { total with negative := n.negative } n.places
    have sizes : ({ total with negative := n.negative }.rescale n.places).value = n.value ↔
        ({ total with negative := n.negative }.rescale n.places).size = n.size := by
      rw [Fixed.value, value, sign]
      cases n.negative <;> simp
    rw [sizes]
    constructor
    · intro same
      have small := bounded_sum? small (by decide) summed
      obtain ⟨bounded, few⟩ := Fixed.rescale_bounded { total with negative := n.negative } small
        n.places
      exact ⟨_, _, bounded, few, same.symm⟩
    · intro fits
      have exact : ({ total with negative := n.negative } : Fixed).size = n.size := by
        have sum := size_sum? small (size_zero n.weight) fits.representable summed
        rw [← size_zero_add n]
        exact sum
      obtain ⟨c, p, -, few, value⟩ := fits
      rw [Fixed.size_rescale ⟨c, p, few, exact.trans value⟩, exact]

/-- **A number that fits is never refused**, if its digits count powers that decimals reach. -/
theorem exists_toFixed {n : Numeric} (small : ∀ digit ∈ n.digits, digit < 10000)
    (fits : n.Fits) (reached : n.InRange) : ∃ r, n.toFixed = .ok r := by
  by_cases empty : n.digits = []
  · exact ⟨Fixed.zero, by rw [toFixed, empty]; rfl⟩
  · obtain ⟨total, summed⟩ := exists_sum? small (size_zero n.weight) fits.representable reached
    exact ⟨_, (toFixed_eq_ok_iff empty).mpr ⟨total, summed, rfl⟩⟩

end Numeric

/-! ### Numbers as they are sent -/

/-- **A finite exact number** as a server sends it: whatever its sign, its weight, the places to
show and its digits of base 10000, with each in its field. -/
structure SentNumeric extends Numeric where
  small : ∀ digit ∈ digits, digit < 10000
  few : digits.length < 2 ^ 16
  within : -(2 ^ 15) ≤ weight ∧ weight < 2 ^ 15
  shown : places < 2 ^ 15

/-- The field for the sign. -/
def SentNumeric.sign (n : SentNumeric) : Nat :=
  if n.negative then Numeric.negativeField else 0

/-- The octets of a number. -/
def SentNumeric.octets (n : SentNumeric) : List UInt8 :=
  Binary.octets 2 n.digits.length ++ (Binary.signedOctets 2 n.weight ++ (Binary.octets 2 n.sign ++
    (Binary.signedOctets 2 n.places ++ n.digits.flatMap (Binary.octets 2))))

/-- The field tells the sign, and that the number is finite. -/
theorem SentNumeric.sign_spec (n : SentNumeric) : n.sign < Nat.pow 256 2 ∧
    n.sign ≠ Numeric.nanField ∧ ¬(n.sign ≠ 0 ∧ n.sign ≠ Numeric.negativeField) ∧
      decide (n.sign = Numeric.negativeField) = n.negative := by
  unfold sign
  cases n.negative <;> decide

theorem digits?_octets {digits : List Nat} (small : ∀ digit ∈ digits, digit < 10000) :
    Numeric.digits? digits.length (digits.flatMap (Binary.octets 2)) = some digits := by
  induction digits with
  | nil => rfl
  | cons digit digits ih =>
    obtain ⟨first, rest⟩ := List.forall_mem_cons.mp small
    have fits : digit < Nat.pow 256 2 := Nat.lt_trans first (by decide)
    rw [List.length_cons, List.flatMap_cons, Numeric.digits?, Binary.unsigned?_octets 2 fits]
    simp only [Option.bind_eq_bind, Option.bind_some, ih rest]
    rfl

/-- **A number that is sent is the number read.** -/
theorem ofOctets_octets (n : SentNumeric) : Numeric.ofOctets n.octets = .ok n.toNumeric := by
  have size : Nat.pow 256 2 = 65536 := rfl
  have few := n.few
  have within := n.within
  have shown := n.shown
  obtain ⟨field, finite, known, negative⟩ := n.sign_spec
  have header : Numeric.header? n.octets =
      some ((n.digits.length, n.weight, n.sign, (n.places : Int)),
        n.digits.flatMap (Binary.octets 2)) := by
    have count := Binary.unsigned?_octets 2 (show n.digits.length < Nat.pow 256 2 by omega)
    have weight := Binary.signed?_signedOctets 2 (n := n.weight) (by omega) (by omega)
    have places := Binary.signed?_signedOctets 2 (n := n.places) (by omega) (by omega)
    simp only [Numeric.header?, SentNumeric.octets, count, weight, places,
      Binary.unsigned?_octets 2 field, Option.bind_eq_bind, Option.bind_some, Option.pure_def]
  have shows : ¬(n.places : Int) < 0 := by omega
  rw [Numeric.ofOctets, header]
  dsimp only
  rw [digits?_octets n.small, if_neg finite, if_neg known, if_neg shows, negative]
  rfl

/-! ### Columns -/

/-- The value of a column of exact numbers. -/
theorem decodeValue_numeric_iff {n : SentNumeric} {v : DbValue} :
    decodeValue place ⟨name, .scalar .numeric⟩ (some n.octets) = .ok v ↔
      ∃ r, n.toFixed = .ok r ∧ v = exactNumber r := by
  rw [decodeValue_scalar, decodeScalar, numericOf, ofOctets_octets]
  simp only [Except.bind]
  cases n.toFixed <;> simp [Except.mapError, Except.map, eq_comm]

/-- **An exact number that is accepted is exact if it fits, and only then.** -/
theorem denotes_numeric_iff {n : SentNumeric} {v : DbValue}
    (accepted : decodeValue place ⟨name, .scalar .numeric⟩ (some n.octets) = .ok v) :
    Denotes v.toJson n.value ↔ n.Fits := by
  obtain ⟨r, made, rfl⟩ := decodeValue_numeric_iff.mp accepted
  rw [denotes_exactNumber_iff, Numeric.value_toFixed_iff n.small made]

/-- The value of an amount of money, for all amounts there are. -/
theorem decodeValue_money {cents : Int} (lower : -(2 ^ 63) ≤ cents) (upper : cents < 2 ^ 63) :
    decodeValue place ⟨name, .scalar .money⟩ (some (Binary.signedOctets 8 cents)) =
      .ok (exactNumber (moneyOf cents)) := by
  have size : Nat.pow 256 8 = 18446744073709551616 := rfl
  have read := Binary.signed?_signedOctets 8 (n := cents) (by omega) (by omega) []
  rw [List.append_nil] at read
  rw [decodeValue_scalar, decodeScalar, read]
  rfl

theorem value_moneyOf (cents : Int) : (moneyOf cents).value = cents / 100 := by
  have places : (10 : ℚ) ^ 2 = 100 := by norm_num
  rw [moneyOf, Fixed.value, Fixed.size]
  by_cases negative : cents < 0
  · have size : ((cents.natAbs : ℕ) : ℚ) = -cents := by
      rw [Nat.cast_natAbs, abs_of_neg negative]
      push_cast
      rfl
    simp only [negative, decide_true, if_true, size, places]
    ring
  · have size : ((cents.natAbs : ℕ) : ℚ) = cents := by
      rw [Nat.cast_natAbs, abs_of_nonneg (not_lt.mp negative)]
    simp only [negative, decide_false, Bool.false_eq_true, if_false, size, places, one_mul]

/-- The items of a column of arrays of exact numbers, of which each is what its number alone is. -/
theorem denotes_numerics {numbers : List SentNumeric} {a : SentArray} {v : DbValue}
    (sent : a.elements = numbers.map fun n => some n.octets)
    (accepted : decodeValue place ⟨name, .array .numeric⟩ (some a.octets) = .ok v) :
    ∃ items, v.toJson = .array items ∧
      List.Forall₂ (fun n item => Denotes item n.value ↔ n.Fits) numbers items := by
  have agrees : AgreesWithScalars place name .numeric a :=
    (agreesWithScalars_iff rfl).mpr ⟨v, accepted⟩
  obtain ⟨v', items, read, listed, each⟩ := agrees
  cases accepted.symm.trans read
  rw [sent, List.forall₂_map_left_iff] at each
  refine ⟨items, listed, each.imp fun n item scalar => ?_⟩
  obtain ⟨single, alone, rfl⟩ := scalar
  exact denotes_numeric_iff alone

/-- **Exact numbers are kept exactly when they fit.** A column of exact numbers that is accepted is
answered with the value sent exactly when that is a number of 96 bits over a power of ten, with no
more places than are to be shown, and is rounded otherwise; a number that fits is accepted if its
digits count powers of 10000 from -7 to 7. So it is with the elements of arrays. An amount of money
is always its number of hundredths. -/
theorem exactNumbers_kept_iff (place : Nat) (name : String) (n : SentNumeric) :
    (∀ v, decodeValue place ⟨name, .scalar .numeric⟩ (some n.octets) = .ok v →
      (Denotes v.toJson n.value ↔ n.Fits)) ∧
    (n.Fits → n.InRange →
      ∃ v, decodeValue place ⟨name, .scalar .numeric⟩ (some n.octets) = .ok v ∧
        Denotes v.toJson n.value) ∧
    (∀ (numbers : List SentNumeric) (a : SentArray) v,
      a.elements = numbers.map (fun n => some n.octets) →
      decodeValue place ⟨name, .array .numeric⟩ (some a.octets) = .ok v →
        ∃ items, v.toJson = .array items ∧
          List.Forall₂ (fun n item => Denotes item n.value ↔ n.Fits) numbers items) ∧
    (∀ cents : Int, -(2 ^ 63) ≤ cents → cents < 2 ^ 63 →
      ∃ v, decodeValue place ⟨name, .scalar .money⟩ (some (Binary.signedOctets 8 cents)) = .ok v ∧
        Denotes v.toJson (cents / 100)) := by
  refine ⟨?_, ?_, ?_, ?_⟩
  · intro v accepted
    exact denotes_numeric_iff accepted
  · intro fits reached
    obtain ⟨r, made⟩ := Numeric.exists_toFixed n.small fits reached
    have accepted : decodeValue place ⟨name, .scalar .numeric⟩ (some n.octets) =
        .ok (exactNumber r) :=
      decodeValue_numeric_iff.mpr ⟨r, made, rfl⟩
    exact ⟨_, accepted, (denotes_numeric_iff accepted).mpr fits⟩
  · intro numbers a v sent accepted
    exact denotes_numerics sent accepted
  · intro cents lower upper
    refine ⟨_, decodeValue_money lower upper, ?_⟩
    rw [denotes_exactNumber_iff, value_moneyOf]

/-- One and a half, with two places. -/
def oneAndAHalf : SentNumeric where
  negative := false
  weight := 0
  places := 2
  digits := [1, 5000]
  small := by decide
  few := by decide
  within := by decide
  shown := by decide

theorem fits_oneAndAHalf : oneAndAHalf.Fits := by
  refine ⟨150, 2, by decide, by decide, ?_⟩
  norm_num [Numeric.size, oneAndAHalf, Numeric.digitsValue]

/-- An array with that number. -/
def oneNumber : SentArray where
  type := 1700
  lower := 1
  elements := [some oneAndAHalf.octets]
  within := one_within
  few := by decide
  short := by decide

theorem exactNumbers_kept_iff_oneAndAHalf :
    (∃ v, decodeValue 0 ⟨"c", .scalar .numeric⟩ (some oneAndAHalf.octets) = .ok v ∧
      Denotes v.toJson oneAndAHalf.value) ∧
    (∃ v items, decodeValue 0 ⟨"c", .array .numeric⟩ (some oneNumber.octets) = .ok v ∧
      v.toJson = .array items ∧
        List.Forall₂ (fun n item => Denotes item n.value ↔ n.Fits) [oneAndAHalf] items) ∧
    (∃ v, decodeValue 0 ⟨"c", .scalar .money⟩ (some (Binary.signedOctets 8 (-150))) = .ok v ∧
      Denotes v.toJson (-3 / 2)) := by
  obtain ⟨exact, accepts, arrays, money⟩ := exactNumbers_kept_iff 0 "c" oneAndAHalf
  have reached : oneAndAHalf.InRange := fun _ => by decide
  obtain ⟨v, accepted, denotes⟩ := accepts fits_oneAndAHalf reached
  have here := (exact v accepted).mpr fits_oneAndAHalf
  have all : ∃ v, decodeValue 0 ⟨"c", .array .numeric⟩ (some oneNumber.octets) = .ok v := by
    refine exists_decodeValue_array_iff.mpr ⟨rfl, ?_, .inr rfl⟩
    intro element member
    cases List.mem_singleton.mp member
    exact ⟨v.toJson, (isScalar_iff_readElement rfl rfl).mp ⟨v, accepted, rfl⟩⟩
  obtain ⟨w, read⟩ := all
  obtain ⟨items, listed, each⟩ := arrays [oneAndAHalf] oneNumber w rfl read
  obtain ⟨m, paid, amount⟩ := money (-150) (by decide) (by decide)
  refine ⟨⟨v, accepted, here⟩, ⟨w, items, read, listed, each⟩, m, paid, ?_⟩
  have hundredths : ((-150 : Int) : ℚ) / 100 = -3 / 2 := by norm_num
  exact hundredths ▸ amount

/-- That all exact numbers that are accepted are exact. -/
def NumbersExact : Prop :=
  ∀ place name (n : SentNumeric) v,
    decodeValue place ⟨name, .scalar .numeric⟩ (some n.octets) = .ok v → Denotes v.toJson n.value

/-- 12345678901234567890.0123456789, a number of thirty digits. -/
def thirtyDigits : SentNumeric where
  negative := false
  weight := 4
  places := 10
  digits := [1234, 5678, 9012, 3456, 7890, 123, 4567, 8900]
  small := by decide
  few := by decide
  within := by decide
  shown := by decide

theorem not_fits_thirtyDigits : ¬thirtyDigits.Fits := by
  rintro ⟨c, p, small, few, same⟩
  have size : thirtyDigits.size = 123456789012345678900123456789 / 10 ^ 10 := by
    norm_num [Numeric.size, thirtyDigits, Numeric.digitsValue]
  rw [size, div_eq_div_iff (by positivity) (by positivity)] at same
  have cross : 123456789012345678900123456789 * 10 ^ p = c * 10 ^ 10 := by exact_mod_cast same
  have few : p ≤ 10 := few
  unfold Fixed.bound at small
  interval_cases p <;> omega

/-- **They are not**: the last of thirty digits is lost. -/
theorem not_numbersExact : ¬NumbersExact := by
  intro exact
  have summed : Numeric.sum? Fixed.zero thirtyDigits.digits thirtyDigits.weight =
      some ⟨false, 12345678901234567890012345679, 9⟩ := by
    decide +kernel
  have made := (Numeric.toFixed_eq_ok_iff (n := thirtyDigits.toNumeric) (by decide)).mpr
    ⟨_, summed, rfl⟩
  have accepted : decodeValue 0 ⟨"c", .scalar .numeric⟩ (some thirtyDigits.octets) = .ok _ :=
    decodeValue_numeric_iff.mpr ⟨_, made, rfl⟩
  exact not_fits_thirtyDigits ((denotes_numeric_iff accepted).mp (exact 0 "c" _ _ accepted))

end TenantReports.Postgres
