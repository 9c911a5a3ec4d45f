import Mathlib.Algebra.Group.Int.Defs
import Mathlib.Algebra.Group.Nat.Defs
import TenantReports.Proofs.Database.Projection

/-!
# Arrays and their elements

An array of one dimension is sent with the octets of its elements one after the other. **Its
elements are what they would be in columns of their own, exactly when none of them is NULL and the
array is empty or counts from one**; otherwise the array is refused.

* `Binary.signed?_signedOctets`: a number with a sign that was written is read back.
* `SentArray`: an array as it is sent; `decodeArray_octets`: what is read of it.
* `decodeElement_eq`: an element is read as the value of a column.
* `arrayColumn_agrees_iff`: columns of arrays against columns of scalars.
-/

namespace TenantReports.Postgres

open Json (Value)

namespace Binary

variable {count : Nat} {rest : List UInt8}

/-- A number with a sign in a given count of octets, in two's complement. -/
def signedOctets (count : Nat) (n : Int) : List UInt8 :=
  octets count (n % (Nat.pow 256 count : Nat)).toNat

/-- The first octets are taken off those that follow. -/
theorem take?_append {first : List UInt8} (sized : first.length = count) (rest : List UInt8) :
    take? count (first ++ rest) = some (first, rest) := by
  subst sized
  simp [take?]

/-- **A number that was written is read back**, whatever follows it. -/
theorem unsigned?_octets (count : Nat) {n : Nat} (small : n < Nat.pow 256 count)
    (rest : List UInt8) :
    unsigned? count (octets count n ++ rest) = some (n, rest) := by
  rw [unsigned?, take?_append (length_octets count n), Option.map_some]
  dsimp only
  rw [unsigned_octets, Nat.mod_eq_of_lt small]

theorem signed_signedOctets {n : Int} (lower : -(Nat.pow 256 count : Nat) ≤ 2 * n)
    (upper : 2 * n < (Nat.pow 256 count : Nat)) : signed (signedOctets count n) = n := by
  have positive : 0 < Nat.pow 256 count := Nat.pow_pos (by decide)
  have length : (signedOctets count n).length = count := length_octets _ _
  have number : unsigned (signedOctets count n) = (n % (Nat.pow 256 count : Nat)).toNat := by
    have below := Int.emod_lt_of_pos n (Int.natCast_pos.mpr positive)
    rw [signedOctets, unsigned_octets, Nat.mod_eq_of_lt (by omega)]
  unfold signed
  rw [number, length]
  generalize Nat.pow 256 count = size at lower upper positive
  by_cases negative : n < 0
  · have wrapped : n % size = n + size := by
      rw [← Int.add_emod_right, Int.emod_eq_of_lt (by omega) (by omega)]
    rw [wrapped, if_neg (by omega)]
    omega
  · rw [Int.emod_eq_of_lt (by omega) (by omega), if_pos (by omega)]
    omega

/-- **So is a number with a sign.** -/
theorem signed?_signedOctets (count : Nat) {n : Int} (lower : -(Nat.pow 256 count : Nat) ≤ 2 * n)
    (upper : 2 * n < (Nat.pow 256 count : Nat)) (rest : List UInt8) :
    signed? count (signedOctets count n ++ rest) = some (n, rest) := by
  have length : (signedOctets count n).length = count := length_octets _ _
  rw [signed?, take?_append length, Option.map_some]
  dsimp only
  rw [signed_signedOctets lower upper]

end Binary

/-! ### Arrays as they are sent -/

/-- **An array of one dimension** as a server sends it, with the octets of its elements; NULL has
none. -/
structure SentArray where
  /-- The number of the elements' type. -/
  type : Nat
  /-- The number that the first element has. -/
  lower : Int
  elements : List (Option (List UInt8))
  within : -(2 ^ 31) ≤ lower ∧ lower < 2 ^ 31
  few : elements.length < 2 ^ 31
  short : ∀ element ∈ elements, ∀ bytes ∈ element, bytes.length < 2 ^ 31

/-- An element: its length and its octets, or the length -1 for NULL. -/
def elementOctets : Option (List UInt8) → List UInt8
  | none => Binary.signedOctets 4 (-1)
  | some bytes => Binary.signedOctets 4 bytes.length ++ bytes

/-- The octets of an array: an empty one has no dimension. -/
def SentArray.octets (a : SentArray) : List UInt8 :=
  Binary.signedOctets 4 (if a.elements = [] then 0 else 1) ++
    ((Binary.octets 4 (if none ∈ a.elements then 1 else 0) ++ Binary.octets 4 a.type) ++
      (if a.elements = [] then []
      else Binary.signedOctets 4 a.elements.length ++
        (Binary.signedOctets 4 a.lower ++ a.elements.flatMap elementOctets)))

/-! ### What is read -/

variable {type : ScalarType} {elements : List (Option (List UInt8))}

/-- An element on its own; NULL is refused. -/
def readElement (type : ScalarType) : Option (List UInt8) → Except String Value
  | none => .error "unexpected null"
  | some bytes => decodeElement type bytes

/-- A length of an element or an array is read back. -/
theorem signed?_length {n : Int} (lower : -(2 ^ 31) ≤ n) (upper : n < 2 ^ 31) (rest : List UInt8) :
    Binary.signed? 4 (Binary.signedOctets 4 n ++ rest) = some (n, rest) := by
  have size : (Nat.pow 256 4 : Nat) = 4294967296 := rfl
  exact Binary.signed?_signedOctets 4 (by omega) (by omega) rest

/-- **An element that is sent is the element read**, whatever follows it. -/
theorem element?_elementOctets {element : Option (List UInt8)}
    (short : ∀ bytes ∈ element, bytes.length < 2 ^ 31) (rest : List UInt8) :
    element? (elementOctets element ++ rest) = some (element, rest) := by
  cases element with
  | none =>
    rw [elementOctets, element?, signed?_length (by decide) (by decide)]
    rfl
  | some bytes =>
    have small : bytes.length < 2 ^ 31 := short bytes rfl
    rw [elementOctets, List.append_assoc, element?, signed?_length (by omega) (by omega)]
    have noNull : ¬(bytes.length : Int) < 0 := by omega
    simp only [Option.bind_eq_bind, Option.bind_some, if_neg noNull, Int.toNat_natCast,
      Binary.take?_append (rfl : bytes.length = bytes.length)]
    rfl

/-- **The elements are read one by one**, up to the first that is refused. -/
theorem decodeElements_octets
    (short : ∀ element ∈ elements, ∀ bytes ∈ element, bytes.length < 2 ^ 31) :
    decodeElements type elements.length (elements.flatMap elementOctets) =
      elements.mapM (readElement type) := by
  induction elements with
  | nil => rfl
  | cons element elements ih =>
    obtain ⟨first, others⟩ := List.forall_mem_cons.mp short
    rw [List.length_cons, List.flatMap_cons, decodeElements, element?_elementOctets first,
      List.mapM_cons]
    cases element with
    | none => rfl
    | some bytes =>
      dsimp only
      rw [ih others, readElement]
      cases decodeElement type bytes with
      | error reason => rfl
      | ok value => cases elements.mapM (readElement type) <;> rfl

/-- What follows the number of dimensions, if there is one. -/
theorem decodeDimension_octets (type : ScalarType) (a : SentArray) :
    decodeDimension type ((Binary.octets 4 (if none ∈ a.elements then 1 else 0) ++
        Binary.octets 4 a.type) ++ (Binary.signedOctets 4 a.elements.length ++
          (Binary.signedOctets 4 a.lower ++ a.elements.flatMap elementOctets))) =
      if a.lower = 1 then a.elements.mapM (readElement type)
      else .error "only arrays starting at one are supported" := by
  have header : (Binary.octets 4 (if none ∈ a.elements then 1 else 0) ++
      Binary.octets 4 a.type).length = 8 := by
    rw [List.length_append, Binary.length_octets, Binary.length_octets]
  have few := a.few
  have length := signed?_length (n := a.elements.length) (by omega) (by omega)
  have lower := signed?_length a.within.1 a.within.2
  have noNegative : ¬(a.elements.length : Int) < 0 := by omega
  rw [decodeDimension, Binary.take?_append header]
  simp only [orElse, Except.bind, bind, length, lower, if_neg noNegative, Int.toNat_natCast,
    decodeElements_octets a.short]
  by_cases one : a.lower = 1
  · rw [if_pos one, if_neg (not_not_intro one)]
  · rw [if_neg one, if_pos one]

/-- **What is read of an array**: its elements, if it is empty or counts from one. -/
theorem decodeArray_octets (type : ScalarType) (a : SentArray) :
    decodeArray type a.octets =
      if a.elements = [] ∨ a.lower = 1 then a.elements.mapM (readElement type)
      else .error "only arrays starting at one are supported" := by
  unfold decodeArray SentArray.octets
  by_cases empty : a.elements = []
  · have none := signed?_length (n := 0) (by decide) (by decide)
    rw [if_pos empty, if_pos empty, if_pos (Or.inl empty), empty, none]
    rfl
  · have one := signed?_length (n := 1) (by decide) (by decide)
    rw [if_neg empty, if_neg empty, one]
    simp only [orElse, Except.bind, bind, reduceIte, Int.reduceEq, ne_eq, not_true_eq_false,
      decodeDimension_octets, empty, false_or]

/-! ### Elements and scalars -/

/-- A number within the bounds of its type is a number of 64 bits. -/
theorem toInt_integer {count : Nat} {bytes : List UInt8} {n : Int} (narrow : count ≤ 8)
    (read : integer count bytes = .ok n) : (Int64.ofInt n).toInt = n := by
  have size : Nat.pow 256 count ≤ Nat.pow 256 8 := Nat.pow_le_pow_right (by decide) narrow
  have widest : Nat.pow 256 8 = 18446744073709551616 := rfl
  unfold integer at read
  split at read
  · cases read
  · dsimp only at read
    split at read
    · cases read
    · rename_i within
      obtain ⟨lower, upper⟩ := not_or.mp within
      cases read
      exact Int64.toInt_ofInt_of_le (by omega) (by omega)

/-- A number that a server sends, within the bounds of its type, is the number read. -/
theorem integer_signedOctets (count : Nat) {n : Int} (positive : 0 < count) (narrow : count ≤ 8)
    (lower : -(Nat.pow 256 count : Nat) ≤ 2 * n) (upper : 2 * n < (Nat.pow 256 count : Nat)) :
    integer count (Binary.signedOctets count n) = .ok n := by
  have length : (Binary.signedOctets count n).length = count := Binary.length_octets _ _
  have sized : ¬((Binary.signedOctets count n).isEmpty = true ∨
      8 < (Binary.signedOctets count n).length) := by
    rw [List.isEmpty_iff_length_eq_zero, length]
    omega
  have within : ¬(2 * n < -(Nat.pow 256 count : Nat) ∨ (Nat.pow 256 count : Nat) ≤ 2 * n) := by
    omega
  simp only [integer, Binary.signed_signedOctets lower upper, if_neg sized, if_neg within]

theorem integerValue_map_toJson {count : Nat} (narrow : count ≤ 8) (bytes : List UInt8) :
    (integerValue count bytes).map DbValue.toJson = (integer count bytes).map Value.int := by
  unfold integerValue
  cases read : integer count bytes with
  | error reason => rfl
  | ok n => exact congrArg (fun n => Except.ok (Value.int n)) (toInt_integer narrow read)

/-- **An element is read as the value of a column of its type**, in its form in JSON. -/
theorem decodeElement_eq (arrays : type.hasArrays = true) (exact : type.isFloating = false)
    (bytes : List UInt8) :
    decodeElement type bytes = (decodeScalar bytes type).map DbValue.toJson := by
  cases type with
  | bool =>
    unfold decodeElement decodeScalar
    cases orElse truncated bytes.head? <;> rfl
  | int2 => exact (integerValue_map_toJson (by decide) bytes).symm
  | int4 => exact (integerValue_map_toJson (by decide) bytes).symm
  | int8 => exact (integerValue_map_toJson (by decide) bytes).symm
  | numeric =>
    unfold decodeElement decodeScalar
    cases numericOf bytes <;> rfl
  | text | varchar | padded | name =>
    unfold decodeElement decodeScalar
    cases textOf bytes <;> rfl
  | json =>
    unfold decodeElement decodeScalar
    cases jsonOf bytes <;> rfl
  | jsonb =>
    unfold decodeElement decodeScalar
    cases versionedJson bytes <;> rfl
  | uuid =>
    unfold decodeElement decodeScalar
    cases orElse "invalid length of a UUID" (Uuid.ofOctets? bytes) <;> rfl
  | float4 | float8 => cases exact
  | oid | money | citext | octet | bytea | inet | cidr | timestamptz | timestamp | date | time
  | timetz | interval => cases arrays

/-! ### Columns -/

variable {place : Nat} {name : String}

/-- What an element is in a column of its own: null for NULL. -/
def IsScalar (place : Nat) (name : String) (type : ScalarType)
    (element : Option (List UInt8)) (item : Value) : Prop :=
  ∃ v, decodeValue place ⟨name, .scalar type⟩ element = .ok v ∧ v.toJson = item

/-- **That a column of arrays agrees with columns of scalars**: it has a value, an array of what
each of its elements is in a column of its own. -/
def AgreesWithScalars (place : Nat) (name : String) (type : ScalarType) (a : SentArray) : Prop :=
  ∃ v items, decodeValue place ⟨name, .array type⟩ (some a.octets) = .ok v ∧
    v.toJson = .array items ∧ List.Forall₂ (IsScalar place name type) a.elements items

/-- The value of a scalar column. -/
theorem decodeValue_scalar {bytes : List UInt8} {v : DbValue} :
    decodeValue place ⟨name, .scalar type⟩ (some bytes) = .ok v ↔
      decodeScalar bytes type = .ok v := by
  simp only [decodeValue, decodeTyped]
  cases decodeScalar bytes type <;> simp [Except.mapError]

/-- The value of a column of arrays. -/
theorem decodeValue_array (arrays : type.hasArrays = true) {bytes : List UInt8} {v : DbValue} :
    decodeValue place ⟨name, .array type⟩ (some bytes) = .ok v ↔
      ∃ items, decodeArray type bytes = .ok items ∧ v = .json (.array items) := by
  simp only [decodeValue, decodeTyped, arrays, if_true]
  cases decodeArray type bytes <;> simp [Except.mapError, Except.map, eq_comm]

/-- A column that has no value has an error, of the kind for what cannot be read. -/
theorem decodeValue_error {column : Column} {bytes : List UInt8}
    (none : ∀ v, decodeValue place column (some bytes) ≠ .ok v) :
    ∃ reason, decodeValue place column (some bytes) = .error (.decode reason) := by
  unfold decodeValue at none ⊢
  dsimp only at none ⊢
  cases decoded : decodeTyped bytes column.type with
  | error error => exact ⟨_, rfl⟩
  | ok v =>
    rw [decoded] at none
    exact absurd rfl (none v)

/-- An element that is not NULL is what it is in a column of its own. -/
theorem isScalar_iff_readElement (arrays : type.hasArrays = true)
    (exact : type.isFloating = false) {bytes : List UInt8} {item : Value} :
    IsScalar place name type (some bytes) item ↔ readElement type (some bytes) = .ok item := by
  unfold IsScalar
  rw [readElement, decodeElement_eq arrays exact]
  simp only [decodeValue_scalar]
  cases decodeScalar bytes type <;> simp [Except.map]

/-- **When a column of arrays has a value**, whatever the type. -/
theorem exists_decodeValue_array_iff {a : SentArray} :
    (∃ v, decodeValue place ⟨name, .array type⟩ (some a.octets) = .ok v) ↔
      type.hasArrays = true ∧
        (∀ element ∈ a.elements, ∃ item, readElement type element = .ok item) ∧
          (a.elements = [] ∨ a.lower = 1) := by
  by_cases arrays : type.hasArrays = true
  · simp only [decodeValue_array arrays, decodeArray_octets, arrays, true_and,
      ← exists_mapM_eq_ok_iff]
    split
    · rename_i counts
      simp only [counts, and_true]
      exact ⟨fun ⟨_, items, read, _⟩ => ⟨items, read⟩, fun ⟨items, read⟩ => ⟨_, items, read, rfl⟩⟩
    · rename_i other
      simp only [other, and_false, iff_false]
      rintro ⟨v, items, read, -⟩
      cases read
  · simp [decodeValue, decodeTyped, arrays, Except.mapError]

/-- Arrays agree with scalars as soon as they are read at all. -/
theorem agreesWithScalars_iff {a : SentArray} (exact : type.isFloating = false) :
    AgreesWithScalars place name type a ↔
      ∃ v, decodeValue place ⟨name, .array type⟩ (some a.octets) = .ok v := by
  constructor
  · rintro ⟨v, -, read, -, -⟩
    exact ⟨v, read⟩
  · rintro ⟨v, read⟩
    obtain ⟨arrays, -, counts⟩ := exists_decodeValue_array_iff.mp ⟨v, read⟩
    obtain ⟨items, elementsRead, rfl⟩ := (decodeValue_array arrays).mp read
    rw [decodeArray_octets, if_pos counts] at elementsRead
    refine ⟨_, items, read, rfl, (mapM_eq_ok_iff.mp elementsRead).imp ?_⟩
    intro element item elementRead
    cases element with
    | none => cases elementRead
    | some bytes => exact (isScalar_iff_readElement arrays exact).mpr elementRead

/-- **Columns of arrays agree with columns of scalars** if the elements are read as scalars, exactly
when arrays of the type are read, no element is NULL, and the array is empty or counts from one. In
all other cases the column is an error. -/
theorem arrayColumn_agrees_iff {a : SentArray} (exact : type.isFloating = false)
    (readable : ∀ bytes, some bytes ∈ a.elements →
      ∃ v, decodeValue place ⟨name, .scalar type⟩ (some bytes) = .ok v) :
    (AgreesWithScalars place name type a ↔
      type.hasArrays = true ∧ none ∉ a.elements ∧ (a.elements = [] ∨ a.lower = 1)) ∧
    (¬AgreesWithScalars place name type a →
      ∃ reason, decodeValue place ⟨name, .array type⟩ (some a.octets) =
        .error (.decode reason)) := by
  constructor
  · rw [agreesWithScalars_iff exact, exists_decodeValue_array_iff]
    refine and_congr_right fun arrays => and_congr_left' ?_
    constructor
    · intro each null
      obtain ⟨item, nullRead⟩ := each none null
      cases nullRead
    · intro noNull element member
      cases element with
      | none => exact absurd member noNull
      | some bytes =>
        obtain ⟨v, read⟩ := readable bytes member
        exact ⟨v.toJson, (isScalar_iff_readElement arrays exact).mp ⟨v, read, rfl⟩⟩
  · intro disagrees
    apply decodeValue_error
    intro v read
    exact disagrees ((agreesWithScalars_iff exact).mpr ⟨v, read⟩)

/-- A number of 32 bits is read as the value of a column. -/
theorem decodeValue_int4 {n : Int} (lower : -(2 ^ 31) ≤ n) (upper : n < 2 ^ 31) :
    ∃ v, decodeValue place ⟨name, .scalar .int4⟩ (some (Binary.signedOctets 4 n)) = .ok v := by
  have size : Nat.pow 256 4 = 4294967296 := rfl
  have read : integer 4 (Binary.signedOctets 4 n) = .ok n :=
    integer_signedOctets 4 (by decide) (by decide) (by omega) (by omega)
  refine ⟨.int (Int64.ofInt n), decodeValue_scalar.mpr ?_⟩
  rw [decodeScalar, integerValue, read]
  rfl

/-- Arrays may count from one. -/
theorem one_within : -(2 ^ 31) ≤ (1 : Int) ∧ (1 : Int) < 2 ^ 31 := by
  decide

/-- Two numbers. -/
def twoNumbers : SentArray where
  type := 23
  lower := 1
  elements := [some (Binary.signedOctets 4 1), some (Binary.signedOctets 4 (-2))]
  within := one_within
  few := by decide
  short := by decide

theorem arrayColumn_agrees_iff_twoNumbers : AgreesWithScalars 0 "c" .int4 twoNumbers := by
  have readable : ∀ bytes, some bytes ∈ twoNumbers.elements →
      ∃ v, decodeValue 0 ⟨"c", .scalar .int4⟩ (some bytes) = .ok v := by
    intro bytes member
    rcases List.mem_pair.mp member with same | same
    · cases same
      exact decodeValue_int4 (by decide) (by decide)
    · cases same
      exact decodeValue_int4 (by decide) (by decide)
  exact (arrayColumn_agrees_iff rfl readable).1.mpr ⟨rfl, by decide, .inr rfl⟩

/-- That all columns of arrays agree with columns of scalars, whether elements are NULL or not. -/
def ArraysAgree : Prop :=
  ∀ place name type a, type.hasArrays = true → type.isFloating = false →
    (∀ bytes, some bytes ∈ a.elements →
      ∃ v, decodeValue place ⟨name, .scalar type⟩ (some bytes) = .ok v) →
    AgreesWithScalars place name type a

/-- A number, and NULL. -/
def numberAndNull : SentArray where
  type := 23
  lower := 1
  elements := [some (Binary.signedOctets 4 1), none]
  within := one_within
  few := by decide
  short := by decide

/-- **They do not**: NULL among the elements makes the column an error. -/
theorem not_arraysAgree : ¬ArraysAgree := by
  intro agree
  have readable : ∀ bytes, some bytes ∈ numberAndNull.elements →
      ∃ v, decodeValue 0 ⟨"c", .scalar .int4⟩ (some bytes) = .ok v := by
    intro bytes member
    rcases List.mem_pair.mp member with same | same
    · cases same
      exact decodeValue_int4 (by decide) (by decide)
    · cases same
  have agrees := agree 0 "c" .int4 numberAndNull rfl rfl readable
  rw [agreesWithScalars_iff rfl, exists_decodeValue_array_iff] at agrees
  obtain ⟨item, nullRead⟩ := agrees.2.1 none (by decide)
  cases nullRead

end TenantReports.Postgres
