/-!
# Numbers in octets

Numbers are sent as octets, the most significant first; one with a sign in two's complement.

* `unsigned_octets`: a number that was written is read back.
-/

namespace TenantReports.Postgres.Binary

/-- The whole number that octets are. -/
def unsigned (octets : List UInt8) : Nat :=
  octets.foldl (fun n octet => n * 256 + octet.toNat) 0

/-- The whole number with a sign that octets are. -/
def signed (octets : List UInt8) : Int :=
  let n := unsigned octets
  let count := Nat.pow 256 octets.length
  if 2 * n < count then n else n - count

/-- A number in a given count of octets. -/
def octets : Nat → Nat → List UInt8
  | 0, _ => []
  | count + 1, n => octets count (n / 256) ++ [UInt8.ofNat n]

/-- The first octets, if there are as many, and the others. -/
def take? (count : Nat) (bytes : List UInt8) : Option (List UInt8 × List UInt8) :=
  if bytes.length < count then none else some (bytes.take count, bytes.drop count)

/-- The number in the first octets, and the others. -/
def unsigned? (count : Nat) (bytes : List UInt8) : Option (Nat × List UInt8) :=
  (take? count bytes).map fun (first, rest) => (unsigned first, rest)

/-- The number with a sign in the first octets, and the others. -/
def signed? (count : Nat) (bytes : List UInt8) : Option (Int × List UInt8) :=
  (take? count bytes).map fun (first, rest) => (signed first, rest)

theorem length_octets (count n : Nat) : (octets count n).length = count := by
  induction count generalizing n with
  | zero => rfl
  | succ count ih => simp [octets, ih]

theorem unsigned_octets (count n : Nat) : unsigned (octets count n) = n % Nat.pow 256 count := by
  induction count generalizing n with
  | zero => simp [unsigned, octets, Nat.mod_one]
  | succ count ih =>
    have high := ih (n / 256)
    unfold unsigned at high ⊢
    show _ = n % (Nat.pow 256 count * 256)
    rw [octets, List.foldl_append, high, Nat.mul_comm (Nat.pow 256 count) 256, Nat.mod_mul]
    simp only [List.foldl_cons, List.foldl_nil, UInt8.toNat_ofNat']
    omega

end TenantReports.Postgres.Binary
