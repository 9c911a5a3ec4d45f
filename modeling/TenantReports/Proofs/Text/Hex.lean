import Mathlib.Data.List.Basic
import TenantReports.Text.Hex

/-!
# Octets in hexadecimal digits

**Digits stand for octets in one way, but for their case.**

* `digit_of_value?`: a digit that is read is the one written, in lower case.
* `value?_toLower`: the case of a digit does not matter.
* `toOctets?_ofOctets`: octets that are written are read.
* `ofOctets_of_toOctets?`: octets that are read are written as they were, in lower case.
* `exists_toOctets?`: pairs of digits are octets.
* `getElem?_toOctets?`: each octet is the number that its two digits write.
-/

namespace TenantReports.Text.Hex

/-! ### Digits -/

/-- What holds of the first characters, each by its number. -/
theorem forall_ascii {P : Char → Prop} (first : ∀ n : Fin 128, P (Char.ofNat n)) {c : Char}
    (ascii : c.toNat < 128) : P c := by
  have here := first ⟨c.toNat, ascii⟩
  rwa [Char.ofNat_toNat] at here

theorem ascii_of_value? {c : Char} {value : Nat} (read : value? c = some value) :
    c.toNat < 128 := by
  have below : ∀ last : Char, last.toNat < 128 → c ≤ last → c.toNat < 128 := by
    intro last small le
    exact Nat.lt_of_le_of_lt (show c.toNat ≤ last.toNat from le) small
  unfold value? at read
  split_ifs at read with decimal small great
  · exact below '9' (by decide) decimal.2
  · exact below 'f' (by decide) small.2
  · exact below 'F' (by decide) great.2

/-- **A digit that is read is the one written**, in lower case. -/
theorem digit_of_value? {c : Char} {value : Nat} (read : value? c = some value) :
    value < 16 ∧ digit value = c.toLower := by
  have known : ∀ n : Fin 128, ∀ value ∈ value? (Char.ofNat n),
      value < 16 ∧ digit value = (Char.ofNat n).toLower := by decide
  exact forall_ascii (P := fun c => ∀ value ∈ value? c, value < 16 ∧ digit value = c.toLower) known
    (ascii_of_value? read) value read

/-- Letters are put in lower case among the first characters only. -/
theorem toLower_of_far {c : Char} (far : ¬c.toNat < 128) : c.toLower = c := by
  refine dif_neg ?_
  rintro ⟨-, last⟩
  have small : c.toNat ≤ 'Z'.toNat := last
  exact far (Nat.lt_of_le_of_lt small (by decide))

/-- **The case of a digit does not matter.** -/
theorem value?_toLower (c : Char) : value? c.toLower = value? c := by
  by_cases ascii : c.toNat < 128
  · have known : ∀ n : Fin 128, value? (Char.ofNat n).toLower = value? (Char.ofNat n) := by decide
    exact forall_ascii (P := fun c => value? c.toLower = value? c) known ascii
  · rw [toLower_of_far ascii]

theorem isDigit_toLower (c : Char) : isDigit c.toLower = isDigit c := by
  rw [isDigit, isDigit, value?_toLower]

theorem toLower_eq_hyphen_iff (c : Char) : c.toLower = '-' ↔ c = '-' := by
  by_cases ascii : c.toNat < 128
  · have known : ∀ n : Fin 128, (Char.ofNat n).toLower = '-' ↔ Char.ofNat n = '-' := by decide
    exact forall_ascii (P := fun c => c.toLower = '-' ↔ c = '-') known ascii
  · rw [toLower_of_far ascii]

theorem isDigit_digit {value : Nat} (small : value < 16) : isDigit (digit value) = true := by
  rw [isDigit, value?_digit ⟨value, small⟩]
  rfl

/-! ### Octets -/

theorem ofOctets_cons (octet : UInt8) (bytes : List UInt8) :
    ofOctets (octet :: bytes) =
      digit (octet.toNat / 16) :: digit (octet.toNat % 16) :: ofOctets bytes :=
  rfl

theorem length_ofOctets (bytes : List UInt8) : (ofOctets bytes).length = 2 * bytes.length := by
  induction bytes with
  | nil => rfl
  | cons octet bytes ih =>
    rw [ofOctets_cons, List.length_cons, List.length_cons, List.length_cons, ih]
    omega

/-- Both digits of an octet are digits. -/
theorem nibbles_lt (octet : UInt8) : octet.toNat / 16 < 16 ∧ octet.toNat % 16 < 16 := by
  have small := octet.toNat_lt
  omega

theorem exists_digit_of_mem {bytes : List UInt8} {c : Char} (member : c ∈ ofOctets bytes) :
    ∃ value < 16, c = digit value := by
  induction bytes with
  | nil => cases member
  | cons octet bytes ih =>
    obtain ⟨high, low⟩ := nibbles_lt octet
    rw [ofOctets_cons, List.mem_cons, List.mem_cons] at member
    rcases member with rfl | rfl | later
    · exact ⟨_, high, rfl⟩
    · exact ⟨_, low, rfl⟩
    · exact ih later

/-- **Octets that are written are read.** -/
theorem toOctets?_ofOctets (bytes : List UInt8) : toOctets? (ofOctets bytes) = some bytes := by
  induction bytes with
  | nil => rfl
  | cons octet bytes ih =>
    obtain ⟨high, low⟩ := nibbles_lt octet
    have whole : UInt8.ofNat (octet.toNat / 16 * 16 + octet.toNat % 16) = octet := by
      rw [Nat.div_add_mod']
      exact UInt8.ofNat_toNat
    rw [ofOctets_cons, toOctets?, value?_digit ⟨_, high⟩, value?_digit ⟨_, low⟩, ih]
    exact congrArg (fun first => some (first :: bytes)) whole

/-- Two digits are read before the others. -/
theorem toOctets?_cons {first second : Char} {rest : List Char} {high low : Nat}
    (read : value? first = some high) (read' : value? second = some low) :
    toOctets? (first :: second :: rest) =
      (toOctets? rest).map (UInt8.ofNat (high * 16 + low) :: ·) := by
  rw [toOctets?, read, read']
  cases toOctets? rest <;> rfl

theorem eq_nil_of_toOctets? {s : List Char} (read : toOctets? s = some []) : s = [] := by
  fun_cases toOctets? s with
  | case1 => rfl
  | case2 => cases read
  | case3 first second rest =>
    rw [toOctets?] at read
    simp only [Option.bind_eq_bind, Option.bind_eq_some_iff, Option.pure_def] at read
    obtain ⟨_, _, _, _, _, _, same⟩ := read
    cases same

/-- Where the first of several octets is read. -/
theorem exists_of_toOctets?_cons {s : List Char} {octet : UInt8} {bytes : List UInt8}
    (read : toOctets? s = some (octet :: bytes)) :
    ∃ first second rest high low, s = first :: second :: rest ∧ value? first = some high ∧
      value? second = some low ∧ octet.toNat = high * 16 + low ∧ toOctets? rest = some bytes := by
  fun_cases toOctets? s with
  | case1 => cases read
  | case2 => cases read
  | case3 first second rest =>
    rw [toOctets?] at read
    simp only [Option.bind_eq_bind, Option.bind_eq_some_iff, Option.pure_def, Option.some.injEq,
      List.cons.injEq] at read
    obtain ⟨high, digit, low, digit', others, after, whole, rfl⟩ := read
    refine ⟨first, second, rest, high, low, rfl, digit, digit', ?_, after⟩
    have small := (digit_of_value? digit).1
    have small' := (digit_of_value? digit').1
    rw [← whole]
    exact Nat.mod_eq_of_lt (show high * 16 + low < 256 by omega)

/-- **Octets that are read are written as they were**, in lower case. -/
theorem ofOctets_of_toOctets? {s : List Char} {bytes : List UInt8}
    (read : toOctets? s = some bytes) : ofOctets bytes = s.map Char.toLower := by
  induction bytes generalizing s with
  | nil =>
    rw [eq_nil_of_toOctets? read]
    rfl
  | cons octet bytes ih =>
    obtain ⟨first, second, rest, high, low, rfl, digit, digit', whole, after⟩ :=
      exists_of_toOctets?_cons read
    obtain ⟨small, lower⟩ := digit_of_value? digit
    obtain ⟨small', lower'⟩ := digit_of_value? digit'
    have upper : octet.toNat / 16 = high := by omega
    have under : octet.toNat % 16 = low := by omega
    rw [ofOctets_cons, upper, under, lower, lower', ih after]
    rfl

/-- Pairs of digits are octets. -/
theorem exists_toOctets? (count : Nat) {s : List Char} (even : s.length = 2 * count)
    (digits : ∀ c ∈ s, isDigit c = true) :
    ∃ bytes, toOctets? s = some bytes ∧ bytes.length = count := by
  induction count generalizing s with
  | zero =>
    rw [List.length_eq_zero_iff.mp even]
    exact ⟨[], rfl, rfl⟩
  | succ count ih =>
    match s with
    | first :: second :: rest =>
      obtain ⟨digit, digits⟩ := List.forall_mem_cons.mp digits
      obtain ⟨digit', digits⟩ := List.forall_mem_cons.mp digits
      obtain ⟨high, read⟩ := Option.isSome_iff_exists.mp digit
      obtain ⟨low, read'⟩ := Option.isSome_iff_exists.mp digit'
      rw [List.length_cons, List.length_cons] at even
      obtain ⟨bytes, after, size⟩ := ih (by omega) digits
      refine ⟨UInt8.ofNat (high * 16 + low) :: bytes, ?_, congrArg Nat.succ size⟩
      rw [toOctets?_cons read read', after]
      rfl

/-- **Each octet is the number that its two digits write.** -/
theorem getElem?_toOctets? {s : List Char} {bytes : List UInt8}
    (read : toOctets? s = some bytes) {place : Nat} {octet : UInt8}
    (found : bytes[place]? = some octet) :
    ∃ high low, s[2 * place]?.bind value? = some high ∧ s[2 * place + 1]?.bind value? = some low ∧
      octet.toNat = high * 16 + low := by
  induction bytes generalizing s place with
  | nil => cases found
  | cons first bytes ih =>
    obtain ⟨_, _, rest, high, low, rfl, digit, digit', whole, after⟩ :=
      exists_of_toOctets?_cons read
    cases place with
    | zero =>
      cases found
      exact ⟨high, low, digit, digit', whole⟩
    | succ place => exact ih after found

end TenantReports.Text.Hex
