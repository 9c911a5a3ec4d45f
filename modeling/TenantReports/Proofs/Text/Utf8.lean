import TenantReports.Text.Utf8

/-!
# Characters and their octets

**A text is what its octets are read as**, and between two of its octets a character begins wherever
the first one is a character of its own.

* `next_encodeNat`: the octets of a character are read as it.
* `decode?_encode`: octets written are the text read.
* `boundary_after_ascii`: after an octet of ASCII a character begins, or the text ends.
-/

namespace TenantReports.Text.Utf8

/-! ### Characters that stand for octets -/

theorem toNat_ofNat {n : Nat} (valid : n.isValidChar) : (Char.ofNat n).toNat = n := by
  unfold Char.ofNat
  rw [dif_pos valid]
  rfl

theorem toNat_octet (b : UInt8) : (Char.ofNat b.toNat).toNat = b.toNat :=
  toNat_ofNat (.inl (Nat.lt_trans b.toNat_lt (by decide)))

theorem ofNat_octet (b : UInt8) : UInt8.ofNat (Char.ofNat b.toNat).toNat = b := by
  rw [toNat_octet, UInt8.ofNat_toNat]

/-! ### Reading one character -/

theorem toNat_ofNat_of_lt {n : Nat} (small : n < 256) : (UInt8.ofNat n).toNat = n := by
  rw [UInt8.toNat_ofNat', Nat.mod_eq_of_lt small]

/-- What an octet leads, by its number. -/
theorem leader?_ofNat : ∀ n : Fin 256, leader? (UInt8.ofNat n) =
    if 0xC2 ≤ n.val ∧ n.val ≤ 0xDF then some (1, 0x80, 0xBF)
    else if n.val = 0xE0 then some (2, 0xA0, 0xBF)
    else if n.val = 0xED then some (2, 0x80, 0x9F)
    else if 0xE1 ≤ n.val ∧ n.val ≤ 0xEF then some (2, 0x80, 0xBF)
    else if n.val = 0xF0 then some (3, 0x90, 0xBF)
    else if 0xF1 ≤ n.val ∧ n.val ≤ 0xF3 then some (3, 0x80, 0xBF)
    else if n.val = 0xF4 then some (3, 0x80, 0x8F)
    else none := by
  decide +kernel

theorem isTail_ofNat {n : Nat} (small : n < 64) : isTail (UInt8.ofNat (0x80 + n)) = true := by
  have octet : (UInt8.ofNat (0x80 + n)).toNat = 0x80 + n := toNat_ofNat_of_lt (by omega)
  simp only [isTail, UInt8.le_iff_toNat_le, octet, Bool.and_eq_true, decide_eq_true_eq]
  exact ⟨Nat.le_add_right _ _, show 0x80 + n ≤ 0xBF by omega⟩

/-- An octet that continues a character adds six bits. -/
theorem tails_cons {owed n m : Nat} (small : m < 64) (rest : List UInt8) :
    tails (owed + 1) n (UInt8.ofNat (0x80 + m) :: rest) = tails owed (n * 64 + m) rest := by
  rw [tails, if_pos (isTail_ofNat small), toNat_ofNat_of_lt (by omega), Nat.add_sub_cancel_left]

/-- The first two octets of a character. -/
theorem next_ofNat {first second owed : Nat} (least greatest width : Nat)
    (power : Nat.pow 2 (owed + 1) = width) (small : first < 256)
    (ascii : 0x80 ≤ first)
    (leads : leader? (UInt8.ofNat first) =
      some (owed + 1, UInt8.ofNat least, UInt8.ofNat greatest))
    (low : least ≤ second) (high : second ≤ greatest) (bound : greatest < 256)
    (rest : List UInt8) :
    next (UInt8.ofNat first) (UInt8.ofNat second :: rest) =
      tails owed ((first % (64 / width)) * 64 + (second - 0x80)) rest := by
  have octet := toNat_ofNat_of_lt small
  have octet' : (UInt8.ofNat second).toNat = second := toNat_ofNat_of_lt (by omega)
  have beyond : ¬UInt8.ofNat first < 0x80 := by
    rw [UInt8.lt_iff_toNat_lt, octet]
    exact Nat.not_lt.mpr ascii
  have within : (decide (UInt8.ofNat least ≤ UInt8.ofNat second) &&
      decide (UInt8.ofNat second ≤ UInt8.ofNat greatest)) = true := by
    simp only [UInt8.le_iff_toNat_le, octet', toNat_ofNat_of_lt bound,
      toNat_ofNat_of_lt (Nat.lt_of_le_of_lt (Nat.le_trans low high) bound), Bool.and_eq_true,
      decide_eq_true_eq]
    exact ⟨low, high⟩
  simp only [next, if_neg beyond, leads, within, if_true, octet, octet', Nat.add_sub_cancel, power]

theorem next_one {n : Nat} (small : n < 0x80) (rest : List UInt8) :
    next (UInt8.ofNat n) rest = (some (Char.ofNat n), rest) := by
  have octet : (UInt8.ofNat n).toNat = n := toNat_ofNat_of_lt (by omega)
  have below : UInt8.ofNat n < 0x80 := by
    rw [UInt8.lt_iff_toNat_lt, octet]
    exact small
  simp only [next, if_pos below, octet]

theorem next_two {n : Nat} (least : 0x80 ≤ n) (small : n < 0x800) (rest : List UInt8) :
    next (UInt8.ofNat (0xC0 + n / 64)) (UInt8.ofNat (0x80 + n % 64) :: rest) =
      (some (Char.ofNat n), rest) := by
  have leads : leader? (UInt8.ofNat (0xC0 + n / 64)) = some (0 + 1, UInt8.ofNat 0x80,
      UInt8.ofNat 0xBF) := by
    rw [leader?_ofNat ⟨0xC0 + n / 64, by omega⟩, if_pos (by constructor <;> simp only <;> omega)]
    rfl
  rw [next_ofNat 0x80 0xBF 2 rfl (by omega) (by omega) leads (by omega) (by omega) (by omega),
    tails, show (0xC0 + n / 64) % (64 / 2) * 64 + (0x80 + n % 64 - 0x80) = n by omega]

/-- The second octet of a character of three lies between the bounds that its first one sets. -/
theorem next_three {n : Nat} (least : 0x800 ≤ n) (small : n < 0x10000)
    (noSurrogate : n < 0xD800 ∨ 0xDFFF < n) (rest : List UInt8) :
    next (UInt8.ofNat (0xE0 + n / 4096))
        (UInt8.ofNat (0x80 + n / 64 % 64) :: UInt8.ofNat (0x80 + n % 64) :: rest) =
      (some (Char.ofNat n), rest) := by
  have whole : tails 1 ((0xE0 + n / 4096) % (64 / 4) * 64 + (0x80 + n / 64 % 64 - 0x80))
      (UInt8.ofNat (0x80 + n % 64) :: rest) = (some (Char.ofNat n), rest) := by
    rw [tails_cons (by omega), tails,
      show ((0xE0 + n / 4096) % (64 / 4) * 64 + (0x80 + n / 64 % 64 - 0x80)) * 64 +
        n % 64 = n by omega]
  have lead := leader?_ofNat ⟨0xE0 + n / 4096, by omega⟩
  simp only at lead
  rw [if_neg (by omega)] at lead
  by_cases first : n / 4096 = 0
  · rw [if_pos (by omega)] at lead
    rw [next_ofNat 0xA0 0xBF 4 rfl (by omega) (by omega) lead (by omega) (by omega) (by omega),
      whole]
  · by_cases surrogates : n / 4096 = 13
    · rw [if_neg (by omega), if_pos (by omega)] at lead
      rw [next_ofNat 0x80 0x9F 4 rfl (by omega) (by omega) lead (by omega) (by omega) (by omega),
        whole]
    · rw [if_neg (by omega), if_neg (by omega), if_pos (by omega)] at lead
      rw [next_ofNat 0x80 0xBF 4 rfl (by omega) (by omega) lead (by omega) (by omega) (by omega),
        whole]

/-- The second octet of a character of four lies between the bounds that its first one sets. -/
theorem next_four {n : Nat} (least : 0x10000 ≤ n) (small : n < 0x110000) (rest : List UInt8) :
    next (UInt8.ofNat (0xF0 + n / 262144))
        (UInt8.ofNat (0x80 + n / 4096 % 64) :: UInt8.ofNat (0x80 + n / 64 % 64) ::
          UInt8.ofNat (0x80 + n % 64) :: rest) =
      (some (Char.ofNat n), rest) := by
  have whole : tails 2
      ((0xF0 + n / 262144) % (64 / 8) * 64 + (0x80 + n / 4096 % 64 - 0x80))
      (UInt8.ofNat (0x80 + n / 64 % 64) :: UInt8.ofNat (0x80 + n % 64) :: rest) =
        (some (Char.ofNat n), rest) := by
    rw [tails_cons (by omega), tails_cons (by omega), tails,
      show (((0xF0 + n / 262144) % (64 / 8) * 64 + (0x80 + n / 4096 % 64 - 0x80)) * 64 +
        n / 64 % 64) * 64 + n % 64 = n by omega]
  have lead := leader?_ofNat ⟨0xF0 + n / 262144, by omega⟩
  simp only at lead
  rw [if_neg (by omega), if_neg (by omega), if_neg (by omega), if_neg (by omega)] at lead
  by_cases first : n / 262144 = 0
  · rw [if_pos (by omega)] at lead
    rw [next_ofNat 0x90 0xBF 8 rfl (by omega) (by omega) lead (by omega) (by omega) (by omega),
      whole]
  · by_cases last : n / 262144 = 4
    · rw [if_neg (by omega), if_neg (by omega), if_pos (by omega)] at lead
      rw [next_ofNat 0x80 0x8F 8 rfl (by omega) (by omega) lead (by omega) (by omega) (by omega),
        whole]
    · rw [if_neg (by omega), if_pos (by omega)] at lead
      rw [next_ofNat 0x80 0xBF 8 rfl (by omega) (by omega) lead (by omega) (by omega) (by omega),
        whole]

/-- **The octets of a character are read as it**, whatever follows them. -/
theorem next_encodeNat (c : Char) : ∃ b tail, encodeNat c.toNat = b :: tail ∧
    ∀ rest, next b (tail ++ rest) = (some c, rest) := by
  have valid : c.toNat < 0xD800 ∨ 0xDFFF < c.toNat ∧ c.toNat < 0x110000 := c.valid
  have same : Char.ofNat c.toNat = c := Char.ofNat_toNat c
  unfold encodeNat
  split
  case isTrue one => exact ⟨_, _, rfl, fun rest => by rw [List.nil_append, next_one one, same]⟩
  split
  case isTrue two =>
    exact ⟨_, _, rfl, fun rest => (next_two (by omega) two rest).trans (by rw [same])⟩
  split
  case isTrue three =>
    exact ⟨_, _, rfl, fun rest =>
      (next_three (by omega) three (by omega) rest).trans (by rw [same])⟩
  case isFalse => exact ⟨_, _, rfl, fun rest =>
      (next_four (by omega) (by omega) rest).trans (by rw [same])⟩

/-! ### Reading a text -/

@[simp] theorem encode_nil : encode [] = [] := rfl

@[simp] theorem encode_cons (c : Char) (s : List Char) :
    encode (c :: s) = encodeNat c.toNat ++ encode s := rfl

/-- **Octets written are the text read.** -/
theorem decode?_encode (s : List Char) : decode? (encode s) = some s := by
  induction s with
  | nil => rw [encode_nil, decode?]
  | cons c s ih =>
    obtain ⟨b, tail, octets, read⟩ := next_encodeNat c
    rw [encode_cons, octets, List.cons_append, decode?, read, ih]
    rfl

/-! ### Where a character begins -/

theorem encodeNat_of_ascii {n : Nat} (ascii : n < 0x80) : encodeNat n = [UInt8.ofNat n] :=
  if_pos ascii

/-- The octets of a character beyond ASCII are beyond ASCII. -/
theorem le_of_mem_encodeNat {n : Nat} (beyond : 0x80 ≤ n) (valid : n < 0x110000) {b : UInt8}
    (member : b ∈ encodeNat n) : 0x80 ≤ b.toNat := by
  have far : ∀ m, m < 0x80 → 0x80 ≤ (UInt8.ofNat (0x80 + m)).toNat := by
    intro m small
    rw [toNat_ofNat_of_lt (by omega)]
    exact Nat.le_add_right _ _
  unfold encodeNat at member
  rw [if_neg (Nat.not_lt.mpr beyond)] at member
  split at member
  case isTrue two =>
    simp only [List.mem_cons, List.not_mem_nil, or_false] at member
    rcases member with rfl | rfl
    · exact Nat.add_assoc 0x80 0x40 _ ▸ far (0x40 + n / 64) (by omega)
    · exact far _ (by omega)
  split at member
  case isTrue three =>
    simp only [List.mem_cons, List.not_mem_nil, or_false] at member
    rcases member with rfl | rfl | rfl
    · exact Nat.add_assoc 0x80 0x60 _ ▸ far (0x60 + n / 4096) (by omega)
    · exact far _ (by omega)
    · exact far _ (by omega)
  case isFalse =>
    simp only [List.mem_cons, List.not_mem_nil, or_false] at member
    rcases member with rfl | rfl | rfl | rfl
    · exact Nat.add_assoc 0x80 0x70 _ ▸ far (0x70 + n / 262144) (by omega)
    · exact far _ (by omega)
    · exact far _ (by omega)
    · exact far _ (by omega)

/-- An octet that begins a character continues none. -/
theorem isTail_ofNat_eq_false {n : Nat} (small : n < 256) (first : n < 0x80 ∨ 0xC0 ≤ n) :
    isTail (UInt8.ofNat n) = false := by
  have octet := toNat_ofNat_of_lt small
  rw [isTail, Bool.and_eq_false_iff]
  simp only [UInt8.le_iff_toNat_le, octet, decide_eq_false_iff_not]
  rcases first with ascii | leads
  · exact .inl (Nat.not_le.mpr ascii)
  · exact .inr (Nat.not_le.mpr (Nat.lt_of_lt_of_le (by decide) leads))

theorem isTail_head_encodeNat {n : Nat} (valid : n < 0x110000) :
    ∀ b ∈ (encodeNat n).head?, isTail b = false := by
  intro b first
  unfold encodeNat at first
  split at first
  case isTrue ascii =>
    cases first
    exact isTail_ofNat_eq_false (by omega) (.inl ascii)
  split at first
  case isTrue two =>
    cases first
    exact isTail_ofNat_eq_false (by omega) (.inr (by omega))
  split at first
  case isTrue three =>
    cases first
    exact isTail_ofNat_eq_false (by omega) (.inr (by omega))
  case isFalse =>
    cases first
    exact isTail_ofNat_eq_false (by omega) (.inr (by omega))

theorem toNat_lt (c : Char) : c.toNat < 0x110000 := by
  have valid : c.toNat < 0xD800 ∨ 0xDFFF < c.toNat ∧ c.toNat < 0x110000 := c.valid
  omega

theorem encodeNat_ne_nil (n : Nat) : encodeNat n ≠ [] := by
  unfold encodeNat
  split
  · exact List.cons_ne_nil _ _
  split
  · exact List.cons_ne_nil _ _
  split <;> exact List.cons_ne_nil _ _

/-- A text begins with a character. -/
theorem isTail_head_encode (s : List Char) : ∀ b ∈ (encode s).head?, isTail b = false := by
  cases s with
  | nil =>
    intro b first
    cases first
  | cons c s =>
    intro b first
    refine isTail_head_encodeNat (toNat_lt c) b ?_
    cases octets : encodeNat c.toNat with
    | nil => exact absurd octets (encodeNat_ne_nil _)
    | cons first' tail => rwa [encode_cons, octets] at first

/-- **After an octet of ASCII a character begins**, or the text ends. -/
theorem boundary_after_ascii {s : List Char} {before after : List UInt8} {b : UInt8}
    (octets : encode s = before ++ b :: after) (ascii : b.toNat < 0x80) :
    ∀ next ∈ after.head?, isTail next = false := by
  induction s generalizing before with
  | nil =>
    cases before <;> cases octets
  | cons c s ih =>
    rw [encode_cons] at octets
    -- Either the octet belongs to a later character, or it belongs to the first one.
    rcases List.append_eq_append_iff.mp octets with ⟨skipped, rfl, later⟩ | ⟨own, whole, tail⟩
    · exact ih later
    · cases own with
      | nil =>
        have later : encode s = [] ++ b :: after := tail.symm
        exact ih later
      | cons first rest =>
        obtain ⟨rfl, rfl⟩ := List.cons.inj tail
        by_cases beyond : 0x80 ≤ c.toNat
        · have member : b ∈ encodeNat c.toNat :=
            whole ▸ List.mem_append_right _ List.mem_cons_self
          exact absurd (le_of_mem_encodeNat beyond (toNat_lt c) member) (Nat.not_le.mpr ascii)
        · rw [encodeNat_of_ascii (Nat.not_le.mp beyond)] at whole
          have alone : rest = [] := by
            cases before with
            | nil => exact (List.cons.inj whole).2.symm
            | cons other before => cases before <;> cases (List.cons.inj whole).2
          rw [alone]
          exact isTail_head_encode s

end TenantReports.Text.Utf8
