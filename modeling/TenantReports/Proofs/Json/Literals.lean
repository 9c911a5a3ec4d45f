import TenantReports.Json.Value
import TenantReports.Proofs.Text.Spelling

/-!
# Strings and numbers in JSON texts

**A string and a number that are written are read back**, whatever follows them, and in whatever way
the characters beyond ASCII are spelt.

* `Reads`: how strings are read undoes how they are spelt; `reads_text`, `reads_octets`.
* `escapeChar_cases`: the three ways to write a character.
* `stringBody_writeString`, `content_escaped`: the body of a string, and what it says.
* `Legible`: decimals as JSON has them; `number?_writeNumber`: such a number.
-/

namespace TenantReports.Json

open Number (Decimal)
open Text (IsSpelling ascii_of_isDigit spellOctets)

/-! ### How strings are read -/

/-- **How strings are read undoes how they are spelt.** -/
structure Reads (charset : Charset) (spell : Char → List Char) : Prop where
  spelling : IsSpelling spell
  reads : ∀ s : List Char, charset (s.flatMap spell) = some s

/-- A text is read as it is. -/
theorem reads_text : Reads some fun c => [c] where
  spelling := Text.isSpelling_pure
  reads s := congrArg some (List.flatMap_singleton' s)

/-- The octets of a text are read as UTF-8. -/
theorem reads_octets : Reads octetCharset spellOctets where
  spelling := Text.isSpelling_octets
  reads s := by
    have octets : (s.flatMap spellOctets).map (fun c => UInt8.ofNat c.toNat) =
        Text.Utf8.encode s :=
      Text.map_octet_flatMap s
    rw [octetCharset, octets, Text.Utf8.decode?_encode]

variable {charset : Charset} {spell : Char → List Char}

/-! ### Characters of a string -/

/-- A character that stands for itself in a string. -/
def IsPlain (c : Char) : Prop :=
  c ≠ '"' ∧ c ≠ '\\' ∧ 0x20 ≤ c.toNat

/-- **The three ways to write a character**: with a letter, with digits, or as it is. -/
theorem escapeChar_cases (c : Char) :
    (∃ letter ∈ ['"', '\\', 'b', 'f', 'n', 'r', 't'], escapeChar c = ['\\', letter] ∧
        escaped letter = c) ∨
      (c.toNat < 0x20 ∧ escapeChar c = ['\\', 'u', '0', '0', Text.Hex.digit (c.toNat / 16),
        Text.Hex.digit (c.toNat % 16)]) ∨
      (IsPlain c ∧ escapeChar c = [c]) := by
  unfold escapeChar
  split
  case isTrue same => exact .inl ⟨'"', by decide, rfl, (eq_of_beq same).symm⟩
  case isFalse noQuote =>
  split
  case isTrue same => exact .inl ⟨'\\', by decide, rfl, (eq_of_beq same).symm⟩
  case isFalse noSlash =>
  split
  case isTrue same => exact .inl ⟨'b', by decide, rfl, (eq_of_beq same).symm⟩
  split
  case isTrue same => exact .inl ⟨'f', by decide, rfl, (eq_of_beq same).symm⟩
  split
  case isTrue same => exact .inl ⟨'n', by decide, rfl, (eq_of_beq same).symm⟩
  split
  case isTrue same => exact .inl ⟨'r', by decide, rfl, (eq_of_beq same).symm⟩
  split
  case isTrue same => exact .inl ⟨'t', by decide, rfl, (eq_of_beq same).symm⟩
  split
  case isTrue control => exact .inr (.inl ⟨control, rfl⟩)
  case isFalse shows =>
    exact .inr (.inr ⟨⟨by simpa using noQuote, by simpa using noSlash, Nat.not_lt.mp shows⟩, rfl⟩)

/-! ### The body of a string -/

theorem stringBody_plain {c : Char} (plain : IsPlain c) (rest : List Char) :
    stringBody (c :: rest) = (stringBody rest).map fun (body, rest) => (c :: body, rest) := by
  have shows : (c.toNat < 0x20 || c == '\\') = false := by
    simp only [Bool.or_eq_false_iff, decide_eq_false_iff_not, beq_eq_false_iff_ne]
    exact ⟨Nat.not_lt.mpr plain.2.2, plain.2.1⟩
  rw [stringBody]
  · simp only [shows, Bool.false_eq_true, if_false]
  · exact plain.1
  · exact fun _ _ _ _ _ slash _ => plain.2.1 slash
  · exact fun _ _ slash _ => plain.2.1 slash

theorem stringBody_append {os : List Char} (plain : ∀ o ∈ os, IsPlain o) (rest : List Char) :
    stringBody (os ++ rest) = (stringBody rest).map fun (body, rest) => (os ++ body, rest) := by
  induction os with
  | nil => exact Option.map_id'.symm
  | cons o os ih =>
    obtain ⟨first, others⟩ := List.forall_mem_cons.mp plain
    rw [List.cons_append, stringBody_plain first, ih others, Option.map_map]
    rfl

/-- What is written for a letter or a number of digits is passed as it is. -/
theorem stringBody_letter {letter : Char}
    (known : letter ∈ ['"', '\\', 'b', 'f', 'n', 'r', 't']) (rest : List Char) :
    stringBody ('\\' :: letter :: rest) =
      (stringBody rest).map fun (body, rest) => ('\\' :: letter :: body, rest) := by
  simp only [List.mem_cons, List.not_mem_nil, or_false] at known
  rcases known with rfl | rfl | rfl | rfl | rfl | rfl | rfl <;> rfl

theorem isDigit_digit {n : Nat} (small : n < 16) :
    Text.Hex.isDigit (Text.Hex.digit n) = true := by
  rw [Text.Hex.isDigit, Text.Hex.value?_digit ⟨n, small⟩]
  rfl

theorem stringBody_control {n : Nat} (small : n < 0x20) (rest : List Char) :
    stringBody ('\\' :: 'u' :: '0' :: '0' :: Text.Hex.digit (n / 16) ::
        Text.Hex.digit (n % 16) :: rest) =
      (stringBody rest).map fun (body, rest) => ('\\' :: 'u' :: '0' :: '0' ::
        Text.Hex.digit (n / 16) :: Text.Hex.digit (n % 16) :: body, rest) := by
  have zero : Text.Hex.isDigit '0' = true := by decide
  have digits : ['0', '0', Text.Hex.digit (n / 16), Text.Hex.digit (n % 16)].all
      Text.Hex.isDigit = true := by
    simp only [List.all_cons, List.all_nil, zero, isDigit_digit (show n / 16 < 16 by omega),
      isDigit_digit (show n % 16 < 16 by omega), Bool.and_self]
  rw [stringBody, if_pos digits]

theorem ascii_digit {n : Nat} (small : n < 16) : (Text.Hex.digit n).toNat < 0x80 := by
  have all : ∀ n : Fin 16, (Text.Hex.digit n.val).toNat < 0x80 := by decide
  exact all ⟨n, small⟩

/-- **The body of a string goes on after a character**, however that is written and spelt. -/
theorem stringBody_escapeChar (spelling : IsSpelling spell) (c : Char) (rest : List Char) :
    stringBody ((escapeChar c).flatMap spell ++ rest) =
      (stringBody rest).map fun (body, rest) => ((escapeChar c).flatMap spell ++ body, rest) := by
  rcases escapeChar_cases c with ⟨letter, known, written, -⟩ | ⟨control, written⟩ | ⟨plain, written⟩
  · have ascii : ∀ o ∈ ['\\', letter], o.toNat < 0x80 := by
      have letters : (['"', '\\', 'b', 'f', 'n', 'r', 't'].all fun c => c.toNat < 0x80) = true := by
        decide
      simp only [List.forall_mem_cons, List.not_mem_nil, false_imp_iff, implies_true, and_true]
      exact ⟨by decide, of_decide_eq_true (List.all_eq_true.mp letters letter known)⟩
    rw [written, spelling.flatMap_ascii ascii]
    exact stringBody_letter known rest
  · have ascii : ∀ o ∈ ['\\', 'u', '0', '0', Text.Hex.digit (c.toNat / 16),
        Text.Hex.digit (c.toNat % 16)], o.toNat < 0x80 := by
      simp only [List.forall_mem_cons, List.not_mem_nil, false_imp_iff, implies_true, and_true]
      exact ⟨by decide, by decide, by decide, by decide, ascii_digit (by omega),
        ascii_digit (by omega)⟩
    rw [written, spelling.flatMap_ascii ascii]
    exact stringBody_control control rest
  · have plainToo : ∀ o ∈ spell c, IsPlain o := by
      intro o member
      by_cases ascii : c.toNat < 0x80
      · rw [spelling.ascii ascii] at member
        exact List.mem_singleton.mp member ▸ plain
      · have far := spelling.beyond (Nat.not_lt.mp ascii) o member
        refine ⟨?_, ?_, Nat.le_trans (by decide) far⟩
        · rintro rfl
          exact absurd far (by decide)
        · rintro rfl
          exact absurd far (by decide)
    rw [written, List.flatMap_singleton]
    exact stringBody_append plainToo rest

/-- **The body of a written string ends at its closing quote.** -/
theorem stringBody_writeString (spelling : IsSpelling spell) (s rest : List Char) :
    stringBody ((s.flatMap escapeChar).flatMap spell ++ '"' :: rest) =
      some ((s.flatMap escapeChar).flatMap spell, rest) := by
  induction s with
  | nil => rfl
  | cons c s ih =>
    rw [List.flatMap_cons, List.flatMap_append, List.append_assoc,
      stringBody_escapeChar spelling, ih]
    rfl

/-! ### What the body says -/

theorem unescape_plain {c : Char} (plain : IsPlain c) (rest : List Char) :
    unescape (c :: rest) = (unescape rest).map (c :: ·) := by
  rw [unescape]
  · exact fun _ _ _ _ _ _ _ _ _ slash _ => plain.2.1 slash
  · exact fun _ _ _ _ _ slash _ => plain.2.1 slash
  · exact fun _ _ slash _ => plain.2.1 slash

theorem unescape_letter {letter : Char} (known : letter ∈ ['"', '\\', 'b', 'f', 'n', 'r', 't'])
    (rest : List Char) :
    unescape ('\\' :: letter :: rest) = (unescape rest).map (escaped letter :: ·) := by
  simp only [List.mem_cons, List.not_mem_nil, or_false] at known
  rcases known with rfl | rfl | rfl | rfl | rfl | rfl | rfl <;> rfl

/-- Digits for a character below the surrogates stand for it, whatever follows. -/
theorem unescape_unit {a b c d : Char} (small : unit a b c d < 0xD800) (rest : List Char) :
    unescape ('\\' :: 'u' :: a :: b :: c :: d :: rest) =
      (unescape rest).map (Char.ofNat (unit a b c d) :: ·) := by
  have noHigh : isHigh (unit a b c d) = false := by
    rw [isHigh, Bool.and_eq_false_iff, decide_eq_false_iff_not, decide_eq_false_iff_not]
    exact .inl (Nat.not_le.mpr small)
  have noLow : isLow (unit a b c d) = false := by
    rw [isLow, Bool.and_eq_false_iff, decide_eq_false_iff_not, decide_eq_false_iff_not]
    exact .inl (Nat.not_le.mpr (Nat.lt_trans small (by decide)))
  -- Only a unit of a pair would be read together with another one after it.
  by_cases another : ∃ e f g h rest', rest = '\\' :: 'u' :: e :: f :: g :: h :: rest'
  · obtain ⟨e, f, g, h, rest', rfl⟩ := another
    rw [unescape]
    simp only [noHigh, noLow, Bool.false_eq_true, if_false]
  · rw [unescape]
    · simp only [noHigh, noLow, Bool.or_self, Bool.false_eq_true, if_false]
    · exact fun e f g h rest' same => another ⟨e, f, g, h, rest', same⟩

theorem unit_digit {n : Nat} (small : n < 0x20) :
    unit '0' '0' (Text.Hex.digit (n / 16)) (Text.Hex.digit (n % 16)) = n := by
  have zero : Text.Hex.value? '0' = some 0 := by decide
  have high := Text.Hex.value?_digit ⟨n / 16, by omega⟩
  have low := Text.Hex.value?_digit ⟨n % 16, by omega⟩
  simp only [unit, List.foldl_cons, List.foldl_nil, zero, high, low, Option.getD_some]
  omega

/-- **A character that is written is the character read.** -/
theorem unescape_escapeChar (c : Char) (rest : List Char) :
    unescape (escapeChar c ++ rest) = (unescape rest).map (c :: ·) := by
  rcases escapeChar_cases c with ⟨letter, known, written, same⟩ | ⟨control, written⟩ |
    ⟨plain, written⟩
  · rw [written, ← same]
    exact unescape_letter known rest
  · have number := unit_digit control
    have small : unit '0' '0' (Text.Hex.digit (c.toNat / 16)) (Text.Hex.digit (c.toNat % 16)) <
        0xD800 := by
      omega
    rw [written]
    refine (unescape_unit small rest).trans ?_
    rw [number, Char.ofNat_toNat]
  · rw [written]
    exact unescape_plain plain rest

theorem unescape_flatMap (s : List Char) : unescape (s.flatMap escapeChar) = some s := by
  induction s with
  | nil => rfl
  | cons c s ih =>
    rw [List.flatMap_cons, unescape_escapeChar, ih]
    rfl

/-- **The body of a written string says the string.** -/
theorem content_escaped (reads : Reads charset spell) (s : String) :
    content charset ((s.toList.flatMap escapeChar).flatMap spell) = some s := by
  rw [content, reads.reads, Option.bind_some, unescape_flatMap, Option.map_some,
    String.ofList_toList]

/-! ### Numbers -/

/-- **A decimal that JSON can write**: digits in all its parts, and no zero before others. -/
structure Legible (d : Decimal) : Prop where
  whole : d.whole = ['0'] ∨ d.whole ≠ [] ∧ d.whole.head? ≠ some '0'
  digits : ∀ c ∈ d.whole ++ d.fraction, c.isDigit = true
  exponent : ∀ negative ds, d.exponent = some (negative, ds) →
    ds ≠ [] ∧ ∀ c ∈ ds, c.isDigit = true

/-- What follows a number goes on with none of its parts. -/
def EndsNumber (rest : List Char) : Prop :=
  ∀ c ∈ rest.head?, c.isDigit = false ∧ c ≠ '.' ∧ c ≠ 'e' ∧ c ≠ 'E'

/-- What follows digits does not begin with one. -/
def EndsDigits (rest : List Char) : Prop :=
  ∀ c ∈ rest.head?, c.isDigit = false

theorem spanDigits_append {ds rest : List Char} (digits : ∀ c ∈ ds, c.isDigit = true)
    (ends : EndsDigits rest) : Number.spanDigits (ds ++ rest) = (ds, rest) := by
  have taken : rest.takeWhile Char.isDigit = [] ∧ rest.dropWhile Char.isDigit = rest := by
    cases rest with
    | nil => exact ⟨rfl, rfl⟩
    | cons c rest =>
      have other : c.isDigit = false := ends c rfl
      simp only [List.takeWhile_cons, List.dropWhile_cons, other, Bool.false_eq_true, if_false,
        and_self]
  rw [Number.spanDigits, List.takeWhile_append_of_pos digits, List.dropWhile_append_of_pos digits,
    taken.1, taken.2, List.append_nil]

theorem Legible.whole_cons {d : Decimal} (legible : Legible d) :
    ∃ c rest, d.whole = c :: rest ∧ c.isDigit = true := by
  cases whole : d.whole with
  | nil =>
    rcases legible.whole with zero | ⟨nonempty, -⟩
    · rw [zero] at whole
      cases whole
    · exact absurd whole nonempty
  | cons c rest =>
    have member : c ∈ d.whole ++ d.fraction := by
      rw [whole]
      exact List.mem_cons_self
    exact ⟨c, rest, rfl, legible.digits c member⟩

theorem wholePart_append {d : Decimal} (legible : Legible d) {rest : List Char}
    (ends : EndsDigits rest) : wholePart (d.whole ++ rest) = some (d.whole, rest) := by
  rcases legible.whole with zero | ⟨nonempty, noZero⟩
  · rw [zero]
    rfl
  · have digits : ∀ c ∈ d.whole, c.isDigit = true := fun c member =>
      legible.digits c (List.mem_append_left _ member)
    have span := spanDigits_append digits ends
    cases whole : d.whole with
    | nil => exact absurd whole nonempty
    | cons first others =>
      rw [whole] at span noZero
      rw [List.cons_append] at span ⊢
      rw [wholePart]
      · simp only [span, List.isEmpty_cons, Bool.false_eq_true, if_false]
      · intro rest' same
        exact noZero (congrArg some (List.cons.inj same).1)

theorem fractionPart_append {ds : List Char} (digits : ∀ c ∈ ds, c.isDigit = true)
    {rest : List Char} (ends : EndsDigits rest) (noPoint : rest.head? ≠ some '.') :
    fractionPart ((if ds.isEmpty then [] else '.' :: ds) ++ rest) = some (ds, rest) := by
  cases ds with
  | nil =>
    rw [fractionPart.eq_def]
    split
    · rename_i rest' same
      exact absurd (congrArg List.head? same) noPoint
    · rfl
  | cons d ds =>
    have span := spanDigits_append digits ends
    simp only [List.isEmpty_cons, Bool.false_eq_true, if_false, List.cons_append] at span ⊢
    simp only [fractionPart, span, List.isEmpty_cons, Bool.false_eq_true, if_false]

theorem exponentPart_append {exponent : Option (Bool × List Char)}
    (legible : ∀ negative ds, exponent = some (negative, ds) →
      ds ≠ [] ∧ ∀ c ∈ ds, c.isDigit = true)
    {rest : List Char} (ends : EndsNumber rest) :
    exponentPart (writeExponent exponent ++ rest) = some (exponent, rest) := by
  cases exponent with
  | none =>
    cases rest with
    | nil => rfl
    | cons c rest =>
      obtain ⟨-, -, small, great⟩ := ends c rfl
      have other : (c == 'e' || c == 'E') = false := by
        rw [beq_eq_false_iff_ne.mpr small, beq_eq_false_iff_ne.mpr great]
        rfl
      simp only [writeExponent, List.nil_append, exponentPart, other, Bool.false_eq_true,
        if_false]
  | some exponent =>
    obtain ⟨negative, ds⟩ := exponent
    obtain ⟨nonempty, digits⟩ := legible negative ds rfl
    have span := spanDigits_append digits fun c first => (ends c first).1
    have goesOn : ds.isEmpty = false := List.isEmpty_eq_false_iff.mpr nonempty
    have signed : exponentSign ((if negative then '-' else '+') :: (ds ++ rest)) =
        (negative, ds ++ rest) := by
      cases negative <;> rfl
    simp only [writeExponent, List.cons_append, exponentPart, beq_self_eq_true, Bool.true_or,
      if_true, signed, span, goesOn, Bool.false_eq_true, if_false]

/-- What follows the whole part of a number, or its fraction, is no digit. -/
theorem endsDigits_append {s rest : List Char} (first : ∀ c ∈ s.head?, c.isDigit = false)
    (ends : EndsDigits rest) : EndsDigits (s ++ rest) := by
  cases s with
  | nil => exact ends
  | cons c s => exact first

theorem unsignedNumber_append {d : Decimal} (legible : Legible d) {rest : List Char}
    (ends : EndsNumber rest) :
    unsignedNumber d.negative (d.whole ++ (if d.fraction.isEmpty then [] else '.' :: d.fraction) ++
      writeExponent d.exponent ++ rest) = some (d, rest) := by
  have endsExponent : EndsDigits (writeExponent d.exponent ++ rest) := by
    refine endsDigits_append ?_ fun c first => (ends c first).1
    intro c first
    cases exponent : d.exponent with
    | none =>
      rw [exponent] at first
      cases first
    | some exponent' =>
      rw [exponent] at first
      cases first
      rfl
  have endsFraction : EndsDigits ((if d.fraction.isEmpty then [] else '.' :: d.fraction) ++
      (writeExponent d.exponent ++ rest)) := by
    refine endsDigits_append ?_ endsExponent
    intro c first
    split at first
    · cases first
    · cases first
      rfl
  have noPoint : (writeExponent d.exponent ++ rest).head? ≠ some '.' := by
    cases d.exponent with
    | none => exact fun point => (ends '.' point).2.1 rfl
    | some exponent =>
      intro point
      cases point
  have fraction := fractionPart_append
    (fun c member => legible.digits c (List.mem_append_right _ member)) endsExponent noPoint
  rw [List.append_assoc, List.append_assoc, unsignedNumber, wholePart_append legible endsFraction]
  simp only [Option.bind_eq_bind, Option.bind_some, fraction,
    exponentPart_append legible.exponent ends]
  rfl

/-- **A number that is written is the number read.** -/
theorem number?_writeNumber {d : Decimal} (legible : Legible d) {rest : List Char}
    (ends : EndsNumber rest) : number? (writeNumber d ++ rest) = some (d, rest) := by
  have unsigned := unsignedNumber_append legible ends
  cases sign : d.negative with
  | true =>
    rw [sign] at unsigned
    simp only [writeNumber, sign, if_true, List.cons_append, List.nil_append, number?]
    exact unsigned
  | false =>
    rw [sign] at unsigned
    simp only [writeNumber, sign, Bool.false_eq_true, if_false, List.nil_append]
    rw [number?]
    · exact unsigned
    · intro rest' same
      obtain ⟨c, others, whole, digit⟩ := legible.whole_cons
      rw [whole] at same
      cases (List.cons.inj same).1
      cases digit

/-- A number is spelt as it is. -/
theorem ascii_writeNumber {d : Decimal} (legible : Legible d) :
    ∀ c ∈ writeNumber d, c.toNat < 0x80 := by
  have digits : ∀ c ∈ d.whole ++ d.fraction, c.toNat < 0x80 := fun c member =>
    ascii_of_isDigit (legible.digits c member)
  intro c member
  rcases List.mem_append.mp member with member | exponent
  · rcases List.mem_append.mp member with member | fraction
    · rcases List.mem_append.mp member with sign | whole
      · split at sign
        · cases List.mem_singleton.mp sign
          decide
        · cases sign
      · exact digits c (List.mem_append_left _ whole)
    · split at fraction
      · cases fraction
      · rcases List.mem_cons.mp fraction with rfl | fraction
        · decide
        · exact digits c (List.mem_append_right _ fraction)
  · cases written : d.exponent with
    | none =>
      rw [written] at exponent
      cases exponent
    | some signed =>
      obtain ⟨negative, ds⟩ := signed
      rw [written] at exponent
      rcases List.mem_cons.mp exponent with rfl | exponent
      · decide
      · rcases List.mem_cons.mp exponent with sign | exponent
        · cases negative <;> cases sign <;> decide
        · exact ascii_of_isDigit ((legible.exponent negative ds written).2 c exponent)

/-- The first character of a number. -/
theorem writeNumber_cons {d : Decimal} (legible : Legible d) :
    ∃ c rest, writeNumber d = c :: rest ∧ (c = '-' ∨ c.isDigit = true) := by
  obtain ⟨c, others, whole, digit⟩ := legible.whole_cons
  unfold writeNumber
  cases d.negative with
  | true => exact ⟨'-', _, rfl, .inl rfl⟩
  | false =>
    rw [whole]
    exact ⟨c, _, rfl, .inr digit⟩

/-- Only zero has a zero as its first digit. -/
theorem head?_digits {n : Nat} (positive : 0 < n) : (Number.digits n).head? ≠ some '0' := by
  induction n using Nat.strongRecOn with
  | ind n ih =>
    unfold Number.digits
    by_cases small : n < 10
    · rw [Nat.toDigits_of_lt_base small]
      intro zero
      exact absurd (Nat.digitChar_eq_zero.mp (Option.some.inj zero)) (Nat.ne_of_gt positive)
    · have before := ih (n / 10) (by omega) (by omega)
      rw [Nat.toDigits_of_base_le (by decide) (Nat.not_lt.mp small)]
      unfold Number.digits at before
      cases digits : Nat.toDigits 10 (n / 10) with
      | nil => exact absurd digits Nat.toDigits_ne_nil
      | cons c rest =>
        rw [digits] at before
        exact before

/-- A natural number is legible. -/
theorem legible_digits (n : Nat) : Legible ⟨false, Number.digits n, [], none⟩ where
  whole := by
    rcases Nat.eq_zero_or_pos n with rfl | positive
    · exact .inl rfl
    · exact .inr ⟨Nat.toDigits_ne_nil, head?_digits positive⟩
  digits c member := by
    rw [List.append_nil] at member
    exact Number.isDigit_of_mem_digits member
  exponent _ _ same := nomatch same

end TenantReports.Json
