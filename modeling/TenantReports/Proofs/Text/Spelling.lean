import TenantReports.Proofs.Text.Utf8

/-!
# Texts in other characters

A reader whose signs are all of ASCII does not care what the other characters are. **A spelling
keeps ASCII as it is and writes every other character with some that are not of ASCII either**: the
character itself, or the characters that stand for its octets.

* `isSpelling_pure`, `isSpelling_octets`: these two.
* `ofOctet_injective`: octets are told apart by the characters that stand for them.
* `map_octet_flatMap`: octets that are spelt are the octets of the text.
-/

namespace TenantReports.Text

/-- A way to write each character that keeps ASCII apart from the rest. -/
structure IsSpelling (spell : Char → List Char) : Prop where
  ascii : ∀ {c}, c.toNat < 0x80 → spell c = [c]
  nonempty : ∀ c, spell c ≠ []
  beyond : ∀ {c}, 0x80 ≤ c.toNat → ∀ o ∈ spell c, 0x80 ≤ o.toNat

theorem IsSpelling.flatMap_ascii {spell : Char → List Char} (spelling : IsSpelling spell)
    {s : List Char} (ascii : ∀ c ∈ s, c.toNat < 0x80) : s.flatMap spell = s := by
  induction s with
  | nil => rfl
  | cons c s ih =>
    obtain ⟨first, others⟩ := List.forall_mem_cons.mp ascii
    rw [List.flatMap_cons, spelling.ascii first, ih others]
    rfl

/-- A literal text of ASCII stays as it is. -/
theorem IsSpelling.flatMap_literal {spell : Char → List Char} (spelling : IsSpelling spell)
    {s : List Char} (ascii : (s.all fun c => c.toNat < 0x80) = true) : s.flatMap spell = s :=
  spelling.flatMap_ascii fun c member => of_decide_eq_true (List.all_eq_true.mp ascii c member)

/-- **Every character spells itself.** -/
theorem isSpelling_pure : IsSpelling fun c => [c] where
  ascii _ := rfl
  nonempty _ := List.cons_ne_nil _ _
  beyond far _ member := List.mem_singleton.mp member ▸ far

/-! ### Signs -/

theorem ascii_of_isAlphanum {c : Char} (alphanum : c.isAlphanum = true) : c.toNat < 0x80 := by
  have lastUpper : 'Z'.val.toNat = 90 := rfl
  have lastLower : 'z'.val.toNat = 122 := rfl
  have lastDigit : '9'.val.toNat = 57 := rfl
  have value : c.toNat = c.val.toNat := rfl
  unfold Char.isAlphanum Char.isAlpha Char.isUpper Char.isLower Char.isDigit at alphanum
  simp only [Bool.or_eq_true, Bool.and_eq_true, decide_eq_true_eq, UInt32.le_iff_toNat_le,
    ge_iff_le] at alphanum
  omega

theorem ascii_of_isDigit {c : Char} (digit : c.isDigit = true) : c.toNat < 0x80 :=
  ascii_of_isAlphanum (Bool.or_eq_true_iff.mpr (.inr digit))

/-! ### Octets -/

/-- The character that stands for an octet. -/
def ofOctet (b : UInt8) : Char :=
  Char.ofNat b.toNat

/-- The octet that a character stands for. -/
def octet (c : Char) : UInt8 :=
  UInt8.ofNat c.toNat

/-- The octets of a character, as the characters that stand for them. -/
def spellOctets (c : Char) : List Char :=
  (Utf8.encodeNat c.toNat).map ofOctet

theorem octet_ofOctet (b : UInt8) : octet (ofOctet b) = b :=
  Utf8.ofNat_octet b

/-- **Characters that stand for octets tell them apart.** -/
theorem ofOctet_injective {b c : UInt8} (same : ofOctet b = ofOctet c) : b = c := by
  rw [← octet_ofOctet b, same, octet_ofOctet]

theorem map_octet_ofOctet (bytes : List UInt8) : (bytes.map ofOctet).map octet = bytes := by
  have same : octet ∘ ofOctet = id := funext octet_ofOctet
  rw [List.map_map, same, List.map_id]

/-- **So do octets**, where the character is of ASCII. -/
theorem isSpelling_octets : IsSpelling spellOctets where
  ascii {c} small := by
    have same : ofOctet (UInt8.ofNat c.toNat) = c := by
      rw [ofOctet, Utf8.toNat_ofNat_of_lt (by omega), Char.ofNat_toNat]
    rw [spellOctets, Utf8.encodeNat_of_ascii small, List.map_singleton, same]
  nonempty c empty := Utf8.encodeNat_ne_nil _ (List.map_eq_nil_iff.mp empty)
  beyond {c} far o member := by
    obtain ⟨b, octets, rfl⟩ := List.mem_map.mp member
    rw [ofOctet, Utf8.toNat_octet]
    exact Utf8.le_of_mem_encodeNat far (Utf8.toNat_lt c) octets

/-- The characters of a text's octets are those that spell it. -/
theorem map_ofOctet_encode (s : List Char) :
    (Utf8.encode s).map ofOctet = s.flatMap spellOctets :=
  List.map_flatMap

/-- **Octets that are spelt are the octets of the text.** -/
theorem map_octet_flatMap (s : List Char) :
    (s.flatMap spellOctets).map octet = Utf8.encode s := by
  rw [← map_ofOctet_encode, map_octet_ofOctet]

end TenantReports.Text
