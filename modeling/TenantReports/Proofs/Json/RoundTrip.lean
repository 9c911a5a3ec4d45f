import TenantReports.Proofs.Json.Literals

/-!
# A JSON value that is written is the value read

**The text of a value is read back to the value**, whatever follows it: as a text, and octet by
octet.

* `Value.tree`: what the text of a value gives.
* `Value.Legible`: values of which all numbers are as JSON has them.
* `value?_write`: the reader of values undoes the writer.
* `ofText?_text`, `ofOctets?_text`: whole texts.
-/

namespace TenantReports.Json

variable {charset : Charset} {spell : Char → List Char} {fuel : Nat} {rest more : List Char}

/-! ### What a text gives -/

mutual

/-- What the text of a value gives. -/
def Value.tree : Value → Tree
  | .null => .null
  | .bool value => .bool value
  | .number d => .number d
  | .string s => .string (some s)
  | .array items => .array (treesOf items)
  | .object members => .object (treesOfMembers members)

/-- What the texts of items give. -/
def treesOf : List Value → List Tree
  | [] => []
  | item :: items => item.tree :: treesOf items

/-- What the texts of members give. -/
def treesOfMembers : List (String × Value) → List (Option String × Tree)
  | [] => []
  | (key, value) :: members => (some key, value.tree) :: treesOfMembers members

end

theorem treesOf_eq_map (items : List Value) : treesOf items = items.map Value.tree := by
  induction items with
  | nil => rfl
  | cons item items ih => rw [treesOf, ih, List.map_cons]

theorem treesOfMembers_eq_map (members : List (String × Value)) :
    treesOfMembers members = members.map fun member => (some member.1, member.2.tree) := by
  induction members with
  | nil => rfl
  | cons member members ih => rw [treesOfMembers, ih, List.map_cons]

mutual

/-- All numbers of a value are as JSON has them. -/
def Value.Legible : Value → Prop
  | .number d => Json.Legible d
  | .array items => LegibleItems items
  | .object members => LegibleMembers members
  | _ => True

/-- All numbers of items are. -/
def LegibleItems : List Value → Prop
  | [] => True
  | item :: items => item.Legible ∧ LegibleItems items

/-- All numbers of members are. -/
def LegibleMembers : List (String × Value) → Prop
  | [] => True
  | (_, value) :: members => value.Legible ∧ LegibleMembers members

end

/-! ### Where a value begins -/

theorem skipSpace_cons {c : Char} (noSpace : isSpace c = false) (s : List Char) :
    skipSpace (c :: s) = c :: s := by
  simp only [skipSpace, List.dropWhile_cons, noSpace, Bool.false_eq_true, if_false]

/-- A character that a value can begin with. -/
def Opens (c : Char) : Prop :=
  isSpace c = false ∧ c ≠ ']' ∧ c.toNat < 0x80

instance (c : Char) : Decidable (Opens c) :=
  inferInstanceAs (Decidable (_ ∧ _))

theorem opens_of_number {c : Char} (first : c = '-' ∨ c.isDigit = true) : Opens c := by
  rcases first with rfl | digit
  · exact ⟨by decide, by decide, by decide⟩
  · have other : ∀ sign : Char, sign.isDigit = false → c ≠ sign := by
      rintro sign none rfl
      rw [digit] at none
      cases none
    have noSpace : isSpace c = false := by
      simp only [isSpace, Bool.or_eq_false_iff, beq_eq_false_iff_ne]
      exact ⟨⟨⟨other ' ' (by decide), other '\t' (by decide)⟩, other '\n' (by decide)⟩,
        other '\r' (by decide)⟩
    exact ⟨noSpace, other ']' (by decide), Text.ascii_of_isDigit digit⟩

/-- The first character of a value. -/
theorem write_cons {v : Value} (legible : v.Legible) :
    ∃ c text, v.write = c :: text ∧ Opens c := by
  cases v with
  | null => exact ⟨'n', _, rfl, by decide⟩
  | bool value => cases value with
    | true => exact ⟨'t', _, rfl, by decide⟩
    | false => exact ⟨'f', _, rfl, by decide⟩
  | number d =>
    obtain ⟨c, text, written, first⟩ := writeNumber_cons legible
    exact ⟨c, text, written, opens_of_number first⟩
  | string s => exact ⟨'"', _, rfl, by decide⟩
  | array items => cases items with
    | nil => exact ⟨'[', _, rfl, by decide⟩
    | cons item items => exact ⟨'[', _, rfl, by decide⟩
  | object members => cases members with
    | nil => exact ⟨'\x7b', _, rfl, by decide⟩
    | cons member members => exact ⟨'\x7b', _, rfl, by decide⟩

/-! ### One step of the reader -/

theorem value?_string {body text : List Char} {s : String}
    (ends : stringBody text = some (body, rest)) (tells : content charset body = some s) :
    value? charset (fuel + 1) ('"' :: text) = some (.string (some s), rest) := by
  rw [value?, skipSpace_cons (by decide)]
  simp only [ends, Option.map_some, tells]

theorem value?_number {c : Char} {text : List Char} {d : Number.Decimal}
    (first : c = '-' ∨ c.isDigit = true) (read : number? (c :: text) = some (d, rest)) :
    value? charset (fuel + 1) (c :: text) = some (.number d, rest) := by
  have other : ∀ sign : Char, sign ≠ '-' → sign.isDigit = false → c ≠ sign := by
    rintro sign noMinus none rfl
    rcases first with minus | digit
    · exact noMinus minus
    · rw [digit] at none
      cases none
  rw [value?, skipSpace_cons (opens_of_number first).1]
  split
  · rename_i same
    exact absurd (List.cons.inj same).1 (other 'n' (by decide) (by decide))
  · rename_i same
    exact absurd (List.cons.inj same).1 (other 't' (by decide) (by decide))
  · rename_i same
    exact absurd (List.cons.inj same).1 (other 'f' (by decide) (by decide))
  · rename_i same
    exact absurd (List.cons.inj same).1 (other '"' (by decide) (by decide))
  · rename_i same
    exact absurd (List.cons.inj same).1 (other '[' (by decide) (by decide))
  · rename_i same
    exact absurd (List.cons.inj same).1 (other '\x7b' (by decide) (by decide))
  · rw [read]
    rfl

/-- An array with items is read item by item. -/
theorem value?_array {c : Char} {text : List Char} {items : List Tree} (opens : Opens c)
    (read : items? charset fuel (c :: text) = some (items, rest)) :
    value? charset (fuel + 1) ('[' :: c :: text) = some (.array items, rest) := by
  rw [value?, skipSpace_cons (by decide)]
  simp only [skipSpace_cons opens.1]
  split
  · rename_i same
    exact absurd (List.cons.inj same).1 opens.2.1
  · rw [read]
    rfl

theorem value?_object {text : List Char} {members : List (Option String × Tree)}
    (read : members? charset fuel ('"' :: text) = some (members, rest)) :
    value? charset (fuel + 1) ('\x7b' :: '"' :: text) = some (.object members, rest) := by
  rw [value?, skipSpace_cons (by decide)]
  simp only [skipSpace_cons (show isSpace '"' = false by decide)]
  split
  · rename_i same
    cases (List.cons.inj same).1
  · rw [read]
    rfl

theorem items?_last {text : List Char} {item : Tree}
    (read : value? charset fuel text = some (item, ']' :: rest)) :
    items? charset (fuel + 1) text = some ([item], rest) := by
  rw [items?, read]
  rfl

theorem items?_cons {text : List Char} {item : Tree} {items : List Tree}
    (read : value? charset fuel text = some (item, ',' :: more))
    (readMore : items? charset fuel more = some (items, rest)) :
    items? charset (fuel + 1) text = some (item :: items, rest) := by
  rw [items?, read]
  simp only [Option.bind_eq_bind, Option.bind_some,
    skipSpace_cons (show isSpace ',' = false by decide), readMore]
  rfl

theorem members?_last {body text value : List Char} {key : String} {tree : Tree}
    (ends : stringBody text = some (body, ':' :: value)) (tells : content charset body = some key)
    (read : value? charset fuel value = some (tree, '\x7d' :: rest)) :
    members? charset (fuel + 1) ('"' :: text) = some ([(some key, tree)], rest) := by
  rw [members?, skipSpace_cons (by decide)]
  simp only [Option.bind_eq_bind, ends, Option.bind_some,
    skipSpace_cons (show isSpace ':' = false by decide), read, tells]
  rfl

theorem members?_cons {body text value : List Char} {key : String} {tree : Tree}
    {members : List (Option String × Tree)}
    (ends : stringBody text = some (body, ':' :: value)) (tells : content charset body = some key)
    (read : value? charset fuel value = some (tree, ',' :: more))
    (readMore : members? charset fuel more = some (members, rest)) :
    members? charset (fuel + 1) ('"' :: text) = some ((some key, tree) :: members, rest) := by
  rw [members?, skipSpace_cons (by decide)]
  simp only [Option.bind_eq_bind, ends, Option.bind_some,
    skipSpace_cons (show isSpace ':' = false by decide), read, tells,
    skipSpace_cons (show isSpace ',' = false by decide), readMore]
  rfl

/-! ### All steps -/

theorem endsNumber_cons {c : Char} (sign : c = ',' ∨ c = ']' ∨ c = '\x7d') (s : List Char) :
    EndsNumber (c :: s) := by
  rintro first ⟨⟩
  rcases sign with rfl | rfl | rfl <;> decide

/-- A text of ASCII before others is spelt as it is. -/
theorem flatMap_cons_ascii (spelling : Text.IsSpelling spell) {c : Char} (ascii : c.toNat < 0x80)
    (s : List Char) : (c :: s).flatMap spell = c :: s.flatMap spell := by
  rw [List.flatMap_cons, spelling.ascii ascii]
  rfl

/-- A written string, and how its reader takes it. -/
theorem stringBody_spelt (reads : Reads charset spell) (s : String) (rest : List Char) :
    (writeString s).flatMap spell ++ rest =
        '"' :: ((s.toList.flatMap escapeChar).flatMap spell ++ '"' :: rest) ∧
      stringBody ((s.toList.flatMap escapeChar).flatMap spell ++ '"' :: rest) =
        some ((s.toList.flatMap escapeChar).flatMap spell, rest) := by
  refine ⟨?_, stringBody_writeString reads.spelling s.toList rest⟩
  rw [writeString, List.cons_append, flatMap_cons_ascii reads.spelling (by decide),
    List.flatMap_append, reads.spelling.flatMap_literal (s := ['"']) (by decide), List.cons_append,
    List.append_assoc]
  rfl

/-- **The readers undo the writers** as far as the fuel goes, whatever follows. -/
structure Undoes (charset : Charset) (spell : Char → List Char) (fuel : Nat) : Prop where
  value : ∀ (v : Value) rest, v.Legible → 2 * v.write.length ≤ fuel → EndsNumber rest →
    value? charset fuel (v.write.flatMap spell ++ rest) = some (v.tree, rest)
  items : ∀ (item : Value) items rest, item.Legible → LegibleItems items →
    2 * (item.write.length + (writeItems items).length) ≤ fuel →
    items? charset fuel (item.write.flatMap spell ++ ((writeItems items).flatMap spell ++ rest)) =
      some (item.tree :: treesOf items, rest)
  members : ∀ key (value : Value) members rest, value.Legible → LegibleMembers members →
    2 * (value.write.length + (writeMembers members).length) < fuel →
    members? charset fuel ((writeString key).flatMap spell ++ (':' :: (value.write.flatMap spell ++
        ((writeMembers members).flatMap spell ++ rest)))) =
      some ((some key, value.tree) :: treesOfMembers members, rest)

theorem length_write_pos {v : Value} (legible : v.Legible) : 0 < v.write.length := by
  obtain ⟨c, text, written, -⟩ := write_cons legible
  rw [written]
  exact Nat.succ_pos _

theorem Undoes.zero : Undoes charset spell 0 where
  value _ _ legible enough _ := absurd enough (by have := length_write_pos legible; omega)
  items _ _ _ legible _ enough := absurd enough (by have := length_write_pos legible; omega)
  members _ _ _ _ _ _ enough := absurd enough (Nat.not_lt_zero _)

/-- A member and those after it, spelt. -/
theorem flatMap_members (spelling : Text.IsSpelling spell) (key : String) (value : Value)
    (members : List (String × Value)) (rest : List Char) :
    (writeString key ++ ':' :: value.write ++ writeMembers members).flatMap spell ++ rest =
      (writeString key).flatMap spell ++ (':' :: (value.write.flatMap spell ++
        ((writeMembers members).flatMap spell ++ rest))) := by
  rw [List.flatMap_append, List.flatMap_append, flatMap_cons_ascii spelling (by decide)]
  simp only [List.append_assoc, List.cons_append]

/-- One more step of the reader of values. -/
theorem Undoes.value_succ (undoes : Undoes charset spell fuel) (reads : Reads charset spell)
    (v : Value) (rest : List Char) (legible : v.Legible) (enough : 2 * v.write.length ≤ fuel + 1)
    (ends : EndsNumber rest) :
    value? charset (fuel + 1) (v.write.flatMap spell ++ rest) = some (v.tree, rest) := by
  cases v with
  | null =>
    rw [Value.write, reads.spelling.flatMap_literal (by decide)]
    rfl
  | bool value =>
    cases value <;>
    · rw [Value.write, reads.spelling.flatMap_literal (by decide)]
      rfl
  | number d =>
    have read := number?_writeNumber legible ends
    obtain ⟨c, text, written, first⟩ := writeNumber_cons legible
    rw [Value.write, reads.spelling.flatMap_ascii (ascii_writeNumber legible)]
    rw [written] at read ⊢
    exact value?_number first read
  | string s =>
    obtain ⟨spelt, closes⟩ := stringBody_spelt reads s rest
    rw [Value.write, spelt]
    exact value?_string closes (content_escaped reads s)
  | array items =>
    cases items with
    | nil =>
      rw [Value.write, reads.spelling.flatMap_literal (by decide)]
      rfl
    | cons item items =>
      rw [Value.write, List.cons_append, List.length_cons, List.length_append] at enough
      have read := undoes.items item items rest legible.1 legible.2 (by omega)
      obtain ⟨c, text, written, opens⟩ := write_cons legible.1
      rw [Value.write, List.cons_append, flatMap_cons_ascii reads.spelling (by decide),
        List.flatMap_append, List.cons_append, List.append_assoc]
      rw [written, flatMap_cons_ascii reads.spelling opens.2.2, List.cons_append] at read ⊢
      exact value?_array opens read
  | object members =>
    cases members with
    | nil =>
      rw [Value.write, reads.spelling.flatMap_literal (by decide)]
      rfl
    | cons member members =>
      obtain ⟨key, value⟩ := member
      have long : 2 ≤ (writeString key).length := by
        simp only [writeString, List.length_append, List.length_cons, List.length_nil]
        omega
      have written : (Value.object ((key, value) :: members)).write =
          '\x7b' :: (writeString key ++ ':' :: value.write ++ writeMembers members) := rfl
      rw [written] at enough ⊢
      simp only [List.length_cons, List.length_append] at enough
      have read := undoes.members key value members rest legible.1 legible.2 (by omega)
      rw [flatMap_cons_ascii reads.spelling (by decide), List.cons_append,
        flatMap_members reads.spelling]
      rw [(stringBody_spelt reads key _).1] at read ⊢
      exact value?_object read

/-- One more step of the reader of items. -/
theorem Undoes.items_succ (undoes : Undoes charset spell fuel) (reads : Reads charset spell)
    (item : Value) (items : List Value) (rest : List Char) (legible : item.Legible)
    (others : LegibleItems items)
    (enough : 2 * (item.write.length + (writeItems items).length) ≤ fuel + 1) :
    items? charset (fuel + 1)
        (item.write.flatMap spell ++ ((writeItems items).flatMap spell ++ rest)) =
      some (item.tree :: treesOf items, rest) := by
  cases items with
  | nil =>
    rw [writeItems, List.length_singleton] at enough
    have ends : (writeItems []).flatMap spell ++ rest = ']' :: rest := by
      rw [writeItems, reads.spelling.flatMap_literal (by decide)]
      rfl
    rw [ends]
    exact items?_last (undoes.value item _ legible (by omega)
      (endsNumber_cons (.inr (.inl rfl)) rest))
  | cons next items =>
    rw [writeItems, List.cons_append, List.length_cons, List.length_append] at enough
    have positive := length_write_pos legible
    have goesOn : (writeItems (next :: items)).flatMap spell ++ rest =
        ',' :: (next.write.flatMap spell ++ ((writeItems items).flatMap spell ++ rest)) := by
      rw [writeItems, List.cons_append, flatMap_cons_ascii reads.spelling (by decide),
        List.flatMap_append, List.cons_append, List.append_assoc]
    rw [goesOn]
    exact items?_cons
      (undoes.value item _ legible (by omega) (endsNumber_cons (.inl rfl) _))
      (undoes.items next items rest others.1 others.2 (by omega))

/-- One more step of the reader of members. -/
theorem Undoes.members_succ (undoes : Undoes charset spell fuel) (reads : Reads charset spell)
    (key : String) (value : Value) (members : List (String × Value)) (rest : List Char)
    (legible : value.Legible) (others : LegibleMembers members)
    (enough : 2 * (value.write.length + (writeMembers members).length) < fuel + 1) :
    members? charset (fuel + 1) ((writeString key).flatMap spell ++
        (':' :: (value.write.flatMap spell ++ ((writeMembers members).flatMap spell ++ rest)))) =
      some ((some key, value.tree) :: treesOfMembers members, rest) := by
  obtain ⟨spelt, closes⟩ := stringBody_spelt reads key
    (':' :: (value.write.flatMap spell ++ ((writeMembers members).flatMap spell ++ rest)))
  have tells := content_escaped reads key
  rw [spelt]
  cases members with
  | nil =>
    have ends : (writeMembers []).flatMap spell ++ rest = '\x7d' :: rest := by
      rw [writeMembers, reads.spelling.flatMap_literal (by decide)]
      rfl
    rw [writeMembers, List.length_singleton] at enough
    rw [ends] at closes ⊢
    exact members?_last closes tells (undoes.value value _ legible (by omega)
      (endsNumber_cons (.inr (.inr rfl)) rest))
  | cons member members =>
    obtain ⟨next, value'⟩ := member
    have written : writeMembers ((next, value') :: members) =
        ',' :: (writeString next ++ ':' :: value'.write ++ writeMembers members) := rfl
    have goesOn : (writeMembers ((next, value') :: members)).flatMap spell ++ rest =
        ',' :: ((writeString next).flatMap spell ++ (':' :: (value'.write.flatMap spell ++
          ((writeMembers members).flatMap spell ++ rest)))) := by
      rw [written, flatMap_cons_ascii reads.spelling (by decide), List.cons_append,
        flatMap_members reads.spelling]
    rw [written] at enough
    simp only [List.length_cons, List.length_append] at enough
    rw [goesOn] at closes ⊢
    exact members?_cons closes tells
      (undoes.value value _ legible (by omega) (endsNumber_cons (.inl rfl) _))
      (undoes.members next value' members rest others.1 others.2 (by omega))

/-- **The readers undo the writers**, however much fuel there is. -/
theorem undoes_of_reads (reads : Reads charset spell) : ∀ fuel, Undoes charset spell fuel
  | 0 => .zero
  | fuel + 1 =>
    have before := undoes_of_reads reads fuel
    ⟨before.value_succ reads, before.items_succ reads, before.members_succ reads⟩

/-! ### Whole texts -/

theorem length_le_flatMap (spelling : Text.IsSpelling spell) (s : List Char) :
    s.length ≤ (s.flatMap spell).length := by
  induction s with
  | nil => exact Nat.le_refl _
  | cons c s ih =>
    have one : 0 < (spell c).length := List.length_pos_iff.mpr (spelling.nonempty c)
    rw [List.flatMap_cons, List.length_append, List.length_cons]
    omega

/-- **A value that is written is the value read**, however its characters are spelt. -/
theorem parse_write (reads : Reads charset spell) {v : Value} (legible : v.Legible) :
    parse charset (v.write.flatMap spell) = some v.tree := by
  have enough : 2 * v.write.length ≤ 2 * (v.write.flatMap spell).length + 2 := by
    have shorter := length_le_flatMap reads.spelling v.write
    omega
  have read := (undoes_of_reads reads _).value v [] legible enough nofun
  rw [List.append_nil] at read
  rw [parse, read]
  rfl

/-- **The text of a value gives the value back.** -/
theorem ofText?_text {v : Value} (legible : v.Legible) : ofText? v.text = some v.tree := by
  have plain : v.write.flatMap (fun c => [c]) = v.write := List.flatMap_singleton' _
  rw [ofText?, Value.text, String.toList_ofList, ← plain]
  exact parse_write reads_text legible

/-- **So do its octets.** -/
theorem ofOctets?_text {v : Value} (legible : v.Legible) :
    ofOctets? (Text.Utf8.ofString v.text) = some v.tree := by
  have spelt : (Text.Utf8.ofString v.text).map (fun b => Char.ofNat b.toNat) =
      v.write.flatMap Text.spellOctets := by
    rw [Text.Utf8.ofString, Value.text, String.toList_ofList]
    exact Text.map_ofOctet_encode v.write
  rw [ofOctets?, spelt]
  exact parse_write reads_octets legible

end TenantReports.Json
