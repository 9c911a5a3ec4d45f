import TenantReports.Proofs.Postgres.Spelling

/-!
# Casts octet by octet

**A loop over the octets of a statement that copies them in slices gives the same casts.**

The loop goes from one octet to the next, looks one octet ahead and one behind, and copies what it
has passed only where it adds a cast. A slice of a text exists only between two places where
characters begin, so the loop could fail in the middle of a character; it does not, since each slice
begins and ends next to a sign of ASCII.

* `slice?`: a slice, unless it would cut a character.
* `Cursor.step?`, `castOctetsFrom?`: one step of the loop, and the loop.
* `castOctets?_encode`: the loop gives the statement with its casts.
* `castPlaceholders_eq_lexemes`: which are those after the placeholders among its lexemes.
-/

namespace TenantReports.Postgres

open Text (ofOctet octet)

variable {inferred : List String} {octets : List UInt8}

/-! ### Slices -/

/-- Whether a character begins at an offset, or the text ends there. -/
def isBoundary (octets : List UInt8) (offset : Nat) : Bool :=
  match octets[offset]? with
  | some b => offset == 0 || !Text.Utf8.isTail b
  | none => offset == octets.length

/-- The octets between two offsets, unless they cut a character. -/
def slice? (octets : List UInt8) (start stop : Nat) : Option (List UInt8) :=
  if start ≤ stop ∧ isBoundary octets start ∧ isBoundary octets stop then
    some ((octets.drop start).take (stop - start))
  else none

/-! ### The loop -/

/-- What the loop stands in. -/
inductive Lexical
  | code
  | literal
  | quotedName
  | lineComment
  | blockComment
  deriving DecidableEq, Repr

/-- The loop between two steps: what it stands in, the offset of the next octet, the offset up to
which the text is copied, and what is written so far. -/
structure Cursor where
  lexical : Lexical
  index : Nat
  copied : Nat
  out : List UInt8

/-- What a character of code leads to, with the one after it. -/
def opened (c : Char) (next : Option Char) : Lexical :=
  if c = '\'' then .literal
  else if c = '"' then .quotedName
  else if c = '-' ∧ next = some '-' then .lineComment
  else if c = '/' ∧ next = some '*' then .blockComment
  else .code

/-- The character before an offset. -/
def behind? (octets : List UInt8) (offset : Nat) : Option Char :=
  if offset = 0 then none else octets[offset - 1]?.map ofOctet

/-- The digits that begin at an offset. -/
def digitsAt (octets : List UInt8) (offset : Nat) : List UInt8 :=
  (octets.drop offset).takeWhile fun b => (ofOctet b).isDigit

namespace Cursor

/-- Goes on by some octets. -/
def skip (cursor : Cursor) (lexical : Lexical) (count : Nat) : Cursor :=
  { cursor with lexical, index := cursor.index + count }

/-- The step over a dollar sign in code: with digits after it and no name before it, the digits are
read and all that was passed is copied. -/
def dollar? (inferred : List String) (octets : List UInt8) (cursor : Cursor) : Option Cursor :=
  let ds := digitsAt octets (cursor.index + 1)
  let stop := cursor.index + 1 + ds.length
  if (behind? octets cursor.index).any continuesName ∨ ds = [] then some (cursor.skip .code 1)
  else do
    let written ← slice? octets (cursor.index + 1) stop
    let number := (Number.unsigned? Number.bound64 (written.map ofOctet)).getD 0
    let passed ← slice? octets cursor.copied stop
    return ⟨.code, stop, stop,
      cursor.out ++ passed ++ Text.Utf8.ofString (castOf inferred number)⟩

/-- **One step of the loop** at an octet, or nothing if a slice would cut a character. -/
def step? (inferred : List String) (octets : List UInt8) (cursor : Cursor) (b : UInt8) :
    Option Cursor :=
  let c := ofOctet b
  let next := octets[cursor.index + 1]?.map ofOctet
  match cursor.lexical with
  | .literal => some (cursor.skip (if c = '\'' then .code else .literal) 1)
  | .quotedName => some (cursor.skip (if c = '"' then .code else .quotedName) 1)
  | .lineComment => some (cursor.skip (if c = '\n' then .code else .lineComment) 1)
  | .blockComment =>
    some (if c = '*' ∧ next = some '/' then cursor.skip .code 2 else cursor.skip .blockComment 1)
  | .code =>
    match opened c next with
    | .code => if c = '$' then cursor.dollar? inferred octets else some (cursor.skip .code 1)
    | .literal => some (cursor.skip .literal 1)
    | .quotedName => some (cursor.skip .quotedName 1)
    | .lineComment => some (cursor.skip .lineComment 2)
    | .blockComment => some (cursor.skip .blockComment 2)

@[simp] theorem skip_index (cursor : Cursor) (lexical : Lexical) (count : Nat) :
    (cursor.skip lexical count).index = cursor.index + count := rfl

theorem lt_of_dollar? {cursor next : Cursor}
    (step : cursor.dollar? inferred octets = some next) : cursor.index < next.index := by
  simp only [dollar?] at step
  split at step
  case isTrue =>
    cases step
    exact Nat.lt_succ_self _
  case isFalse =>
    obtain ⟨written, -, step⟩ := Option.bind_eq_some_iff.mp step
    obtain ⟨passed, -, step⟩ := Option.bind_eq_some_iff.mp step
    cases step
    exact Nat.lt_of_lt_of_le (Nat.lt_succ_self _) (Nat.le_add_right _ _)

/-- **Every step goes on.** -/
theorem lt_of_step? {cursor next : Cursor} {b : UInt8}
    (step : cursor.step? inferred octets b = some next) : cursor.index < next.index := by
  have skips : ∀ {lexical count}, 0 < count → some (cursor.skip lexical count) = some next →
      cursor.index < next.index := by
    rintro lexical count positive ⟨⟩
    exact Nat.lt_add_of_pos_right positive
  simp only [step?] at step
  split at step
  · exact skips Nat.one_pos step
  · exact skips Nat.one_pos step
  · exact skips Nat.one_pos step
  · split at step
    · exact skips Nat.two_pos step
    · exact skips Nat.one_pos step
  · split at step
    · split at step
      · exact lt_of_dollar? step
      · exact skips Nat.one_pos step
    · exact skips Nat.one_pos step
    · exact skips Nat.one_pos step
    · exact skips Nat.two_pos step
    · exact skips Nat.two_pos step

end Cursor

/-- **The loop from a cursor on**; at the end of the text it copies the rest. -/
def castOctetsFrom? (inferred : List String) (octets : List UInt8) (cursor : Cursor) :
    Option (List UInt8) :=
  match _ : octets[cursor.index]? with
  | none => (slice? octets cursor.copied octets.length).map (cursor.out ++ ·)
  | some b =>
    match _ : cursor.step? inferred octets b with
    | none => none
    | some next => castOctetsFrom? inferred octets next
termination_by octets.length - cursor.index
decreasing_by
  have goesOn := Cursor.lt_of_step? ‹_ = some next›
  have inside := (List.getElem?_eq_some_iff.mp ‹octets[cursor.index]? = some _›).1
  omega

/-- **A statement with casts, octet by octet**, or nothing if a slice cuts a character. -/
def castOctets? (inferred : List String) (octets : List UInt8) : Option (List UInt8) :=
  castOctetsFrom? inferred octets ⟨.code, 0, 0, []⟩

theorem castOctetsFrom?_end {cursor : Cursor} (last : octets[cursor.index]? = none) :
    castOctetsFrom? inferred octets cursor =
      (slice? octets cursor.copied octets.length).map (cursor.out ++ ·) := by
  rw [castOctetsFrom?]
  split
  · rfl
  · rename_i b found
    rw [last] at found
    cases found

theorem castOctetsFrom?_step {cursor next : Cursor} {b : UInt8}
    (found : octets[cursor.index]? = some b)
    (step : cursor.step? inferred octets b = some next) :
    castOctetsFrom? inferred octets cursor = castOctetsFrom? inferred octets next := by
  rw [castOctetsFrom?]
  split
  · rename_i last
    rw [found] at last
    cases last
  · rename_i b' found'
    obtain rfl := Option.some.inj (found.symm.trans found')
    split
    · rename_i stuck
      rw [step] at stuck
      cases stuck
    · rename_i next' step'
      obtain rfl := Option.some.inj (step.symm.trans step')
      rfl

/-! ### What the loop has passed -/

/-- After each octet of ASCII a character begins or the text ends. -/
def Cuttable (octets : List UInt8) : Prop :=
  ∀ before b after, octets = before ++ b :: after → b.toNat < 0x80 →
    isBoundary octets (before.length + 1) = true

theorem isBoundary_zero (octets : List UInt8) : isBoundary octets 0 = true := by
  cases octets <;> rfl

theorem isBoundary_length (octets : List UInt8) : isBoundary octets octets.length = true := by
  rw [isBoundary, List.getElem?_eq_none (Nat.le_refl _)]
  exact beq_self_eq_true _

/-- **The octets of a text can be cut after each one of ASCII.** -/
theorem cuttable_encode (s : List Char) : Cuttable (Text.Utf8.encode s) := by
  intro before b after whole ascii
  have first := Text.Utf8.boundary_after_ascii whole ascii
  have rest : (Text.Utf8.encode s)[before.length + 1]? = after.head? := by
    have second : before.length + 1 - before.length = 1 := Nat.add_sub_cancel_left _ _
    rw [whole, List.getElem?_append_right (Nat.le_succ _), second]
    cases after <;> rfl
  rw [isBoundary, rest]
  cases ends : after.head? with
  | none =>
    rw [List.head?_eq_none_iff.mp ends] at whole
    rw [whole, List.length_append]
    exact beq_self_eq_true _
  | some next =>
    have begins : Text.Utf8.isTail next = false := first next ends
    simp only [begins, Bool.not_false, Bool.or_true]

theorem Cuttable.after (cuttable : Cuttable octets) {done rest : List UInt8} {b : UInt8}
    (whole : octets = done ++ rest) (last : done.getLast? = some b) (ascii : b.toNat < 0x80) :
    isBoundary octets done.length = true := by
  obtain ⟨before, rfl⟩ := List.getLast?_eq_some_iff.mp last
  rw [List.length_append]
  exact cuttable before b rest (by rw [whole, List.append_assoc, List.singleton_append]) ascii

/-- What was passed since the last copy is a slice. -/
theorem slice?_append {done rest : List UInt8} {start : Nat} (whole : octets = done ++ rest)
    (inside : start ≤ done.length) (starts : isBoundary octets start = true)
    (stops : isBoundary octets done.length = true) :
    slice? octets start done.length = some (done.drop start) := by
  rw [slice?, if_pos ⟨inside, starts, stops⟩, whole, List.drop_append_of_le_length inside,
    List.take_left' (List.length_drop)]

/-! ### The loop and the reader -/

/-- The loop and the reader stand in the same, where `s` follows what stands before. -/
inductive Stands (before : Option Char) (s : List Char) : Lexical → Place → Prop
  | code {previous : Option Char} (between : s ≠ [] → Between previous before s) :
    Stands before s .code (.code previous)
  | literal : Stands before s .literal .literal
  | quotedName : Stands before s .quotedName .quotedName
  | lineComment : Stands before s .lineComment .lineComment
  | blockComment : Stands before s .blockComment (.blockComment false)

/-- **What holds between two steps**: `done` is passed, and a character begins where the next copy
does. -/
structure Passed (octets done rest : List UInt8) (cursor : Cursor) (place : Place) : Prop where
  whole : octets = done ++ rest
  index : cursor.index = done.length
  copied : cursor.copied ≤ done.length
  cut : isBoundary octets cursor.copied = true
  stands : Stands (done.map ofOctet).getLast? (rest.map ofOctet) cursor.lexical place

/-- What will be written: what is, what is passed, and what the reader makes of the rest. -/
def outcome (inferred : List String) (done rest : List UInt8) (cursor : Cursor) (place : Place) :
    List UInt8 :=
  cursor.out ++ done.drop cursor.copied ++ (castFrom inferred place (rest.map ofOctet)).map octet

/-- A step of the loop that keeps to what the reader does. -/
def Steps (inferred : List String) (octets done rest : List UInt8) (cursor : Cursor)
    (place : Place) (next : Cursor) : Prop :=
  ∃ taken rest' place', rest = taken ++ rest' ∧ Passed octets (done ++ taken) rest' next place' ∧
    outcome inferred (done ++ taken) rest' next place' = outcome inferred done rest cursor place

/-- **Octets that are skipped are copied later.** -/
theorem steps_skip {done rest : List UInt8} {cursor : Cursor} {place : Place} {lexical : Lexical}
    (taken : List UInt8) (place' : Place) (passed : Passed octets done (taken ++ rest) cursor place)
    (read : castFrom inferred place ((taken ++ rest).map ofOctet) =
      taken.map ofOctet ++ castFrom inferred place' (rest.map ofOctet))
    (stands : Stands ((done ++ taken).map ofOctet).getLast? (rest.map ofOctet) lexical place') :
    Steps inferred octets done (taken ++ rest) cursor place (cursor.skip lexical taken.length) := by
  refine ⟨taken, rest, place', rfl, ⟨?_, ?_, ?_, passed.cut, stands⟩, ?_⟩
  · rw [passed.whole, List.append_assoc]
  · rw [Cursor.skip_index, passed.index, List.length_append]
  · rw [List.length_append]
    exact Nat.le_trans passed.copied (Nat.le_add_right _ _)
  · unfold outcome
    rw [read, List.map_append, Text.map_octet_ofOctet, List.append_assoc, List.append_assoc,
      show (cursor.skip lexical taken.length).copied = cursor.copied from rfl,
      List.drop_append_of_le_length passed.copied, List.append_assoc]
    rfl

theorem getLast?_append_singleton (done : List UInt8) (b : UInt8) :
    ((done ++ [b]).map ofOctet).getLast? = some (ofOctet b) := by
  rw [List.map_append, List.map_singleton, List.getLast?_concat]

/-- The step inside of something that a single character closes. -/
theorem steps_enclosed {done rest : List UInt8} {b : UInt8} {cursor : Cursor} {place : Place}
    {lexical : Lexical} {quote : Char} (passed : Passed octets done (b :: rest) cursor place)
    (step : ∀ c, castStep inferred place c = ([], if c == quote then .code (some c) else place))
    (plain : quote ≠ '-' ∧ quote ≠ '/') (inside : ∀ before s, Stands before s lexical place) :
    Steps inferred octets done (b :: rest) cursor place
      (cursor.skip (if ofOctet b = quote then .code else lexical) 1) := by
  refine steps_skip [b] (if ofOctet b == quote then .code (some (ofOctet b)) else place) passed
    ?_ ?_
  · rw [List.singleton_append, List.map_cons, castFrom_cons, step]
    rfl
  · by_cases closes : ofOctet b = quote
    · rw [if_pos closes, closes, if_pos (beq_self_eq_true quote), getLast?_append_singleton, closes]
      exact .code fun _ => .of_plain rfl (fun same => plain.1 (Option.some.inj same))
        fun same => plain.2 (Option.some.inj same)
    · rw [if_neg closes, if_neg (by simpa using closes)]
      exact inside _ _

/-- The step inside of a comment that two characters close. -/
theorem steps_blockComment {done rest : List UInt8} {b : UInt8} {cursor : Cursor}
    (passed : Passed octets done (b :: rest) cursor (.blockComment false)) :
    Steps inferred octets done (b :: rest) cursor (.blockComment false)
      (if ofOctet b = '*' ∧ rest.head?.map ofOctet = some '/' then cursor.skip .code 2
        else cursor.skip .blockComment 1) := by
  split
  case isTrue closes =>
    obtain ⟨star, slash⟩ := closes
    cases rest with
    | nil => cases slash
    | cons next rest =>
      have second : ofOctet next = '/' := Option.some.inj slash
      refine steps_skip [b, next] (.code none) passed ?_
        (.code fun _ => .of_plain ?_ (by decide) (by decide))
      · simp only [List.cons_append, List.nil_append, List.map_cons, List.map_nil, star, second]
        rfl
      · rw [List.map_append, List.map_cons, List.map_singleton, second,
          List.append_cons, List.getLast?_concat]
        rfl
  case isFalse inside =>
    refine steps_skip [b] (.blockComment false) passed ?_ .blockComment
    refine castFrom_blockComment_cons fun closed => inside ?_
    obtain ⟨star, slash⟩ := List.cons_prefix_cons.mp closed
    refine ⟨star.symm, ?_⟩
    rw [← List.head?_map]
    obtain ⟨others, whole⟩ := slash
    exact congrArg List.head? whole.symm

/-- The character behind the next one. -/
theorem behind?_append (done rest : List UInt8) :
    behind? (done ++ rest) done.length = (done.map ofOctet).getLast? := by
  unfold behind?
  rcases List.eq_nil_or_concat done with rfl | ⟨before, b, rfl⟩
  · rfl
  · rw [List.concat_eq_append, getLast?_append_singleton, if_neg (by simp), List.append_assoc,
      List.length_append, List.length_singleton, Nat.add_sub_cancel,
      List.getElem?_append_right (Nat.le_refl _), Nat.sub_self]
    rfl

/-- The octet ahead of the next one. -/
theorem getElem?_ahead (done rest : List UInt8) (b : UInt8) :
    (done ++ b :: rest)[done.length + 1]? = rest.head? := by
  have second : done.length + 1 - done.length = 1 := Nat.add_sub_cancel_left _ _
  rw [List.getElem?_append_right (Nat.le_succ _), second]
  cases rest <;> rfl

/-- The cast of a number of a placeholder is that of its digits, even if it has too many for the
number to be read: there are not as many types. -/
theorem castOf_unsigned? (few : inferred.length < Number.bound64) {ds : List Char}
    (digits : ∀ c ∈ ds, c.isDigit = true) :
    castOf inferred ((Number.unsigned? Number.bound64 ds).getD 0) =
      castOf inferred (numberOf ds) := by
  have noSign : Number.unsigned? Number.bound64 ds =
      (Number.natural? ds).filter (· < Number.bound64) := by
    unfold Number.unsigned?
    split
    · have sign := digits '+' List.mem_cons_self
      cases sign
    · rfl
  rw [noSign, numberOf]
  cases Number.natural? ds with
  | none => rfl
  | some number =>
    by_cases small : number < Number.bound64
    · rw [Option.filter_some_pos (by simpa using small)]
    · have beyond : castOf inferred number = "" := castOf_of_lt (by omega)
      rw [Option.filter_some_neg (by simpa using small), Option.getD_some, beyond]
      rfl

/-- The step over a character of code that stands by itself. -/
theorem steps_other {done rest : List UInt8} {b : UInt8} {cursor : Cursor}
    {previous : Option Char} (passed : Passed octets done (b :: rest) cursor (.code previous))
    (between : Between previous (done.map ofOctet).getLast? ((b :: rest).map ofOctet))
    (unquoted : ofOctet b ≠ '\'' ∧ ofOctet b ≠ '"')
    (noComment : ¬Straddles (some (ofOctet b)) (rest.map ofOctet))
    (plain : ¬(ofOctet b = '$' ∧ previous.any continuesName = false ∧
      (rest.map ofOctet).head?.any Char.isDigit)) :
    Steps inferred octets done (b :: rest) cursor (.code previous) (cursor.skip .code 1) := by
  obtain ⟨next, read, goesOn⟩ := reads_other between.apart unquoted noComment plain
  refine steps_skip [b] (.code next) passed read ?_
  rw [getLast?_append_singleton]
  exact .code goesOn

/-- The octets of digits after an octet are the ones of the text's digits. -/
theorem digitsAt_append (done rest : List UInt8) (b : UInt8) :
    digitsAt (done ++ b :: rest) (done.length + 1) =
      rest.takeWhile fun b => (ofOctet b).isDigit := by
  rw [digitsAt, List.append_cons, List.drop_left' (by simp)]

/-- A text of ASCII is its octets. -/
theorem encode_ascii {s : List Char} (ascii : ∀ c ∈ s, c.toNat < 0x80) :
    Text.Utf8.encode s = s.map octet := by
  rw [← Text.map_octet_flatMap, Text.isSpelling_octets.flatMap_ascii ascii]

/-- The digits of a placeholder are a slice, and so is what was passed with them. -/
theorem slices_placeholder {done ds rest : List UInt8} {b : UInt8} {cursor : Cursor} {place : Place}
    (cuttable : Cuttable octets) (passed : Passed octets done (b :: (ds ++ rest)) cursor place)
    (ascii : ∀ d ∈ b :: ds, d.toNat < 0x80) :
    slice? octets (done.length + 1) (done ++ b :: ds).length = some ds ∧
      slice? octets cursor.copied (done ++ b :: ds).length =
        some (done.drop cursor.copied ++ b :: ds) ∧
      isBoundary octets (done ++ b :: ds).length = true := by
  have whole : octets = (done ++ b :: ds) ++ rest := by
    rw [passed.whole, List.append_assoc, List.cons_append]
  have long : (done ++ b :: ds).length = done.length + 1 + ds.length := by
    rw [List.length_append, List.length_cons]
    omega
  have starts : isBoundary octets (done.length + 1) = true :=
    cuttable done b (ds ++ rest) passed.whole (ascii b List.mem_cons_self)
  have stops : isBoundary octets (done ++ b :: ds).length = true := by
    refine cuttable.after whole ?_ (ascii _ (List.getLast_mem (List.cons_ne_nil b ds)))
    rw [List.getLast?_append, List.getLast?_eq_getLast_of_ne_nil (List.cons_ne_nil b ds)]
    rfl
  have behind : (done ++ b :: ds).drop (done.length + 1) = ds := by
    rw [List.append_cons, List.drop_left' (by simp)]
  refine ⟨?_, ?_, stops⟩
  · rw [slice?_append whole (by omega) starts stops, behind]
  · have copied := passed.copied
    rw [slice?_append whole (by omega) passed.cut stops, List.drop_append_of_le_length copied]

/-- **Digits are copied with all that was passed, and their cast after them.** -/
theorem steps_placeholder {done ds rest : List UInt8} {b : UInt8} {cursor : Cursor}
    {previous : Option Char} (few : inferred.length < Number.bound64)
    (passed : Passed octets done (b :: (ds ++ rest)) cursor (.code previous))
    (stops : isBoundary octets (done ++ b :: ds).length = true)
    (dollar : ofOctet b = '$') (digits : ∀ d ∈ ds, (ofOctet d).isDigit = true)
    (reads : Reads inferred previous (.placeholder (ds.map ofOctet))
      ('$' :: (ds ++ rest).map ofOctet)) :
    Steps inferred octets done (b :: (ds ++ rest)) cursor (.code previous)
      ⟨.code, (done ++ b :: ds).length, (done ++ b :: ds).length,
        cursor.out ++ (done.drop cursor.copied ++ b :: ds) ++ Text.Utf8.ofString (castOf inferred
          ((Number.unsigned? Number.bound64 (ds.map ofOctet)).getD 0))⟩ := by
  obtain ⟨next, read, goesOn⟩ := reads
  have behindDigits : ('$' :: (ds ++ rest).map ofOctet).drop
      (Lexeme.placeholder (ds.map ofOctet)).text.length = rest.map ofOctet := by
    rw [Lexeme.text, List.length_cons, List.drop_succ_cons, List.map_append, List.drop_left]
  rw [behindDigits] at read goesOn
  refine ⟨b :: ds, rest, .code next, rfl, ⟨?_, rfl, Nat.le_refl _, stops, ?_⟩, ?_⟩
  · rw [passed.whole, List.append_assoc, List.cons_append]
  · have last : ((done ++ b :: ds).map ofOctet).getLast? =
        (Lexeme.placeholder (ds.map ofOctet)).text.getLast? := by
      rw [List.map_append, List.map_cons, dollar, List.getLast?_append, Lexeme.text,
        List.getLast?_cons]
      rfl
    rw [last]
    exact .code goesOn
  · have number : ∀ c ∈ ds.map ofOctet, c.isDigit = true := by
      simpa only [List.forall_mem_map] using digits
    have cast : Text.Utf8.ofString (castOf inferred
        ((Number.unsigned? Number.bound64 (ds.map ofOctet)).getD 0)) =
          (castOf inferred (numberOf (ds.map ofOctet))).toList.map octet := by
      rw [castOf_unsigned? few number]
      exact encode_ascii (ascii_castOf _)
    have dollarOctet : octet '$' = b := by rw [← dollar, Text.octet_ofOctet]
    have made : (castFrom inferred (.code previous) ((b :: (ds ++ rest)).map ofOctet)).map octet =
        b :: ds ++ (castOf inferred (numberOf (ds.map ofOctet))).toList.map octet ++
          (castFrom inferred (.code next) (rest.map ofOctet)).map octet := by
      rw [List.map_cons, dollar, read, List.map_append, List.map_append, Lexeme.text,
        List.map_cons, Text.map_octet_ofOctet, dollarOctet]
      rfl
    unfold outcome
    simp only [cast, made, List.drop_length, List.append_assoc, List.nil_append]

/-- The step over a dollar sign in code. -/
theorem steps_dollar (cuttable : Cuttable octets) (few : inferred.length < Number.bound64)
    {done rest : List UInt8} {b : UInt8} {cursor : Cursor} {previous : Option Char}
    (passed : Passed octets done (b :: rest) cursor (.code previous))
    (between : Between previous (done.map ofOctet).getLast? ((b :: rest).map ofOctet))
    (dollar : ofOctet b = '$') :
    ∃ next, cursor.dollar? inferred octets = some next ∧
      Steps inferred octets done (b :: rest) cursor (.code previous) next := by
  have digits : digitsAt octets (cursor.index + 1) =
      rest.takeWhile fun b => (ofOctet b).isDigit := by
    rw [passed.whole, passed.index, digitsAt_append]
  have named : (behind? octets cursor.index).any continuesName =
      previous.any continuesName := by
    rw [passed.whole, passed.index, behind?_append, between.names]
  simp only [Cursor.dollar?, digits, named]
  split
  case isTrue plain =>
    refine ⟨_, rfl, steps_other passed between ?_ ?_ ?_⟩
    · rw [dollar]
      decide
    · rw [dollar]
      rintro (⟨⟨⟩, -⟩ | ⟨⟨⟩, -⟩)
    · rintro ⟨-, unnamed, digit⟩
      rcases plain with name | none
      · rw [unnamed] at name
        cases name
      · cases rest with
        | nil => cases digit
        | cons first rest =>
          have first' : (ofOctet first).isDigit = true := digit
          simp only [List.takeWhile_cons, first', if_true] at none
          cases none
  case isFalse placeholder =>
    obtain ⟨unnamed, nonempty⟩ := not_or.mp placeholder
    obtain ⟨ds, rest', rfl, ofDigits, span⟩ : ∃ ds rest', rest = ds ++ rest' ∧
        (∀ d ∈ ds, (ofOctet d).isDigit = true) ∧
        rest.takeWhile (fun b => (ofOctet b).isDigit) = ds :=
      ⟨_, _, (List.takeWhile_append_dropWhile ..).symm,
        List.all_eq_true.mp List.all_takeWhile, rfl⟩
    rw [span] at nonempty ⊢
    have spanToo : ((ds ++ rest').map ofOctet).takeWhile Char.isDigit = ds.map ofOctet := by
      rw [List.takeWhile_map]
      exact congrArg (List.map ofOctet) span
    have digit : ((ds ++ rest').map ofOctet).head?.any Char.isDigit = true := by
      cases ds with
      | nil => exact absurd rfl nonempty
      | cons first ds => exact ofDigits first List.mem_cons_self
    have reads := reads_placeholder inferred (by simpa using unnamed) digit
    rw [spanToo] at reads
    have ascii : ∀ d ∈ b :: ds, d.toNat < 0x80 := by
      intro d member
      rw [← Text.Utf8.toNat_octet]
      rcases List.mem_cons.mp member with rfl | member
      · exact (congrArg Char.toNat dollar).trans_lt (by decide)
      · exact Text.ascii_of_isDigit (ofDigits d member)
    obtain ⟨written, copied, stops⟩ := slices_placeholder cuttable passed ascii
    have stop : cursor.index + 1 + ds.length = (done ++ b :: ds).length := by
      rw [passed.index, List.length_append, List.length_cons]
      omega
    refine ⟨_, ?_, steps_placeholder few passed stops dollar ofDigits reads⟩
    rw [stop, passed.index, written, copied]
    rfl

/-- The step in code. -/
theorem steps_code (cuttable : Cuttable octets) (few : inferred.length < Number.bound64)
    {done rest : List UInt8} {b : UInt8} {cursor : Cursor} {previous : Option Char}
    (passed : Passed octets done (b :: rest) cursor (.code previous))
    (code : cursor.lexical = .code)
    (between : Between previous (done.map ofOctet).getLast? ((b :: rest).map ofOctet)) :
    ∃ next, cursor.step? inferred octets b = some next ∧
      Steps inferred octets done (b :: rest) cursor (.code previous) next := by
  have ahead : octets[cursor.index + 1]?.map ofOctet = rest.head?.map ofOctet := by
    rw [passed.whole, passed.index, getElem?_ahead]
  by_cases literal : ofOctet b = '\''
  · have opens : opened (ofOctet b) (rest.head?.map ofOctet) = .literal := if_pos literal
    simp only [Cursor.step?, code, ahead, opens]
    refine ⟨_, rfl, steps_skip [b] .literal passed ?_ .literal⟩
    simp only [List.singleton_append, List.map_cons, List.map_nil, literal]
    rfl
  by_cases quotedName : ofOctet b = '"'
  · have opens : opened (ofOctet b) (rest.head?.map ofOctet) = .quotedName := by
      rw [opened, if_neg literal, if_pos quotedName]
    simp only [Cursor.step?, code, ahead, opens]
    refine ⟨_, rfl, steps_skip [b] .quotedName passed ?_ .quotedName⟩
    simp only [List.singleton_append, List.map_cons, List.map_nil, quotedName]
    rfl
  by_cases line : ofOctet b = '-' ∧ rest.head?.map ofOctet = some '-'
  · have opens : opened (ofOctet b) (rest.head?.map ofOctet) = .lineComment := by
      rw [opened, if_neg literal, if_neg quotedName, if_pos line]
    obtain ⟨first, second⟩ := line
    cases rest with
    | nil => cases second
    | cons next rest =>
      simp only [Cursor.step?, code, ahead, opens]
      refine ⟨_, rfl, steps_skip [b, next] .lineComment passed ?_ .lineComment⟩
      have dash : ofOctet next = '-' := Option.some.inj second
      simp only [List.map_cons, first] at between
      simp only [List.cons_append, List.nil_append, List.map_cons, List.map_nil, first, dash]
      exact castFrom_sign inferred (.inl rfl) (fun both => between.apart (.inl ⟨both.1, rfl⟩)) _
  by_cases block : ofOctet b = '/' ∧ rest.head?.map ofOctet = some '*'
  · have opens : opened (ofOctet b) (rest.head?.map ofOctet) = .blockComment := by
      rw [opened, if_neg literal, if_neg quotedName, if_neg line, if_pos block]
    obtain ⟨first, second⟩ := block
    cases rest with
    | nil => cases second
    | cons next rest =>
      simp only [Cursor.step?, code, ahead, opens]
      refine ⟨_, rfl, steps_skip [b, next] (.blockComment false) passed ?_ .blockComment⟩
      have star : ofOctet next = '*' := Option.some.inj second
      simp only [List.cons_append, List.nil_append, List.map_cons, List.map_nil, first, star]
      exact castFrom_sign inferred (.inr rfl) (fun both => nomatch both.2) _
  have opens : opened (ofOctet b) (rest.head?.map ofOctet) = .code := by
    rw [opened, if_neg literal, if_neg quotedName, if_neg line, if_neg block]
  have noComment : ¬Straddles (some (ofOctet b)) (rest.map ofOctet) := by
    rw [Straddles, List.head?_map]
    rintro (⟨first, second⟩ | ⟨first, second⟩)
    · exact line ⟨Option.some.inj first, second⟩
    · exact block ⟨Option.some.inj first, second⟩
  simp only [Cursor.step?, code, ahead, opens]
  by_cases dollar : ofOctet b = '$'
  · simp only [if_pos dollar]
    exact steps_dollar cuttable few passed between dollar
  · simp only [if_neg dollar]
    exact ⟨_, rfl, steps_other passed between ⟨literal, quotedName⟩ noComment
      fun both => dollar both.1⟩

/-! ### The run -/

/-- **Every step of the loop succeeds and keeps to what the reader does.** -/
theorem step?_steps (cuttable : Cuttable octets) (few : inferred.length < Number.bound64)
    {done rest : List UInt8} {b : UInt8} {cursor : Cursor} {place : Place}
    (passed : Passed octets done (b :: rest) cursor place) :
    ∃ next, cursor.step? inferred octets b = some next ∧
      Steps inferred octets done (b :: rest) cursor place next := by
  obtain ⟨lexical, index, copied, out⟩ := cursor
  cases passed.stands with
  | code between => exact steps_code cuttable few passed rfl (between (List.cons_ne_nil _ _))
  | literal =>
    exact ⟨_, rfl, steps_enclosed passed (fun _ => rfl) (by decide) fun _ _ => .literal⟩
  | quotedName =>
    exact ⟨_, rfl, steps_enclosed passed (fun _ => rfl) (by decide) fun _ _ => .quotedName⟩
  | lineComment =>
    exact ⟨_, rfl, steps_enclosed passed (fun _ => rfl) (by decide) fun _ _ => .lineComment⟩
  | blockComment =>
    refine ⟨_, ?_, steps_blockComment passed⟩
    have ahead : octets[index + 1]? = rest.head? := by
      have same : index = done.length := passed.index
      rw [passed.whole, same, getElem?_ahead]
    simp only [Cursor.step?, ahead]

/-- **The loop writes what the reader makes of the text.** -/
theorem castOctetsFrom?_passed (cuttable : Cuttable octets)
    (few : inferred.length < Number.bound64) {done rest : List UInt8} {cursor : Cursor}
    {place : Place} (passed : Passed octets done rest cursor place) :
    castOctetsFrom? inferred octets cursor = some (outcome inferred done rest cursor place) := by
  induction size : rest.length using Nat.strongRecOn generalizing done rest cursor place with
  | ind size ih =>
    subst size
    cases rest with
    | nil =>
      have whole : octets = done := by rw [passed.whole, List.append_nil]
      have last : octets[cursor.index]? = none := by
        rw [whole, passed.index, List.getElem?_eq_none (Nat.le_refl _)]
      have left := slice?_append passed.whole passed.copied passed.cut
        (whole ▸ isBoundary_length octets)
      have nothing : castFrom inferred place [] = [] := by
        have stands := passed.stands
        generalize cursor.lexical = lexical at stands
        cases stands <;> rfl
      rw [castOctetsFrom?_end last, congrArg List.length whole, left, outcome, List.map_nil,
        nothing, List.map_nil, List.append_nil]
      rfl
    | cons b rest =>
      have found : octets[cursor.index]? = some b := by
        rw [passed.whole, passed.index, List.getElem?_append_right (Nat.le_refl _), Nat.sub_self]
        rfl
      obtain ⟨next, step, taken, rest', place', cut, passed', same⟩ :=
        step?_steps cuttable few passed
      have goesOn := Cursor.lt_of_step? step
      have shorter : rest'.length < (b :: rest).length := by
        have lengths := congrArg List.length (passed.whole.symm.trans passed'.whole)
        rw [passed.index, passed'.index] at goesOn
        simp only [List.length_append] at lengths goesOn ⊢
        omega
      rw [castOctetsFrom?_step found step, ih _ shorter passed' rfl, same]

/-- **The loop over a text's octets gives the octets of the text with its casts.** -/
theorem castOctets?_encode (few : inferred.length < Number.bound64) (sql : String) :
    castOctets? inferred (Text.Utf8.ofString sql) =
      some (Text.Utf8.ofString (castPlaceholders sql inferred)) := by
  have start : Passed (Text.Utf8.ofString sql) [] (Text.Utf8.ofString sql) ⟨.code, 0, 0, []⟩
      (.code none) :=
    ⟨rfl, rfl, Nat.le_refl _, isBoundary_zero _, .code fun _ => .of_plain rfl nofun nofun⟩
  have cuttable : Cuttable (Text.Utf8.ofString sql) := cuttable_encode sql.toList
  have run := castOctetsFrom?_passed cuttable few start
  have spelt : (Text.Utf8.ofString sql).map ofOctet = sql.toList.flatMap Text.spellOctets :=
    Text.map_ofOctet_encode _
  rw [castOctets?, run, outcome, spelt, castFrom_flatMap Text.isSpelling_octets,
    Text.map_octet_flatMap, castPlaceholders, Text.Utf8.ofString, String.toList_ofList]
  rfl

/-- **The casts of a statement stand after the placeholders among its lexemes, and all else stays.**
The lexemes are the whole statement, in its order; the loop over its octets never cuts a character
and gives the same; and a number of more than 64 bits gets no cast. There are never more types than
such a number counts. -/
theorem castPlaceholders_eq_lexemes (sql : String) (inferred : List String) :
    (lexemes none sql.toList).flatMap Lexeme.text = sql.toList ∧
      castPlaceholders sql inferred = String.ofList
        ((lexemes none sql.toList).flatMap fun lexeme => lexeme.text ++ lexeme.cast inferred) ∧
      (inferred.length < Number.bound64 →
        castOctets? inferred (Text.Utf8.ofString sql) =
            some (Text.Utf8.ofString (castPlaceholders sql inferred)) ∧
          ∀ ds, Number.bound64 ≤ numberOf ds → (Lexeme.placeholder ds).cast inferred = []) := by
  refine ⟨lexemes_text none sql.toList, ?_, fun few => ⟨castOctets?_encode few sql, ?_⟩⟩
  · refine congrArg String.ofList (castFrom_lexemes none sql.toList none fun _ => ?_)
    exact .of_plain rfl nofun nofun
  · intro ds great
    rw [Lexeme.cast, castOf_of_lt (Nat.lt_of_lt_of_le few great)]
    rfl

theorem castPlaceholders_eq_lexemes_beyond_ascii :
    ["INT4"].length < Number.bound64 ∧
      castOctets? ["INT4"] (Text.Utf8.ofString "é$1 'ü$1' $18446744073709551617") =
        some (Text.Utf8.ofString "é$1::int4 'ü$1' $18446744073709551617") := by
  have few : ["INT4"].length < Number.bound64 := by decide
  have cast : castPlaceholders "é$1 'ü$1' $18446744073709551617" ["INT4"] =
      "é$1::int4 'ü$1' $18446744073709551617" := by
    decide +kernel
  have loop :=
    ((castPlaceholders_eq_lexemes "é$1 'ü$1' $18446744073709551617" ["INT4"]).2.2 few).1
  exact ⟨few, loop.trans (congrArg (fun text => some (Text.Utf8.ofString text)) cast)⟩

end TenantReports.Postgres
