import TenantReports.Proofs.Postgres.Lexer

/-!
# Where casts are added as the server reads

**The casts stand after the parameters that the server reads exactly if the placeholders that are
found are these parameters, and in every plain statement they are.**

The reader that adds casts goes on one character at a time, as that of the server does, but it knows
fewer places.

* `Reading.misleads`: a character that it takes for something else.
* `Aligned`: its place and the reading of the server go together.
* `Aligned.step`: they do so after every character that does not mislead it.
* `marks_eq_parameters`: in a plain statement it finds the parameters.
* `casts_iff_parameters`: what that means for the casts; `plainStatement` is such a statement.
-/

namespace TenantReports.Postgres

/-! ### What misleads the reader -/

/-- **What the reader that adds casts takes for something else**: an escaped quote, the dollar sign
that opens a tagged literal, a block comment inside another one, a dollar sign in a name after a
character that this reader does not count among those of a name, one directly after a number or a
parameter, and the end of a line comment at a carriage return that no line feed follows. -/
def Reading.misleads (reading : Reading) (c : Char) (s : List Char) : Bool :=
  match reading with
  | .code (.sign _) _ => false
  | .code (.number _) _ => c == '$'
  | .code _ previous => c == '$' && !previous.any continuesName
  | .dollar => c == '$'
  | .parameter _ => c == '$'
  | .tag _ => c == '$'
  | .escapes backslash => backslash && c == '\''
  | .lineComment _ => c == '\r' && s.head? != some '\n'
  | .blockComment _ previous => c == '*' && previous == some '/'
  | _ => false

/-- Nothing misleads the reader in a text that is read from some reading on. -/
def plainFrom : Reading → List Char → Bool
  | _, [] => true
  | reading, c :: s => !reading.misleads c s && plainFrom (reading.after c) s

/-- A statement in which nothing misleads the reader. -/
def Plain (sql : String) : Prop :=
  plainFrom (.code (.sign .never) none) sql.toList = true

instance (sql : String) : Decidable (Plain sql) :=
  inferInstanceAs (Decidable (_ = true))

/-! ### Places and readings that go together -/

/-- Whether a character belongs to a name or a number. -/
def Token.isWord : Token → Bool
  | .sign _ => false
  | _ => true

/-- **The place of the one reader and the reading of the server**, before the rest of a statement. -/
inductive Aligned : Place → Reading → List Char → Prop
  | sign {resume : Resume} {previous : Option Char} (apart : previous.any continuesName = false)
      (s : List Char) : Aligned (.code previous) (.code (.sign resume) previous) s
  | token {token : Token} (last : Char) (word : token.isWord = true) (s : List Char) :
      Aligned (.code (some last)) (.code token (some last)) s
  /-- A dollar sign in a name; neither a name nor a placeholder begins after it. -/
  | dollarInName (s : List Char) : Aligned (.dollar true) (.code .name (some '$')) s
  | dollar (s : List Char) : Aligned (.dollar false) .dollar s
  | parameter (reversed s : List Char) : Aligned (.placeholder reversed) (.parameter reversed) s
  | tag (last : Char) (reversed s : List Char) :
      Aligned (.code (some last)) (.tag (last :: reversed)) s
  | literal (s : List Char) : Aligned .literal .literal s
  | escapes (backslash : Bool) (s : List Char) : Aligned .literal (.escapes backslash) s
  | quotedName (s : List Char) : Aligned .quotedName .quotedName s
  | lineComment (resume : Resume) (s : List Char) :
      Aligned .lineComment (.lineComment resume) s
  /-- Between the two characters that end a line. -/
  | lineEnd (resume : Resume) (s : List Char) :
      Aligned .lineComment (.code (.sign resume) (some '\r')) ('\n' :: s)
  | blockComment (previous : Option Char) (s : List Char) :
      Aligned (.blockComment (previous == some '*')) (.blockComment 1 previous) s

theorem Aligned.ended {place : Place} {reading : Reading} {s : List Char}
    (aligned : Aligned place reading s) (next : Option Char) :
    place.ended next = reading.ended next := by
  cases aligned <;> rfl

/-- A character that no name can begin with does not count among those of a name. -/
theorem continuesName_of_sign {c : Char} (noDigit : c.isDigit = false)
    (noName : beginsName c = false) : continuesName c = false := by
  unfold beginsName at noName
  simp only [Bool.or_eq_false_iff] at noName
  simp only [continuesName, Char.isAlphanum, noDigit, noName.1.1, noName.1.2, Bool.or_self]

/-- **Code goes on as the server has it**, after a character that no name or number goes on with. -/
theorem aligned_start {previous : Option Char} {c : Char}
    (apart : c = '$' → previous.any continuesName = false) (resume : Resume) (s : List Char) :
    Aligned (placeAfter previous c) (start resume previous c) s := by
  unfold placeAfter start
  split
  · split
    · exact .escapes false s
    · exact .literal s
  split
  · exact .quotedName s
  split
  · exact .lineComment resume s
  split
  · exact .blockComment none s
  split
  next dollar =>
    rw [apart (by simpa using dollar)]
    exact .dollar s
  next other =>
    split
    · exact .token c rfl s
    split
    · refine .token c ?_ s
      split <;> rfl
    next noDigit noName =>
      have apart : (some c).any continuesName = false :=
        continuesName_of_sign (Bool.eq_false_iff.mpr noDigit) (Bool.eq_false_iff.mpr noName)
      exact .sign apart s

/-- A character of a name has no meaning of its own, unless it is a dollar sign. -/
theorem placeAfter_of_extends {previous : Option Char} {c : Char} (extends' : extendsName c = true)
    (other : c ≠ '$') : placeAfter previous c = .code (some c) := by
  refine placeAfter_plain ⟨?_, ?_, other⟩ ?_ ?_
  · rintro rfl
    exact absurd extends' (by decide)
  · rintro rfl
    exact absurd extends' (by decide)
  · rintro ⟨-, rfl⟩
    exact absurd extends' (by decide)
  · rintro ⟨-, rfl⟩
    exact absurd extends' (by decide)

/-- So has one that a number goes on with. -/
theorem placeAfter_of_next {figure next : Figure} {previous : Option Char} {c : Char}
    (goesOn : figure.next? previous c = some next) : placeAfter previous c = .code (some c) := by
  refine placeAfter_plain ⟨?_, ?_, ?_⟩ ?_ ?_
  · rintro rfl
    cases figure <;> cases goesOn
  · rintro rfl
    cases figure <;> cases goesOn
  · rintro rfl
    cases figure <;> cases goesOn
  · rintro ⟨rfl, rfl⟩
    cases figure <;> cases goesOn
  · rintro ⟨rfl, rfl⟩
    cases figure <;> cases goesOn

/-- **A name goes on or ends**, where no dollar sign misleads. -/
theorem aligned_name {last c : Char} {s : List Char}
    (plain : c = '$' → continuesName last = true) :
    Aligned (placeAfter (some last) c) (Token.name.after (some last) c) s := by
  unfold Token.after
  cases extends' : extendsName c with
  | true =>
    by_cases dollar : c = '$'
    · subst dollar
      have inName : placeAfter (some last) '$' = .dollar true := congrArg Place.dollar (plain rfl)
      rw [inName]
      exact .dollarInName s
    · rw [placeAfter_of_extends extends' dollar]
      exact .token c rfl s
  | false =>
    refine aligned_start (fun dollar => ?_) .never s
    subst dollar
    exact absurd extends' (by decide)

/-- **A word goes on or ends**, where nothing misleads. -/
theorem aligned_word {token : Token} {last c : Char} {s : List Char} (word : token.isWord = true)
    (plain : (Reading.code token (some last)).misleads c s = false) :
    Aligned (placeAfter (some last) c) (token.after (some last) c) s := by
  cases token with
  | sign resume => cases word
  | name =>
    refine aligned_name fun dollar => ?_
    subst dollar
    simpa [Reading.misleads] using plain
  | letterE =>
    by_cases quote : c = '\''
    · subst quote
      exact .escapes false s
    · have asName : Token.letterE.after (some last) c = Token.name.after (some last) c := by
        unfold Token.after
        rw [if_neg (by simpa using quote)]
      rw [asName]
      refine aligned_name fun dollar => ?_
      subst dollar
      simpa [Reading.misleads] using plain
  | number figure =>
    have noDollar : c ≠ '$' := by
      rintro rfl
      cases plain
    simp only [Token.after]
    cases goesOn : figure.next? (some last) c with
    | some next =>
      rw [placeAfter_of_next goesOn]
      exact .token c rfl s
    | none => exact aligned_start (fun dollar => absurd dollar noDollar) .never s

/-- Only a dollar sign misleads in code. -/
theorem not_misleads_of_ne {token : Token} {previous : Option Char} {c : Char} {s : List Char}
    (other : c ≠ '$') : (Reading.code token previous).misleads c s = false := by
  cases token <;> simp [Reading.misleads, other]

theorem isWord_untagged (reversed : List Char) : (untagged reversed).isWord = true := by
  unfold untagged
  split <;> rfl

/-- **A character that does not mislead keeps place and reading together.** -/
theorem Aligned.step {place : Place} {reading : Reading} {c : Char} {s : List Char}
    (aligned : Aligned place reading (c :: s)) (plain : reading.misleads c s = false) :
    Aligned (place.after c) (reading.after c) s := by
  cases aligned with
  | sign apart => exact aligned_start (fun _ => apart) _ s
  | token last word => exact aligned_word word plain
  | dollarInName =>
    have same : (Place.dollar true).after c = placeAfter (some '$') c := by
      simp [Place.after, castStep]
    rw [same]
    exact aligned_word rfl plain
  | dollar =>
    simp only [Place.after, castStep, Reading.after, Bool.not_false, Bool.and_true]
    cases digit : c.isDigit with
    | true => exact .parameter [c] s
    | false =>
      have noDollar : (c == '$') = false := plain
      simp only [noDollar, Bool.false_eq_true, if_false]
      cases name : beginsName c with
      | true =>
        have extends' : extendsName c = true := by simp [extendsName, name]
        have other : c ≠ '$' := by simpa using noDollar
        rw [placeAfter_of_extends extends' other]
        exact .tag c [] s
      | false => exact aligned_start (fun _ => rfl) .never s
  | parameter reversed =>
    have noDollar : c ≠ '$' := by
      rintro rfl
      cases plain
    simp only [Place.after, castStep, Reading.after]
    cases digit : c.isDigit with
    | true => exact .parameter (c :: reversed) s
    | false => exact aligned_start (fun dollar => absurd dollar noDollar) .never s
  | tag last reversed =>
    have noDollar : c ≠ '$' := by
      rintro rfl
      cases plain
    simp only [Place.after, castStep, Reading.after, beq_eq_false_iff_ne.mpr noDollar,
      Bool.false_eq_true, if_false]
    cases extends' : extendsName c with
    | true =>
      rw [placeAfter_of_extends extends' noDollar]
      exact .tag c (last :: reversed) s
    | false => exact aligned_word (isWord_untagged _) (not_misleads_of_ne noDollar)
  | literal =>
    simp only [Place.after, castStep, Reading.after]
    split
    next quote =>
      exact .sign (by rw [beq_iff_eq.mp quote]; rfl) s
    next => exact .literal s
  | escapes backslash =>
    simp only [Place.after, castStep, Reading.after]
    cases backslash with
    | true =>
      have noQuote : (c == '\'') = false := plain
      simp only [noQuote, Bool.false_eq_true, if_false]
      exact .escapes false s
    | false =>
      simp only [Bool.false_eq_true, if_false]
      split
      next quote => exact .sign (by rw [beq_iff_eq.mp quote]; rfl) s
      next => exact .escapes _ s
  | quotedName =>
    simp only [Place.after, castStep, Reading.after]
    split
    next quote => exact .sign (by rw [beq_iff_eq.mp quote]; rfl) s
    next => exact .quotedName s
  | lineComment resume =>
    by_cases newline : c = '\n'
    · subst newline
      exact .sign rfl s
    by_cases carriage : c = '\r'
    · subst carriage
      obtain ⟨rest, rfl⟩ : ∃ rest, s = '\n' :: rest :=
        List.head?_eq_some_iff.mp (by simpa [Reading.misleads] using plain)
      exact .lineEnd _ rest
    · have goesOn : isLineEnd c = false := by simp [isLineEnd, newline, carriage]
      simp only [Place.after, castStep, Reading.after, goesOn, beq_eq_false_iff_ne.mpr newline,
        Bool.false_eq_true, if_false]
      exact .lineComment resume s
  | lineEnd resume => exact .sign rfl s
  | blockComment previous =>
    have noStart : (c == '*' && previous == some '/') = false := plain
    simp only [Place.after, castStep, Reading.after, noStart, Bool.false_eq_true, if_false]
    split
    next => exact .sign rfl s
    next => exact .blockComment (some c) s

/-- **In a plain text the placeholders are the parameters** that the server reads. -/
theorem marksFrom_eq_parametersFrom {place : Place} {reading : Reading} {s : List Char}
    (aligned : Aligned place reading s) (plain : plainFrom reading s = true) :
    marksFrom place s = parametersFrom reading s := by
  induction s generalizing place reading with
  | nil => rw [marksFrom, parametersFrom, aligned.ended]
  | cons c s ih =>
    obtain ⟨first, rest⟩ := Bool.and_eq_true_iff.mp plain
    have step := aligned.step (by simpa using first)
    rw [marksFrom, parametersFrom, aligned.ended, ih step rest]

theorem marks_eq_parameters {sql : String} (plain : Plain sql) : marks sql = parameters sql :=
  marksFrom_eq_parametersFrom (.sign rfl _) plain

/-! ### What that means for the casts -/

/-- **The casts are where the server reads parameters exactly if these are the placeholders.** For
every list of types the statement gets its casts after the parameters that the server reads, and
nowhere else, if and only if the placeholders that are found are these parameters. In a plain
statement they are. -/
theorem casts_iff_parameters (sql : String) :
    ((∀ inferred, castPlaceholders sql inferred = castParameters sql inferred) ↔
      marks sql = parameters sql) ∧
    (Plain sql → ∀ inferred, castPlaceholders sql inferred = castParameters sql inferred) := by
  have same : (∀ inferred, castPlaceholders sql inferred = castParameters sql inferred) ↔
      marks sql = parameters sql := by
    constructor
    · intro equal
      refine insertCasts_injective (length_marksFrom _ _) (length_parametersFrom _ _)
        fun inferred => ?_
      have texts := equal inferred
      rw [castPlaceholders_eq_insertCasts] at texts
      exact String.ofList_injective texts
    · intro equal inferred
      rw [castPlaceholders_eq_insertCasts, equal]
      rfl
  exact ⟨same, fun plain => same.mpr (marks_eq_parameters plain)⟩

/-- A statement with placeholders in a name, in literals, in comments, and one that is a
parameter. -/
def plainStatement : String :=
  "SELECT \"a's\", E'\\\\ $1', x$1 -- $1\r\nFROM t /* $1 */ WHERE b = $1 OR 'c''$1'"

theorem casts_iff_parameters_plain : Plain plainStatement ∧
    (∀ inferred,
      castPlaceholders plainStatement inferred = castParameters plainStatement inferred) ∧
    marks plainStatement = parameters plainStatement := by
  have plain : Plain plainStatement := by decide +kernel
  obtain ⟨same, casts⟩ := casts_iff_parameters plainStatement
  exact ⟨plain, casts plain, same.mp (casts plain)⟩

/-- Every kind of character that misleads does so in some statement. -/
example : ∀ sql ∈ ["E'\\' $1'", "$$ $1 $$", "$a$ $1 $a$", "/* /* */ $1 */", "é$1", "1$1", "$2$1",
    "-- \r $1"], castPlaceholders sql ["UUID"] ≠ castParameters sql ["UUID"] := by
  decide +kernel

/-- **A literal with an escaped quote misleads the reader**: the cast goes into the literal, and the
parameter behind it has none. -/
theorem casts_escapedQuote :
    castPlaceholders "SELECT * FROM t WHERE note = E'it\\'s $1' AND id = $1" ["UUID"] =
        "SELECT * FROM t WHERE note = E'it\\'s $1::uuid' AND id = $1" ∧
      castParameters "SELECT * FROM t WHERE note = E'it\\'s $1' AND id = $1" ["UUID"] =
        "SELECT * FROM t WHERE note = E'it\\'s $1' AND id = $1::uuid" := by
  decide +kernel

end TenantReports.Postgres
