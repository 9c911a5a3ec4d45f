import Mathlib.Data.List.Infix
import TenantReports.Proofs.Postgres.Marks

/-!
# The lexemes of a statement

**A statement is a list of lexemes, and its casts stand after placeholders.**

A literal, a quoted name or a comment is a lexeme as a whole, up to the first text that closes it or
up to the end of the statement. A placeholder is one with all of its digits. Any other character is
one by itself.

* `lexemes`: a statement as its lexemes, from the left.
* `lexemes_text`: they are the statement, one after another.
* `castFrom_lexemes`: the reader that goes character by character adds what the lexemes say.
-/

namespace TenantReports.Postgres

variable {inferred : List String}

/-! ### Lexemes -/

/-- A text up to the first place where `closing` ends, or all of it. -/
def through (closing : List Char) : List Char → List Char
  | [] => []
  | c :: s => if closing <+: c :: s then closing else c :: through closing s

/-- A part of a statement that is read as a whole; each has what follows its opening signs. -/
inductive Lexeme
  | literal (rest : List Char)
  | quotedName (rest : List Char)
  | lineComment (rest : List Char)
  | blockComment (rest : List Char)
  | placeholder (ds : List Char)
  | other (c : Char)
  deriving DecidableEq, Repr

/-- The text of a lexeme. -/
def Lexeme.text : Lexeme → List Char
  | .literal rest => '\'' :: rest
  | .quotedName rest => '"' :: rest
  | .lineComment rest => '-' :: '-' :: rest
  | .blockComment rest => '/' :: '*' :: rest
  | .placeholder ds => '$' :: ds
  | .other c => [c]

/-- What is added after a lexeme. -/
def Lexeme.cast (inferred : List String) : Lexeme → List Char
  | .placeholder ds => (castOf inferred (numberOf ds)).toList
  | _ => []

/-- The first lexeme of a text that begins with `c`, where `previous` stands before it. -/
def firstLexeme (previous : Option Char) (c : Char) (s : List Char) : Lexeme :=
  if c = '\'' then .literal (through ['\''] s)
  else if c = '"' then .quotedName (through ['"'] s)
  else if c = '-' ∧ s.head? = some '-' then .lineComment (through ['\n'] s.tail)
  else if c = '/' ∧ s.head? = some '*' then .blockComment (through ['*', '/'] s.tail)
  else if c = '$' ∧ previous.any continuesName = false ∧ s.head?.any Char.isDigit then
    .placeholder (s.takeWhile Char.isDigit)
  else .other c

theorem through_prefix (closing s : List Char) : through closing s <+: s := by
  induction s with
  | nil => exact List.prefix_refl _
  | cons c s ih =>
    rw [through]
    split
    case isTrue closed => exact closed
    case isFalse => exact List.cons_prefix_cons.mpr ⟨rfl, ih⟩

/-- **A lexeme begins the text that it is the first of.** -/
theorem firstLexeme_prefix (previous : Option Char) (c : Char) (s : List Char) :
    (firstLexeme previous c s).text <+: c :: s := by
  have opened : ∀ {sign closing}, s.head? = some sign →
      sign :: through closing s.tail <+: s := by
    intro sign closing first
    cases s with
    | nil => cases first
    | cons next s =>
      cases first
      exact List.cons_prefix_cons.mpr ⟨rfl, through_prefix _ _⟩
  unfold firstLexeme
  split
  case isTrue quote =>
    exact List.cons_prefix_cons.mpr ⟨quote.symm, through_prefix _ _⟩
  split
  case isTrue quote =>
    exact List.cons_prefix_cons.mpr ⟨quote.symm, through_prefix _ _⟩
  split
  case isTrue line =>
    exact List.cons_prefix_cons.mpr ⟨line.1.symm, opened line.2⟩
  split
  case isTrue block =>
    exact List.cons_prefix_cons.mpr ⟨block.1.symm, opened block.2⟩
  split
  case isTrue dollar =>
    exact List.cons_prefix_cons.mpr ⟨dollar.1.symm, List.takeWhile_prefix _⟩
  case isFalse => exact List.cons_prefix_cons.mpr ⟨rfl, List.nil_prefix⟩

theorem Lexeme.length_pos (lexeme : Lexeme) : 0 < lexeme.text.length := by
  cases lexeme <;> exact Nat.succ_pos _

/-- **A statement as its lexemes**, from the left, where `previous` stands before it. -/
def lexemes (previous : Option Char) : List Char → List Lexeme
  | [] => []
  | c :: s =>
    let first := firstLexeme previous c s
    first :: lexemes first.text.getLast? ((c :: s).drop first.text.length)
termination_by s => s.length
decreasing_by
  have positive := (firstLexeme previous c s).length_pos
  simp only [List.length_drop, List.length_cons]
  omega

/-- **Lexemes are their text**, one after another. -/
theorem lexemes_text (previous : Option Char) (s : List Char) :
    (lexemes previous s).flatMap Lexeme.text = s := by
  induction previous, s using lexemes.induct with
  | case1 previous => rw [lexemes, List.flatMap_nil]
  | case2 previous c s first ih =>
    obtain ⟨rest, whole⟩ := firstLexeme_prefix previous c s
    rw [lexemes, List.flatMap_cons, ih, ← whole, List.drop_left]

example : lexemes none "a$1 é$20'$3'--$4".toList =
    [.other 'a', .other '$', .other '1', .other ' ', .other 'é', .placeholder ['2', '0'],
      .literal ['$', '3', '\''], .lineComment ['$', '4']] := by
  cbv

/-- **A number beyond the types gets no cast**, however many digits it has. -/
theorem castOf_of_lt {number : Nat} (beyond : inferred.length < number) :
    castOf inferred number = "" := by
  cases number with
  | zero => rfl
  | succ number =>
    have none : inferred[number]? = none := List.getElem?_eq_none (Nat.le_of_lt_succ beyond)
    simp only [castOf, none]

/-! ### What closes a lexeme -/

/-- A text that goes on after its closing signs ends with them. -/
theorem getLast?_through {closing s : List Char} (signs : closing ≠ [])
    (goesOn : s.drop (through closing s).length ≠ []) :
    (through closing s).getLast? = closing.getLast? := by
  induction s with
  | nil => exact absurd rfl goesOn
  | cons c s ih =>
    rw [through] at goesOn ⊢
    split
    case isTrue => rfl
    case isFalse inside =>
      rw [if_neg inside, List.length_cons, List.drop_succ_cons] at goesOn
      have last := ih goesOn
      cases behind : through closing s with
      | nil =>
        rw [behind] at last
        exact absurd (List.getLast?_eq_none_iff.mp last.symm) signs
      | cons next behind' => rw [List.getLast?_cons_cons, ← behind, last]

/-- The reader stays in a place up to the character that leads back to code. -/
theorem castFrom_through {place : Place} {quote : Char}
    (step : ∀ c, castStep inferred place c = ([], if c == quote then .code (some c) else place))
    (ends : castFrom inferred place [] = []) (s : List Char) :
    castFrom inferred place s = through [quote] s ++
      castFrom inferred (.code (some quote)) (s.drop (through [quote] s).length) := by
  induction s with
  | nil => exact ends
  | cons c s ih =>
    have one : castFrom inferred place (c :: s) =
        c :: castFrom inferred (if c == quote then .code (some c) else place) s := by
      simp only [castFrom, step, List.nil_append]
    rw [one, through]
    by_cases closes : c = quote
    · subst closes
      rw [if_pos (List.cons_prefix_cons.mpr ⟨rfl, List.nil_prefix⟩), if_pos (beq_self_eq_true c)]
      rfl
    · have stays : ¬[quote] <+: c :: s := fun closed =>
        closes (List.cons_prefix_cons.mp closed).1.symm
      rw [if_neg stays, if_neg (by simpa using closes), ih]
      rfl

/-- A star before anything but a slash closes no comment. -/
theorem castFrom_star {s : List Char} (noSlash : s.head? ≠ some '/') :
    castFrom inferred (.blockComment true) s = castFrom inferred (.blockComment false) s := by
  cases s with
  | nil => rfl
  | cons c s =>
    have other : (c == '/') = false := beq_eq_false_iff_ne.mpr fun same => noSlash (same ▸ rfl)
    simp only [castFrom, castStep, other, Bool.false_and]

/-- The reader stays in a comment over a character that does not begin its end. -/
theorem castFrom_blockComment_cons {c : Char} {s : List Char} (inside : ¬['*', '/'] <+: c :: s) :
    castFrom inferred (.blockComment false) (c :: s) =
      c :: castFrom inferred (.blockComment false) s := by
  have one : castFrom inferred (.blockComment false) (c :: s) =
      c :: castFrom inferred (.blockComment (c == '*')) s := by
    simp only [castFrom, castStep, Bool.and_false, Bool.false_eq_true, if_false, List.nil_append]
  rw [one]
  by_cases star : c = '*'
  · subst star
    refine congrArg _ (castFrom_star fun slash => inside ?_)
    obtain ⟨rest, rfl⟩ := List.head?_eq_some_iff.mp slash
    exact ⟨rest, rfl⟩
  · rw [beq_eq_false_iff_ne.mpr star]

/-- The reader stays in a comment up to the star and the slash that close it. -/
theorem castFrom_blockComment (s : List Char) :
    castFrom inferred (.blockComment false) s = through ['*', '/'] s ++
      castFrom inferred (.code none) (s.drop (through ['*', '/'] s).length) := by
  induction s with
  | nil => rfl
  | cons c s ih =>
    rw [through]
    split
    case isTrue closed =>
      obtain ⟨rest, whole⟩ := closed
      obtain ⟨rfl, rfl⟩ := List.cons.inj whole
      rfl
    case isFalse inside =>
      rw [castFrom_blockComment_cons inside, List.length_cons, List.drop_succ_cons,
        List.cons_append, ← ih]

/-- **A placeholder has its cast after its last digit.** -/
theorem castFrom_digits (reversed s : List Char) :
    castFrom inferred (.placeholder reversed) s =
      s.takeWhile Char.isDigit ++
        (castOf inferred (numberOf (reversed.reverse ++ s.takeWhile Char.isDigit))).toList ++
        castFrom inferred (.code ((s.takeWhile Char.isDigit).getLast?.or reversed.head?))
          (s.drop (s.takeWhile Char.isDigit).length) := by
  induction s generalizing reversed with
  | nil =>
    simp only [castFrom, List.takeWhile_nil, List.append_nil, List.nil_append, List.drop_nil,
      castAfter_eq_castOf]
  | cons c s ih =>
    by_cases digit : c.isDigit
    · have last : (c :: s.takeWhile Char.isDigit).getLast?.or reversed.head? =
          (s.takeWhile Char.isDigit).getLast?.or (some c) := by
        rw [List.getLast?_cons]
        cases (s.takeWhile Char.isDigit).getLast? <;> rfl
      rw [List.takeWhile_cons_of_pos digit, last, List.length_cons, List.drop_succ_cons]
      simp only [castFrom, castStep, if_pos digit, List.nil_append, ih, List.reverse_cons,
        List.append_assoc, List.cons_append, List.head?_cons]
    · rw [List.takeWhile_cons_of_neg digit]
      simp only [castFrom, castStep, if_neg digit, castAfter_eq_castOf, List.append_nil,
        List.nil_append, List.getLast?_nil, Option.none_or, List.length_nil, List.drop_zero]

/-! ### The reader and the lexemes -/

/-- A comment begins with the character before and the first one. -/
def Straddles (previous : Option Char) (s : List Char) : Prop :=
  previous = some '-' ∧ s.head? = some '-' ∨ previous = some '/' ∧ s.head? = some '*'

/-- The reader stands between lexemes: it takes what stands before the rest of the statement for
what does. -/
structure Between (previous before : Option Char) (s : List Char) : Prop where
  names : previous.any continuesName = before.any continuesName
  apart : ¬Straddles previous s

/-- What stands before decides nothing more where no comment can have begun. -/
theorem Between.of_plain {next before : Option Char} {rest : List Char}
    (names : next.any continuesName = before.any continuesName)
    (line : next ≠ some '-') (block : next ≠ some '/') : Between next before rest :=
  ⟨names, fun straddles => straddles.elim (fun both => line both.1) fun both => block both.1⟩

/-- The sign of a comment that a pair begins with is a character like any other. -/
theorem castFrom_sign (inferred : List String) {previous : Option Char} {sign : Char}
    (signs : sign = '-' ∨ sign = '/') (apart : ¬(previous = some '-' ∧ sign = '-'))
    (s : List Char) :
    castFrom inferred (.code previous) (sign :: s) =
      sign :: castFrom inferred (.code (some sign)) s := by
  have next : placeAfter previous sign = .code (some sign) := by
    refine placeAfter_plain ?_ apart ?_
    · rcases signs with rfl | rfl <;> decide
    · rcases signs with rfl | rfl
      · rintro ⟨-, other⟩
        cases other
      · rintro ⟨-, other⟩
        cases other
  simp only [castFrom, castStep, next, List.nil_append]

/-- A dollar sign that begins no placeholder is a character like any other. -/
theorem castFrom_dollar {named : Bool} {s : List Char}
    (plain : named = true ∨ s.head?.any Char.isDigit = false) :
    castFrom inferred (.dollar named) s = castFrom inferred (.code (some '$')) s := by
  cases s with
  | nil => rfl
  | cons c s =>
    have other : (c.isDigit && !named) = false := by
      rcases plain with rfl | noDigit
      · exact Bool.and_false _
      · rw [show c.isDigit = false from noDigit, Bool.false_and]
    simp only [castFrom, castStep, other, Bool.false_eq_true, if_false]

/-- The reader reads a lexeme as a whole and stands between lexemes again. -/
def Reads (inferred : List String) (previous : Option Char) (lexeme : Lexeme) (s : List Char) :
    Prop :=
  ∃ next, castFrom inferred (.code previous) s =
      lexeme.text ++ lexeme.cast inferred ++
        castFrom inferred (.code next) (s.drop lexeme.text.length) ∧
    (s.drop lexeme.text.length ≠ [] →
      Between next lexeme.text.getLast? (s.drop lexeme.text.length))

/-- What is opened and closed is read as a whole. -/
theorem reads_enclosed {previous next : Option Char} {lexeme : Lexeme} {place : Place}
    {closing body : List Char} (opening : List Char)
    (text : lexeme.text = opening ++ through closing body)
    (noCast : lexeme.cast inferred = [])
    (opens : castFrom inferred (.code previous) (opening ++ body) =
      opening ++ castFrom inferred place body)
    (closes : castFrom inferred place body = through closing body ++
      castFrom inferred (.code next) (body.drop (through closing body).length))
    (signs : closing ≠ []) (names : next.any continuesName = closing.getLast?.any continuesName)
    (line : next ≠ some '-') (block : next ≠ some '/') :
    Reads inferred previous lexeme (opening ++ body) := by
  have rest : (opening ++ body).drop lexeme.text.length =
      body.drop (through closing body).length := by
    rw [text, List.length_append, ← List.drop_drop, List.drop_left]
  refine ⟨next, ?_, fun goesOn => ?_⟩
  · rw [rest, text, noCast, opens, closes, List.append_nil, List.append_assoc]
  · rw [rest] at goesOn
    refine .of_plain ?_ line block
    have last := getLast?_through signs goesOn
    have closed : (opening ++ through closing body).getLast? = closing.getLast? := by
      rw [List.getLast?_append, last]
      cases ends : closing.getLast? with
      | none => exact absurd (List.getLast?_eq_none_iff.mp ends) signs
      | some c => rfl
    rw [text, closed, names]

/-- A placeholder is read with all of its digits. -/
theorem reads_placeholder (inferred : List String) {previous : Option Char} {s : List Char}
    (unnamed : previous.any continuesName = false) (digit : s.head?.any Char.isDigit = true) :
    Reads inferred previous (.placeholder (s.takeWhile Char.isDigit)) ('$' :: s) := by
  cases s with
  | nil => cases digit
  | cons c s =>
    have first : c.isDigit = true := digit
    have read : castFrom inferred (.code previous) ('$' :: c :: s) =
        '$' :: c :: castFrom inferred (.placeholder [c]) s := by
      have dollar : placeAfter previous '$' = .dollar false := by
        rw [← unnamed]
        rfl
      simp only [castFrom, castStep, dollar, first, Bool.not_false, Bool.and_true, if_true,
        List.nil_append]
    have last : ∃ d, (s.takeWhile Char.isDigit).getLast?.or (some c) = some d ∧
        d.isDigit = true := by
      cases ends : (s.takeWhile Char.isDigit).getLast? with
      | none => exact ⟨c, rfl, first⟩
      | some d =>
        exact ⟨d, rfl, List.all_eq_true.mp List.all_takeWhile d (List.mem_of_getLast? ends)⟩
    obtain ⟨d, same, ofDigits⟩ := last
    refine ⟨some d, ?_, fun _ => ?_⟩
    · rw [List.takeWhile_cons_of_pos first, read, castFrom_digits, List.head?_cons, same]
      rfl
    · rw [List.takeWhile_cons_of_pos first]
      refine .of_plain ?_ ?_ ?_
      · rw [Lexeme.text, List.getLast?_cons_cons, List.getLast?_cons, ← same]
        cases (s.takeWhile Char.isDigit).getLast? <;> rfl
      · rintro ⟨⟩
        cases ofDigits
      · rintro ⟨⟩
        cases ofDigits

/-- Any other character is read by itself. -/
theorem reads_other {previous : Option Char} {c : Char} {s : List Char}
    (apart : ¬Straddles previous (c :: s)) (unquoted : c ≠ '\'' ∧ c ≠ '"')
    (noComment : ¬Straddles (some c) s)
    (plain : ¬(c = '$' ∧ previous.any continuesName = false ∧ s.head?.any Char.isDigit)) :
    Reads inferred previous (.other c) (c :: s) := by
  refine ⟨some c, ?_, fun _ => ⟨rfl, noComment⟩⟩
  have line : ¬(previous = some '-' ∧ c = '-') := fun both =>
    apart (.inl ⟨both.1, congrArg some both.2⟩)
  have block : ¬(previous = some '/' ∧ c = '*') := fun both =>
    apart (.inr ⟨both.1, congrArg some both.2⟩)
  show castFrom inferred (.code previous) (c :: s) = c :: castFrom inferred (.code (some c)) s
  by_cases dollar : c = '$'
  · subst dollar
    have place : placeAfter previous '$' = .dollar (previous.any continuesName) := rfl
    have alone : previous.any continuesName = true ∨ s.head?.any Char.isDigit = false := by
      by_contra neither
      obtain ⟨unnamed, digit⟩ := not_or.mp neither
      exact plain ⟨rfl, by simpa using unnamed, by simpa using digit⟩
    simp only [castFrom, castStep, place, List.nil_append, castFrom_dollar alone]
  · simp only [castFrom, castStep, placeAfter_plain ⟨unquoted.1, unquoted.2, dollar⟩ line block,
      List.nil_append]

/-- **The reader reads the first lexeme**, whatever it is. -/
theorem reads_firstLexeme {previous before : Option Char} {c : Char} {s : List Char}
    (between : Between previous before (c :: s)) :
    Reads inferred previous (firstLexeme before c s) (c :: s) := by
  have comment : ∀ {sign}, s.head? = some sign → s = sign :: s.tail := by
    intro sign first
    cases s with
    | nil => cases first
    | cons next s =>
      cases first
      rfl
  unfold firstLexeme
  split
  case isTrue quote =>
    subst quote
    exact reads_enclosed ['\''] rfl rfl rfl (castFrom_through (fun _ => rfl) rfl s)
      (List.cons_ne_nil _ _) rfl (by decide) (by decide)
  case isFalse noLiteral =>
  split
  case isTrue quote =>
    subst quote
    exact reads_enclosed ['"'] rfl rfl rfl (castFrom_through (fun _ => rfl) rfl s)
      (List.cons_ne_nil _ _) rfl (by decide) (by decide)
  case isFalse noName =>
  split
  case isTrue line =>
    obtain ⟨rfl, second⟩ := line
    have first := castFrom_sign inferred (.inl rfl)
      (fun both => between.apart (.inl ⟨both.1, rfl⟩)) s
    rw [comment second] at first ⊢
    exact reads_enclosed ['-', '-'] rfl rfl first (castFrom_through (fun _ => rfl) rfl s.tail)
      (List.cons_ne_nil _ _) rfl (by decide) (by decide)
  case isFalse noLine =>
  split
  case isTrue block =>
    obtain ⟨rfl, second⟩ := block
    have noDash : ¬(previous = some '-' ∧ '/' = '-') := fun both => nomatch both.2
    have first := castFrom_sign inferred (.inr rfl) noDash s
    rw [comment second] at first ⊢
    exact reads_enclosed ['/', '*'] rfl rfl first (castFrom_blockComment s.tail)
      (List.cons_ne_nil _ _) rfl (by decide) (by decide)
  case isFalse noBlock =>
  split
  case isTrue dollar =>
    obtain ⟨rfl, unnamed, digit⟩ := dollar
    exact reads_placeholder inferred (between.names.trans unnamed) digit
  case isFalse plain =>
    refine reads_other between.apart ⟨noLiteral, noName⟩ ?_ (between.names ▸ plain)
    rintro (⟨first, second⟩ | ⟨first, second⟩)
    · exact noLine ⟨Option.some.inj first, second⟩
    · exact noBlock ⟨Option.some.inj first, second⟩

/-- **The reader adds what the lexemes say**, and nothing else. -/
theorem castFrom_lexemes (before : Option Char) (s : List Char) :
    ∀ previous, (s ≠ [] → Between previous before s) →
      castFrom inferred (.code previous) s =
        (lexemes before s).flatMap fun lexeme => lexeme.text ++ lexeme.cast inferred := by
  induction before, s using lexemes.induct with
  | case1 before =>
    intro previous between
    rw [lexemes]
    rfl
  | case2 before c s first ih =>
    intro previous between
    obtain ⟨next, read, goesOn⟩ := reads_firstLexeme (between (List.cons_ne_nil _ _))
    rw [lexemes, List.flatMap_cons, read, ih next goesOn]

end TenantReports.Postgres
