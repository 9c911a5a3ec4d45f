import Mathlib.Data.List.Induction
import TenantReports.Pattern.Parser

/-!
# The pattern of a single text

**Every text has a pattern that matches it and no other.** The pattern stands between the anchors of
the text's start and end, and characters that mean something in patterns follow a backslash.

* `isMatch_only_iff`: what the expression `Regex.only` matches.
* `ofText?_quoted`: the pattern `quoted` is read as this expression, if it is not too large.
-/

namespace TenantReports.Pattern

/-! ### The expression -/

/-- An expression, and then the characters of a text. -/
def Regex.then (regex : Regex) (s : List Char) : Regex :=
  s.foldl (fun before c => .concat before (.letter (.single c))) regex

/-- The expression that matches a text and no other. -/
def Regex.only (s : List Char) : Regex :=
  .concat (Regex.then (.concat .empty (.anchor .textStart)) s) (.anchor .textEnd)

theorem mem_single {c d : Char} : (Letters.single c).mem d = true ↔ d = c := by
  unfold Letters.single Letters.mem
  rw [Bool.and_eq_true, decide_eq_true_eq, decide_eq_true_eq]
  exact ⟨fun both => Char.le_antisymm both.2 both.1,
    fun same => same ▸ ⟨Char.le_refl _, Char.le_refl _⟩⟩

/-- A character leads from one place to the next if it stands there. -/
theorem ends_letter {text : List Char} {c : Char} {i : Nat} :
    (Regex.letter (.single c)).ends text.toArray [i] =
      if text[i]? = some c then [i + 1] else [] := by
  have here : (text.toArray[i]?.any (Letters.single c).mem) = true ↔ text[i]? = some c := by
    rw [List.getElem?_toArray, Option.any_eq_true]
    refine ⟨fun ⟨d, found, same⟩ => mem_single.mp same ▸ found, fun found => ⟨c, found, ?_⟩⟩
    exact mem_single.mpr rfl
  unfold Regex.ends
  rw [List.filterMap_cons, List.filterMap_nil]
  by_cases found : text[i]? = some c
  · rw [if_pos (here.mpr found), if_pos found]
  · rw [if_neg (fun any => found (here.mp any)), if_neg found]

/-- The characters of a text lead from the start to the place after them if the text starts so. -/
theorem ends_then {text : List Char} {regex : Regex} {places : List Nat}
    (start : regex.ends text.toArray places = [0]) (s : List Char) :
    (Regex.then regex s).ends text.toArray places = if s <+: text then [s.length] else [] := by
  induction s using List.reverseRecOn with
  | nil => rw [if_pos (List.nil_prefix)]; exact start
  | append_singleton s c ih =>
    have grown : Regex.then regex (s ++ [c]) = .concat (Regex.then regex s) (.letter (.single c)) :=
      List.foldl_append ..
    rw [grown, Regex.ends, ih]
    by_cases starts : s <+: text
    · obtain ⟨rest, rfl⟩ := starts
      rw [if_pos (List.prefix_append _ _), ends_letter, List.getElem?_append_right (Nat.le_refl _),
        Nat.sub_self, List.length_append, List.length_singleton]
      refine if_congr ?_ rfl rfl
      rw [List.prefix_append_right_inj]
      cases rest with
      | nil => simp
      | cons d rest => simp [eq_comm]
    · rw [if_neg starts, if_neg (fun whole => starts ((List.prefix_append _ _).trans whole))]
      rfl

/-- **What `only` matches.** -/
theorem isMatch_only_iff {s : List Char} {t : String} :
    (Regex.only s).isMatch t = true ↔ t.toList = s := by
  have start : (Regex.concat .empty (.anchor .textStart)).ends t.toList.toArray
      (List.range (t.toList.toArray.size + 1)) = [0] := by
    show (List.range (t.toList.toArray.size + 1)).filter (fun i => i == 0) = [0]
    rw [List.range_succ_eq_map, List.filter_cons, if_pos (beq_self_eq_true 0)]
    refine congrArg _ (List.filter_eq_nil_iff.mpr fun i member => ?_)
    obtain ⟨j, -, rfl⟩ := List.mem_map.mp member
    exact Bool.false_ne_true
  have ends : (Regex.only s).ends t.toList.toArray (List.range (t.toList.toArray.size + 1)) =
      if s <+: t.toList then [s.length].filter (fun i => i == t.toList.length) else [] := by
    show ((Regex.then _ s).ends _ _).filter (fun i => i == t.toList.length) = _
    rw [ends_then start]
    split <;> rfl
  show (!((Regex.only s).ends t.toList.toArray (List.range _)).isEmpty) = true ↔ _
  rw [ends]
  by_cases starts : s <+: t.toList
  · rw [if_pos starts, List.filter_cons, List.filter_nil]
    constructor
    · intro matches'
      split at matches'
      · next size => exact (starts.eq_of_length (beq_iff_eq.mp size)).symm
      · cases matches'
    · intro same
      rw [if_pos (beq_iff_eq.mpr (congrArg List.length same.symm))]
      rfl
  · rw [if_neg starts]
    exact ⟨fun none => (nomatch none), fun same => absurd (same ▸ List.prefix_rfl) starts⟩

/-! ### The pattern -/

/-- The characters that mean something in patterns outside of brackets. -/
def isMeta (c : Char) : Bool :=
  ['\\', '.', '+', '*', '?', '(', ')', '|', '[', '\x7b', '^', '$'].contains c

/-- The pattern of a character. -/
def quotedChar (c : Char) : List Char :=
  if isMeta c then ['\\', c] else [c]

/-- The pattern that matches a text and no other. -/
def quoted (s : List Char) : String :=
  String.ofList ('^' :: (s.flatMap quotedChar ++ ['$']))

/-- The reading with the options that a pattern starts with. -/
abbrev Reading.initial : Reading := ⟨.initial, []⟩

theorem operand?_quotedChar (c : Char) (rest : List Char) :
    operand? .initial (quotedChar c ++ rest) = some (.letter (.single c), rest) := by
  unfold quotedChar
  by_cases special : isMeta c
  · rw [if_pos special]
    have among : c = '\\' ∨ c = '.' ∨ c = '+' ∨ c = '*' ∨ c = '?' ∨ c = '(' ∨ c = ')' ∨ c = '|' ∨
        c = '[' ∨ c = '\x7b' ∨ c = '^' ∨ c = '$' := by
      simpa [isMeta] using special
    rcases among with rfl | rfl | rfl | rfl | rfl | rfl | rfl | rfl | rfl | rfl | rfl | rfl <;> rfl
  · rw [if_neg special]
    show operand? .initial (c :: rest) = _
    unfold operand?
    split
    case h_1 same => cases same
    case h_7 same => cases same; rfl
    all_goals
      next same =>
        cases same
        exact absurd rfl special

/-- A character that is read becomes the last operand. -/
theorem branch?_quotedChar (fuel : Nat) (before last : Regex) (c : Char) (rest : List Char) :
    branch? (fuel + 1) .initial before (some last) (quotedChar c ++ rest) =
      branch? fuel .initial (.concat before last) (some (.letter (.single c))) rest := by
  have read := operand?_quotedChar c rest
  unfold quotedChar at read ⊢
  by_cases special : isMeta c
  · rw [if_pos special] at read ⊢
    show (operand? .initial ('\\' :: c :: rest)).bind (fun found =>
      branch? fuel .initial (.concat before last) (some found.1) found.2) = _
    rw [show operand? .initial ('\\' :: c :: rest) = _ from read]
    rfl
  · rw [if_neg special] at read ⊢
    have once : isRepetition c = false := by
      refine Bool.eq_false_iff.mpr fun repeats => special ?_
      have among : c = '*' ∨ c = '+' ∨ c = '?' ∨ c = '\x7b' := by
        simpa [isRepetition, or_assoc] using repeats
      rcases among with rfl | rfl | rfl | rfl <;> rfl
    have plain : skipSpaced Reading.initial.options ([c] ++ rest) = c :: rest := rfl
    rw [branch?.eq_def]
    simp only [plain]
    split
    case h_1 same => cases same
    case h_5 same =>
      cases same
      rw [once, if_neg Bool.false_ne_true]
      show (operand? .initial ([c] ++ rest)).bind (fun found =>
        branch? fuel .initial (.concat before last) (some found.1) found.2) = _
      rw [read]
      rfl
    all_goals
      next same =>
        cases same
        exact absurd rfl special

/-- **Characters that are read follow one after another**, and the end of the text follows them. -/
theorem branch?_quoted (fuel : Nat) (before last : Regex) (s : List Char) :
    branch? (fuel + s.length + 2) .initial before (some last) (s.flatMap quotedChar ++ ['$']) =
      some (.concat (Regex.then (.concat before last) s) (.anchor .textEnd), .initial, []) := by
  induction s generalizing before last with
  | nil => rfl
  | cons c s ih =>
    rw [List.flatMap_cons, List.append_assoc, List.length_cons]
    exact (branch?_quotedChar (fuel + s.length + 2) before last c _).trans (ih _ _)

theorem size_then (regex : Regex) (s : List Char) :
    (Regex.then regex s).size = regex.size + 2 * s.length := by
  induction s generalizing regex with
  | nil => rfl
  | cons c s ih =>
    refine (ih (.concat regex (.letter (.single c)))).trans ?_
    show regex.size + 1 + 1 + 2 * s.length = _
    rw [List.length_cons]
    omega

theorem length_quoted (s : List Char) : s.length ≤ (s.flatMap quotedChar).length := by
  induction s with
  | nil => exact Nat.le_refl _
  | cons c s ih =>
    rw [List.flatMap_cons, List.length_append, List.length_cons, quotedChar]
    split <;> simp only [List.length_cons, List.length_nil] <;> omega

/-- **The pattern `quoted` is read as the expression `Regex.only`**, if that is not too large. -/
theorem ofText?_quoted {s : List Char} (fits : 2 * s.length + 4 ≤ maxSize) :
    Regex.ofText? (quoted s) = some (Regex.only s) := by
  have listed : (quoted s).toList = '^' :: (s.flatMap quotedChar ++ ['$']) := String.toList_ofList
  obtain ⟨fuel, enough⟩ :
      ∃ fuel, 3 * (quoted s).toList.length + 3 = fuel + s.length + 2 + 1 + 1 := by
    have grows := length_quoted s
    rw [listed, List.length_cons, List.length_append, List.length_singleton]
    exact ⟨3 * ((s.flatMap quotedChar).length + 1 + 1) + 3 - (s.length + 4), by omega⟩
  have size : (Regex.only s).size ≤ maxSize := by
    show (Regex.then _ s).size + 1 + 1 ≤ maxSize
    rw [size_then]
    show 0 + 1 + 1 + 2 * s.length + 1 + 1 ≤ maxSize
    omega
  have whole : alternatives? (3 * (quoted s).toList.length + 3) .initial (quoted s).toList =
      some (Regex.only s, .initial, []) := by
    rw [enough, listed]
    have first : branch? (fuel + s.length + 2 + 1) .initial .empty none
        ('^' :: (s.flatMap quotedChar ++ ['$'])) = some (Regex.only s, .initial, []) :=
      branch?_quoted fuel .empty (.anchor .textStart) s
    rw [alternatives?, first]
    rfl
  unfold Regex.ofText?
  show (alternatives? (3 * (quoted s).toList.length + 3) .initial (quoted s).toList).bind _ = _
  rw [whole]
  show (if _ then _ else _) = _
  rw [if_pos]
  · rfl
  · rw [Bool.and_eq_true]
    exact ⟨rfl, decide_eq_true size⟩

end TenantReports.Pattern
