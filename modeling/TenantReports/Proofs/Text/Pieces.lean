import Mathlib.Data.List.Basic
import Mathlib.Data.List.TakeWhile
import TenantReports.Text.Lines
import TenantReports.Text.Search

/-!
# Where a text is cut

**The first place of a character, and of a word, in a text put together from parts.**

* `eq_of_append_cons_eq`: a text without a character is told from what follows the character.
* `eq_of_intercalate_eq`: texts without the separator between them are told from each other.
* `splitOn_intercalate`: a text with separators is cut at each of them and where its pieces are.
* `splitWhen_eq_splitOnP`: pieces are those of the library.
* `lines_feed`: a line feed ends a line, whatever follows.
* `splitAt?_of_notMem`: a word is found where its first letter stands first.
* `trim_between`: blanks around a text without blanks at its ends are taken off.
* `eq_append_trim`: what is taken off are blanks.
* `words_trim`: taking them off leaves the words as they are.
-/

namespace TenantReports.Text

/-! ### Places of a character -/

/-- **The first place of a character is one place.** -/
theorem eq_of_append_cons_eq {α : Type} {c : α} {first other rest rest' : List α}
    (free : c ∉ first) (free' : c ∉ other) (same : first ++ c :: rest = other ++ c :: rest') :
    first = other ∧ rest = rest' := by
  -- If one of the two were longer, it would go on with the character.
  rcases List.append_eq_append_iff.mp same with ⟨more, longer, ends⟩ | ⟨more, longer, ends⟩
  · cases more with
    | nil => exact ⟨(List.append_nil first ▸ longer).symm, (List.cons.inj ends).2⟩
    | cons next more =>
      obtain ⟨rfl, -⟩ := List.cons.inj ends
      exact absurd (longer ▸ List.mem_append_right _ List.mem_cons_self) free'
  · cases more with
    | nil => exact ⟨List.append_nil other ▸ longer, (List.cons.inj ends).2.symm⟩
    | cons next more =>
      obtain ⟨rfl, -⟩ := List.cons.inj ends
      exact absurd (longer ▸ List.mem_append_right _ List.mem_cons_self) free

/-- Texts with a separator between them: the first, and each other one after the separator. -/
theorem intercalate_cons {α : Type} (separator first : List α) (rest : List (List α)) :
    separator.intercalate (first :: rest) = first ++ rest.flatMap (separator ++ ·) := by
  induction rest generalizing first with
  | nil => rw [List.intercalate_singleton, List.flatMap_nil, List.append_nil]
  | cons next rest ih =>
    rw [List.intercalate_cons_cons, ih, List.flatMap_cons, List.append_assoc, List.append_assoc]

/-- **Texts without the separator are told from each other**, and how many they are. -/
theorem eq_of_intercalate_eq {c : Char} {pieces others : List (List Char)} (some : pieces ≠ [])
    (some' : others ≠ []) (free : ∀ piece ∈ pieces, c ∉ piece)
    (free' : ∀ piece ∈ others, c ∉ piece)
    (same : [c].intercalate pieces = [c].intercalate others) : pieces = others := by
  rw [← List.splitOn_intercalate c free some, same, List.splitOn_intercalate c free' some']

/-- **A text with separators is cut at each of them** and where its pieces are. -/
theorem splitOn_intercalate {c : Char} {pieces : List (List Char)} (some : pieces ≠ []) :
    ([c].intercalate pieces).splitOn c = pieces.flatMap (·.splitOn c) := by
  induction pieces with
  | nil => exact absurd rfl some
  | cons piece rest ih =>
    cases rest with
    | nil => rw [List.intercalate_singleton, List.flatMap_singleton]
    | cons next rest =>
      rw [List.intercalate_cons_cons, List.append_assoc, List.singleton_append, List.flatMap_cons,
        ← ih (List.cons_ne_nil _ _)]
      exact List.splitOnP_append_cons _ _ (beq_self_eq_true c)

/-- Pieces are those of the library. -/
theorem splitWhen_eq_splitOnP (cut : Char → Bool) (s : List Char) :
    splitWhen cut s = s.splitOnP cut := by
  induction s with
  | nil => exact List.splitOnP_nil.symm
  | cons c rest ih =>
    rw [List.splitOnP_cons_eq_if_modifyHead, ← ih, splitWhen]
    cases pieces : splitWhen cut rest with
    | nil => exact absurd pieces (splitWhen_ne_nil cut rest)
    | cons piece pieces => rfl

/-! ### Lines -/

/-- What is last among the pieces decides how the lines end. -/
theorem linesOfPieces_append (pieces : List (List Char)) {rest : List (List Char)}
    (more : rest ≠ []) :
    linesOfPieces (pieces ++ rest) = pieces.map withoutReturn ++ linesOfPieces rest := by
  induction pieces with
  | nil => rfl
  | cons piece pieces ih =>
    cases left : pieces ++ rest with
    | nil => exact absurd (List.append_eq_nil_iff.mp left).2 more
    | cons next left' =>
      rw [List.cons_append, left, List.map_cons, List.cons_append, ← ih, left]
      rfl

/-- **A line feed ends a line**, whatever follows. -/
theorem lines_feed (s rest : List Char) :
    lines (s ++ '\n' :: rest) =
      (splitWhen (· == '\n') s).map withoutReturn ++ lines rest := by
  have cut : splitWhen (· == '\n') (s ++ '\n' :: rest) =
      splitWhen (· == '\n') s ++ splitWhen (· == '\n') rest := by
    rw [splitWhen_eq_splitOnP, splitWhen_eq_splitOnP, splitWhen_eq_splitOnP]
    exact List.splitOnP_append_cons s rest (beq_self_eq_true _)
  unfold lines
  rw [cut, linesOfPieces_append _ (splitWhen_ne_nil _ _)]

theorem splitWhen_of_notMem {c : Char} {s : List Char} (free : c ∉ s) :
    splitWhen (· == c) s = [s] := by
  rw [splitWhen_eq_splitOnP]
  refine List.splitOnP_eq_singleton fun other member => beq_eq_false_iff_ne.mpr fun same => ?_
  exact free (same ▸ member)

/-- A text whose last line is ended goes on with the lines of what follows. -/
theorem lines_append {s : List Char} (ended : s = [] ∨ s.getLast? = some '\n')
    (rest : List Char) : lines (s ++ rest) = lines s ++ lines rest := by
  rcases ended with rfl | last
  · rfl
  · obtain ⟨body, rfl⟩ := List.getLast?_eq_some_iff.mp last
    have none : lines [] = [] := rfl
    rw [List.append_assoc, List.singleton_append, lines_feed, lines_feed, none, List.append_nil]

/-- The end of a text that does not end a line is a line. -/
theorem lines_of_notMem {line : List Char} (whole : '\n' ∉ line) (some : line ≠ []) :
    lines line = [line] := by
  unfold lines
  rw [splitWhen_of_notMem whole]
  exact if_neg fun empty => some (List.isEmpty_iff.mp empty)

/-! ### Words -/

/-- **A word is found where its first letter stands first.** -/
theorem splitAt?_of_notMem {c : Char} {before : List Char} (free : c ∉ before)
    (word after : List Char) :
    splitAt? (c :: word) (before ++ (c :: word ++ after)) = some (before, after) := by
  induction before with
  | nil =>
    have starts : (c :: word).isPrefixOf? (c :: word ++ after) = some after :=
      List.isPrefixOf?_eq_some_iff_append_eq.mpr rfl
    rw [List.nil_append, List.cons_append, splitAt?, ← List.cons_append, starts]
  | cons first before ih =>
    obtain ⟨differs, free⟩ := not_or.mp (mt List.mem_cons.mpr free)
    have elsewhere : (c :: word).isPrefixOf? (first :: (before ++ (c :: word ++ after))) = none :=
      if_neg fun same => differs (eq_of_beq same)
    rw [List.cons_append, splitAt?, elsewhere]
    dsimp only
    rw [ih free]
    rfl

/-- A word that is found stands in the text. -/
theorem isInfix_of_splitAt? {word s before after : List Char}
    (found : splitAt? word s = some (before, after)) : word <:+: s :=
  ⟨before, after, (splitAt?_eq_append found).symm⟩

/-! ### Blanks at the ends -/

theorem trim_append_left {blanks : List Char} (blank : ∀ c ∈ blanks, isBlank c = true)
    (s : List Char) : trim (blanks ++ s) = trim s := by
  unfold trim trimStart
  rw [List.dropWhile_append_of_pos blank]

theorem trim_append_right {blanks : List Char} (blank : ∀ c ∈ blanks, isBlank c = true)
    (s : List Char) : trim (s ++ blanks) = trim s := by
  unfold trim trimStart trimEnd
  rw [List.dropWhile_append]
  split
  · next empty =>
    rw [List.isEmpty_iff.mp empty, List.dropWhile_eq_nil_iff.mpr blank]
  · rw [List.reverse_append, List.dropWhile_append_of_pos fun c member =>
      blank c (List.mem_reverse.mp member)]

theorem length_trim_le (s : List Char) : (trim s).length ≤ s.length := by
  have first : (trimStart s).length ≤ s.length := (List.dropWhile_suffix _).length_le
  have last : ((trimStart s).reverse.dropWhile isBlank).length ≤ (trimStart s).reverse.length :=
    (List.dropWhile_suffix _).length_le
  unfold trim trimEnd
  rw [List.length_reverse]
  rw [List.length_reverse] at last
  exact last.trans first

/-- A text that keeps its end when blanks are taken off does not end in one. -/
theorem not_isBlank_of_trim {s : List Char} {c : Char} (trimmed : trim s = s)
    (last : s.getLast? = some c) : isBlank c = false := by
  obtain ⟨body, rfl⟩ := List.getLast?_eq_some_iff.mp last
  refine Bool.eq_false_iff.mpr fun blank => ?_
  rw [trim_append_right fun other member => List.mem_singleton.mp member ▸ blank] at trimmed
  have longer := length_trim_le body
  rw [trimmed, List.length_append, List.length_singleton] at longer
  omega

/-- **Blanks around a text are taken off**, and no more if it has none at its ends. -/
theorem trim_between {left s right : List Char} (before : ∀ c ∈ left, isBlank c = true)
    (after : ∀ c ∈ right, isBlank c = true) (trimmed : trim s = s) :
    trim (left ++ s ++ right) = s := by
  rw [trim_append_right after, trim_append_left before, trimmed]

theorem trim_of_blank {s : List Char} (blank : ∀ c ∈ s, isBlank c = true) : trim s = [] := by
  have nothing := trim_append_left blank []
  rwa [List.append_nil] at nothing

/-- A text that starts and ends with other characters is left as it is. -/
theorem trim_of_ends {first last : Char} (starts : isBlank first = false)
    (ends : isBlank last = false) (middle : List Char) :
    trim (first :: (middle ++ [last])) = first :: (middle ++ [last]) := by
  have reversed : (first :: (middle ++ [last])).reverse = last :: (first :: middle).reverse := by
    simp
  unfold trim trimStart trimEnd
  rw [List.dropWhile_cons_of_neg (by simp [starts]), reversed,
    List.dropWhile_cons_of_neg (by simp [ends]), ← reversed, List.reverse_reverse]

theorem trimStart_eq_append (s : List Char) :
    ∃ right, trimStart s = trim s ++ right ∧ ∀ c ∈ right, isBlank c = true := by
  refine ⟨((trimStart s).reverse.takeWhile isBlank).reverse, ?_, fun c member => ?_⟩
  · unfold trim trimEnd
    rw [← List.reverse_append, List.takeWhile_append_dropWhile, List.reverse_reverse]
  · exact List.mem_takeWhile_imp (List.mem_reverse.mp member)

/-- **What is taken off a text are blanks** on either side. -/
theorem eq_append_trim (s : List Char) :
    ∃ left right, s = left ++ trim s ++ right ∧ (∀ c ∈ left, isBlank c = true) ∧
      ∀ c ∈ right, isBlank c = true := by
  obtain ⟨right, inner, after⟩ := trimStart_eq_append s
  refine ⟨s.takeWhile isBlank, right, ?_, fun c => List.mem_takeWhile_imp, after⟩
  rw [List.append_assoc, ← inner]
  exact List.takeWhile_append_dropWhile.symm

theorem trim_eq_nil_iff {s : List Char} : trim s = [] ↔ ∀ c ∈ s, isBlank c = true := by
  refine ⟨fun none => ?_, trim_of_blank⟩
  obtain ⟨left, right, split, before, after⟩ := eq_append_trim s
  rw [none, List.append_nil] at split
  intro c member
  rw [split] at member
  exact (List.mem_append.mp member).elim (before c) (after c)

/-- What is left of a text does not begin with a blank. -/
theorem isBlank_head_trim {s : List Char} {c : Char} (first : (trim s).head? = some c) :
    isBlank c = false := by
  obtain ⟨right, inner, -⟩ := trimStart_eq_append s
  obtain ⟨rest, trimmed⟩ := List.head?_eq_some_iff.mp first
  have kept := List.head?_dropWhile_not isBlank s
  unfold trimStart at inner
  rw [inner, trimmed] at kept
  simpa using kept

/-! ### Words between blanks -/

/-- **A blank ends a word**, whatever follows. -/
theorem words_append_cons {blank : Char} (isBlank : isBlank blank = true) (s rest : List Char) :
    words (s ++ blank :: rest) = words s ++ words rest := by
  unfold words
  rw [splitWhen_eq_splitOnP, splitWhen_eq_splitOnP, splitWhen_eq_splitOnP,
    List.splitOnP_append_cons s rest isBlank, List.filter_append]

theorem words_of_blank {s : List Char} (blank : ∀ c ∈ s, isBlank c = true) : words s = [] := by
  induction s with
  | nil => rfl
  | cons c s ih =>
    obtain ⟨first, rest⟩ := List.forall_mem_cons.mp blank
    exact (words_append_cons first [] s).trans (ih rest)

theorem words_append_right {blanks : List Char} (blank : ∀ c ∈ blanks, isBlank c = true)
    (s : List Char) : words (s ++ blanks) = words s := by
  cases blanks with
  | nil => rw [List.append_nil]
  | cons c blanks =>
    obtain ⟨first, rest⟩ := List.forall_mem_cons.mp blank
    rw [words_append_cons first, words_of_blank rest, List.append_nil]

theorem words_append_left {blanks : List Char} (blank : ∀ c ∈ blanks, isBlank c = true)
    (s : List Char) : words (blanks ++ s) = words s := by
  induction blanks with
  | nil => rfl
  | cons c blanks ih =>
    obtain ⟨first, rest⟩ := List.forall_mem_cons.mp blank
    exact (words_append_cons first [] (blanks ++ s)).trans (ih rest)

/-- **The words of a text are those that it has without the blanks at its ends.** -/
theorem words_trim (s : List Char) : words (trim s) = words s := by
  obtain ⟨left, right, split, before, after⟩ := eq_append_trim s
  conv_rhs => rw [split, words_append_right after, words_append_left before]

end TenantReports.Text
