import TenantReports.Config.Basic
import TenantReports.Proofs.Keyed
import TenantReports.Proofs.Text.Pieces
import TenantReports.Proofs.Text.Utf8

/-!
# Configuration files that are written and read

**A file with a line `KEY="value"` for each assignment gives these assignments**, whatever blanks
stand in its lines, however the lines end, and whatever comments stand between them. A file is
refused for its first line that is none of these, and for nothing else.

* `ConfigFile.Layout`: a file as it may be written.
* `assignment?_text`: a line gives what it was written for.
* `entries_eq`: the lines of a file are the pieces between its line feeds.
* `entries_text`: a file gives what it was written for.
* `Faulty`: what is wrong with a line, said of its characters only.
* `assignment?_eq_error_iff`: which lines are refused, and why.
* `ofLines_eq_error_iff`: a file is refused for its first faulty line.
* `encode_unquote`: quotes are taken off the octets of a value as off its characters.
* `file_read_back`: all of these together.
-/

namespace TenantReports

namespace ConfigFile

open Text (isBlank trim)

/-! ### Lines as they may be written -/

/-- Blanks that stay in their line. -/
structure Blanks where
  text : List Char
  blank : ∀ c ∈ text, isBlank c = true
  whole : '\n' ∉ text

/-- A key that a line can assign to. -/
structure Key where
  name : String
  named : name ≠ ""
  trimmed : Text.trimmed name = name
  unsigned : '=' ∉ name.toList
  whole : '\n' ∉ name.toList
  uncommented : name.toList.head? ≠ some '#'

/-- A text that stays in its line. -/
structure Inline where
  text : String
  whole : '\n' ∉ text.toList

/-- **A line as it may be written.** -/
inductive Line
  | blank (blanks : Blanks)
  /-- Any text after a hash sign. -/
  | comment (before : Blanks) (remark : Inline)
  /-- `KEY="value"`, with blanks before and after the key and before and after the quotes. -/
  | assignment (key : Key) (value : Inline) (before middle left after : Blanks)

/-- How a line ends. -/
inductive Ending
  | feed
  | returnFeed

/-- **A file as it may be written**; its last line need not end. -/
structure Layout where
  lines : List (Line × Ending)
  last : Option Line

namespace Line

/-- The characters of a line. -/
def text : Line → List Char
  | blank blanks => blanks.text
  | comment before remark => before.text ++ '#' :: remark.text.toList
  | assignment key value before middle left after =>
    before.text ++ (key.name.toList ++ middle.text ++
      '=' :: (left.text ++ '"' :: (value.text.toList ++ ['"']))) ++ after.text

/-- What a line is written for. -/
def pair? : Line → Option (String × String)
  | assignment key value _ _ _ _ => some (key.name, value.text)
  | _ => none

end Line

/-- The characters between a line and its line feed. -/
def Ending.before : Ending → List Char
  | .feed => []
  | .returnFeed => ['\r']

namespace Layout

/-- The characters of a file. -/
def text (layout : Layout) : List Char :=
  (layout.lines.flatMap fun line => line.1.text ++ (line.2.before ++ ['\n'])) ++
    (layout.last.elim [] Line.text)

/-- What a file is written for, in the order of its lines. -/
def pairs (layout : Layout) : List (String × String) :=
  (layout.lines.map (·.1) ++ layout.last.toList).filterMap Line.pair?

end Layout

/-! ### Reading a line -/

variable {line : List Char}

theorem assignment?_of_blank (blank : ∀ c ∈ line, isBlank c = true) :
    assignment? (trim line) = .ok none := by
  rw [Text.trim_of_blank blank]
  rfl

theorem assignment?_comment (rest : List Char) : assignment? ('#' :: rest) = .ok none := rfl

/-- A hash sign after blanks is the first character that is left. -/
theorem trim_comment {blanks : List Char} (blank : ∀ c ∈ blanks, isBlank c = true)
    (rest : List Char) : ∃ rest', trim (blanks ++ '#' :: rest) = '#' :: rest' := by
  rw [Text.trim_append_left blank]
  obtain ⟨right, inner, after⟩ := Text.trimStart_eq_append ('#' :: rest)
  have starts : Text.trimStart ('#' :: rest) = '#' :: rest := rfl
  rw [starts] at inner
  cases left : trim ('#' :: rest) with
  | nil =>
    rw [left, List.nil_append] at inner
    exact absurd (after '#' (inner ▸ List.mem_cons_self)) (by decide)
  | cons c rest' =>
    rw [left, List.cons_append] at inner
    exact ⟨rest', by rw [(List.cons.inj inner).1]⟩

/-- What the first equals sign of a line makes of it. -/
theorem assignment?_append {name value : List Char} (unsigned : '=' ∉ name)
    (uncommented : (name ++ '=' :: value).head? ≠ some '#') :
    assignment? (name ++ '=' :: value) =
      if (trim name).isEmpty then .error .emptyKey
      else .ok (some (String.ofList (trim name), String.ofList (unquote (trim value)))) := by
  have found : Text.splitAt? ['='] (name ++ '=' :: value) = some (name, value) :=
    Text.splitAt?_of_notMem unsigned [] value
  have goesOn : ((name ++ '=' :: value).isEmpty ||
      (name ++ '=' :: value).head? == some '#') = false := by
    simpa using uncommented
  unfold assignment?
  rw [goesOn, found]
  rfl

theorem assignment?_unsigned {c : Char} {rest : List Char} (unsigned : '=' ∉ c :: rest)
    (uncommented : c ≠ '#') : assignment? (c :: rest) = .error .noAssignment := by
  have goesOn : ((c :: rest).isEmpty || (c :: rest).head? == some '#') = false := by
    simpa using uncommented
  have nowhere : Text.splitAt? ['='] (c :: rest) = none := by
    cases found : Text.splitAt? ['='] (c :: rest) with
    | none => rfl
    | some cut => exact absurd ((Text.isInfix_of_splitAt? found).subset List.mem_cons_self) unsigned
  unfold assignment?
  rw [goesOn, nowhere]
  rfl

theorem unquote_quoted (s : List Char) : unquote ('"' :: (s ++ ['"'])) = s := by
  have quoted : isQuoted ('"' :: (s ++ ['"'])) = true := by
    have last : ('"' :: (s ++ ['"'])).getLast? = some '"' := by
      rw [← List.cons_append, List.getLast?_concat]
    simp [isQuoted, last]
  rw [unquote, if_pos quoted, List.tail_cons, List.dropLast_concat]

/-- **A line gives what it was written for.** -/
theorem assignment?_text (line : Line) : assignment? (trim line.text) = .ok line.pair? := by
  cases line with
  | blank blanks => exact assignment?_of_blank blanks.blank
  | comment before remark =>
    obtain ⟨rest, left⟩ := trim_comment before.blank remark.text.toList
    rw [Line.text, left]
    rfl
  | assignment key value before middle left after =>
    have trimmed : trim key.name.toList = key.name.toList :=
      String.ofList_injective (key.trimmed.trans String.ofList_toList.symm)
    have nonempty : key.name.toList ≠ [] := mt String.toList_eq_nil_iff.mp key.named
    obtain ⟨c, rest, name⟩ := List.exists_cons_of_ne_nil nonempty
    have first : isBlank c = false := by
      refine Text.isBlank_head_trim (s := key.name.toList) ?_
      rw [trimmed, name]
      rfl
    -- Neither the key's first character nor the closing quote is a blank.
    have core : trim (key.name.toList ++ middle.text ++
        '=' :: (left.text ++ '"' :: (value.text.toList ++ ['"']))) = key.name.toList ++
          middle.text ++ '=' :: (left.text ++ '"' :: (value.text.toList ++ ['"'])) := by
      have ends := Text.trim_of_ends first (show isBlank '"' = false by decide)
        (rest ++ middle.text ++ '=' :: (left.text ++ '"' :: value.text.toList))
      rw [name]
      simpa using ends
    have noSign : '=' ∉ key.name.toList ++ middle.text := by
      rw [List.mem_append]
      exact not_or.mpr ⟨key.unsigned, fun member => absurd (middle.blank '=' member) (by decide)⟩
    have plain : (key.name.toList ++ middle.text ++
        '=' :: (left.text ++ '"' :: (value.text.toList ++ ['"']))).head? ≠ some '#' := by
      have uncommented := key.uncommented
      rw [name] at uncommented ⊢
      exact uncommented
    have named : trim (key.name.toList ++ middle.text) = key.name.toList := by
      rw [Text.trim_append_right middle.blank, trimmed]
    have quoted : trim (left.text ++ '"' :: (value.text.toList ++ ['"'])) =
        '"' :: (value.text.toList ++ ['"']) := by
      rw [Text.trim_append_left left.blank]
      exact Text.trim_of_ends (by decide) (by decide) _
    rw [Line.text, Text.trim_between before.blank after.blank core,
      assignment?_append noSign plain, named, quoted, unquote_quoted, String.ofList_toList,
      String.ofList_toList, if_neg (by simpa using nonempty)]
    rfl

/-! ### The lines of a file -/

theorem trim_withoutReturn (line : List Char) : trim (Text.withoutReturn line) = trim line := by
  unfold Text.withoutReturn
  split
  · next returns =>
    obtain ⟨body, rfl⟩ := List.getLast?_eq_some_iff.mp returns
    rw [List.dropLast_concat, Text.trim_append_right]
    intro c member
    rw [List.mem_singleton.mp member]
    decide
  · rfl

/-- A line is read alike with and without the carriage return at its end, and an empty piece at the
end of a file says nothing. -/
theorem ofLines_linesOfPieces (number : Nat) (pieces : List (List Char)) :
    ofLines number (Text.linesOfPieces pieces) = ofLines number pieces := by
  induction pieces generalizing number with
  | nil => rfl
  | cons piece rest ih =>
    cases rest with
    | nil =>
      cases piece with
      | nil => rfl
      | cons c piece => rfl
    | cons next rest =>
      have cut : Text.linesOfPieces (piece :: next :: rest) =
          Text.withoutReturn piece :: Text.linesOfPieces (next :: rest) := rfl
      rw [cut, ofLines, ofLines, trim_withoutReturn, ih]

/-- **The lines of a file are the pieces between its line feeds.** -/
theorem entries_eq (contents : String) :
    entries contents = ofLines 1 (contents.toList.splitOn '\n') := by
  rw [entries, Text.lines, ofLines_linesOfPieces, Text.splitWhen_eq_splitOnP]
  rfl

/-- Lines that can all be read give what they assign. -/
theorem ofLines_of_reads {α : Type} {text : α → List Char} {pair? : α → Option (String × String)}
    {lines : List α} (reads : ∀ line ∈ lines, assignment? (trim (text line)) = .ok (pair? line))
    (number : Nat) : ofLines number (lines.map text) = .ok (lines.filterMap pair?) := by
  induction lines generalizing number with
  | nil => rfl
  | cons line rest ih =>
    obtain ⟨here, there⟩ := List.forall_mem_cons.mp reads
    rw [List.map_cons, ofLines, here]
    cases found : pair? line with
    | none =>
      rw [List.filterMap_cons_none found]
      exact ih there _
    | some pair =>
      rw [List.filterMap_cons_some found]
      dsimp only
      rw [ih there]
      rfl

theorem whole_text (line : Line) : '\n' ∉ line.text := by
  cases line with
  | blank blanks => exact blanks.whole
  | comment before remark => simp [Line.text, before.whole, remark.whole]
  | assignment key value before middle left after =>
    simp [Line.text, before.whole, key.whole, middle.whole, left.whole, value.whole, after.whole]

/-- The pieces of a file between its line feeds. -/
theorem splitOn_text (layout : Layout) :
    layout.text.splitOn '\n' = (layout.lines.map fun line => line.1.text ++ line.2.before) ++
      [layout.last.elim [] Line.text] := by
  obtain ⟨lines, last⟩ := layout
  induction lines with
  | nil =>
    have whole : '\n' ∉ last.elim [] Line.text := by
      cases last with
      | none => exact List.not_mem_nil
      | some line => exact whole_text line
    exact (Text.splitWhen_eq_splitOnP _ _).symm.trans (Text.splitWhen_of_notMem whole)
  | cons line rest ih =>
    have whole : '\n' ∉ line.1.text ++ line.2.before := by
      rw [List.mem_append]
      refine not_or.mpr ⟨whole_text line.1, ?_⟩
      cases line.2 <;> decide
    have first : (line.1.text ++ line.2.before).splitOnP (· == '\n') =
        [line.1.text ++ line.2.before] :=
      (Text.splitWhen_eq_splitOnP _ _).symm.trans (Text.splitWhen_of_notMem whole)
    have opened : Layout.text ⟨line :: rest, last⟩ =
        line.1.text ++ line.2.before ++ '\n' :: Layout.text ⟨rest, last⟩ := by
      simp [Layout.text]
    have cut : (line.1.text ++ line.2.before ++ '\n' :: Layout.text ⟨rest, last⟩).splitOn '\n' =
        (line.1.text ++ line.2.before).splitOnP (· == '\n') ++
          (Layout.text ⟨rest, last⟩).splitOn '\n' :=
      List.splitOnP_append_cons _ _ (beq_self_eq_true _)
    rw [opened, cut, first, ih]
    rfl

/-- **A file gives what it was written for.** -/
theorem entries_text (layout : Layout) :
    entries (String.ofList layout.text) = .ok layout.pairs := by
  -- Each piece with what it is written for; what ends a line is a blank to its reader.
  let pieces : List (List Char × Option (String × String)) :=
    (layout.lines.map fun line => (line.1.text ++ line.2.before, line.1.pair?)) ++
      [(layout.last.elim [] Line.text, layout.last.bind Line.pair?)]
  have texts : layout.text.splitOn '\n' = pieces.map (·.1) := by
    simp [pieces, splitOn_text]
  have pairs : pieces.filterMap (·.2) = layout.pairs := by
    have ended : (layout.lines.map fun line =>
        (line.1.text ++ line.2.before, line.1.pair?)).filterMap (·.2) =
          (layout.lines.map (·.1)).filterMap Line.pair? := by
      rw [List.filterMap_map, List.filterMap_map]
      rfl
    have last : [layout.last.bind Line.pair?].filterMap id =
        layout.last.toList.filterMap Line.pair? := by
      cases layout.last with
      | none => rfl
      | some line => cases line <;> rfl
    rw [Layout.pairs, List.filterMap_append, List.filterMap_append, ended, ← last]
    rfl
  have reads : ∀ piece ∈ pieces, assignment? (trim piece.1) = .ok piece.2 := by
    intro piece member
    rcases List.mem_append.mp member with ended | last
    · obtain ⟨line, -, rfl⟩ := List.mem_map.mp ended
      dsimp only
      rw [Text.trim_append_right, assignment?_text]
      cases line.2 <;> simp [Ending.before, isBlank]
    · obtain rfl := List.mem_singleton.mp last
      cases layout.last with
      | none => rfl
      | some line => exact assignment?_text line
  rw [entries_eq, String.toList_ofList, texts, ofLines_of_reads reads, pairs]

/-! ### Faulty lines -/

/-- **What is wrong with a line**: it is not blank, it is no comment, and nothing stands before its
first equals sign. -/
structure Faulty (line : List Char) : Prop where
  shows : ∃ c ∈ line, isBlank c = false
  uncommented : ∀ before rest, line = before ++ '#' :: rest → ∃ c ∈ before, isBlank c = false
  unnamed : ∀ before rest, line = before ++ '=' :: rest → '=' ∉ before →
    ∀ c ∈ before, isBlank c = true

/-- The fault of a line that is faulty. -/
def fault (line : List Char) : LineFault :=
  if '=' ∈ line then .emptyKey else .noAssignment

theorem Faulty.head_ne {c : Char} (faulty : Faulty line) (first : (trim line).head? = some c) :
    c ≠ '#' := by
  rintro rfl
  obtain ⟨rest, trimmed⟩ := List.head?_eq_some_iff.mp first
  obtain ⟨left, right, split, before, -⟩ := Text.eq_append_trim line
  rw [trimmed, List.append_assoc] at split
  obtain ⟨c, member, shows⟩ := faulty.uncommented left (rest ++ right) split
  rw [before c member] at shows
  cases shows

theorem not_faulty_of_trim_eq_nil (empty : trim line = []) : ¬Faulty line := by
  intro faulty
  obtain ⟨c, member, shows⟩ := faulty.shows
  rw [Text.trim_eq_nil_iff.mp empty c member] at shows
  cases shows

/-- **Which lines are refused, and why.** -/
theorem assignment?_eq_error_iff {reason : LineFault} :
    assignment? (trim line) = .error reason ↔ Faulty line ∧ reason = fault line := by
  obtain ⟨left, right, split, before, after⟩ := Text.eq_append_trim line
  cases trimmed : trim line with
  | nil => exact ⟨nofun, fun refused => absurd refused.1 (not_faulty_of_trim_eq_nil trimmed)⟩
  | cons c rest =>
    have first : (trim line).head? = some c := by rw [trimmed]; rfl
    have shown : isBlank c = false := Text.isBlank_head_trim first
    rw [trimmed] at split
    have sign : '=' ∈ line ↔ '=' ∈ c :: rest := by
      have ofBlank : isBlank '=' = false := by decide
      rw [split, List.mem_append, List.mem_append]
      constructor
      · rintro ((member | member) | member)
        · rw [before _ member] at ofBlank
          cases ofBlank
        · exact member
        · rw [after _ member] at ofBlank
          cases ofBlank
      · exact fun member => .inl (.inr member)
    by_cases comment : c = '#'
    · subst comment
      rw [assignment?_comment]
      exact ⟨nofun, fun refused => absurd rfl (refused.1.head_ne first)⟩
    have shows : ∃ d ∈ line, isBlank d = false :=
      ⟨c, split ▸ List.mem_append_left _ (List.mem_append_right _ List.mem_cons_self), shown⟩
    have uncommented : ∀ before rest, line = before ++ '#' :: rest →
        ∃ d ∈ before, isBlank d = false := by
      intro blanks more same
      by_contra none
      push Not at none
      have blank : ∀ d ∈ blanks, isBlank d = true := fun d member =>
        (Bool.not_eq_false _).mp (none d member)
      obtain ⟨rest', hash⟩ := trim_comment blank more
      rw [← same, trimmed] at hash
      exact comment (List.cons.inj hash).1
    by_cases signed : '=' ∈ c :: rest
    · -- The first equals sign of the line is that of what is left of it.
      obtain ⟨name, value, cut, unsigned⟩ := List.eq_append_cons_of_mem signed
      have whole : line = left ++ name ++ '=' :: (value ++ right) := by
        rw [split, cut]
        simp
      have free : '=' ∉ left ++ name := by
        rw [List.mem_append]
        refine not_or.mpr ⟨fun member => ?_, unsigned⟩
        exact absurd (before _ member) (by decide)
      have plain : (name ++ '=' :: value).head? ≠ some '#' := by
        rw [← cut]
        simpa using comment
      rw [cut, assignment?_append unsigned plain]
      by_cases named : trim name = []
      · have blank := Text.trim_eq_nil_iff.mp named
        have faulty : Faulty line := by
          refine ⟨shows, uncommented, fun before' rest' same free' => ?_⟩
          obtain ⟨rfl, -⟩ := Text.eq_of_append_cons_eq free' free (same.symm.trans whole)
          exact fun d member => (List.mem_append.mp member).elim (before d) (blank d)
        rw [if_pos (by simpa using named), fault, if_pos (sign.mpr signed)]
        exact ⟨fun same => ⟨faulty, (Except.error.inj same).symm⟩, fun same => by rw [same.2]⟩
      · rw [if_neg (by simpa using named)]
        refine ⟨nofun, fun refused => absurd (Text.trim_eq_nil_iff.mpr fun d member => ?_) named⟩
        exact refused.1.unnamed _ _ whole free d (List.mem_append_right _ member)
    · have faulty : Faulty line := by
        refine ⟨shows, uncommented, fun before' rest' same => ?_⟩
        exact absurd (sign.mp (same ▸ List.mem_append_right _ List.mem_cons_self)) signed
      rw [assignment?_unsigned signed comment, fault, if_neg (mt sign.mp signed)]
      exact ⟨fun same => ⟨faulty, (Except.error.inj same).symm⟩, fun same => by rw [same.2]⟩

/-- **A file is refused for the first of its lines that is faulty.** -/
theorem ofLines_eq_error_iff {number : Nat} {lines : List (List Char)} {error : StartupError} :
    ofLines number lines = .error error ↔
      ∃ before line after, lines = before ++ line :: after ∧ Faulty line ∧
        (∀ earlier ∈ before, ¬Faulty earlier) ∧
        error = .line (number + before.length) (fault line) := by
  induction lines generalizing number with
  | nil => simp [ofLines]
  | cons line rest ih =>
    by_cases faulty : Faulty line
    · have refused := assignment?_eq_error_iff.mpr ⟨faulty, rfl⟩
      rw [ofLines, refused]
      constructor
      · intro same
        exact ⟨[], line, rest, rfl, faulty, nofun, (Except.error.inj same).symm⟩
      · rintro ⟨before, first, after, split, -, sound, rfl⟩
        cases before with
        | nil => rw [(List.cons.inj split).1]; rfl
        | cons earlier before =>
          exact absurd ((List.cons.inj split).1 ▸ faulty) (sound earlier List.mem_cons_self)
    · -- A line that is read leaves the numbers of the lines after it to count on.
      have later : ofLines number (line :: rest) = .error error ↔
          ofLines (number + 1) rest = .error error := by
        cases read : assignment? (trim line) with
        | error reason => exact absurd (assignment?_eq_error_iff.mp read).1 faulty
        | ok found =>
          rw [ofLines, read]
          cases found with
          | none => exact Iff.rfl
          | some pair => cases ofLines (number + 1) rest <;> simp [Except.map]
      rw [later, ih]
      constructor
      · rintro ⟨before, first, after, rfl, bad, sound, rfl⟩
        refine ⟨line :: before, first, after, rfl, bad, ?_, ?_⟩
        · exact List.forall_mem_cons.mpr ⟨faulty, sound⟩
        · rw [List.length_cons, Nat.add_assoc, Nat.add_comm 1]
      · rintro ⟨before, first, after, split, bad, sound, rfl⟩
        cases before with
        | nil => exact absurd ((List.cons.inj split).1 ▸ bad) faulty
        | cons earlier before =>
          refine ⟨before, first, after, (List.cons.inj split).2, bad, ?_, ?_⟩
          · exact (List.forall_mem_cons.mp sound).2
          · rw [List.length_cons, Nat.add_assoc, Nat.add_comm 1]

theorem faulty_iff : Faulty line ↔ (assignment? (trim line)).toOption = none := by
  cases read : assignment? (trim line) with
  | error reason => exact ⟨fun _ => rfl, fun _ => (assignment?_eq_error_iff.mp read).1⟩
  | ok found =>
    refine ⟨fun faulty => ?_, nofun⟩
    cases read.symm.trans (assignment?_eq_error_iff.mpr ⟨faulty, rfl⟩)

instance : DecidablePred Faulty :=
  fun _ => decidable_of_iff _ faulty_iff.symm

/-- The first faulty line of a file, by its number from one on. -/
def FirstFaulty (contents : String) (number : Nat) (line : List Char) : Prop :=
  ∃ before after, contents.toList.splitOn '\n' = before ++ line :: after ∧
    number = before.length + 1 ∧ Faulty line ∧ ∀ earlier ∈ before, ¬Faulty earlier

/-- **A file is refused exactly when one of its lines is faulty**, for the first of them. -/
theorem entries_eq_error_iff {contents : String} {error : StartupError} :
    entries contents = .error error ↔
      ∃ number line, FirstFaulty contents number line ∧ error = .line number (fault line) := by
  rw [entries_eq, ofLines_eq_error_iff]
  constructor
  · rintro ⟨before, line, after, split, bad, sound, rfl⟩
    exact ⟨_, line, ⟨before, after, split, rfl, bad, sound⟩, by rw [Nat.add_comm]⟩
  · rintro ⟨number, line, ⟨before, after, split, rfl, bad, sound⟩, rfl⟩
    exact ⟨before, line, after, split, bad, sound, by rw [Nat.add_comm]⟩

/-! ### Quotes on octets -/

section Octets

open Text.Utf8 (encode encodeNat)

/-- A text between two of the same sign, which is one of two. -/
def Between {α : Type} (a b : α) (whole : List α) : Prop :=
  ∃ sign middle, (sign = a ∨ sign = b) ∧ whole = sign :: (middle ++ [sign])

/-- How a text between two signs is told from its ends. -/
theorem between_iff {α : Type} {a b : α} {whole : List α} :
    2 ≤ whole.length ∧ whole.head? = whole.getLast? ∧
        (whole.head? = some a ∨ whole.head? = some b) ↔ Between a b whole := by
  constructor
  · rintro ⟨long, same, first⟩
    obtain ⟨sign, rest, rfl⟩ := List.exists_cons_of_length_pos (Nat.lt_of_lt_of_le (by decide) long)
    rcases List.eq_nil_or_concat' rest with rfl | ⟨middle, last, rfl⟩
    · exact absurd long (by simp)
    · rw [← List.cons_append, List.getLast?_concat] at same
      obtain rfl : sign = last := Option.some.inj same
      exact ⟨sign, middle, first.imp Option.some.inj Option.some.inj, rfl⟩
  · rintro ⟨sign, middle, known, rfl⟩
    refine ⟨by simp, ?_, known.imp (congrArg some) (congrArg some)⟩
    rw [← List.cons_append, List.getLast?_concat]
    rfl

theorem isQuoted_iff {value : List Char} : isQuoted value = true ↔ Between '"' '\'' value := by
  rw [← between_iff]
  simp [isQuoted, and_assoc]

/-- The octets without quotes around them, which are octets of their own. -/
def unquoteOctets (octets : List UInt8) : List UInt8 :=
  if 2 ≤ octets.length ∧ octets.head? = octets.getLast? ∧
      (octets.head? = some 0x22 ∨ octets.head? = some 0x27) then octets.tail.dropLast
  else octets

/-- An octet of ASCII in the octets of a character is all of them. -/
theorem encodeNat_of_mem {c : Char} {b : UInt8} (ascii : b.toNat < 0x80)
    (member : b ∈ encodeNat c.toNat) : encodeNat c.toNat = [b] ∧ c = Char.ofNat b.toNat := by
  by_cases small : c.toNat < 0x80
  · have one := Text.Utf8.encodeNat_of_ascii small
    rw [one] at member ⊢
    obtain rfl := List.mem_singleton.mp member
    rw [Text.Utf8.toNat_ofNat_of_lt (by omega), Char.ofNat_toNat]
    exact ⟨rfl, rfl⟩
  · have far := Text.Utf8.le_of_mem_encodeNat (Nat.not_lt.mp small) (Text.Utf8.toNat_lt c) member
    exact absurd ascii (Nat.not_lt.mpr far)

theorem encode_append (s t : List Char) : encode (s ++ t) = encode s ++ encode t :=
  List.flatMap_append

theorem encode_between {value middle : List Char} {c : Char} (ascii : c.toNat < 0x80)
    (between : value = c :: (middle ++ [c])) :
    encode value = UInt8.ofNat c.toNat :: (encode middle ++ [UInt8.ofNat c.toNat]) := by
  rw [between, Text.Utf8.encode_cons, encode_append, Text.Utf8.encode_cons,
    Text.Utf8.encodeNat_of_ascii ascii]
  rfl

/-- Octets between two of ASCII are a text between two characters. -/
theorem between_of_encode {value : List Char} {b : UInt8} {middle : List UInt8}
    (ascii : b.toNat < 0x80) (octets : encode value = b :: (middle ++ [b])) :
    ∃ inner, value = Char.ofNat b.toNat :: (inner ++ [Char.ofNat b.toNat]) := by
  cases value with
  | nil => cases octets
  | cons first rest =>
    have opens : b ∈ encodeNat first.toNat := by
      cases spelt : encodeNat first.toNat with
      | nil => exact absurd spelt (Text.Utf8.encodeNat_ne_nil _)
      | cons o more =>
        rw [Text.Utf8.encode_cons, spelt, List.cons_append] at octets
        rw [(List.cons.inj octets).1]
        exact List.mem_cons_self
    obtain ⟨one, rfl⟩ := encodeNat_of_mem ascii opens
    rw [Text.Utf8.encode_cons, one, List.singleton_append, List.cons.injEq] at octets
    rcases List.eq_nil_or_concat' rest with rfl | ⟨inner, last, rfl⟩
    · exact absurd octets.2 (by simp)
    · have closes : b ∈ encodeNat last.toNat := by
        have ends := congrArg List.getLast? octets.2
        rw [List.getLast?_concat, encode_append, Text.Utf8.encode_cons, Text.Utf8.encode_nil,
          List.append_nil, List.getLast?_append_of_ne_nil _ (Text.Utf8.encodeNat_ne_nil _)] at ends
        exact List.mem_of_getLast? ends
      obtain ⟨-, rfl⟩ := encodeNat_of_mem ascii closes
      exact ⟨inner, rfl⟩

/-- **Quotes are taken off the octets of a value as off its characters**, so what is cut off ends
between two characters. -/
theorem encode_unquote (value : List Char) :
    encode (unquote value) = unquoteOctets (encode value) := by
  by_cases quoted : isQuoted value = true
  · obtain ⟨c, middle, known, same⟩ := isQuoted_iff.mp quoted
    have ascii : c.toNat < 0x80 := by
      rcases known with rfl | rfl <;> decide
    have octets := encode_between ascii same
    have between : Between 0x22 0x27 (encode value) :=
      ⟨_, _, known.imp (fun q => by rw [q]; rfl) (fun q => by rw [q]; rfl), octets⟩
    rw [unquote, if_pos quoted, unquoteOctets, if_pos (between_iff.mpr between), octets, same,
      List.tail_cons, List.dropLast_concat, List.tail_cons, List.dropLast_concat]
  · have plain : ¬Between 0x22 0x27 (encode value) := by
      rintro ⟨b, middle, known, octets⟩
      have ascii : b.toNat < 0x80 := by
        rcases known with rfl | rfl <;> decide
      obtain ⟨inner, same⟩ := between_of_encode ascii octets
      refine quoted (isQuoted_iff.mpr ⟨_, inner, ?_, same⟩)
      exact known.imp (fun q => by rw [q]; rfl) (fun q => by rw [q]; rfl)
    rw [unquote, if_neg quoted, unquoteOctets, if_neg (mt between_iff.mp plain)]

end Octets

end ConfigFile

open ConfigFile

theorem fileValues_of_readable {octets : List UInt8} {contents : String}
    (readable : Text.Utf8.toString? octets = some contents) (path : String) :
    Config.fileValues path (some octets) = entries contents := by
  rw [Config.fileValues, Option.bind_some, readable]

theorem toString?_encode (s : List Char) :
    Text.Utf8.toString? (Text.Utf8.encode s) = some (String.ofList s) := by
  rw [Text.Utf8.toString?, Text.Utf8.decode?_encode]
  rfl

/-- **A file that is written for assignments gives them**: under each key the last value that it is
assigned. A file that can be read is refused exactly when it has a faulty line, with the number of
the first one. Quotes are taken off values without cutting a character. -/
theorem file_read_back :
    (∀ (layout : Layout) (path : String), ∃ values : Keyed String,
      (Config.fileValues path (some (Text.Utf8.encode layout.text))).map Keyed.ofList =
        .ok values ∧
      ∀ key value, values.get? key = some value ↔ LastNamed layout.pairs key value) ∧
    (∀ (octets : List UInt8) (contents path : String),
      Text.Utf8.toString? octets = some contents →
      (∀ number line, FirstFaulty contents number line →
        ∃ error, Config.fileValues path (some octets) = .error error ∧
          error.code = "ERR_CONFIG_FILE_PARSE" ∧
          error.message = "invalid config line " ++ Number.decimal number ++ " (" ++
            (if '=' ∈ line then "empty key" else "expected KEY=VALUE") ++ ")") ∧
      ((∀ number line, ¬FirstFaulty contents number line) →
        ∃ pairs, Config.fileValues path (some octets) = .ok pairs)) ∧
    ∀ value, Text.Utf8.encode (unquote value) = unquoteOctets (Text.Utf8.encode value) := by
  refine ⟨fun layout path => ⟨Keyed.ofList layout.pairs, ?_, fun key value => ?_⟩,
    fun octets contents path readable => ⟨fun number line first => ?_, fun sound => ?_⟩,
    encode_unquote⟩
  · rw [fileValues_of_readable (toString?_encode _), entries_text]
    rfl
  · exact Keyed.get?_ofList_eq_some_iff
  · refine ⟨.line number (fault line), ?_, rfl, ?_⟩
    · rw [fileValues_of_readable readable]
      exact entries_eq_error_iff.mpr ⟨number, line, first, rfl⟩
    · unfold fault
      split <;> rfl
  · rw [fileValues_of_readable readable]
    cases read : entries contents with
    | ok pairs => exact ⟨pairs, rfl⟩
    | error error =>
      obtain ⟨number, line, first, -⟩ := entries_eq_error_iff.mp read
      exact absurd first (sound number line)

/-- No blanks. -/
def noBlanks : Blanks :=
  ⟨[], nofun, by decide⟩

/-- A single blank. -/
def oneBlank (c : Char) (blank : Text.isBlank c = true) (whole : c ≠ '\n') : Blanks :=
  ⟨[c], List.forall_mem_singleton.mpr blank, mt List.mem_singleton.mp whole.symm⟩

/-- A key that is assigned twice. -/
def passKey : Key :=
  ⟨"PASS", by decide, by decide, by decide, by decide, by decide⟩

/-- A file with both line ends, a remark that looks like an assignment, and a second assignment to a
text with quotes and signs. -/
def passFile : Layout where
  lines := [
    (.comment (oneBlank ' ' rfl (by decide)) ⟨"PASS=\"no\"", by decide⟩, .returnFeed),
    (.assignment passKey ⟨"old", by decide⟩ noBlanks noBlanks noBlanks noBlanks, .feed),
    (.blank (oneBlank '\u2003' rfl (by decide)), .returnFeed),
    (.assignment passKey ⟨"it's \"#1\" = ü", by decide⟩ noBlanks (oneBlank ' ' rfl (by decide))
      (oneBlank ' ' rfl (by decide)) (oneBlank '\r' rfl (by decide)), .feed)]
  last := some (.blank noBlanks)

theorem file_read_back_password :
    (∃ values : Keyed String,
      (Config.fileValues "a.env" (some (Text.Utf8.encode passFile.text))).map Keyed.ofList =
        .ok values ∧ values.get? "PASS" = some "it's \"#1\" = ü") ∧
    (FirstFaulty "A=1\r\n#\n =2\nB" 3 " =2".toList ∧
      ∃ error, Config.fileValues "a.env" (some (Text.Utf8.encode "A=1\r\n#\n =2\nB".toList)) =
          .error error ∧ error.message = "invalid config line 3 (empty key)") ∧
    ∃ pairs, Config.fileValues "a.env" (some (Text.Utf8.encode "A=1\n\nB= '='".toList)) =
      .ok pairs := by
  have first : FirstFaulty "A=1\r\n#\n =2\nB" 3 " =2".toList :=
    ⟨["A=1\r".toList, "#".toList], ["B".toList], by decide, by decide, by decide, by decide⟩
  have sound : ∀ number line, ¬FirstFaulty "A=1\n\nB= '='" number line := by
    rintro number line ⟨before, after, split, -, faulty, -⟩
    have none : ∀ piece ∈ "A=1\n\nB= '='".toList.splitOn '\n', ¬Faulty piece := by decide
    exact none line (split ▸ List.mem_append_right _ List.mem_cons_self) faulty
  obtain ⟨written, readable, -⟩ := file_read_back
  obtain ⟨values, read, last⟩ := written passFile "a.env"
  refine ⟨⟨values, read, (last _ _).mpr ?_⟩, ⟨first, ?_⟩, ?_⟩
  · exact ⟨[("PASS", "old")], [], rfl, nofun⟩
  · obtain ⟨error, refused, -, message⟩ :=
      (readable _ _ "a.env" (toString?_encode "A=1\r\n#\n =2\nB".toList)).1 3 " =2".toList (by
        simpa using first)
    exact ⟨error, refused, message⟩
  · exact (readable _ _ "a.env" (toString?_encode "A=1\n\nB= '='".toList)).2 (by simpa using sound)

end TenantReports
