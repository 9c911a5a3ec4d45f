import TenantReports.Proofs.Query.Values
import TenantReports.Proofs.Text.Pieces

/-!
# The marker that is written is the marker that is read

**A script declares its marker in a line of its own**, and neither what stands before that line, as
long as it does not hold the word between tag and name, nor what stands after it matters.

* `Marker.Line`: a line that declares a marker.
* `ofLine?_text`: the marker is read from the line.
* `Marker.Written`: a script with such a line.
* `ofScript_append`: lines without a marker may be put before a script.
* `ofScript_of_written`: the marker that is written is the one that is read.
* `ofScript_registeredScript`: the script that is registered declares the marker of the script.
* `prepare_eq_ok_iff`: which reports are prepared, and how.
* `marker_read_back`: all of these together.
-/

namespace TenantReports

variable {marker : Marker} {script : String}

namespace Marker

/-! ### Lines -/

/-- **A line that declares a marker**: there is no hyphen before the comment, and blanks may stand
around the tag and the name. -/
structure Line (marker : Marker) where
  before : List Char
  left : List Char
  right : List Char
  gap : List Char
  after : List Char
  uncommented : '-' ∉ before
  leftBlank : ∀ c ∈ left, Text.isBlank c = true
  rightBlank : ∀ c ∈ right, Text.isBlank c = true
  gapBlank : ∀ c ∈ gap, Text.isBlank c = true
  apart : gap ≠ []
  afterBlank : ∀ c ∈ after, Text.isBlank c = true
  named : marker.function ≠ ""
  trimmed : Text.trimmed marker.function = marker.function

namespace Line

/-- The line up to the end of the name. -/
def opening (line : Line marker) : List Char :=
  line.before ++ (commentStart ++ (line.left ++ marker.dialect.tag.toList ++ line.right ++
    (keyword ++ (line.gap ++ marker.function.toList))))

/-- The line. -/
def text (line : Line marker) : List Char :=
  line.opening ++ line.after

theorem trim_function (line : Line marker) :
    Text.trim marker.function.toList = marker.function.toList :=
  String.ofList_injective (line.trimmed.trans String.ofList_toList.symm)

theorem function_ne_nil (line : Line marker) : marker.function.toList ≠ [] :=
  mt String.toList_eq_nil_iff.mp line.named

theorem text_ne_nil (line : Line marker) : line.text ≠ [] := by
  unfold text opening
  simp only [ne_eq, List.append_eq_nil_iff, line.function_ne_nil, and_false, false_and,
    not_false_eq_true]

/-! ### Reading a line -/

theorem trim_tag (dialect : Dialect) : Text.trim dialect.tag.toList = dialect.tag.toList := by
  cases dialect <;> decide

theorem colon_notMem_tag (dialect : Dialect) : ':' ∉ dialect.tag.toList := by
  cases dialect <;> decide

theorem colon_notMem_blanks {blanks : List Char} (blank : ∀ c ∈ blanks, Text.isBlank c = true) :
    ':' ∉ blanks :=
  fun member => absurd (blank ':' member) (by decide)

/-- **The marker is read from its line.** -/
theorem ofLine?_text (line : Line marker) :
    ofLine? line.text = some (marker.dialect.tag.toList, marker.function.toList) := by
  -- The word follows the first two hyphens, and no colon stands between them.
  have free : ':' ∉ line.left ++ marker.dialect.tag.toList ++ line.right := by
    rw [List.mem_append, List.mem_append]
    exact not_or.mpr ⟨not_or.mpr ⟨colon_notMem_blanks line.leftBlank, colon_notMem_tag _⟩,
      colon_notMem_blanks line.rightBlank⟩
  have text : line.text = line.before ++ ('-' :: ['-'] ++ (line.left ++ marker.dialect.tag.toList ++
      line.right ++ (':' :: ['f', 'u', 'n', 'c', 't', 'i', 'o', 'n'] ++
        (line.gap ++ marker.function.toList ++ line.after)))) := by
    simp only [Line.text, opening, commentStart, keyword, List.append_assoc]
  have tag := Text.trim_between line.leftBlank line.rightBlank (trim_tag marker.dialect)
  have name := Text.trim_between line.gapBlank line.afterBlank line.trim_function
  have tagged : marker.dialect.tag.toList.isEmpty = false := by
    cases marker.dialect <;> rfl
  have nonempty := List.isEmpty_eq_false_iff.mpr line.function_ne_nil
  unfold ofLine?
  rw [text, commentStart, keyword, Text.splitAt?_of_notMem line.uncommented]
  dsimp only [Option.bind_eq_bind, Option.bind_some]
  rw [Text.splitAt?_of_notMem free]
  dsimp only [Option.bind_some]
  rw [tag, name]
  cases gap : line.gap with
  | nil => exact absurd gap line.apart
  | cons c rest =>
    have blank : Text.isBlank c = true := line.gapBlank c (gap ▸ List.mem_cons_self)
    rw [List.cons_append, List.cons_append]
    dsimp only
    rw [tagged, blank, nonempty]
    rfl

/-- A carriage return at the end of a line is one of the blanks after the name, so the line without
it declares the same marker. -/
theorem exists_text_eq_withoutReturn (line : Line marker) :
    ∃ other : Line marker, other.text = Text.withoutReturn line.text := by
  unfold Text.withoutReturn
  split
  · next returns =>
    rcases List.eq_nil_or_concat' line.after with none | ⟨shorter, c, after⟩
    · -- The name ends the line, and it does not end in a blank.
      obtain ⟨c, last⟩ := Option.ne_none_iff_exists'.mp
        (mt List.getLast?_eq_none_iff.mp line.function_ne_nil)
      have ends : c = '\r' := by
        unfold text opening at returns
        rw [none, List.append_nil, ← List.append_assoc, ← List.append_assoc, ← List.append_assoc,
          ← List.append_assoc, List.getLast?_append, last] at returns
        exact Option.some.inj returns
      rw [ends] at last
      exact absurd (Text.not_isBlank_of_trim line.trim_function last) (by decide)
    · have blank : ∀ c ∈ shorter, Text.isBlank c = true := fun c member =>
        line.afterBlank c (after ▸ List.mem_append_left _ member)
      have cut : line.text.dropLast = line.opening ++ shorter := by
        unfold text
        rw [after, ← List.append_assoc, List.dropLast_concat]
      exact ⟨{ line with after := shorter, afterBlank := blank }, cut.symm⟩
  · exact ⟨line, rfl⟩

end Line

/-- **What declares a marker holds the word** between tag and name. -/
theorem isInfix_of_ofLine? {line : List Char} {found : List Char × List Char}
    (marked : ofLine? line = some found) : keyword <:+: line := by
  unfold ofLine? at marked
  simp only [Option.bind_eq_bind, Option.bind_eq_some_iff] at marked
  obtain ⟨⟨before, comment⟩, start, ⟨tag, rest⟩, word, -⟩ := marked
  exact (Text.isInfix_of_splitAt? word).trans
    ⟨before ++ commentStart, [], (List.append_nil _).trans (Text.splitAt?_eq_append start).symm⟩

/-! ### Scripts -/

/-- **A script that declares a marker**: lines without the word between tag and name, a line that
declares the marker, and a rest that begins with the end of that line. -/
inductive Written (marker : Marker) : String → Prop
  | intro {preamble rest : List Char} (line : Line marker)
    (ended : preamble = [] ∨ preamble.getLast? = some '\n')
    (unmarked : ∀ other ∈ Text.lines preamble, ¬keyword <:+: other)
    (whole : '\n' ∉ line.text)
    (follows : rest = [] ∨ ['\n'] <+: rest ∨ ['\r', '\n'] <+: rest) :
    Written marker (String.ofList (preamble ++ (line.text ++ rest)))

/-- **The line that declares a marker is the first of the lines** from it on. -/
theorem Line.first_of_lines (line : Line marker) (whole : '\n' ∉ line.text) {rest : List Char}
    (follows : rest = [] ∨ ['\n'] <+: rest ∨ ['\r', '\n'] <+: rest) :
    ∃ (first : Line marker) (more : List (List Char)),
      Text.lines (line.text ++ rest) = first.text :: more := by
  rcases follows with rfl | ⟨more, rfl⟩ | ⟨more, rfl⟩
  · exact ⟨line, [], by rw [List.append_nil, Text.lines_of_notMem whole line.text_ne_nil]⟩
  · obtain ⟨first, same⟩ := line.exists_text_eq_withoutReturn
    refine ⟨first, Text.lines more, ?_⟩
    rw [List.singleton_append, Text.lines_feed, Text.splitWhen_of_notMem whole, same]
    rfl
  · have unbroken : '\n' ∉ line.text ++ ['\r'] := by
      rw [List.mem_append]
      exact not_or.mpr ⟨whole, by decide⟩
    have shortened : Text.withoutReturn (line.text ++ ['\r']) = line.text := by
      unfold Text.withoutReturn
      rw [List.getLast?_concat, if_pos rfl, List.dropLast_concat]
    have ended : line.text ++ (['\r', '\n'] ++ more) = line.text ++ ['\r'] ++ '\n' :: more := by
      rw [List.append_assoc]
      rfl
    refine ⟨line, Text.lines more, ?_⟩
    rw [ended, Text.lines_feed, Text.splitWhen_of_notMem unbroken, List.map_singleton, shortened]
    rfl

/-- **Lines without a marker may be put before a script.** -/
theorem ofScript_append {preamble : String}
    (ended : preamble.toList = [] ∨ preamble.toList.getLast? = some '\n')
    (unmarked : ∀ line ∈ Text.lines preamble.toList, ofLine? line = none) (script : String) :
    ofScript (preamble ++ script) = ofScript script := by
  unfold ofScript
  rw [String.toList_append, Text.lines_append ended, List.findSome?_append,
    List.findSome?_eq_none_iff.mpr unmarked, Option.none_or]

/-- **The marker that is written is the marker that is read.** -/
theorem ofScript_of_written (written : marker.Written script) : ofScript script = .ok marker := by
  obtain @⟨preamble, rest, line, ended, unmarked, whole, follows⟩ := written
  obtain ⟨first, more, lines⟩ := line.first_of_lines whole follows
  rw [String.ofList_append, ofScript_append]
  · unfold ofScript
    rw [String.toList_ofList, lines, List.findSome?_cons, first.ofLine?_text]
    dsimp only
    rw [String.ofList_toList, String.ofList_toList, Dialect.ofTag?_tag]
  · rwa [String.toList_ofList]
  · rw [String.toList_ofList]
    exact fun other member => Option.eq_none_iff_forall_not_mem.mpr fun found marked =>
      unmarked other member (isInfix_of_ofLine? marked)

/-- **The script that is registered declares the marker of the script.** -/
theorem ofScript_registeredScript (dialect : Dialect) (script : String) :
    ofScript (registeredScript dialect script) = ofScript script := by
  cases dialect with
  | metadb => rfl
  | ldp => exact ofScript_append (.inr (by decide)) (by decide) script

end Marker

/-! ### Reports -/

section Reports

variable {dialect : Dialect} {params : Keyed String} {limit : UInt64} {report : PreparedReport}

/-- **Which reports are prepared, and how**: those whose script has a marker for the convention of
the database. -/
theorem prepare_eq_ok_iff :
    prepare script dialect params limit = .ok report ↔
      ∃ marker, Marker.ofScript script = .ok marker ∧ marker.dialect = dialect ∧
        report = ⟨marker, registeredScript dialect script,
          invocation marker.function params limit⟩ := by
  cases found : Marker.ofScript script with
  | error failure =>
    rw [prepare_of_unmarked found]
    exact ⟨fun failed => (nomatch failed), fun ⟨_, failed, _⟩ => (nomatch failed)⟩
  | ok marker =>
    rw [prepare_of_marker found]
    by_cases fits : marker.dialect = dialect
    · rw [if_pos fits]
      refine ⟨fun same => ⟨marker, rfl, fits, (Except.ok.inj same).symm⟩, ?_⟩
      rintro ⟨other, same, -, rfl⟩
      cases same
      rfl
    · rw [if_neg fits]
      refine ⟨fun failed => (nomatch failed), ?_⟩
      rintro ⟨other, same, fits', -⟩
      cases same
      exact absurd fits' fits

end Reports

/-- **The marker that is written is the marker that is read**, whatever lines stand before it and
whatever follows. A report is prepared exactly when its script has a marker for the convention of
the database; then the function of the marker is called, and the script that is registered declares the
same marker again. -/
theorem marker_read_back :
    (∀ (marker : Marker) (script : String), marker.Written script →
      Marker.ofScript script = .ok marker) ∧
    ∀ (script : String) (dialect : Dialect) (params : Keyed String) (limit : UInt64),
      ((∃ report, prepare script dialect params limit = .ok report) ↔
        ∃ marker, Marker.ofScript script = .ok marker ∧ marker.dialect = dialect) ∧
      ∀ report, prepare script dialect params limit = .ok report →
        Marker.ofScript script = .ok report.marker ∧ report.marker.dialect = dialect ∧
        report.invocation.sql = "SELECT * FROM " ++ report.marker.function ++ "(" ++
          String.intercalate ", " (arguments 1 params.names) ++ ")" ++ limitClause limit ∧
        report.script = registeredScript dialect script ∧
        Marker.ofScript report.script = .ok report.marker := by
  refine ⟨fun marker script => Marker.ofScript_of_written,
    fun script dialect params limit => ⟨⟨?_, ?_⟩, ?_⟩⟩
  · rintro ⟨report, prepared⟩
    obtain ⟨marker, found, fits, -⟩ := prepare_eq_ok_iff.mp prepared
    exact ⟨marker, found, fits⟩
  · rintro ⟨marker, found, fits⟩
    exact ⟨_, prepare_eq_ok_iff.mpr ⟨marker, found, fits, rfl⟩⟩
  · intro report prepared
    obtain ⟨marker, found, fits, rfl⟩ := prepare_eq_ok_iff.mp prepared
    exact ⟨found, fits, rfl, rfl, (Marker.ofScript_registeredScript dialect script).trans found⟩

/-- A line with blanks of several kinds, in a block of comments. -/
def overdueLine : Marker.Line ⟨.ldp, "overdue loans"⟩ where
  before := " * ".toList
  left := "\t".toList
  right := [' ', '\u2003']
  gap := "  ".toList
  after := "\r".toList
  uncommented := by decide
  leftBlank := List.all_eq_true.mp (by decide)
  rightBlank := List.all_eq_true.mp (by decide)
  gapBlank := List.all_eq_true.mp (by decide)
  apart := by decide
  afterBlank := List.all_eq_true.mp (by decide)
  named := by decide
  trimmed := by decide

/-- A script with that line, after lines that end in both ways and hold comments of their own. -/
def overdueScript : String :=
  String.ofList ("-- reports\n--ldp: function f\r\n".toList ++
    (overdueLine.text ++ "\r\n--metadb:function g".toList))

theorem marker_read_back_overdue :
    Marker.Written ⟨.ldp, "overdue loans"⟩ overdueScript ∧
      Marker.ofScript overdueScript = .ok ⟨.ldp, "overdue loans"⟩ ∧
      ∃ report, prepare overdueScript .ldp (Keyed.empty.insert "day" "1") 10 = .ok report ∧
        report.invocation.sql = "SELECT * FROM overdue loans(day => $1) LIMIT 10" ∧
        Marker.ofScript report.script = .ok report.marker := by
  have written : Marker.Written ⟨.ldp, "overdue loans"⟩ overdueScript :=
    .intro overdueLine (.inr (by decide)) (by decide +kernel) (by decide +kernel)
      (.inr (.inr (by decide)))
  have read := marker_read_back.1 _ _ written
  obtain ⟨prepares, reports⟩ :=
    marker_read_back.2 overdueScript .ldp (Keyed.empty.insert "day" "1") 10
  obtain ⟨report, prepared⟩ := prepares.mpr ⟨_, read, rfl⟩
  obtain ⟨same, -, sql, -, registered⟩ := reports report prepared
  rw [read] at same
  refine ⟨written, read, report, prepared, ?_, registered⟩
  rw [sql, ← Except.ok.inj same]
  decide

end TenantReports
