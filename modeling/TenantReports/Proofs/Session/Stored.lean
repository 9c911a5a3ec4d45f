import TenantReports.Proofs.Json.Reading
import TenantReports.Proofs.Keyed
import TenantReports.Session.Settings

/-!
# The two forms of stored credentials

The value of a tenant's entry is an object with the credentials, or a string with the JSON text of
such an object. **A value and the string with its text say the same, but for values with an object
that begins with the name kept for numbers**: the text of such a value is refused, although the
value itself is accepted, since the member is one that nobody asks for.

* `Holds`: what credentials a value holds.
* `parseStored_eq_ok_iff`: they are the ones that are found.
* `storedForms_agree_iff`: when the two forms agree.
-/

namespace TenantReports.Settings

open Json (Tree Value)

variable {v : Value} {credentials : Credentials} {url user pass : String}

/-! ### What a value holds -/

/-- What members say under a name: a text, or nothing, which counts as the empty text. -/
def Tells (members : List (String × Value)) (name part : String) : Prop :=
  (name, .string part) ∈ members ∨ (name ∉ members.map (·.1) ∧ part = "")

/-- **The credentials that a value holds**: those under the names of an object, whatever other
members it has, or the texts of an array in their order; a part that is missing is empty. -/
inductive Holds : Value → Credentials → Prop
  | object {members : List (String × Value)} {url user pass : String} :
    Tells members "url" url → Tells members "user" user → Tells members "pass" pass →
      Holds (.object members) ⟨url, user, pass⟩
  | array {items : List Value} {url user pass : String} {missing : Nat} :
    items ++ List.replicate missing (.string "") = [.string url, .string user, .string pass] →
      Holds (.array items) ⟨url, user, pass⟩

/-- A part by what is found under its name. -/
theorem tells_iff {m : Keyed Value} {name part : String} :
    Tells m.entries name part ↔ (m.get? name).getD (.string "") = .string part := by
  unfold Tells
  rw [← Keyed.get?_eq_some_iff, ← Keyed.isSome_get?_iff]
  cases m.get? name with
  | none =>
    simp only [reduceCtorEq, Option.isSome_none, Bool.false_eq_true, not_false_eq_true, true_and,
      false_or, Option.getD_none, Value.string.injEq]
    exact eq_comm
  | some value =>
    simp only [Option.some.injEq, Option.isSome_some, not_true_eq_false, false_and, or_false,
      Option.getD_some]

/-! ### What is found -/

mutual

theorem treeOf_eq_tree : ∀ v : Value, treeOf v = v.tree
  | .null | .bool _ | .number _ | .string _ => rfl
  | .array items => congrArg Tree.array (treesOf_eq_trees items)
  | .object members => congrArg Tree.object (memberTreesOf_eq_trees members)

theorem treesOf_eq_trees : ∀ items : List Value, treesOf items = Json.treesOf items
  | [] => rfl
  | item :: items => by
    rw [treesOf, Json.treesOf, treeOf_eq_tree item, treesOf_eq_trees items]

theorem memberTreesOf_eq_trees : ∀ members : List (String × Value),
    memberTreesOf members = Json.treesOfMembers members
  | [] => rfl
  | (key, value) :: members => by
    rw [memberTreesOf, Json.treesOfMembers, treeOf_eq_tree value, memberTreesOf_eq_trees members]

end

/-- A part is read as if the empty text stood where nothing does. -/
theorem orDefault_string?_eq_some_iff {field : Option Value} {part : String} :
    Json.orDefault "" Json.string? (field.map Value.tree) = some part ↔
      field.getD (.string "") = .string part := by
  cases field with
  | none => simp [Json.orDefault]
  | some value =>
    cases value <;> simp [Json.orDefault, Json.string?, Value.tree]

/-- The credentials of a record by its fields. -/
theorem credentialsOf?_eq_some_iff {tree : Tree} {a b c : Option Value}
    (found : Json.fields? ["url", "user", "pass"] tree =
      some ([a, b, c].map (Option.map Value.tree))) :
    credentialsOf? tree = some ⟨url, user, pass⟩ ↔
      [a, b, c].map (Option.getD · (.string "")) = [.string url, .string user, .string pass] := by
  rw [credentialsOf?, found]
  simp only [List.map_cons, List.map_nil, Option.bind_eq_bind, Option.bind_some,
    Option.bind_eq_some_iff, orDefault_string?_eq_some_iff, Option.pure_def, Option.some.injEq,
    Credentials.mk.injEq, List.cons.injEq, and_true]
  constructor
  · rintro ⟨_, first, _, second, _, third, rfl, rfl, rfl⟩
    exact ⟨first, second, third⟩
  · rintro ⟨first, second, third⟩
    exact ⟨url, first, user, second, pass, third, rfl, rfl, rfl⟩

/-- A name is found at most once in the members of an object that was read. -/
theorem valuesOf_trees (m : Keyed Value) (name : String) :
    Json.valuesOf name (Json.treesOfMembers m.entries) =
      ((m.get? name).map Value.tree).toList := by
  obtain ⟨members, increasing⟩ := m
  unfold Keyed.get?
  dsimp only
  induction members with
  | nil => rfl
  | cons member members ih =>
    obtain ⟨key, value⟩ := member
    obtain ⟨greater, others⟩ := List.pairwise_cons.mp increasing
    unfold Json.valuesOf at ih ⊢
    rw [Json.treesOfMembers, List.filterMap_cons, List.find?_cons, ih others]
    by_cases same : key = name
    · have noOther : members.find? (fun entry => entry.1 == name) = none := by
        apply List.find?_eq_none.mpr
        intro entry among named
        exact absurd (same.trans (eq_of_beq named).symm) (Std.ne_of_lt (greater entry among))
      simp [same, noOther]
    · simp [same, beq_eq_false_iff_ne.mpr same]

/-- The fields of an object that was read. -/
theorem fields?_object (m : Keyed Value) :
    Json.fields? ["url", "user", "pass"] (.object (Json.treesOfMembers m.entries)) =
      some ([m.get? "url", m.get? "user", m.get? "pass"].map (Option.map Value.tree)) := by
  have named : (Json.treesOfMembers m.entries).all (fun member => member.1.isSome) = true := by
    rw [Json.treesOfMembers_eq_map, List.all_map]
    exact List.all_eq_true.mpr fun _ _ => rfl
  rw [Json.fields?, if_pos named]
  simp only [List.mapM_cons, List.mapM_nil, valuesOf_trees]
  cases m.get? "url" <;> cases m.get? "user" <;> cases m.get? "pass" <;> rfl

/-- The credentials of an array: those of as many empty texts more as are missing. -/
theorem credentialsOf?_array (items : List Value) :
    credentialsOf? (.array (Json.treesOf items)) = some ⟨url, user, pass⟩ ↔
      ∃ missing, items ++ List.replicate missing (.string "") =
        [.string url, .string user, .string pass] := by
  by_cases few : items.length ≤ 3
  · have found : Json.fields? ["url", "user", "pass"] (.array (Json.treesOf items)) =
        some ((items.map some ++ List.replicate (3 - items.length) none).map
          (Option.map Value.tree)) := by
      have few' : (items.map Value.tree).length ≤ ["url", "user", "pass"].length := by
        rw [List.length_map]
        exact few
      rw [Json.treesOf_eq_map, Json.fields?, if_pos few', List.length_map, List.map_append,
        List.map_map, List.map_map, List.map_replicate]
      rfl
    have three : (items.map some ++ List.replicate (3 - items.length) none).length = 3 := by
      rw [List.length_append, List.length_map, List.length_replicate]
      omega
    have told : (items.map some ++ List.replicate (3 - items.length) none).map
        (Option.getD · (Value.string "")) =
          items ++ List.replicate (3 - items.length) (.string "") := by
      rw [List.map_append, List.map_map, List.map_replicate]
      exact congrArg (· ++ _) (List.map_id items)
    obtain ⟨a, b, c, fields⟩ := List.length_eq_three.mp three
    rw [fields] at found told
    rw [credentialsOf?_eq_some_iff found, told]
    constructor
    · exact fun same => ⟨_, same⟩
    · rintro ⟨missing, same⟩
      have lengths := congrArg List.length same
      rw [List.length_append, List.length_replicate] at lengths
      have exactly : 3 - items.length = missing := by
        simp only [List.length_cons, List.length_nil] at lengths
        omega
      rw [exactly]
      exact same
  · constructor
    · intro found
      have many : ¬(Json.treesOf items).length ≤ ["url", "user", "pass"].length := by
        rw [Json.treesOf_eq_map, List.length_map]
        exact few
      rw [credentialsOf?, Json.fields?, if_neg many] at found
      cases found
    · rintro ⟨missing, same⟩
      have lengths := congrArg List.length same
      rw [List.length_append] at lengths
      exact absurd (Nat.le.intro lengths) few

/-- **The credentials that a value holds are the ones that are found.** -/
theorem credentialsOf?_treeOf_iff (normal : v.Normal) :
    credentialsOf? (treeOf v) = some credentials ↔ Holds v credentials := by
  obtain ⟨url, user, pass⟩ := credentials
  rw [treeOf_eq_tree]
  cases v with
  | null | bool | number | string =>
    constructor
    · intro found
      cases found
    · intro holds
      cases holds
  | array items =>
    rw [Value.tree, credentialsOf?_array]
    constructor
    · rintro ⟨missing, told⟩
      exact .array told
    · intro holds
      cases holds with
      | array told => exact ⟨_, told⟩
  | object members =>
    rw [Value.tree, credentialsOf?_eq_some_iff (fields?_object ⟨members, normal.1⟩)]
    simp only [List.map_cons, List.map_nil, List.cons.injEq, and_true, ← tells_iff]
    constructor
    · rintro ⟨first, second, third⟩
      exact .object first second third
    · intro holds
      cases holds with
      | object first second third => exact ⟨first, second, third⟩

/-! ### The two forms -/

/-- The only way in which the value of an entry is refused. -/
def refusal : Error := .invalid "dbinfo value"

/-- Credentials that were found, or the refusal. -/
def answer : Option Credentials → Except Error Credentials
  | some credentials => .ok credentials
  | none => .error refusal

theorem answer_eq_ok_iff {found : Option Credentials} :
    answer found = .ok credentials ↔ found = some credentials := by
  cases found <;> simp [answer]

theorem answer_eq_refusal_iff {found : Option Credentials} :
    answer found = .error refusal ↔ found = none := by
  cases found <;> simp [answer]

theorem parseStored_eq_answer (value : Value) :
    parseStored value =
      answer ((storedValue? value).bind fun stored => credentialsOf? (treeOf stored)) := by
  unfold parseStored
  cases (storedValue? value).bind fun stored => credentialsOf? (treeOf stored) <;> rfl

/-- A value other than a string is taken as it stands. -/
theorem parseStored_value (noString : ∀ raw, v ≠ .string raw) :
    parseStored v = answer (credentialsOf? (treeOf v)) := by
  have stored : storedValue? v = some v := by
    cases v with
    | string raw => exact absurd rfl (noString raw)
    | null | bool | number | array | object => rfl
  rw [parseStored_eq_answer, stored]
  rfl

/-- The text of a value that was read is taken for the value, or refused. -/
theorem parseStored_text (normal : v.Normal) (shallow : v.depth ≤ Json.maxDepth) :
    parseStored (.string v.text) =
      if v.isPlain then answer (credentialsOf? (treeOf v)) else .error refusal := by
  rw [parseStored_eq_answer, storedValue?, Json.ofText?_text_of_normal normal shallow]
  cases v.isPlain <;> rfl

/-- **The two forms of stored credentials agree but for the name that is kept for numbers.** For a
value that was read from any JSON text, is no string and is nested at most 100 levels: the value
gives the credentials that it holds, and is refused if it holds none; the string with its text gives
the same, unless an object of the value begins with that name, and is refused then. So the forms
differ exactly for values that hold credentials and have such an object. -/
theorem storedForms_agree_iff {charset : Json.Charset} {text : List Char} {tree : Tree}
    {depth : Nat} (parsed : Json.parse charset text = some tree)
    (read : Value.ofTree? depth tree = some v) (noString : ∀ raw, v ≠ .string raw)
    (shallow : v.depth ≤ 100) :
    (∀ credentials, parseStored v = .ok credentials ↔ Holds v credentials) ∧
      (parseStored v = .error refusal ↔ ∀ credentials, ¬Holds v credentials) ∧
      (v.isPlain = true → parseStored (.string v.text) = parseStored v) ∧
      (v.isPlain = false → parseStored (.string v.text) = .error refusal) ∧
      (parseStored (.string v.text) = parseStored v ↔
        (v.isPlain = false → ∀ credentials, ¬Holds v credentials)) := by
  have normal : v.Normal := Json.normal_of_ofTree? (Json.legible_of_parse parsed) read
  have held : ∀ credentials, parseStored v = .ok credentials ↔ Holds v credentials := by
    intro credentials
    rw [parseStored_value noString, answer_eq_ok_iff, credentialsOf?_treeOf_iff normal]
  have refused : parseStored v = .error refusal ↔ ∀ credentials, ¬Holds v credentials := by
    rw [parseStored_value noString, answer_eq_refusal_iff, Option.eq_none_iff_forall_ne_some]
    simp only [ne_eq, credentialsOf?_treeOf_iff normal]
  have written := parseStored_text normal (Nat.le_trans shallow (by decide))
  rw [← parseStored_value noString] at written
  refine ⟨held, refused, fun plain => ?_, fun special => ?_, ?_⟩
  · rw [written, if_pos plain]
  · rw [written, special]
    rfl
  · rw [written, ← refused]
    by_cases plain : v.isPlain = true
    · simp [plain]
    · have special : v.isPlain = false := Bool.eq_false_iff.mpr plain
      rw [if_neg plain]
      exact ⟨fun same _ => same.symm, fun same => (same special).symm⟩

/-- An object with a password, and a member that nobody asks for. -/
def passwordOnly : Value :=
  .object [("pass", .string "\"\\é"), ("x", .array [.nat 1])]

theorem normal_passwordOnly : passwordOnly.Normal :=
  ⟨List.pairwise_pair.mpr (by decide), fun _ => ⟨_, List.mem_cons_self, by decide⟩, trivial,
    ⟨⟨Json.legible_digits 1, rfl⟩, trivial⟩, trivial⟩

theorem storedForms_agree_iff_passwordOnly :
    parseStored passwordOnly = .ok ⟨"", "", "\"\\é"⟩ ∧
      parseStored (.string passwordOnly.text) = parseStored passwordOnly := by
  have plain : passwordOnly.isPlain = true := by decide
  have noString : ∀ raw, passwordOnly ≠ .string raw := by
    intro raw same
    cases same
  have read : Value.ofTree? 5 passwordOnly.tree = some passwordOnly := by
    rw [Json.ofTree?_tree normal_passwordOnly (by decide), Value.again?, if_pos plain]
  obtain ⟨held, -, same, -, -⟩ := storedForms_agree_iff
    (Json.ofText?_text normal_passwordOnly.legible) read noString (by decide)
  have holds : Holds passwordOnly ⟨"", "", "\"\\é"⟩ :=
    .object (.inr ⟨by decide, rfl⟩) (.inr ⟨by decide, rfl⟩) (.inl List.mem_cons_self)
  exact ⟨(held _).mpr holds, same plain⟩

/-- That the two forms agree for all values that are read. -/
def FormsAgree : Prop :=
  ∀ (charset : Json.Charset) (text : List Char) (tree : Tree) (depth : Nat) (v : Value),
    Json.parse charset text = some tree → Value.ofTree? depth tree = some v →
      (∀ raw, v ≠ .string raw) → v.depth ≤ 100 → parseStored (.string v.text) = parseStored v

/-- An object with the name for numbers after another one, as its text has them. -/
def numberLast : Value :=
  .object [("url", .string "u"), (Json.numberName, .string "5")]

/-- The same object as it is read. -/
def numberFirst : Value :=
  .object [(Json.numberName, .string "5"), ("url", .string "u")]

/-- **They do not**: what was read with a name before that for numbers is written after it. -/
theorem not_formsAgree : ¬FormsAgree := by
  intro agree
  have parsed : Json.ofText? numberLast.text = some numberLast.tree :=
    Json.ofText?_text ⟨trivial, trivial, trivial⟩
  have read : Value.ofTree? 5 numberLast.tree = some numberFirst := by
    have other : "url" ≠ Json.numberName := by decide
    have sorted : insertEntry Json.numberName (.string "5") [("url", Value.string "u")] =
        [(Json.numberName, .string "5"), ("url", .string "u")] :=
      if_pos (by decide)
    have alone : insertEntry "url" (Value.string "u") [] = [("url", .string "u")] := rfl
    simp [numberLast, numberFirst, Value.tree, Json.treesOfMembers, Value.ofTree?,
      Json.standsForNumber, Json.membersOfTrees?, alone, sorted, other]
  have normal : numberFirst.Normal := Json.normal_of_ofTree? (Json.legible_of_parse parsed) read
  have holds : Holds numberFirst ⟨"u", "", ""⟩ :=
    .object (.inl (.tail _ (.head _))) (.inr ⟨by decide, rfl⟩) (.inr ⟨by decide, rfl⟩)
  have noString : ∀ raw, numberFirst ≠ .string raw := by
    intro raw same
    cases same
  have same := agree some _ _ 5 numberFirst parsed read noString (by decide)
  rw [parseStored_text normal (by decide), parseStored_value noString,
    (credentialsOf?_treeOf_iff normal).mpr holds] at same
  cases same

end TenantReports.Settings
