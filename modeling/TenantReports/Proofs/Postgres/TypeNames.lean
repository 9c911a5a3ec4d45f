import Mathlib.Data.List.TakeWhile
import TenantReports.Postgres.ColumnType
import TenantReports.Proofs.Postgres.Lexer
import TenantReports.Proofs.Text.Hex

/-!
# Names of types in casts

**A cast that is added to a parameter gives the name of its type without quotes, so the server folds
its letters and takes some words for other types.** The cast is to the type itself exactly if that
is plainly named; of the built-in types only `bit` is not.

* `ServerType`: a type of the server, with the name that the client has for it.
* `readType`: the type that the server reads a name as.
* `readType_bounded`: how it reads a word that needs no folding.
* `PlainlyNamed`: the types that are read back.
* `exists_clientName_eq`: the types of columns are among the server's.
* `readType_castTarget_iff`: a cast is to the type itself exactly if that is plainly named.
* `casts_name_types_iff`: this, and that no two such types have the same cast.
-/

namespace TenantReports.Postgres

/-! ### Types and their names -/

/-- The built-in types by their names in the catalogue of the server. -/
def builtInTypes : List String :=
  ["bool", "bytea", "char", "name", "int8", "int2", "int4", "text", "oid", "json", "point", "lseg",
    "path", "box", "polygon", "line", "cidr", "float4", "float8", "unknown", "circle", "macaddr8",
    "macaddr", "inet", "bpchar", "varchar", "date", "time", "timestamp", "timestamptz", "interval",
    "timetz", "bit", "varbit", "numeric", "record", "uuid", "jsonb", "int4range", "numrange",
    "tsrange", "tstzrange", "daterange", "int8range", "jsonpath", "money", "void"]

/-- A built-in type. -/
structure BuiltIn where
  name : String
  known : name ∈ builtInTypes
  deriving DecidableEq

/-- A type that is no array. One that users have defined is known by its name, whose letters have a
case. -/
inductive ElementType
  | builtIn (type : BuiltIn)
  | userDefined (name : String)
  deriving DecidableEq

/-- A type of the server. -/
structure ServerType where
  element : ElementType
  isArray : Bool
  deriving DecidableEq

/-- What stands behind the name of an array's elements. -/
def brackets (isArray : Bool) : String :=
  if isArray then "[]" else ""

/-- The name that the client has for a built-in type: that of the catalogue in capital letters, but
for blank-padded text, and for the type of single octets, whose name keeps its quotes. -/
def capitalName (name : String) : String :=
  if name = "bpchar" then "CHAR"
  else if name = "char" then "\"CHAR\""
  else String.ofList (name.toList.map Char.toUpper)

/-- The name that the client has for a type that is no array. -/
def ElementType.clientName : ElementType → String
  | .builtIn type => capitalName type.name
  | .userDefined name => name

/-- **The name that the client has for a type.** -/
def ServerType.clientName (type : ServerType) : String :=
  type.element.clientName ++ brackets type.isArray

/-! ### How the server reads a name -/

/-- The words that stand for a type of another name, or for one of a limited length. -/
def synonyms : List (String × BuiltIn × Option Nat) :=
  let padded : BuiltIn := ⟨"bpchar", by decide⟩
  let numeric : BuiltIn := ⟨"numeric", by decide⟩
  let whole : BuiltIn := ⟨"int4", by decide⟩
  [("bit", ⟨"bit", by decide⟩, some 1), ("char", padded, some 1), ("character", padded, some 1),
    ("nchar", padded, some 1), ("int", whole, none), ("integer", whole, none),
    ("smallint", ⟨"int2", by decide⟩, none), ("bigint", ⟨"int8", by decide⟩, none),
    ("real", ⟨"float4", by decide⟩, none), ("float", ⟨"float8", by decide⟩, none),
    ("dec", numeric, none), ("decimal", numeric, none), ("boolean", ⟨"bool", by decide⟩, none)]

/-- **The type that a word stands for**, and the length that its values are cut to. Reserved words
stand for none; which these are differs among versions of the server. -/
def readWord (reserved : String → Bool) (word : String) : Option (ElementType × Option Nat) :=
  match synonyms.lookup word with
  | some (type, limit) => some (.builtIn type, limit)
  | none =>
    if known : word ∈ builtInTypes then some (.builtIn ⟨word, known⟩, none)
    else if reserved word then none
    else some (.userDefined word, none)

/-- Whether the characters are bounds of an array, the first of them perhaps open already. -/
def areBounds : Bool → List Char → Bool
  | opened, [] => !opened
  | false, c :: rest => c == '[' && areBounds true rest
  | true, c :: rest => if c == ']' then areBounds false rest else c.isDigit && areBounds true rest

/-- **The type that the server reads a name without quotes as**, and the length that its values are
cut to: letters are folded to lower case, and bounds of an array may follow the word. -/
def readType (reserved : String → Bool) (text : String) : Option (ServerType × Option Nat) :=
  let folded := text.toList.map Char.toLower
  let word := folded.takeWhile extendsName
  let bounds := folded.dropWhile extendsName
  if word.head?.any beginsName && areBounds false bounds then
    (readWord reserved (String.ofList word)).map fun (element, limit) =>
      (⟨element, !bounds.isEmpty⟩, limit)
  else none

/-! ### Plain words -/

theorem toLower_toLower (c : Char) : c.toLower.toLower = c.toLower := by
  by_cases ascii : c.toNat < 128
  · have known : ∀ n : Fin 128,
        (Char.ofNat n).toLower.toLower = (Char.ofNat n).toLower := by decide
    exact Text.Hex.forall_ascii (P := fun c => c.toLower.toLower = c.toLower) known ascii
  · rw [Text.Hex.toLower_of_far ascii, Text.Hex.toLower_of_far ascii]

/-- **A word that is read as it is written**: a name without quotes, in lower case. -/
structure IsPlainWord (word : String) : Prop where
  begins : word.toList.head?.any beginsName = true
  goesOn : word.toList.all extendsName = true
  folded : word.toList.map Char.toLower = word.toList

variable {reserved : String → Bool} {word : String}

theorem IsPlainWord.toLower_bounded (plain : IsPlainWord word) (isArray : Bool) :
    (word ++ brackets isArray).toList.map Char.toLower =
      word.toList ++ (brackets isArray).toList := by
  rw [String.toList_append, List.map_append, plain.folded]
  cases isArray <;> rfl

/-- **A plain word is read as the word**, and as an array of it with brackets. -/
theorem readType_bounded (plain : IsPlainWord word) (isArray : Bool) :
    readType reserved (word ++ brackets isArray) =
      (readWord reserved word).map fun (element, limit) => (⟨element, isArray⟩, limit) := by
  have took : ((brackets isArray).toList).takeWhile extendsName = [] := by
    cases isArray <;> decide
  have dropped : ((brackets isArray).toList).dropWhile extendsName = (brackets isArray).toList := by
    cases isArray <;> decide
  have bounds : areBounds false (brackets isArray).toList = true := by cases isArray <;> decide
  have isEmpty : (!(brackets isArray).toList.isEmpty) = isArray := by cases isArray <;> decide
  have goesOn := List.all_eq_true.mp plain.goesOn
  unfold readType
  simp only [plain.toLower_bounded, List.takeWhile_append_of_pos goesOn, took, List.append_nil,
    List.dropWhile_append_of_pos goesOn, dropped, plain.begins, bounds, Bool.and_self, if_true,
    String.ofList_toList, isEmpty]

/-- A plain word is its own cast. -/
theorem castTarget_of_plain (plain : IsPlainWord word) (isArray : Bool) :
    castTarget (word ++ brackets isArray) = word ++ brackets isArray := by
  have folded := plain.toLower_bounded isArray
  have notCapital : word ++ brackets isArray ≠ "CHAR[]" := by
    intro same
    rw [← String.toList_append, same] at folded
    exact absurd folded (by decide)
  rw [castTarget, if_neg notCapital, folded, ← String.toList_append, String.ofList_toList]

/-- The word of a name that is read is plain once it is folded. -/
theorem isPlainWord_takeWhile {s : List Char}
    (begins : ((s.map Char.toLower).takeWhile extendsName).head?.any beginsName = true) :
    IsPlainWord (String.ofList ((s.map Char.toLower).takeWhile extendsName)) where
  begins := by rwa [String.toList_ofList]
  goesOn := by
    rw [String.toList_ofList, List.all_eq_true]
    exact fun c member => List.mem_takeWhile_imp member
  folded := by
    rw [String.toList_ofList]
    refine (List.map_congr_left fun c member => ?_).trans (List.map_id _)
    obtain ⟨letter, -, rfl⟩ := List.mem_map.mp ((List.takeWhile_sublist _).mem member)
    exact toLower_toLower letter

/-! ### Types that are read back -/

/-- **A type that is plainly named**: a built-in one other than that of bits, which is cut to one,
or one that users have defined under a name that needs no quotes. -/
def ElementType.PlainlyNamed (reserved : String → Bool) : ElementType → Prop
  | .builtIn type => type.name ≠ "bit"
  | .userDefined name =>
    IsPlainWord name ∧ synonyms.lookup name = none ∧ name ∉ builtInTypes ∧ reserved name = false

theorem readWord_userDefined_iff {name : String} {limit : Option Nat} :
    readWord reserved word = some (.userDefined name, limit) ↔
      (synonyms.lookup name = none ∧ name ∉ builtInTypes ∧ reserved name = false) ∧
        word = name ∧ limit = none := by
  unfold readWord
  cases found : synonyms.lookup word with
  | some entry =>
    refine iff_of_false (fun same => ?_) ?_
    · cases same
    · rintro ⟨⟨missing, -⟩, rfl, -⟩
      rw [found] at missing
      cases missing
  | none =>
    dsimp only
    split_ifs with known taken
    · refine iff_of_false (fun same => ?_) ?_
      · cases same
      · rintro ⟨⟨-, unknown, -⟩, rfl, -⟩
        exact unknown known
    · refine iff_of_false nofun ?_
      rintro ⟨⟨-, -, free⟩, rfl, -⟩
      exact absurd taken (Bool.eq_false_iff.mp free)
    · constructor
      · intro same
        cases same
        exact ⟨⟨found, known, Bool.eq_false_iff.mpr taken⟩, rfl, rfl⟩
      · rintro ⟨-, rfl, rfl⟩
        rfl

/-- **How built-in types are read**: all as they are, but for the one of bits, which is cut to one
bit. -/
theorem readWord_builtIn (type : BuiltIn) (quoted : type.name ≠ "char") :
    readWord reserved type.name =
      some (.builtIn type, if type.name = "bit" then some 1 else none) := by
  have plain : ∀ name ∈ builtInTypes, name ≠ "char" → name ≠ "bit" →
      synonyms.lookup name = none := by decide
  obtain ⟨name, known⟩ := type
  by_cases bits : name = "bit"
  · subst bits
    rfl
  · rw [readWord, plain name known quoted bits]
    dsimp only
    rw [dif_pos known, if_neg bits]

theorem isPlainWord_builtIn (type : BuiltIn) : IsPlainWord type.name := by
  have begins : ∀ name ∈ builtInTypes, name.toList.head?.any beginsName = true := by decide
  have goesOn : ∀ name ∈ builtInTypes, name.toList.all extendsName = true := by decide
  have folded : ∀ name ∈ builtInTypes, name.toList.map Char.toLower = name.toList := by decide
  exact ⟨begins _ type.known, goesOn _ type.known, folded _ type.known⟩

/-- **The cast to a built-in type** is the name that it has in the catalogue. -/
theorem castTarget_builtIn (type : BuiltIn) (isArray : Bool)
    (needs : needsCast (capitalName type.name ++ brackets isArray) = true) :
    type.name ≠ "char" ∧
      castTarget (capitalName type.name ++ brackets isArray) = type.name ++ brackets isArray := by
  have all : ∀ name ∈ builtInTypes, ∀ isArray : Bool,
      needsCast (capitalName name ++ brackets isArray) = true →
        name ≠ "char" ∧
          castTarget (capitalName name ++ brackets isArray) = name ++ brackets isArray := by
    decide +kernel
  exact all _ type.known isArray needs

/-- A type that users have defined is read only from a name that is plainly its own. -/
theorem plainlyNamed_of_readType {text name : String} {isArray : Bool} {limit : Option Nat}
    (read : readType reserved text = some (⟨.userDefined name, isArray⟩, limit)) :
    (ElementType.userDefined name).PlainlyNamed reserved := by
  unfold readType at read
  dsimp only at read
  split_ifs at read with shaped
  obtain ⟨⟨element, limit'⟩, stands, same⟩ := Option.map_eq_some_iff.mp read
  cases same
  obtain ⟨free, rfl, -⟩ := readWord_userDefined_iff.mp stands
  exact ⟨isPlainWord_takeWhile (Bool.and_eq_true_iff.mp shaped).1, free⟩

/-! ### Names of the client -/

theorem exists_elementType_eq (scalar : ScalarType) :
    ∃ element : ElementType, element.clientName = scalar.typeName := by
  by_cases added : scalar = .citext
  · exact ⟨.userDefined "citext", added ▸ rfl⟩
  · have builtIn : ∃ name ∈ builtInTypes, capitalName name = scalar.typeName := by
      cases scalar <;> first | exact absurd rfl added | decide
    obtain ⟨name, known, same⟩ := builtIn
    exact ⟨.builtIn ⟨name, known⟩, same⟩

/-- Every type that a column may have is a type of the server, with the name that the client has for
it. -/
theorem exists_clientName_eq (type : ColumnType) :
    ∃ server : ServerType, server.clientName = type.typeName := by
  cases type with
  | scalar scalar =>
    obtain ⟨element, same⟩ := exists_elementType_eq scalar
    exact ⟨⟨element, false⟩, String.append_empty.trans same⟩
  | array scalar =>
    obtain ⟨element, same⟩ := exists_elementType_eq scalar
    exact ⟨⟨element, true⟩, congrArg (· ++ "[]") same⟩
  | enumeration name | other name => exact ⟨⟨.userDefined name, false⟩, String.append_empty⟩

/-! ### Casts -/

variable {type first second : ServerType}

/-- **A cast is to the type itself, without a limit, exactly if that is plainly named.** -/
theorem readType_castTarget_iff (needs : needsCast type.clientName = true) :
    readType reserved (castTarget type.clientName) = some (type, none) ↔
      type.element.PlainlyNamed reserved := by
  obtain ⟨element, isArray⟩ := type
  cases element with
  | builtIn type =>
    obtain ⟨quoted, target⟩ := castTarget_builtIn type isArray needs
    show readType reserved (castTarget (capitalName type.name ++ brackets isArray)) = _ ↔ _
    rw [target, readType_bounded (isPlainWord_builtIn type), readWord_builtIn type quoted]
    simp [ElementType.PlainlyNamed]
  | userDefined name =>
    -- A name that was read as this type is plain, whatever text it was read from.
    refine ⟨plainlyNamed_of_readType, fun ⟨plain, free⟩ => ?_⟩
    show readType reserved (castTarget (name ++ brackets isArray)) = _
    rw [castTarget_of_plain plain, readType_bounded plain,
      readWord_userDefined_iff.mpr ⟨free, rfl, rfl⟩]
    rfl

/-- **Types that are plainly named have casts of their own.** -/
theorem eq_of_castTarget_eq (needs : needsCast first.clientName = true)
    (needs' : needsCast second.clientName = true) (plain : first.element.PlainlyNamed reserved)
    (plain' : second.element.PlainlyNamed reserved)
    (same : castTarget first.clientName = castTarget second.clientName) : first = second := by
  have read := (readType_castTarget_iff needs).mpr plain
  rw [same, (readType_castTarget_iff needs').mpr plain'] at read
  cases read
  rfl

/-- **Casts name their types.** A cast is to the type of the parameter itself, without a limit of
length, exactly if that is plainly named: of the built-in types and their arrays all are but `bit`,
and of those that users have defined the ones whose names need no quotes. No two of them have the
same cast. -/
theorem casts_name_types_iff (reserved : String → Bool) :
    (∀ type : ServerType, needsCast type.clientName = true →
      (readType reserved (castTarget type.clientName) = some (type, none) ↔
        type.element.PlainlyNamed reserved)) ∧
    ∀ first second : ServerType, needsCast first.clientName = true →
      needsCast second.clientName = true → first.element.PlainlyNamed reserved →
      second.element.PlainlyNamed reserved →
      castTarget first.clientName = castTarget second.clientName → first = second :=
  ⟨fun _ needs => readType_castTarget_iff needs,
    fun _ _ needs needs' plain plain' same => eq_of_castTarget_eq needs needs' plain plain' same⟩

/-- Arrays of blank-padded text. -/
def paddedArray : ServerType :=
  ⟨.builtIn ⟨"bpchar", by decide⟩, true⟩

/-- Arrays of a type that users have defined. -/
def moodArray : ServerType :=
  ⟨.userDefined "mood", true⟩

theorem casts_name_types_arrays :
    (needsCast paddedArray.clientName = true ∧ castTarget paddedArray.clientName = "bpchar[]" ∧
      readType (fun _ => false) (castTarget paddedArray.clientName) = some (paddedArray, none)) ∧
    (needsCast moodArray.clientName = true ∧ castTarget moodArray.clientName = "mood[]" ∧
      readType (fun _ => false) (castTarget moodArray.clientName) = some (moodArray, none)) ∧
    castTarget paddedArray.clientName ≠ castTarget moodArray.clientName := by
  obtain ⟨reads, apart⟩ := casts_name_types_iff fun _ => false
  have padded : paddedArray.element.PlainlyNamed fun _ => false := by
    show "bpchar" ≠ "bit"
    decide
  have mood : moodArray.element.PlainlyNamed fun _ => false :=
    ⟨⟨by decide, by decide, by decide⟩, by decide, by decide, rfl⟩
  have needs : needsCast paddedArray.clientName = true := by decide
  have needs' : needsCast moodArray.clientName = true := by decide
  refine ⟨⟨needs, by decide, (reads _ needs).mpr padded⟩,
    ⟨needs', by decide, (reads _ needs').mpr mood⟩, fun same => ?_⟩
  cases apart _ _ needs needs' padded mood same

/-- The type of bits. -/
def bitType : ServerType :=
  ⟨.builtIn ⟨"bit", by decide⟩, false⟩

/-- **The cast to `bit` cuts its values to one bit**, and names that differ in the case of their
letters alone have the same cast. -/
theorem casts_misname_types :
    (needsCast bitType.clientName = true ∧ castTarget bitType.clientName = "bit" ∧
      readType (fun _ => false) (castTarget bitType.clientName) = some (bitType, some 1)) ∧
    (needsCast "Mood" = true ∧ needsCast "mood" = true ∧ castTarget "Mood" = castTarget "mood") ∧
    ¬∀ type : ServerType, needsCast type.clientName = true →
      readType (fun _ => false) (castTarget type.clientName) = some (type, none) := by
  have needs : needsCast bitType.clientName = true := by decide
  have target : castTarget bitType.clientName = "bit" ++ brackets false := by decide
  have cut : readType (fun _ => false) (castTarget bitType.clientName) =
      some (bitType, some 1) := by
    have plain : IsPlainWord "bit" := ⟨by decide, by decide, by decide⟩
    rw [target, readType_bounded plain, readWord_builtIn ⟨"bit", by decide⟩ (by decide)]
    rfl
  refine ⟨⟨needs, by decide, cut⟩, ⟨by decide, by decide, by decide⟩, fun right => ?_⟩
  have same := right bitType needs
  rw [cut] at same
  cases same

end TenantReports.Postgres
