import Mathlib.Logic.Relation
import TenantReports.Config.Basic
import TenantReports.Proofs.Attempts
import TenantReports.Proofs.Keyed
import TenantReports.Proofs.Text.Pieces

/-!
# What a configuration is made from

**All values are treated alike: blanks around them mean nothing, blank ones are as good as none, and
names that mean nothing may come and go.**

* `ownKeys`: the names that mean something.
* `Given`: there is a value, and it is not blank.
* `ofValues_congr`: the outcome depends on the values that are given under these names, and of the
  two names for the time limit of queries on the one that counts.
* `Immaterial`: a change that makes no difference.
* `ofValues_eq_of_immaterial`: the outcome is the same after any number of such changes.
* `ofValues_eq`: the configuration that is made from values as they stand, each read by itself.
* `ofValues_eq_ok_iff`: the configuration that is accepted, part by part.
* `Limited`: times and connections are at least one.
* `uniform_values`: all of these together.
-/

namespace TenantReports.Config

open Text (isBlank trim trimmed)

variable {values other : Keyed String} {config : Config} {key : String}

/-! ### Values that are given -/

/-- **The names that a configuration is made from**: all but that of the file. -/
def ownKeys : List String :=
  keys.filter (· ≠ pathKey)

/-- **A value is given**: there is one, and it is not blank. -/
def Given (values : Keyed String) (key : String) : Prop :=
  ∃ value, values.get? key = some value ∧ ∃ c ∈ value.toList, isBlank c = false

/-- What counts of a value; nothing if it is blank. -/
def material? (value : String) : Option String :=
  (some (trimmed value)).filter fun value => !value.isEmpty

theorem value?_eq_bind (values : Keyed String) (key : String) :
    value? values key = (values.get? key).bind material? := by
  unfold value?
  cases values.get? key with
  | none => rfl
  | some value => rw [Option.map_some, Option.bind_some, material?]

theorem material?_eq_none_iff {value : String} :
    material? value = none ↔ ∀ c ∈ value.toList, isBlank c = true := by
  rw [← Text.trim_eq_nil_iff, material?, Option.filter_eq_none_iff]
  simp [trimmed]

/-- Blanks around a value do not count. -/
theorem material?_between {before inner after : List Char} (left : ∀ c ∈ before, isBlank c = true)
    (right : ∀ c ∈ after, isBlank c = true) :
    material? (String.ofList (before ++ inner ++ after)) = material? (String.ofList inner) := by
  simp only [material?, trimmed, String.toList_ofList, Text.trim_append_right right,
    Text.trim_append_left left]

theorem value?_eq_none_iff : value? values key = none ↔ ¬Given values key := by
  rw [value?_eq_bind, Option.bind_eq_none_iff]
  simp only [material?_eq_none_iff, Given, not_exists, not_and, Bool.not_eq_false]

theorem isSome_value?_iff : (value? values key).isSome = true ↔ Given values key := by
  rw [Option.isSome_iff_ne_none, ne_eq, value?_eq_none_iff, not_not]

theorem value?_insert (values : Keyed String) (name value key : String) :
    value? (values.insert name value) key =
      if key = name then material? value else value? values key := by
  rw [value?_eq_bind, value?_eq_bind, Keyed.get?_insert]
  split
  next => rw [Option.bind_some]
  next => rfl

theorem value?_erase (values : Keyed String) (name key : String) :
    value? (values.erase name) key = if key = name then none else value? values key := by
  rw [value?_eq_bind, value?_eq_bind, Keyed.get?_erase]
  split <;> rfl

/-! ### What the outcome depends on -/

/-- The time limit of queries as it is given: under its name, or else under the older one. -/
def queryTimeout? (values : Keyed String) : Option String :=
  (value? values queryTimeoutKey).or (value? values olderTimeoutKey)

/-- **What the outcome depends on**: the values that are given under the known names, and of the two
names for the time limit of queries on the one that counts. -/
theorem ofValues_congr (timeout : queryTimeout? values = queryTimeout? other)
    (same : ∀ key ∈ ownKeys, key ≠ queryTimeoutKey → key ≠ olderTimeoutKey →
      value? values key = value? other key) :
    ofValues values = ofValues other := by
  have credentials : credentialsOf values = credentialsOf other := by
    unfold credentialsOf
    rw [same urlKey (by decide) (by decide) (by decide),
      same userKey (by decide) (by decide) (by decide),
      same passKey (by decide) (by decide) (by decide)]
  unfold queryTimeout? at timeout
  unfold ofValues
  rw [timeout, credentials, same bindKey (by decide) (by decide) (by decide),
    same whitelistKey (by decide) (by decide) (by decide),
    same fileRootKey (by decide) (by decide) (by decide),
    same settingsTimeoutKey (by decide) (by decide) (by decide),
    same fetchTimeoutKey (by decide) (by decide) (by decide),
    same maxConnectionsKey (by decide) (by decide) (by decide),
    same connectTimeoutKey (by decide) (by decide) (by decide)]

/-- **A given time limit of queries wins** over whatever stands under the older name. -/
theorem ofValues_of_given (given : Given values queryTimeoutKey)
    (same : ∀ key, key ≠ olderTimeoutKey → values.get? key = other.get? key) :
    ofValues values = ofValues other := by
  have alike : ∀ key, key ≠ olderTimeoutKey → value? values key = value? other key :=
    fun key differs => by rw [value?_eq_bind, value?_eq_bind, same key differs]
  obtain ⟨timeout, found⟩ := Option.isSome_iff_exists.mp (isSome_value?_iff.mpr given)
  have found' : value? other queryTimeoutKey = some timeout :=
    alike queryTimeoutKey (by decide) ▸ found
  refine ofValues_congr ?_ fun key _ _ differs => alike key differs
  rw [queryTimeout?, queryTimeout?, found, found', Option.some_or, Option.some_or]

/-- **A time limit of queries that is not given gives way** to what stands under the older name: it
is as if that stood under the newer one. -/
theorem ofValues_of_not_given (missing : ¬Given values queryTimeoutKey) {older : String}
    (found : values.get? olderTimeoutKey = some older) :
    ofValues values = ofValues ((values.erase olderTimeoutKey).insert queryTimeoutKey older) := by
  refine ofValues_congr ?_ fun key _ differs differs' => ?_
  · have apart : olderTimeoutKey ≠ queryTimeoutKey := by decide
    rw [queryTimeout?, queryTimeout?, value?_eq_none_iff.mpr missing, value?_insert, if_pos rfl,
      value?_insert, if_neg apart, value?_erase, if_pos rfl, value?_eq_bind values, found,
      Option.none_or, Option.or_none, Option.bind_some]
  · rw [value?_insert, if_neg differs, value?_erase, if_neg differs']

/-! ### Values as they stand -/

/-- The address that a value stands for, or that of this host if the value is blank. -/
def address (value : Option String) : Except StartupError Net.Socket :=
  match value with
  | none => .ok (.v4 ⟨127, 0, 0, 1⟩ 12369)
  | some value =>
    if (trimmed value).isEmpty then .ok (.v4 ⟨127, 0, 0, 1⟩ 12369)
    else
      match Net.Socket.ofText? (trimmed value) with
      | some address => .ok address
      | none => .error (.notAddress bindKey)

/-- The integer below `bound` that a value stands for, or the default if the value is blank. -/
def integer (bound default : Nat) (key : String) (value : Option String) :
    Except StartupError Nat :=
  match value with
  | none => .ok default
  | some value =>
    if (trimmed value).isEmpty then .ok default
    else
      match Number.unsigned? bound (trimmed value).toList with
      | some n => .ok n
      | none => .error (.notInteger key)

/-- A number, which may not be zero. -/
def nonzero (key : String) (n : Nat) : Except StartupError Nat :=
  if n = 0 then .error (.zero key) else .ok n

theorem nonzero_of_ne (key : String) {n : Nat} (positive : n ≠ 0) : nonzero key n = .ok n :=
  if_neg positive

/-- The patterns that stand in a value. -/
def patterns (value : Option String) : Except StartupError Whitelist :=
  match value with
  | none => .ok []
  | some value => patternsOf (Text.words value.toList)

/-- The value for the time limit of queries: that under its name unless it is blank, or else that
under the older name. -/
def timeout? (values : Keyed String) : Option String :=
  ((values.get? queryTimeoutKey).filter fun value => !(trimmed value).isEmpty).or
    (values.get? olderTimeoutKey)

theorem material?_of_isEmpty {value : String} (blank : (trimmed value).isEmpty = true) :
    material? value = none := by
  rw [material?, Option.filter_some, if_neg (by simp [blank])]

theorem material?_of_not_isEmpty {value : String} (given : ¬(trimmed value).isEmpty = true) :
    material? value = some (trimmed value) := by
  rw [material?, Option.filter_some, if_pos (by simpa using given)]

theorem bindOf_material? (value : Option String) :
    bindOf (value.bind material?) = address value := by
  cases value with
  | none => rfl
  | some value =>
    rw [Option.bind_some, address]
    split
    next blank =>
      rw [material?_of_isEmpty blank]
      rfl
    next given =>
      rw [material?_of_not_isEmpty given]
      unfold bindOf
      cases read : Net.Socket.ofText? (trimmed value) with
      | none => simp only [read]
      | some address => simp only [read]

/-- **A number is read first**, and then it may not be zero. -/
theorem positive_material? {bound default : Nat} (least : default ≠ 0) (key : String)
    (value : Option String) :
    positive bound default key (value.bind material?) =
      integer bound default key value >>= nonzero key := by
  cases value with
  | none => exact (nonzero_of_ne key least).symm
  | some value =>
    rw [Option.bind_some, integer]
    split
    next blank =>
      rw [material?_of_isEmpty blank]
      exact (nonzero_of_ne key least).symm
    next given =>
      rw [material?_of_not_isEmpty given, positive]
      cases read : Number.unsigned? bound (trimmed value).toList with
      | none => rfl
      | some n =>
        cases n with
        | zero => rfl
        | succ n => exact (nonzero_of_ne key n.succ_ne_zero).symm

/-- **The patterns are the words of the value as it stands.** -/
theorem patternsOf_material? (value : Option String) :
    patternsOf (Text.words ((value.bind material?).getD "").toList) = patterns value := by
  cases value with
  | none => rfl
  | some value =>
    have words : Text.words ((material? value).getD "").toList = Text.words value.toList := by
      by_cases blank : (trimmed value).isEmpty = true
      · have blanks := material?_eq_none_iff.mp (material?_of_isEmpty blank)
        rw [material?_of_isEmpty blank, Text.words_of_blank blanks]
        rfl
      · rw [material?_of_not_isEmpty blank, Option.getD_some, trimmed, String.toList_ofList,
          Text.words_trim]
    rw [Option.bind_some, words, patterns]

theorem queryTimeout?_eq (values : Keyed String) :
    queryTimeout? values = (timeout? values).bind material? := by
  rw [queryTimeout?, timeout?, value?_eq_bind, value?_eq_bind]
  cases values.get? queryTimeoutKey with
  | none => rfl
  | some value =>
    rw [Option.bind_some, Option.filter_some]
    by_cases blank : (trimmed value).isEmpty = true
    · rw [material?_of_isEmpty blank, if_neg (by simp [blank]), Option.none_or, Option.none_or]
    · rw [if_pos (by simpa using blank), Option.some_or, Option.bind_some,
        material?_of_not_isEmpty blank, Option.some_or]

/-- **The configuration of values as they stand**, each of which is read by itself. -/
theorem ofValues_eq (values : Keyed String) : ofValues values = (do
    let bind ← address (values.get? bindKey)
    let queryTimeout ← integer Number.bound64 60 queryTimeoutKey (timeout? values) >>=
      nonzero queryTimeoutKey
    let whitelist ← patterns (values.get? whitelistKey)
    let settingsTimeout ← integer Number.bound64 5000 settingsTimeoutKey
      (values.get? settingsTimeoutKey) >>= nonzero settingsTimeoutKey
    let fetchTimeout ← integer Number.bound64 30000 fetchTimeoutKey
      (values.get? fetchTimeoutKey) >>= nonzero fetchTimeoutKey
    let maxConnections ← integer Number.bound32 4 maxConnectionsKey
      (values.get? maxConnectionsKey) >>= nonzero maxConnectionsKey
    let connectTimeout ← integer Number.bound64 5000 connectTimeoutKey
      (values.get? connectTimeoutKey) >>= nonzero connectTimeoutKey
    return {
      bind
      queryTimeout := UInt64.ofNat queryTimeout
      whitelist
      fileRoot := (value? values fileRootKey).getD "."
      settingsTimeout := UInt64.ofNat settingsTimeout
      fetchTimeout := UInt64.ofNat fetchTimeout
      maxConnections := UInt32.ofNat maxConnections
      connectTimeout := UInt64.ofNat connectTimeout
      credentials := credentialsOf values }) := by
  have timeout := queryTimeout?_eq values
  unfold queryTimeout? at timeout
  unfold ofValues
  rw [timeout]
  simp only [value?_eq_bind, bindOf_material?, patternsOf_material?,
    positive_material? (by decide : 60 ≠ 0), positive_material? (by decide : 5000 ≠ 0),
    positive_material? (by decide : 30000 ≠ 0), positive_material? (by decide : 4 ≠ 0)]

/-! ### Changes that make no difference -/

/-- **A change that makes no difference**: blanks are taken off a value, at either end and not
necessarily all of them, a blank value is dropped, or a name that means nothing comes or goes. -/
inductive Immaterial (values : Keyed String) : Keyed String → Prop
  | trimmed {key : String} {before inner after : List Char}
    (had : values.get? key = some (String.ofList (before ++ inner ++ after)))
    (left : ∀ c ∈ before, isBlank c = true) (right : ∀ c ∈ after, isBlank c = true) :
    Immaterial values (values.insert key (String.ofList inner))
  | dropped {key value : String} (had : values.get? key = some value)
    (blank : ∀ c ∈ value.toList, isBlank c = true) : Immaterial values (values.erase key)
  | added {key : String} (unknown : key ∉ ownKeys) (value : String) :
    Immaterial values (values.insert key value)
  | removed {key : String} (unknown : key ∉ ownKeys) : Immaterial values (values.erase key)

/-- **After such a change the same values are given** under the known names. -/
theorem Immaterial.value?_eq (change : Immaterial values other) (own : key ∈ ownKeys) :
    value? other key = value? values key := by
  have differs : ∀ {name}, name ∉ ownKeys → key ≠ name := fun unknown same => unknown (same ▸ own)
  cases change with
  | trimmed had left right =>
    rw [value?_insert]
    split
    next same => rw [same, value?_eq_bind, had, Option.bind_some, material?_between left right]
    next => rfl
  | dropped had blank =>
    rw [value?_erase]
    split
    next same =>
      rw [same, value?_eq_bind, had, Option.bind_some, material?_eq_none_iff.mpr blank]
    next => rfl
  | added unknown value => rw [value?_insert, if_neg (differs unknown)]
  | removed unknown => rw [value?_erase, if_neg (differs unknown)]

theorem Immaterial.ofValues_eq (change : Immaterial values other) :
    ofValues values = ofValues other := by
  refine ofValues_congr ?_ fun key own _ _ => (change.value?_eq own).symm
  rw [queryTimeout?, queryTimeout?, change.value?_eq (by decide), change.value?_eq (by decide)]

/-- **The outcome is the same after any number of such changes**, made or taken back. -/
theorem ofValues_eq_of_immaterial (changes : Relation.EqvGen Immaterial values other) :
    ofValues values = ofValues other := by
  induction changes with
  | rel values other change => exact change.ofValues_eq
  | refl values => rfl
  | symm values other _ same => exact same.symm
  | trans values between other _ _ first second => exact first.trans second

/-! ### What is accepted -/

section Positive

variable {bound default n : Nat} {value : Option String}

/-- **A number that is accepted** is the default or the one that the value is the text of. -/
theorem positive_eq_ok_iff :
    positive bound default key value = .ok n ↔
      (value = none ∧ n = default) ∨
        ∃ text, value = some text ∧ Number.unsigned? bound text.toList = some n ∧ n ≠ 0 := by
  cases value with
  | none => simp [positive, eq_comm]
  | some text =>
    simp only [positive, reduceCtorEq, false_and, false_or, Option.some.injEq, exists_eq_left']
    cases read : Number.unsigned? bound text.toList with
    | none => simp
    | some m =>
      cases m with
      | zero => simp [eq_comm]
      | succ m =>
        simp only [Except.ok.injEq, Option.some.injEq]
        exact ⟨fun same => ⟨same, same ▸ m.succ_ne_zero⟩, And.left⟩

theorem lt_of_unsigned? {s : List Char} (read : Number.unsigned? bound s = some n) : n < bound := by
  unfold Number.unsigned? at read
  simpa using (Option.filter_eq_some_iff.mp read).2

/-- Numbers that are accepted are at least one and below the bound. -/
theorem bounds_of_positive (least : 0 < default) (below : default < bound)
    (accepted : positive bound default key value = .ok n) : 0 < n ∧ n < bound := by
  rcases positive_eq_ok_iff.mp accepted with ⟨-, rfl⟩ | ⟨text, -, read, positive⟩
  · exact ⟨least, below⟩
  · exact ⟨Nat.pos_of_ne_zero positive, lt_of_unsigned? read⟩

end Positive

/-- **What a configuration has from the values.** -/
structure Reads (values : Keyed String) (config : Config) : Prop where
  bind : bindOf (value? values bindKey) = .ok config.bind
  queryTimeout : positive Number.bound64 60 queryTimeoutKey (queryTimeout? values) =
    .ok config.queryTimeout.toNat
  whitelist : patternsOf (Text.words ((value? values whitelistKey).getD "").toList) =
    .ok config.whitelist
  fileRoot : config.fileRoot = (value? values fileRootKey).getD "."
  settingsTimeout : positive Number.bound64 5000 settingsTimeoutKey
    (value? values settingsTimeoutKey) = .ok config.settingsTimeout.toNat
  fetchTimeout : positive Number.bound64 30000 fetchTimeoutKey (value? values fetchTimeoutKey) =
    .ok config.fetchTimeout.toNat
  maxConnections : positive Number.bound32 4 maxConnectionsKey (value? values maxConnectionsKey) =
    .ok config.maxConnections.toNat
  connectTimeout : positive Number.bound64 5000 connectTimeoutKey
    (value? values connectTimeoutKey) = .ok config.connectTimeout.toNat
  credentials : config.credentials = credentialsOf values

/-- **The configuration that is accepted, part by part.** -/
theorem ofValues_eq_ok_iff : ofValues values = .ok config ↔ Reads values config := by
  have whole : ∀ {default n : Nat} {key : String} {value : Option String}, 0 < default →
      default < Number.bound64 → positive Number.bound64 default key value = .ok n →
      (UInt64.ofNat n).toNat = n := fun least below accepted =>
    UInt64.toNat_ofNat_of_lt' (bounds_of_positive least below accepted).2
  constructor
  · intro accepted
    unfold ofValues at accepted
    simp only [bind_eq_ok_iff] at accepted
    obtain ⟨bind, hbind, queryTimeout, hquery, whitelist, hwhitelist, settingsTimeout, hsettings,
      fetchTimeout, hfetch, maxConnections, hconnections, connectTimeout, hconnect, made⟩ :=
      accepted
    have small : (UInt32.ofNat maxConnections).toNat = maxConnections :=
      UInt32.toNat_ofNat_of_lt' (bounds_of_positive (by decide) (by decide) hconnections).2
    cases made
    constructor
    case bind => exact hbind
    case queryTimeout => rwa [whole (by decide) (by decide) hquery]
    case whitelist => exact hwhitelist
    case fileRoot => rfl
    case settingsTimeout => rwa [whole (by decide) (by decide) hsettings]
    case fetchTimeout => rwa [whole (by decide) (by decide) hfetch]
    case maxConnections => rwa [small]
    case connectTimeout => rwa [whole (by decide) (by decide) hconnect]
    case credentials => rfl
  · intro reads
    have timeout := reads.queryTimeout
    unfold queryTimeout? at timeout
    unfold ofValues
    simp only [bind_eq_ok_iff]
    refine ⟨_, reads.bind, _, timeout, _, reads.whitelist, _, reads.settingsTimeout, _,
      reads.fetchTimeout, _, reads.maxConnections, _, reads.connectTimeout, ?_⟩
    rw [← reads.fileRoot, ← reads.credentials, UInt64.ofNat_toNat, UInt64.ofNat_toNat,
      UInt64.ofNat_toNat, UInt64.ofNat_toNat, UInt32.ofNat_toNat]
    rfl

/-- **Times and connections are at least one**, and connections can be counted in 32 bits. -/
structure Limited (config : Config) : Prop where
  queryTimeout : 1 ≤ config.queryTimeout.toNat
  settingsTimeout : 1 ≤ config.settingsTimeout.toNat
  fetchTimeout : 1 ≤ config.fetchTimeout.toNat
  connectTimeout : 1 ≤ config.connectTimeout.toNat
  maxConnections : 1 ≤ config.maxConnections.toNat ∧ config.maxConnections.toNat ≤ 4294967295

namespace Reads

variable (reads : Reads values config)
include reads

theorem limited : Limited config where
  queryTimeout := (bounds_of_positive (by decide) (by decide) reads.queryTimeout).1
  settingsTimeout := (bounds_of_positive (by decide) (by decide) reads.settingsTimeout).1
  fetchTimeout := (bounds_of_positive (by decide) (by decide) reads.fetchTimeout).1
  connectTimeout := (bounds_of_positive (by decide) (by decide) reads.connectTimeout).1
  maxConnections :=
    have ⟨least, below⟩ := bounds_of_positive (by decide) (by decide) reads.maxConnections
    ⟨least, Nat.le_pred_of_lt below⟩

/-- **There are credentials exactly when all three parts of them are given.** -/
theorem isSome_credentials_iff : config.credentials.isSome = true ↔
    Given values urlKey ∧ Given values userKey ∧ Given values passKey := by
  rw [reads.credentials, ← isSome_value?_iff, ← isSome_value?_iff, ← isSome_value?_iff]
  unfold credentialsOf
  cases value? values urlKey <;> cases value? values userKey <;>
    cases value? values passKey <;> simp

end Reads

/-- **All values are treated alike.** Taking blanks off values, dropping blank values, and adding or
removing names that mean nothing changes neither the configuration nor the error. A blank time limit
of queries gives way to the one under the older name, and any other wins over it. Of a configuration
that is accepted, the credentials are there exactly when all their parts are given, and its times
and connections are at least one. -/
theorem uniform_values :
    (∀ values other, Relation.EqvGen Immaterial values other → ofValues values = ofValues other) ∧
    (∀ values older, ¬Given values queryTimeoutKey → values.get? olderTimeoutKey = some older →
      ofValues values = ofValues ((values.erase olderTimeoutKey).insert queryTimeoutKey older)) ∧
    (∀ values other, Given values queryTimeoutKey →
      (∀ key, key ≠ olderTimeoutKey → values.get? key = other.get? key) →
      ofValues values = ofValues other) ∧
    ∀ values config, ofValues values = .ok config →
      (config.credentials.isSome = true ↔
        Given values urlKey ∧ Given values userKey ∧ Given values passKey) ∧
      Limited config :=
  ⟨fun _ _ changes => ofValues_eq_of_immaterial changes,
    fun _ _ missing found => ofValues_of_not_given missing found,
    fun _ _ given same => ofValues_of_given given same,
    fun _ _ accepted =>
      have reads := ofValues_eq_ok_iff.mp accepted
      ⟨reads.isSome_credentials_iff, reads.limited⟩⟩

/-- Values with blanks around them, a blank time limit, and a name that means nothing. -/
def paddedValues : Keyed String :=
  Keyed.ofList [(queryTimeoutKey, " \t"), (olderTimeoutKey, "15"), (maxConnectionsKey, " 8\n"),
    (urlKey, "postgres://db"), (userKey, "u"), (passKey, "\u2003"), ("REPORTING_COLOUR", "red")]

/-- The same without any of that. -/
def plainValues : Keyed String :=
  Keyed.ofList [(olderTimeoutKey, "15"), (maxConnectionsKey, "8"), (urlKey, "postgres://db"),
    (userKey, "u")]

theorem immaterial_padded : Relation.EqvGen Immaterial paddedValues plainValues := by
  let trimmed := paddedValues.insert maxConnectionsKey "8"
  let unlimited := trimmed.erase queryTimeoutKey
  have trims : Immaterial paddedValues trimmed :=
    @Immaterial.trimmed paddedValues maxConnectionsKey [' '] ['8'] ['\n'] (by decide)
      (List.all_eq_true.mp (by decide)) (List.all_eq_true.mp (by decide))
  have drops : Immaterial trimmed unlimited :=
    @Immaterial.dropped trimmed queryTimeoutKey " \t" (by decide)
      (List.all_eq_true.mp (by decide))
  have dropsToo : Immaterial unlimited (unlimited.erase passKey) :=
    @Immaterial.dropped unlimited passKey "\u2003" (by decide)
      (List.all_eq_true.mp (by decide))
  have removes : Immaterial (unlimited.erase passKey) plainValues := by
    have plain : plainValues = (unlimited.erase passKey).erase "REPORTING_COLOUR" :=
      Keyed.eq_of_entries (by decide)
    rw [plain]
    exact .removed (by decide)
  exact .trans _ _ _ (.rel _ _ trims)
    (.trans _ _ _ (.rel _ _ drops) (.trans _ _ _ (.rel _ _ dropsToo) (.rel _ _ removes)))

theorem uniform_values_padded :
    (Relation.EqvGen Immaterial paddedValues plainValues ∧
      ofValues paddedValues = ofValues plainValues) ∧
    (¬Given paddedValues queryTimeoutKey ∧ paddedValues.get? olderTimeoutKey = some "15" ∧
      ofValues paddedValues =
        ofValues ((paddedValues.erase olderTimeoutKey).insert queryTimeoutKey "15")) ∧
    (Given (plainValues.insert queryTimeoutKey "x") queryTimeoutKey ∧
      ofValues (plainValues.insert queryTimeoutKey "x") =
        ofValues ((plainValues.insert queryTimeoutKey "x").erase olderTimeoutKey)) ∧
    ∃ config, ofValues plainValues = .ok config ∧ config.credentials.isSome = false ∧
      Limited config := by
  obtain ⟨alike, givesWay, wins, accepted⟩ := uniform_values
  have missing : ¬Given paddedValues queryTimeoutKey := value?_eq_none_iff.mp (by decide)
  have given : Given (plainValues.insert queryTimeoutKey "x") queryTimeoutKey :=
    isSome_value?_iff.mp (by decide)
  have unnamed : ¬Given plainValues passKey := value?_eq_none_iff.mp (by decide)
  refine ⟨⟨immaterial_padded, alike _ _ immaterial_padded⟩,
    ⟨missing, by decide, givesWay _ _ missing (by decide)⟩,
    ⟨given, wins _ _ given fun key differs => ?_⟩, ?_⟩
  · rw [Keyed.get?_erase, if_neg differs]
  · cases made : ofValues plainValues with
    | error error =>
      have sound : (ofValues plainValues).toBool = true := by decide +kernel
      rw [made] at sound
      cases sound
    | ok config =>
      obtain ⟨credentials, limited⟩ := accepted _ _ made
      refine ⟨config, rfl, Bool.eq_false_iff.mpr fun there => ?_, limited⟩
      exact unnamed (credentials.mp there).2.2

end TenantReports.Config
