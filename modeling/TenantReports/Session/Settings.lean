import TenantReports.Effect
import TenantReports.Json.Record

/-!
# Credentials in a tenant's settings

Where the gateway has no credentials of its own, it asks the settings service of the tenant for an
entry that holds them. The value of the entry is an object, or a string with the JSON text of one.

* `yields_iff`: what the answer of the settings service tells, case by case.
-/

namespace TenantReports.Settings

open Json (Tree Value)

/-- Why the settings of a tenant cannot be told. -/
inductive Error
  | timeout
  | transport (reason : String)
  /-- The service refused with a status. -/
  | refused (status : Nat)
  /-- The answer cannot be understood. -/
  | invalid (reason : String)
  deriving DecidableEq, Repr, Inhabited

/-- The wording of an error. -/
def Error.message : Error → String
  | .timeout => "settings request timed out"
  | .transport reason => "settings HTTP error: " ++ reason
  | .refused status => "settings service returned status " ++ Net.statusText status
  | .invalid reason => "settings service returned invalid response: " ++ reason

/-- Selects the entry that holds credentials. -/
def entryQuery : String := "scope==\"ui-ldp.admin\" and key==\"dbinfo\""

/-- Where the entries of a gateway's settings are. -/
def entriesUrl (gatewayUrl : String) : String :=
  String.ofList (gatewayUrl.toList.reverse.dropWhile (· == '/')).reverse ++ "/settings/entries"

/-- The request for a tenant's entry, if the caller's data make one. -/
def request? (gatewayUrl tenant token : String) : Option SettingsRequest :=
  match Net.Url.ofText? (entriesUrl gatewayUrl) with
  | some (.web url) =>
    if Net.isHeaderValue tenant && Net.isHeaderValue token then
      some ⟨url.withPair "query" entryQuery, tenant, token⟩
    else none
  | _ => none

/-! ### The answer -/

mutual

/-- The tree of a value. -/
def treeOf : Value → Tree
  | .null => .null
  | .bool b => .bool b
  | .number d => .number d
  | .string s => .string (some s)
  | .array items => .array (treesOf items)
  | .object members => .object (memberTreesOf members)

/-- The trees of values. -/
def treesOf : List Value → List Tree
  | [] => []
  | item :: items => treeOf item :: treesOf items

/-- The trees of an object's members. -/
def memberTreesOf : List (String × Value) → List (Option String × Tree)
  | [] => []
  | (key, value) :: members => (some key, treeOf value) :: memberTreesOf members

end

/-- The credentials that a record holds; a part that is missing is empty. -/
def credentialsOf? (tree : Tree) : Option Credentials := do
  match ← Json.fields? ["url", "user", "pass"] tree with
  | [url, user, pass] =>
    return ⟨← Json.orDefault "" Json.string? url, ← Json.orDefault "" Json.string? user,
      ← Json.orDefault "" Json.string? pass⟩
  | _ => none

/-- The value of an entry: what its text holds if it is a string. -/
def storedValue? : Value → Option Value
  | .string raw => Value.ofText? raw
  | value => some value

/-- The credentials in the value of an entry. If there are none, a colon and the reason that the
reader of JSON gives would follow in the error; they are left out. -/
def parseStored (value : Value) : Except Error Credentials :=
  match (storedValue? value).bind fun stored => credentialsOf? (treeOf stored) with
  | some credentials => .ok credentials
  | none => .error (.invalid "dbinfo value")

/-- The number of levels that the value of an entry is nested in. -/
def entryDepth : Nat := 3

/-- The value of an entry; null if it has none. -/
def entryValue? (tree : Tree) : Option Value := do
  match ← Json.fields? ["value"] tree with
  | [value] => Json.orDefault .null (Value.ofTree? (Json.maxDepth - entryDepth)) value
  | _ => none

/-- The values of the entries of an answer. -/
def entryValues? (body : List UInt8) : Option (List Value) := do
  match ← Json.fields? ["items"] (← Json.ofOctets? body) with
  | [items] => Json.orDefault [] (Json.list? entryValue?) items
  | _ => none

/-- The credentials in the body of an answer: those of its first entry. -/
def credentialsInBody (body : List UInt8) : Except Error (Option Credentials) :=
  match entryValues? body with
  | none => .error (.invalid "error decoding response body")
  | some [] => .ok none
  | some (value :: _) => (parseStored value).map some

/-- What the outcome of a request tells. -/
def ofOutcome : Net.Outcome → Except Error (Option Credentials)
  | .error .timeout => .error .timeout
  | .error (.failed reason) => .error (.transport reason)
  | .ok answer =>
    if Net.isSuccess answer.status then
      match answer.body with
      | .ok body => credentialsInBody body
      | .error _ => .error (.invalid "error decoding response body")
    else .error (.refused answer.status)

/-- **What the outcome of a request yields.** Without an answer, or with one that refuses or cannot
be understood, it is an error; with an answer that lists no entries there are no credentials; and
else they are in the value of the first entry. -/
inductive Yields : Net.Outcome → Except Error (Option Credentials) → Prop
  | late : Yields (.error .timeout) (.error .timeout)
  | unreached (reason : String) : Yields (.error (.failed reason)) (.error (.transport reason))
  | refused {answer : Net.Answer} (refuses : Net.isSuccess answer.status = false) :
    Yields (.ok answer) (.error (.refused answer.status))
  | unread {answer : Net.Answer} {error : Net.TransportError}
    (succeeds : Net.isSuccess answer.status = true) (unread : answer.body = .error error) :
    Yields (.ok answer) (.error (.invalid "error decoding response body"))
  | garbled {answer : Net.Answer} {body : List UInt8}
    (succeeds : Net.isSuccess answer.status = true) (read : answer.body = .ok body)
    (garbled : entryValues? body = none) :
    Yields (.ok answer) (.error (.invalid "error decoding response body"))
  | unset {answer : Net.Answer} {body : List UInt8}
    (succeeds : Net.isSuccess answer.status = true) (read : answer.body = .ok body)
    (unset : entryValues? body = some []) : Yields (.ok answer) (.ok none)
  | misstored {answer : Net.Answer} {body : List UInt8} {value : Value} {others : List Value}
    {error : Error} (succeeds : Net.isSuccess answer.status = true) (read : answer.body = .ok body)
    (entries : entryValues? body = some (value :: others))
    (misstored : parseStored value = .error error) : Yields (.ok answer) (.error error)
  | stored {answer : Net.Answer} {body : List UInt8} {value : Value} {others : List Value}
    {credentials : Credentials} (succeeds : Net.isSuccess answer.status = true)
    (read : answer.body = .ok body) (entries : entryValues? body = some (value :: others))
    (stored : parseStored value = .ok credentials) : Yields (.ok answer) (.ok (some credentials))

theorem yields_ofOutcome (outcome : Net.Outcome) : Yields outcome (ofOutcome outcome) := by
  match outcome with
  | .error .timeout => exact .late
  | .error (.failed reason) => exact .unreached reason
  | .ok answer =>
    unfold ofOutcome
    dsimp only
    split
    · next succeeds =>
      split
      · next body read =>
        unfold credentialsInBody
        split
        · next garbled => exact .garbled succeeds read garbled
        · next unset => exact .unset succeeds read unset
        · next value others entries =>
          cases told : parseStored value with
          | error error => exact .misstored succeeds read entries told
          | ok credentials => exact .stored succeeds read entries told
      · next error unread => exact .unread succeeds unread
    · next refuses => exact .refused (Bool.eq_false_iff.mpr refuses)

/-- **Every outcome yields one result**, the one that is made of it. -/
theorem yields_iff {outcome : Net.Outcome} {result : Except Error (Option Credentials)} :
    Yields outcome result ↔ ofOutcome outcome = result := by
  constructor
  · intro yields
    cases yields with
    | late | unreached => rfl
    | refused refuses => simp only [ofOutcome, refuses, Bool.false_eq_true, if_false]
    | unread succeeds unread => simp only [ofOutcome, succeeds, if_true, unread]
    | garbled succeeds read garbled =>
      simp only [ofOutcome, succeeds, if_true, read, credentialsInBody, garbled]
    | unset succeeds read unset =>
      simp only [ofOutcome, succeeds, if_true, read, credentialsInBody, unset]
    | misstored succeeds read entries told | stored succeeds read entries told =>
      simp only [ofOutcome, succeeds, if_true, read, credentialsInBody, entries, told, Except.map]
  · rintro rfl
    exact yields_ofOutcome outcome

/-- Asks the settings service of a tenant for credentials; there may be none. -/
def lookup (gatewayUrl tenant token : String) :
    GatewayTask (Except Error (Option Credentials)) :=
  match request? gatewayUrl tenant token with
  | none => .done (.error (.transport "builder error"))
  | some request => .ask (.settings request) fun outcome => .done (ofOutcome outcome)

end TenantReports.Settings
