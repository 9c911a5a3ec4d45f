import TenantReports.Gateway.Route
import TenantReports.Proofs.Attempts
import TenantReports.Proofs.Json.RoundTrip
import TenantReports.Proofs.Keyed
import TenantReports.Proofs.Postgres.Casting
import TenantReports.Proofs.Text.Order

/-!
# Arguments of a report

**Which arguments a report is called with**, and that the order in which a caller writes them has no
part in it.

* `CompiledQuery.Calls`: a call that lists arguments by name and binds their values in that order.
* `calls_invocation`: a report is called so, its names in the order of their octets.
* `ReportRequest.TakenFrom`: a body that is taken for a request, and the arguments that it writes,
  in its order and with repeated names.
* `ReportRequest.TakenFrom.params`: those of the request are the last of each name.
* `arguments_bound`: so requests that give each name the same last value make the same call.
-/

namespace TenantReports

open Json

/-! ### The call -/

/-- **A call of a function with named arguments**: every name that has a value is listed once, in
strictly increasing order of the octets, and the values are bound in the same order. -/
structure CompiledQuery.Calls (call : CompiledQuery) (function : String) (params : Keyed String)
    (limit : UInt64) (names : List String) : Prop where
  increasing : names.Pairwise fun a b => Text.Utf8.ofString a < Text.Utf8.ofString b
  complete : ∀ name, name ∈ names ↔ (params.get? name).isSome = true
  text : call.sql = "SELECT * FROM " ++ function ++ "(" ++
    String.intercalate ", " ((names.zipIdx 1).map fun (name, number) =>
      name ++ " => $" ++ Number.decimal number) ++ ")" ++
    if limit = 0 then "" else " LIMIT " ++ Number.decimal limit.toNat
  count : call.params.length = names.length
  bound : ∀ k (inside : k < names.length), call.params[k]? = params.get? names[k]

/-- **A report is called with its arguments by name.** -/
theorem calls_invocation (function : String) (params : Keyed String) (limit : UInt64) :
    (invocation function params limit).Calls function params limit
      (params.entries.map fun entry => entry.1) where
  increasing :=
    List.pairwise_map.mpr (params.increasing.imp fun less => Text.Utf8.ofString_lt_iff.mpr less)
  complete _ := Keyed.isSome_get?_iff.symm
  text := by
    unfold invocation limitClause
    rw [arguments_eq_map]
    rfl
  count := by
    unfold invocation
    rw [List.length_map, List.length_map]
  bound k inside := by
    rw [List.length_map] at inside
    have found : params.get? params.entries[k].1 = some params.entries[k].2 :=
      Keyed.get?_eq_some_iff.mpr (List.getElem_mem inside)
    unfold invocation
    rw [List.getElem_map, found, List.getElem?_map, List.getElem?_eq_getElem inside,
      Option.map_some]

/-! ### Objects of strings -/

/-- A string under its name, as an object has it. -/
def stringMember (entry : String × String) : Option String × Tree :=
  (some entry.1, .string (some entry.2))

/-- **Strings by name are read from objects of strings**, and from nothing else. -/
theorem strings?_eq_some_iff {tree : Tree} {strings : Keyed String} :
    strings? tree = some strings ↔
      ∃ written, tree = .object (written.map stringMember) ∧ strings = Keyed.ofList written := by
  have reads : ∀ (member : Option String × Tree) (entry : String × String),
      (member.1.bind fun key => (string? member.2).bind fun value => some (key, value)) =
        some entry ↔ member = stringMember entry := by
    rintro ⟨key, value⟩ entry
    constructor
    · intro read
      obtain ⟨key', rfl, read⟩ := Option.bind_eq_some_iff.mp read
      obtain ⟨content, found, same⟩ := Option.bind_eq_some_iff.mp read
      cases same
      dsimp only [string?] at found
      split at found
      · subst found
        rfl
      · cases found
    · rintro ⟨⟩
      rfl
  have all : ∀ (members : List (Option String × Tree)) (written : List (String × String)),
      (members.mapM fun member => member.1.bind fun key => (string? member.2).bind fun value =>
        some (key, value)) = some written ↔ members = written.map stringMember := by
    intro members written
    rw [mapM_eq_some_iff]
    simp only [reads]
    rw [← List.forall₂_map_right_iff, List.forall₂_eq_eq_eq]
  constructor
  · intro read
    unfold strings? at read
    split at read
    · obtain ⟨written, read, same⟩ := Option.bind_eq_some_iff.mp read
      exact ⟨written, congrArg Tree.object ((all _ _).mp read), (Option.some.inj same).symm⟩
    · cases read
  · rintro ⟨written, rfl, rfl⟩
    exact Option.bind_eq_some_iff.mpr ⟨written, (all _ _).mpr rfl, rfl⟩

/-! ### What a body writes -/

namespace ReportRequest

variable {tree : Tree} {request : ReportRequest} {written : List (String × String)}

/-- What a body gives for its arguments: the members of that name, or the second item of a list. -/
def paramTrees : Tree → List Tree
  | .object members => valuesOf "params" members
  | .array items => (items.drop 1).take 1
  | _ => []

/-- **The arguments that a body writes**, in its order and with repeated names; a body that leaves
them out writes none. -/
inductive Writes (tree : Tree) : List (String × String) → Prop
  | left (missing : paramTrees tree = []) : Writes tree []
  | object {written : List (String × String)}
    (only : paramTrees tree = [.object (written.map stringMember)]) : Writes tree written

/-- **A body that is taken for a request**, and the arguments that it writes. -/
structure TakenFrom (request : ReportRequest) (body : List UInt8)
    (written : List (String × String)) : Prop where
  taken : readBody ofTree? body = .ok request
  writes : ∃ tree, Json.ofOctets? body = some tree ∧ Writes tree written

/-- The field of the arguments is what a body gives for them. -/
theorem paramTrees_of_fields {url params limit : Option Tree}
    (found : fields? ["url", "params", "limit"] tree = some [url, params, limit]) :
    paramTrees tree = params.toList := by
  unfold fields? at found
  split at found
  · split at found
    · rw [mapM_eq_some_iff, List.forall₂_cons, List.forall₂_cons] at found
      obtain ⟨-, found, -⟩ := found
      split at found
      · next missing =>
        cases found
        exact missing
      · next only =>
        cases found
        exact only
      · cases found
    · cases found
  · next items =>
    split at found
    · next short =>
      match items, short with
      | [], _ | [_], _ | [_, _], _ | [_, _, _], _ =>
        cases found
        rfl
    · cases found
  · cases found

/-- The arguments of a request are read from their field. -/
theorem params_of_ofTree? (read : ofTree? tree = some request) :
    ∃ field : Option Tree, paramTrees tree = field.toList ∧
      orDefault Keyed.empty strings? field = some request.params := by
  obtain ⟨fields, found, read⟩ := Option.bind_eq_some_iff.mp read
  split at read
  · next url params limit =>
    obtain ⟨url', -, read⟩ := Option.bind_eq_some_iff.mp read
    obtain ⟨params', strings, read⟩ := Option.bind_eq_some_iff.mp read
    obtain ⟨limit', -, same⟩ := Option.bind_eq_some_iff.mp read
    cases same
    exact ⟨params, paramTrees_of_fields found, strings⟩
  · cases read

/-- What is read as a request writes arguments. -/
theorem exists_writes (read : ofTree? tree = some request) : ∃ written, Writes tree written := by
  obtain ⟨field, trees, strings⟩ := params_of_ofTree? read
  cases field with
  | none => exact ⟨[], .left trees⟩
  | some value =>
    obtain ⟨written, rfl, -⟩ := strings?_eq_some_iff.mp strings
    exact ⟨written, .object trees⟩

/-- **The arguments of a request are those that are written**, sorted by name, the last of each. -/
theorem Writes.params (writes : Writes tree written) (read : ofTree? tree = some request) :
    request.params = Keyed.ofList written := by
  obtain ⟨field, trees, strings⟩ := params_of_ofTree? read
  cases writes with
  | left missing =>
    cases field with
    | none => exact (Option.some.inj strings).symm
    | some value => cases missing.symm.trans trees
  | object only =>
    cases field with
    | none => cases only.symm.trans trees
    | some value =>
      cases only.symm.trans trees
      exact Option.some.inj (strings.symm.trans (strings?_eq_some_iff.mpr ⟨written, rfl, rfl⟩))

theorem ofTree?_of_readBody {body : List UInt8} (taken : readBody ofTree? body = .ok request) :
    ∃ tree, Json.ofOctets? body = some tree ∧ ofTree? tree = some request := by
  unfold readBody at taken
  split at taken
  · cases taken
  · split at taken
    · next found =>
      cases taken
      exact Option.bind_eq_some_iff.mp found
    · cases taken

theorem exists_takenFrom {body : List UInt8} (taken : readBody ofTree? body = .ok request) :
    ∃ written, request.TakenFrom body written := by
  obtain ⟨tree, parsed, read⟩ := ofTree?_of_readBody taken
  obtain ⟨written, writes⟩ := exists_writes read
  exact ⟨written, taken, tree, parsed, writes⟩

/-- **The arguments of a request are the last of each name that its body writes.** -/
theorem TakenFrom.params {body : List UInt8} (takenFrom : request.TakenFrom body written) :
    request.params = Keyed.ofList written := by
  obtain ⟨tree, parsed, writes⟩ := takenFrom.writes
  obtain ⟨tree', parsed', read⟩ := ofTree?_of_readBody takenFrom.taken
  cases parsed.symm.trans parsed'
  exact writes.params read

/-- The text of a value is a body that is taken for what the value is read as. -/
theorem takenFrom_text {value : Value} (legible : value.Legible)
    (short : (Text.Utf8.ofString value.text).length ≤ maxBody)
    (read : ofTree? value.tree = some request) (writes : Writes value.tree written) :
    request.TakenFrom (Text.Utf8.ofString value.text) written := by
  have parsed := ofOctets?_text legible
  refine ⟨?_, _, parsed, writes⟩
  rw [readBody, if_neg (Nat.not_lt.mpr short), parsed, Option.bind_some, read]

end ReportRequest

/-- **Arguments are bound to their names, whatever the order in which they are written.** Every
report is called with each of its names once, in the order of their octets, and with the value of
each name in its place. The names and values of a request are those that its body gives last, so two
requests of one limit whose bodies give each name the same last value make the same call. -/
theorem arguments_bound :
    (∀ function limit (request : ReportRequest), ∃ names,
      (invocation function request.params limit).Calls function request.params limit names) ∧
    (∀ body request, readBody ReportRequest.ofTree? body = .ok request →
      ∃ written, request.TakenFrom body written ∧
        ∀ name value, request.params.get? name = some value ↔ LastNamed written name value) ∧
    ∀ {body body' : List UInt8} {request request' : ReportRequest}
      {written written' : List (String × String)}, request.TakenFrom body written →
      request'.TakenFrom body' written' → request.limit = request'.limit →
      (∀ name value, LastNamed written name value ↔ LastNamed written' name value) →
      ∀ function, invocation function request.params request.limit =
        invocation function request'.params request'.limit := by
  refine ⟨fun function limit request => ⟨_, calls_invocation function request.params limit⟩, ?_, ?_⟩
  · intro body request taken
    obtain ⟨written, takenFrom⟩ := ReportRequest.exists_takenFrom taken
    refine ⟨written, takenFrom, fun name value => ?_⟩
    rw [takenFrom.params, Keyed.get?_ofList_eq_some_iff]
  · intro body body' request request' written written' takenFrom takenFrom' limit same function
    rw [takenFrom.params, takenFrom'.params, limit, Keyed.ofList_eq_iff.mpr same]

/-- A body whose arguments begin with a start that a later one replaces. -/
def startFirst : Value :=
  record [("params", .object [("start", .string "2022"), ("end", .string "2024"),
    ("start", .string "2023")]), ("limit", .nat 5)]

/-- A body that writes its limit first, then an address, and an end that a later one replaces. -/
def startLast : Value :=
  record [("limit", .nat 5), ("url", .string "loans.sql"), ("params", .object
    [("end", .string ""), ("end", .string "2024"), ("start", .string "2023")])]

/-- The two bodies give the same names the same last values. -/
theorem arguments_bound_duplicates :
    ∃ (request request' : ReportRequest) (written written' : List (String × String)),
      request.TakenFrom (Text.Utf8.ofString startFirst.text) written ∧
      request'.TakenFrom (Text.Utf8.ofString startLast.text) written' ∧
      ¬written.Perm written' ∧ request.limit = request'.limit ∧
      (∀ name value, LastNamed written name value ↔ LastNamed written' name value) ∧
      (invocation "count_loans" request.params request.limit =
        ⟨"SELECT * FROM count_loans(end => $1, start => $2) LIMIT 5", ["2024", "2023"]⟩) ∧
      ∀ function, invocation function request.params request.limit =
        invocation function request'.params request'.limit := by
  have takenFrom : ReportRequest.TakenFrom
      ⟨"", .ofList [("start", "2022"), ("end", "2024"), ("start", "2023")], 5⟩
      (Text.Utf8.ofString startFirst.text)
      [("start", "2022"), ("end", "2024"), ("start", "2023")] :=
    ReportRequest.takenFrom_text ⟨⟨trivial, trivial, trivial, trivial⟩, legible_digits 5, trivial⟩
      (by decide +kernel) rfl (.object rfl)
  have takenFrom' : ReportRequest.TakenFrom
      ⟨"loans.sql", .ofList [("end", ""), ("end", "2024"), ("start", "2023")], 5⟩
      (Text.Utf8.ofString startLast.text) [("end", ""), ("end", "2024"), ("start", "2023")] :=
    ReportRequest.takenFrom_text
      ⟨legible_digits 5, trivial, ⟨trivial, trivial, trivial, trivial⟩, trivial⟩
      (by decide +kernel) rfl (.object rfl)
  have same : ∀ name value,
      LastNamed [("start", "2022"), ("end", "2024"), ("start", "2023")] name value ↔
        LastNamed [("end", ""), ("end", "2024"), ("start", "2023")] name value :=
    Keyed.ofList_eq_iff.mp rfl
  exact ⟨_, _, _, _, takenFrom, takenFrom', by decide, rfl, same, by decide +kernel,
    arguments_bound.2.2 takenFrom takenFrom' rfl same⟩

end TenantReports
