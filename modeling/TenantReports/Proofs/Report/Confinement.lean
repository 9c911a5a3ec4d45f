import TenantReports.Proofs.Report.Governance
import TenantReports.Proofs.Text.Pieces

/-!
# Files of reports stay under their directory

**The scheme of an address is taken from what the text stands for, the path of its file from the
text as it is.** The file is under the directory of reports all the same.

* `walk?`: where the names on a path lead, unless they lead above the start.
* `Confined`: a path that does not begin at the root and goes up nowhere.
* `walk?_of_confined`: it stays under the place where it starts, at each of its names.
* `walk?_under`: a path from a directory on leads where the directory leads, and from there on.
* `fetch_eq_read_iff`: for which addresses a file is read, and which.
* `reads_confined`: no other file is read for any address, and addresses of files that are not read
  are refused.
-/

namespace TenantReports

namespace ReportSource

variable {source : ReportSource} {url root : String} {path : List Char}

/-! ### Where a path leads -/

/-- The place that a name leads to: empty names and a single dot stay, two dots go up, which they
cannot at the start. -/
def step? (place : List (List Char)) (name : List Char) : Option (List (List Char)) :=
  if name = [] ∨ name = ['.'] then some place
  else if name = ['.', '.'] then if place = [] then none else some place.dropLast
  else some (place ++ [name])

/-- **The place that names lead to**, one after another, unless one leads above the start. -/
def walk? (place : List (List Char)) (names : List (List Char)) : Option (List (List Char)) :=
  names.foldlM step? place

theorem walk?_append (place first second : List (List Char)) :
    walk? place (first ++ second) = (walk? place first).bind fun there => walk? there second :=
  List.foldlM_append

/-- **Names that do not go up** lead to something under the place where they start. -/
theorem walk?_of_notMem {names : List (List Char)} (below : ['.', '.'] ∉ names)
    (place : List (List Char)) : ∃ inner, walk? place names = some (place ++ inner) := by
  induction names generalizing place with
  | nil => exact ⟨[], congrArg some (List.append_nil place).symm⟩
  | cons name names ih =>
    obtain ⟨notUp, below⟩ := not_or.mp (mt List.mem_cons.mpr below)
    have goesOn : walk? place (name :: names) =
        (step? place name).bind fun there => walk? there names := List.foldlM_cons
    rw [goesOn, step?]
    by_cases stays : name = [] ∨ name = ['.']
    · rw [if_pos stays]
      exact ih below place
    · rw [if_neg stays, if_neg (Ne.symm notUp)]
      obtain ⟨inner, leads⟩ := ih below (place ++ [name])
      exact ⟨name :: inner, leads.trans (by rw [List.append_assoc]; rfl)⟩

/-- **A path that is confined** to where it starts. -/
structure Confined (path : List Char) : Prop where
  nonempty : path ≠ []
  relative : path.head? ≠ some '/'
  below : ['.', '.'] ∉ components path

/-- **A confined path stays under the place where it starts**, at each of its names. -/
theorem walk?_of_confined (confined : Confined path) {names : List (List Char)}
    (first : names <+: components path) (place : List (List Char)) :
    ∃ inner, walk? place names = some (place ++ inner) :=
  walk?_of_notMem (fun up => confined.below (first.subset up)) place

theorem isSafePath_iff : isSafePath path = true ↔ Confined path := by
  unfold isSafePath
  rw [Bool.and_eq_true, Bool.and_eq_true, Bool.not_eq_true', List.isEmpty_eq_false_iff, bne_iff_ne,
    List.all_eq_true]
  refine ⟨fun ⟨⟨nonempty, relative⟩, below⟩ => ⟨nonempty, relative, fun up => ?_⟩,
    fun confined => ⟨⟨confined.nonempty, confined.relative⟩, fun name member => ?_⟩⟩
  · exact absurd (below _ up) (by decide)
  · exact bne_iff_ne.mpr fun up => confined.below (up ▸ member)

/-! ### Paths under a directory -/

theorem components_append_slash (first rest : List Char) :
    components (first ++ '/' :: rest) = components first ++ components rest := by
  unfold components
  rw [Text.splitWhen_eq_splitOnP, Text.splitWhen_eq_splitOnP, Text.splitWhen_eq_splitOnP]
  exact List.splitOnP_append_cons first rest (beq_self_eq_true _)

/-- **A path from a directory on leads where the directory leads, and from there on.** -/
theorem walk?_under (root : String) (path : List Char) (start : List (List Char)) :
    walk? start (components (under root path).toList) =
      (walk? start (components root.toList)).bind fun place => walk? place (components path) := by
  unfold under
  rw [String.toList_append, String.toList_append, String.toList_ofList]
  by_cases ended : root.isEmpty || root.toList.getLast? == some '/'
  · rw [if_pos ended]
    rcases Bool.or_eq_true_iff.mp ended with empty | slash
    · rw [String.isEmpty_iff.mp empty]
      rfl
    · obtain ⟨body, root⟩ := List.getLast?_eq_some_iff.mp (eq_of_beq slash)
      have single : components (body ++ ['/']) = components body ++ [[]] :=
        components_append_slash body []
      have stays : ∀ there, walk? there [[]] = some there := fun _ => rfl
      rw [root, single, walk?_append, List.append_assoc, List.append_assoc]
      change walk? start (components (body ++ '/' :: path)) = _
      rw [components_append_slash, walk?_append]
      simp only [stays]
      cases walk? start (components body) <;> rfl
  · rw [if_neg ended, List.append_assoc]
    change walk? start (components (root.toList ++ '/' :: path)) = _
    rw [components_append_slash, walk?_append]

/-! ### Which files are read -/

/-- **The path of a file** is what follows the scheme in the text. -/
theorem relativePath?_eq_some_iff :
    relativePath? url = some path ↔ url = "file://" ++ String.ofList path ∧ Confined path := by
  have letters : ("file://" ++ String.ofList path).toList = fileScheme ++ path := by
    rw [String.toList_append, String.toList_ofList (l := path)]
    rfl
  unfold relativePath?
  rw [Option.filter_eq_some_iff, isSafePath_iff, List.isPrefixOf?_eq_some_iff_append_eq,
    ← String.toList_inj, letters]
  exact and_congr_left fun _ => eq_comm

/-- **What becomes of an address**: a file under the directory of reports is read, nothing is asked,
or a request is sent. -/
inductive Fetching (source : ReportSource) (url : String) :
    GatewayTask (Except Failure String) → Prop
  | reads {path : List Char} (scheme : Net.Url.ofText? url = some .file)
    (text : url = "file://" ++ String.ofList path) (confined : Confined path)
    (plain : '\x00' ∉ (under source.root path).toList) :
    Fetching source url (.ask (.read (under source.root path)) fun content =>
      .done ((textOfFile content).mapError fun error => error.toFailure url))
  /-- The address is none of a script, or does not name a file that may be read. -/
  | refuses {error : FetchError}
    (unread : ∀ path, relativePath? url = some path → '\x00' ∉ (under source.root path).toList →
      Net.Url.ofText? url ≠ some .file) :
    Fetching source url (.done (.error (error.toFailure url)))
  | requests {target : Net.WebUrl} (scheme : Net.Url.ofText? url = some (.web target)) :
    Fetching source url (.ask (.fetch target) fun outcome =>
      .done (textOfOutcome url target.text outcome))

theorem fetching (source : ReportSource) (url : String) :
    Fetching source url (source.fetch url) := by
  unfold fetch
  cases scheme : Net.Url.ofText? url with
  | none => exact .refuses fun path found plain file => nomatch scheme.symm.trans file
  | some address =>
    cases address with
    | web target => exact .requests scheme
    | file =>
      dsimp only
      unfold readFile
      cases found : relativePath? url with
      | none => exact .refuses fun path found' => nomatch found.symm.trans found'
      | some path =>
        dsimp only
        obtain ⟨text, confined⟩ := relativePath?_eq_some_iff.mp found
        by_cases zero : (under source.root path).toList.contains '\x00' = true
        · rw [if_pos zero]
          refine .refuses fun path' found' plain => absurd (List.contains_iff_mem.mp zero) ?_
          cases found.symm.trans found'
          exact plain
        · rw [if_neg zero]
          exact .reads scheme text confined fun member => zero (List.contains_iff_mem.mpr member)

/-- **For which addresses a file is read, and which**: those that stand for one by their scheme and
begin with just `file://`, if what follows is confined. -/
theorem fetch_eq_read_iff {file : String} :
    (∃ next, source.fetch url = .ask (.read file) next) ↔
      Net.Url.ofText? url = some .file ∧ '\x00' ∉ file.toList ∧
        ∃ rest : String, url = "file://" ++ rest ∧ file = under source.root rest.toList ∧
          Confined rest.toList := by
  have fetching := fetching source url
  constructor
  · rintro ⟨next, asks⟩
    rw [asks] at fetching
    cases fetching with
    | @reads path scheme text confined plain =>
      exact ⟨scheme, plain, String.ofList path, text, by rw [String.toList_ofList],
        by rwa [String.toList_ofList]⟩
  · rintro ⟨scheme, plain, rest, text, rfl, confined⟩
    have found : relativePath? url = some rest.toList :=
      relativePath?_eq_some_iff.mpr ⟨by rw [String.ofList_toList]; exact text, confined⟩
    generalize source.fetch url = task at fetching
    cases fetching with
    | @reads path scheme text' confined' plain' =>
      obtain rfl : path = rest.toList := Option.some.inj
        ((relativePath?_eq_some_iff.mpr ⟨text', confined'⟩).symm.trans found)
      exact ⟨_, rfl⟩
    | refuses unread => exact absurd scheme (unread _ found plain)
    | requests scheme' => cases scheme.symm.trans scheme'

/-- **A file that is asked for is the only thing that is.** -/
theorem fetch_of_asks_read {log : List (Exchange Ask.Answer)}
    {last : GatewayTask (Except Failure String)} {file : String}
    (leads : (source.fetch url).Leads log last) (asked : .read file ∈ Task.asks log last) :
    Task.asks log last = [.read file] ∧ ∃ next, source.fetch url = .ask (.read file) next := by
  have fetching := fetching source url
  cases task : source.fetch url with
  | done result =>
    rw [task] at leads
    obtain ⟨rfl, rfl⟩ := leads.of_done
    cases asked
  | ask question next =>
    -- Whatever is asked first, its answer ends the computation.
    have single : Task.asks log last = [question] := by
      rw [task] at leads fetching
      rcases leads.of_ask with ⟨rfl, rfl⟩ | ⟨answer, rest, rfl, goesOn⟩
      · rfl
      · cases fetching <;>
        · obtain ⟨rfl, rfl⟩ := goesOn.of_done
          rfl
    rw [single] at asked ⊢
    cases List.mem_singleton.mp asked
    exact ⟨rfl, next, rfl⟩

/-- **Only files under the directory of reports are read.** Whatever is answered, at most one file
is read for an address. The text of the address begins with `file://`, and the file is at the
directory joined with the rest of the text as it stands, which is not empty, does not begin at the
root and does not go up. So wherever the directory leads, the path never leads out of it, at none
of its names. An address of a file for which none is read is refused, and nothing is asked for
it. -/
theorem reads_confined (source : ReportSource) (url : String) :
    (∀ log last, (source.fetch url).Leads log last → ∀ file, .read file ∈ Task.asks log last →
      Task.asks log last = [.read file] ∧
      ∃ rest : String, url = "file://" ++ rest ∧ file = under source.root rest.toList ∧
        rest ≠ "" ∧ rest.toList.head? ≠ some '/' ∧ ['.', '.'] ∉ components rest.toList ∧
        ∀ start place, walk? start (components source.root.toList) = some place →
          (∃ inner, walk? start (components file.toList) = some (place ++ inner)) ∧
          ∀ names, names <+: components rest.toList →
            ∃ inner, walk? place names = some (place ++ inner)) ∧
    (Net.Url.ofText? url = some .file →
      (∃ rest : String, url = "file://" ++ rest ∧ Confined rest.toList ∧
        ∃ next, source.fetch url = .ask (.read (under source.root rest.toList)) next) ∨
      ∃ failure, failure.kind = .fetch ∧ source.fetch url = .done (.error failure)) := by
  refine ⟨fun log last leads file asked => ?_, fun scheme => ?_⟩
  · obtain ⟨single, reads⟩ := fetch_of_asks_read leads asked
    obtain ⟨-, -, rest, text, rfl, confined⟩ := fetch_eq_read_iff.mp reads
    refine ⟨single, rest, text, rfl, mt String.toList_eq_nil_iff.mpr confined.nonempty,
      confined.relative, confined.below, fun start place leads => ⟨?_, fun names first =>
        walk?_of_confined confined first place⟩⟩
    rw [walk?_under, leads]
    exact walk?_of_confined confined (List.prefix_refl _) place
  · have fetching := fetching source url
    generalize source.fetch url = task at fetching
    cases fetching with
    | @reads path scheme text confined plain =>
      exact .inl ⟨String.ofList path, text, by rwa [String.toList_ofList],
        by rw [String.toList_ofList]; exact ⟨_, rfl⟩⟩
    | refuses unread => exact .inr ⟨_, rfl, rfl⟩
    | requests scheme' => cases scheme.symm.trans scheme'

/-- A directory of reports. -/
def reportFiles : ReportSource := ⟨[], "/srv/reports"⟩

/-- A slash more than needed and a dot stay where they are. -/
theorem reads_confined_slashes :
    Task.asks [] (reportFiles.fetch "file://loans//./day.sql") =
        [.read "/srv/reports/loans//./day.sql"] ∧
      ∃ inner, walk? [] (components "/srv/reports/loans//./day.sql".toList) =
        some (["srv".toList, "reports".toList] ++ inner) := by
  have reads : ∃ next, reportFiles.fetch "file://loans//./day.sql" =
      .ask (.read "/srv/reports/loans//./day.sql") next :=
    fetch_eq_read_iff.mpr ⟨by decide +kernel, by decide, "loans//./day.sql", rfl, rfl,
      by decide, by decide, by decide⟩
  have asked : .read "/srv/reports/loans//./day.sql" ∈
      Task.asks [] (reportFiles.fetch "file://loans//./day.sql") := by
    obtain ⟨next, asks⟩ := reads
    rw [asks]
    exact List.mem_singleton.mpr rfl
  obtain ⟨single, rest, -, -, -, -, -, stays⟩ :=
    (reads_confined reportFiles "file://loans//./day.sql").1 _ _ (.refl _) _ asked
  exact ⟨single, (stays [] ["srv".toList, "reports".toList] (by decide)).1⟩

end ReportSource

end TenantReports
