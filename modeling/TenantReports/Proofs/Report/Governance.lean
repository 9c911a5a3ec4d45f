import TenantReports.Proofs.Dialogue
import TenantReports.Proofs.Pattern.Literal
import TenantReports.Report.Source

/-!
# What the whitelist governs

**The whitelist is asked about the text of an address, and the request goes to what the text stands
for.** The two agree only if the text is written as it is sent.

* `fetch_of_asks`: whatever is answered, a script is only requested from the address that the text
  stands for, and only if the whitelist allows the text.
* `governed_iff_of_nonempty`: when one whitelist governs the request.
* `governed_iff`: the request is allowed by each whitelist that allows its text exactly when the
  text is that of the request.
* `not_governed_dots`: a text with dots in its path leads out of what the whitelist allows.
-/

namespace TenantReports

open Net Pattern

namespace ReportSource

variable {source : ReportSource} {url : String} {target : WebUrl}

/-- **The whitelist governs what is sent**: every request for a script goes to an address that a
pattern of the whitelist accepts. -/
def Governed (source : ReportSource) (url : String) : Prop :=
  ∀ log last, (source.load url).Leads log last → ∀ sent, .fetch sent ∈ Task.asks log last →
    ∃ pattern ∈ source.whitelist, pattern.accepts sent.text = true

theorem load_of_check (allowed : source.whitelist.check url = .ok ()) :
    source.load url = source.fetch url := by
  unfold load
  rw [allowed]

/-- Only a file under the directory of reports is read for the address of a file. -/
theorem asks_of_readFile {log : List (Exchange Ask.Answer)}
    {last : GatewayTask (Except Failure String)} (leads : (source.readFile url).Leads log last) :
    ∀ question ∈ Task.asks log last, ∃ path, relativePath? url = some path ∧
      question = .read (under source.root path) := by
  intro question asked
  unfold readFile at leads
  split at leads
  · obtain ⟨rfl, rfl⟩ := leads.of_done
    cases asked
  · next path found =>
    dsimp only at leads
    split at leads
    · obtain ⟨rfl, rfl⟩ := leads.of_done
      cases asked
    · rcases leads.of_ask with ⟨rfl, rfl⟩ | ⟨content, rest, rfl, goesOn⟩
      · exact ⟨path, found, List.mem_singleton.mp asked⟩
      · obtain ⟨rfl, rfl⟩ := goesOn.of_done
        exact ⟨path, found, List.mem_singleton.mp asked⟩

/-- **What is requested**: the address that the text stands for, if the whitelist allows the text.
-/
theorem fetch_of_asks {log : List (Exchange Ask.Answer)}
    {last : GatewayTask (Except Failure String)} {sent : WebUrl}
    (leads : (source.load url).Leads log last)
    (asked : .fetch sent ∈ Task.asks log last) :
    Url.ofText? url = some (.web sent) ∧ source.whitelist.check url = .ok () := by
  cases allowed : source.whitelist.check url with
  | error failure =>
    unfold load at leads
    rw [allowed] at leads
    obtain ⟨rfl, rfl⟩ := leads.of_done
    cases asked
  | ok =>
    refine ⟨?_, rfl⟩
    rw [load_of_check allowed] at leads
    unfold fetch at leads
    split at leads
    · obtain ⟨rfl, rfl⟩ := leads.of_done
      cases asked
    · obtain ⟨path, -, same⟩ := asks_of_readFile leads _ asked
      cases same
    · next target web =>
      rcases leads.of_ask with ⟨rfl, rfl⟩ | ⟨outcome, rest, rfl, goesOn⟩
      · cases List.mem_singleton.mp asked
        exact web
      · obtain ⟨rfl, rfl⟩ := goesOn.of_done
        cases List.mem_singleton.mp asked
        exact web

/-- **What a whitelist governs**: if it allows the text, it has to allow what the text stands for, by
one of its patterns. -/
theorem governed_iff_accepted (web : Url.ofText? url = some (.web target)) :
    source.Governed url ↔ (source.whitelist.check url = .ok () →
      ∃ pattern ∈ source.whitelist, pattern.accepts target.text = true) := by
  refine ⟨fun governed allowed => ?_, fun accepted log last leads sent asked => ?_⟩
  · refine governed [] (source.load url) (.refl _) target ?_
    rw [load_of_check allowed, fetch, web]
    exact List.mem_singleton.mpr rfl
  · obtain ⟨web', allowed⟩ := fetch_of_asks leads asked
    rw [web] at web'
    cases web'
    exact accepted allowed

/-- A whitelist with patterns governs what is sent if it does not allow the text alone. -/
theorem governed_iff_of_nonempty (web : Url.ofText? url = some (.web target))
    (nonempty : source.whitelist ≠ []) :
    source.Governed url ↔ ((∃ pattern ∈ source.whitelist, pattern.accepts url = true) →
      ∃ pattern ∈ source.whitelist, pattern.accepts target.text = true) := by
  rw [governed_iff_accepted web, Whitelist.check_eq_ok_iff, or_iff_right nonempty]

/-- **A pattern of the text alone** allows the text, and governs what is sent only if that is the
text. -/
theorem text_of_governed_only (web : Url.ofText? url = some (.web target)) {pattern : UrlPattern}
    (only : pattern.regex = Regex.only url.toList) {root : String}
    (governed : (⟨[pattern], root⟩ : ReportSource).Governed url) : target.text = url := by
  have allowed : Whitelist.check [pattern] url = .ok () := by
    refine (Whitelist.check_eq_ok_iff _ _).mpr (Or.inr ⟨pattern, List.mem_singleton.mpr rfl, ?_⟩)
    rw [UrlPattern.accepts, only]
    exact isMatch_only_iff.mpr rfl
  obtain ⟨other, member, accepts⟩ := (governed_iff_accepted web).mp governed allowed
  cases List.mem_singleton.mp member
  rw [UrlPattern.accepts, only] at accepts
  exact String.toList_inj.mp (isMatch_only_iff.mp accepts)

/-! ### Texts and whitelists -/

/-- A text that leads out of a directory. -/
def dottedText : String := "https://raw.githubusercontent.com/folio-org/../someone-else/x.sql"

/-- What the text stands for. -/
def dottedTarget : WebUrl :=
  ⟨true, "", "", .domain "raw.githubusercontent.com", none, ["someone-else", "x.sql"], none⟩

theorem web_dottedText : Url.ofText? dottedText = some (.web dottedTarget) := by
  decide +kernel

/-- **The whitelist governs what is sent exactly when the text is that of the request.** Requests
only go to what the text stands for, and only if the whitelist allows the text, so that one whitelist
governs them exactly if it also allows what the text stands for. All whitelists do so exactly if that
is written like the text. If not, a whitelist with a single pattern allows the text and not the
request; unless the text is very long, the pattern has a text of its own. -/
theorem governed_iff (web : Url.ofText? url = some (.web target)) :
    (∀ (source : ReportSource) log last sent, (source.load url).Leads log last →
      .fetch sent ∈ Task.asks log last → sent = target ∧
        (source.whitelist = [] ∨ ∃ pattern ∈ source.whitelist, pattern.accepts url = true)) ∧
    (∀ source : ReportSource, source.whitelist ≠ [] → (source.Governed url ↔
      ((∃ pattern ∈ source.whitelist, pattern.accepts url = true) →
        ∃ pattern ∈ source.whitelist, pattern.accepts target.text = true))) ∧
    ((∀ source : ReportSource, source.whitelist ≠ [] → source.Governed url) ↔ target.text = url) ∧
    (2 * url.length + 4 ≤ maxSize → target.text ≠ url → ∃ text pattern,
      UrlPattern.ofText? text = some pattern ∧
        ∀ root, ¬(⟨[pattern], root⟩ : ReportSource).Governed url) := by
  refine ⟨fun source log last sent leads asked => ?_,
    fun source nonempty => governed_iff_of_nonempty web nonempty,
    ⟨fun governed => ?_, fun same => ?_⟩, fun short differs => ?_⟩
  · obtain ⟨web', allowed⟩ := fetch_of_asks leads asked
    rw [web] at web'
    cases web'
    exact ⟨rfl, (Whitelist.check_eq_ok_iff _ _).mp allowed⟩
  · exact text_of_governed_only web rfl
      (governed ⟨[⟨"", Regex.only url.toList⟩], ""⟩ (List.cons_ne_nil _ _))
  · intro source nonempty
    rw [governed_iff_of_nonempty web nonempty, same]
    exact id
  · rw [← String.length_toList] at short
    refine ⟨quoted url.toList, ⟨quoted url.toList, Regex.only url.toList⟩, ?_,
      fun root governed => ?_⟩
    · unfold UrlPattern.ofText?
      rw [ofText?_quoted short]
      rfl
    · exact differs (text_of_governed_only web rfl governed)

theorem governed_iff_dotted :
    Url.ofText? dottedText = some (.web dottedTarget) ∧
    (∀ (source : ReportSource) log last sent, (source.load dottedText).Leads log last →
      .fetch sent ∈ Task.asks log last → sent = dottedTarget ∧
        (source.whitelist = [] ∨ ∃ pattern ∈ source.whitelist, pattern.accepts dottedText = true)) ∧
    (∀ source : ReportSource, source.whitelist ≠ [] → (source.Governed dottedText ↔
      ((∃ pattern ∈ source.whitelist, pattern.accepts dottedText = true) →
        ∃ pattern ∈ source.whitelist, pattern.accepts dottedTarget.text = true))) ∧
    ((∀ source : ReportSource, source.whitelist ≠ [] → source.Governed dottedText) ↔
      dottedTarget.text = dottedText) ∧
    (2 * dottedText.length + 4 ≤ maxSize → dottedTarget.text ≠ dottedText → ∃ text pattern,
      UrlPattern.ofText? text = some pattern ∧
        ∀ root, ¬(⟨[pattern], root⟩ : ReportSource).Governed dottedText) :=
  ⟨web_dottedText, governed_iff web_dottedText⟩

/-- **Dots lead out of what the whitelist allows**: a pattern for one directory allows a text that
is sent to another. -/
theorem not_governed_dots :
    dottedTarget.text = "https://raw.githubusercontent.com/someone-else/x.sql" ∧
      ∃ pattern,
        UrlPattern.ofText? "^https://raw\\.githubusercontent\\.com/folio-org/" = some pattern ∧
        pattern.accepts dottedText = true ∧ pattern.accepts dottedTarget.text = false ∧
        ∀ root, ¬(⟨[pattern], root⟩ : ReportSource).Governed dottedText := by
  have found : ((UrlPattern.ofText? "^https://raw\\.githubusercontent\\.com/folio-org/").any
      fun pattern => pattern.accepts dottedText && !pattern.accepts dottedTarget.text) = true := by
    decide +kernel
  obtain ⟨pattern, written, accepts⟩ := (Option.any_eq_true _ _).mp found
  obtain ⟨text, sent⟩ := Bool.and_eq_true_iff.mp accepts
  rw [Bool.not_eq_true'] at sent
  refine ⟨by decide +kernel, pattern, written, text, sent, fun root governed => ?_⟩
  have allowed : Whitelist.check [pattern] dottedText = .ok () :=
    (Whitelist.check_eq_ok_iff _ _).mpr (Or.inr ⟨pattern, List.mem_singleton.mpr rfl, text⟩)
  obtain ⟨other, member, accepted⟩ :=
    (governed_iff_accepted web_dottedText).mp governed allowed
  cases List.mem_singleton.mp member
  rw [sent] at accepted
  cases accepted

end ReportSource

end TenantReports
