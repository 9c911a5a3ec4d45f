import TenantReports.Task

/-!
# Dialogues with a computation

**What a computation has asked, what it was answered, and what is left of it.**

* `Task.Leads`: a computation, answered in a given way, is brought to what is left of it.
* `Leads.of_bind`: a dialogue with a sequence is one with its first part, and then one with the
  second part.
* `Task.asks`: the questions put so far, the one that waits for its answer included.
* `Task.dialogue`: all that is exchanged in a run, which leads to the result (`leads_dialogue`).
* `asks_of_lift`: a computation whose questions are put as questions of another kind puts no others.
* `leads_done_iff`, `leads_once_iff`: all dialogues with what is finished, and with what asks once.
-/

namespace TenantReports

universe u v

variable {Ask : Type u} {Answer : Ask → Type u} {α β : Type v}

/-- A question, and what was answered. -/
abbrev Exchange (Answer : Ask → Type u) :=
  (question : Ask) × Answer question

namespace Task

/-- **A dialogue brings a computation to what is left of it.** -/
inductive Leads : Task Ask Answer α → List (Exchange Answer) → Task Ask Answer α → Prop
  | refl (task : Task Ask Answer α) : Leads task [] task
  | ask {question : Ask} {next : Answer question → Task Ask Answer α} {answer : Answer question}
    {log : List (Exchange Answer)} {last : Task Ask Answer α}
    (rest : Leads (next answer) log last) :
    Leads (.ask question next) (⟨question, answer⟩ :: log) last

/-- The question that a computation waits to be answered. -/
def question? : Task Ask Answer α → Option Ask
  | .done _ => none
  | .ask question _ => some question

/-- **The questions put so far**: those that were answered, and the one that waits. -/
def asks (log : List (Exchange Answer)) (last : Task Ask Answer α) : List Ask :=
  log.map (·.1) ++ last.question?.toList

/-- **All that is exchanged in a run**, when the surroundings answer from a state of their own. -/
def dialogue {σ : Type u} (answer : (q : Ask) → σ → Answer q × σ) :
    Task Ask Answer α → σ → List (Exchange Answer)
  | .done _, _ => []
  | .ask q next, s => ⟨q, (answer q s).1⟩ :: (next (answer q s).1).dialogue answer (answer q s).2

/-- Every run is a dialogue that leads to its result. -/
theorem leads_dialogue {σ : Type u} (answer : (q : Ask) → σ → Answer q × σ)
    (task : Task Ask Answer α) (s : σ) :
    task.Leads (task.dialogue answer s) (.done (task.run answer s).1) := by
  induction task generalizing s with
  | done a => exact .refl _
  | ask question next ih => exact .ask (ih _ _)

namespace Leads

variable {log : List (Exchange Answer)} {task last : Task Ask Answer α}

/-- A dialogue goes on when its last question is answered. -/
theorem snoc {question : Ask} {next : Answer question → Task Ask Answer α}
    (leads : Leads task log (.ask question next)) (answer : Answer question) :
    Leads task (log ++ [⟨question, answer⟩]) (next answer) := by
  generalize same : Task.ask question next = end' at leads
  induction leads with
  | refl task =>
    subst same
    exact .ask (.refl _)
  | ask rest ih => exact .ask (ih same)

theorem of_done {a : α} (leads : Leads (.done a) log last) : log = [] ∧ last = .done a := by
  cases leads
  exact ⟨rfl, rfl⟩

/-- A dialogue with a computation that asks stops before the answer, or goes on with it. -/
theorem of_ask {question : Ask} {next : Answer question → Task Ask Answer α}
    (leads : Leads (.ask question next) log last) :
    (log = [] ∧ last = .ask question next) ∨
      ∃ answer rest, log = ⟨question, answer⟩ :: rest ∧ Leads (next answer) rest last := by
  cases leads with
  | refl => exact Or.inl ⟨rfl, rfl⟩
  | ask rest => exact Or.inr ⟨_, _, rfl, rest⟩

/-- **A dialogue with a sequence** stops in the first part, or finishes it and goes on with the
second one. -/
theorem of_bind {f : α → Task Ask Answer β} {last : Task Ask Answer β}
    (leads : Leads (task.bind f) log last) :
    (∃ question next, Leads task log (.ask question next) ∧
        last = (Task.ask question next).bind f) ∨
      ∃ a first second, log = first ++ second ∧ Leads task first (.done a) ∧
        Leads (f a) second last := by
  induction task generalizing log with
  | done a => exact Or.inr ⟨a, [], log, rfl, .refl _, leads⟩
  | ask question next ih =>
    rcases of_ask leads with ⟨rfl, rfl⟩ | ⟨answer, rest, rfl, goesOn⟩
    · exact Or.inl ⟨question, next, .refl _, rfl⟩
    · rcases ih answer goesOn with ⟨asked, left, stops, rfl⟩ | ⟨a, first, second, rfl, done, more⟩
      · exact Or.inl ⟨asked, left, .ask stops, rfl⟩
      · exact Or.inr ⟨a, _, second, rfl, .ask done, more⟩

/-- A sequence goes through its first part and then through the second one. -/
theorem bind {f : α → Task Ask Answer β} {a : α} {first second : List (Exchange Answer)}
    {last : Task Ask Answer β} (leads : Leads task first (.done a))
    (goesOn : Leads (f a) second last) : Leads (task.bind f) (first ++ second) last := by
  generalize same : Task.done a = end' at leads
  induction leads with
  | refl task =>
    subst same
    exact goesOn
  | ask rest ih => exact .ask (ih same)

/-- **A dialogue that finishes a sequence** finishes both parts. -/
theorem of_bind_finished {f : α → Task Ask Answer β} {b : β}
    (leads : Leads (task.bind f) log (.done b)) :
    ∃ a first second, log = first ++ second ∧ Leads task first (.done a) ∧
      Leads (f a) second (.done b) := by
  rcases of_bind leads with ⟨question, next, -, same⟩ | finished
  · cases same
  · exact finished

/-- A dialogue that finishes a computation that asks goes on after the answer. -/
theorem of_ask_finished {question : Ask} {next : Answer question → Task Ask Answer α} {a : α}
    (leads : Leads (.ask question next) log (.done a)) :
    ∃ answer rest, log = ⟨question, answer⟩ :: rest ∧ Leads (next answer) rest (.done a) := by
  rcases of_ask leads with ⟨-, same⟩ | goesOn
  · cases same
  · exact goesOn

/-- What was finished has only this result. -/
theorem of_done_finished {a b : α} (leads : Leads (.done a : Task Ask Answer α) log (.done b)) :
    log = [] ∧ b = a := by
  obtain ⟨rfl, same⟩ := of_done leads
  cases same
  exact ⟨rfl, rfl⟩

/-- What is made of a result takes no exchange. -/
theorem map {f : α → β} {a : α} (leads : Leads task log (.done a)) :
    Leads (task.bind fun a => .done (f a)) log (.done (f a)) := by
  have ends := leads.bind (f := fun a => .done (f a)) (.refl _)
  rwa [List.append_nil] at ends

theorem of_map_finished {f : α → β} {b : β}
    (leads : Leads (task.bind fun a => .done (f a)) log (.done b)) :
    ∃ a, b = f a ∧ Leads task log (.done a) := by
  obtain ⟨a, first, second, rfl, done, ends⟩ := leads.of_bind_finished
  obtain ⟨rfl, same⟩ := ends.of_done_finished
  rw [List.append_nil]
  exact ⟨a, same, done⟩

/-- **Putting questions as questions of another kind puts no others.** -/
theorem asks_of_lift {Ask' : Type u} {Answer' : Ask' → Type u} {wrap : Ask → Ask'}
    {unwrap : (q : Ask) → Answer' (wrap q) → Answer q} {log : List (Exchange Answer')}
    {last : Task Ask' Answer' α} (leads : Leads (task.lift wrap unwrap) log last) :
    ∀ question ∈ asks log last, ∃ inner, question = wrap inner := by
  induction task generalizing log with
  | done a =>
    obtain ⟨rfl, rfl⟩ := of_done leads
    exact fun question member => absurd member List.not_mem_nil
  | ask asked next ih =>
    intro question member
    rcases of_ask leads with ⟨rfl, rfl⟩ | ⟨answer, rest, rfl, goesOn⟩
    · exact ⟨asked, List.mem_singleton.mp member⟩
    · rcases List.mem_cons.mp member with rfl | later
      · exact ⟨asked, rfl⟩
      · exact ih _ goesOn question later

end Leads

/-- The dialogues with what is finished. -/
theorem leads_done_iff {a b : α} {log : List (Exchange Answer)} :
    (.done a : Task Ask Answer α).Leads log (.done b) ↔ log = [] ∧ b = a :=
  ⟨Leads.of_done_finished, fun ⟨silent, same⟩ => silent ▸ same ▸ .refl _⟩

/-- The dialogues with a computation that asks once. -/
theorem leads_once_iff {question : Ask} {make : Answer question → α} {a : α}
    {log : List (Exchange Answer)} :
    (.ask question fun answer => .done (make answer) : Task Ask Answer α).Leads log (.done a) ↔
      ∃ answer, log = [⟨question, answer⟩] ∧ a = make answer := by
  constructor
  · intro leads
    obtain ⟨answer, rest, rfl, ends⟩ := leads.of_ask_finished
    obtain ⟨rfl, rfl⟩ := ends.of_done_finished
    exact ⟨answer, rfl, rfl⟩
  · rintro ⟨answer, rfl, rfl⟩
    exact .ask (.refl _)

end Task

end TenantReports
