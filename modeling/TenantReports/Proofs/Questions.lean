import TenantReports.Proofs.Dialogue

/-!
# The questions that a computation can put

**Which questions can come up, whatever is answered**, and what a computation comes to where each
question has one answer.

* `Task.Only`: all questions that a computation can put are of a kind.
* `Task.value`: what a computation comes to where a question always has the same answer.
* `Only.run_eq_value`: a computation that puts only questions which are always answered in the same
  way has a result that does not depend on when it runs.
-/

namespace TenantReports.Task

universe u v

variable {Ask : Type u} {Answer : Ask → Type u} {α β : Type v} {Kind : Ask → Prop}
  {task : Task Ask Answer α}

/-! ### Questions of a kind -/

/-- **All questions that a computation can put are of a kind.** -/
inductive Only (Kind : Ask → Prop) : Task Ask Answer α → Prop
  | done (a : α) : Only Kind (.done a)
  | ask {question : Ask} {next : Answer question → Task Ask Answer α} (here : Kind question)
    (rest : ∀ answer, Only Kind (next answer)) : Only Kind (.ask question next)

namespace Only

theorem bind {f : α → Task Ask Answer β} (only : task.Only Kind) (goesOn : ∀ a, (f a).Only Kind) :
    (task.bind f).Only Kind := by
  induction only with
  | done a => exact goesOn a
  | ask here rest ih => exact .ask here ih

theorem mono {Wider : Ask → Prop} (only : task.Only Kind)
    (wider : ∀ question, Kind question → Wider question) : task.Only Wider := by
  induction only with
  | done a => exact .done a
  | ask here rest ih => exact .ask (wider _ here) ih

/-- Questions that are put as questions of a kind are of that kind. -/
theorem lift {Ask' : Type u} {Answer' : Ask' → Type u} {Kind : Ask' → Prop} {wrap : Ask → Ask'}
    {unwrap : (q : Ask) → Answer' (wrap q) → Answer q} (kind : ∀ question, Kind (wrap question))
    (task : Task Ask Answer α) : (task.lift wrap unwrap).Only Kind := by
  induction task with
  | done a => exact .done a
  | ask question next ih => exact .ask (kind question) fun answer => ih (unwrap question answer)

/-- **All that is exchanged is of the kind.** -/
theorem of_leads {log : List (Exchange Answer)} {last : Task Ask Answer α} (only : task.Only Kind)
    (leads : task.Leads log last) : ∀ exchange ∈ log, Kind exchange.1 := by
  induction leads with
  | refl task => exact fun exchange member => absurd member List.not_mem_nil
  | ask rest ih =>
    cases only with
    | ask here goesOn =>
      intro exchange member
      rcases List.mem_cons.mp member with rfl | later
      · exact here
      · exact ih (goesOn _) exchange later

end Only

/-! ### One answer to each question -/

/-- **What a computation comes to** where each question has one answer. -/
def value (reply : (q : Ask) → Answer q) : Task Ask Answer α → α
  | .done a => a
  | .ask question next => (next (reply question)).value reply

variable {reply : (q : Ask) → Answer q}

@[simp] theorem value_done (a : α) : (Task.done a : Task Ask Answer α).value reply = a := rfl

@[simp] theorem value_bind (task : Task Ask Answer α) (f : α → Task Ask Answer β) :
    (task.bind f).value reply = (f (task.value reply)).value reply := by
  induction task with
  | done a => rfl
  | ask question next ih => exact ih _

/-- A value is the result of a dialogue. -/
theorem exists_leads_value (reply : (q : Ask) → Answer q) (task : Task Ask Answer α) :
    ∃ log, task.Leads log (.done (task.value reply)) := by
  induction task with
  | done a => exact ⟨[], .refl _⟩
  | ask question next ih =>
    obtain ⟨log, leads⟩ := ih (reply question)
    exact ⟨_, .ask leads⟩

/-- **A result that does not depend on when the computation runs**: it puts only questions that are
always answered in the same way. -/
theorem Only.run_eq_value {σ : Type u} {answer : (q : Ask) → σ → Answer q × σ}
    (only : task.Only Kind) (same : ∀ question, Kind question → ∀ s,
      (answer question s).1 = reply question) (s : σ) :
    (task.run answer s).1 = task.value reply := by
  induction only generalizing s with
  | done a => rfl
  | @ask question next here rest ih =>
    rw [run, value, ← same question here s]
    exact ih _ _

end TenantReports.Task
