/-!
# Computations that ask

A `Task` is a computation that puts questions to its surroundings and goes on with the answers. It
is a value, so that what it asks, and in which order, can be reasoned about for all answers.

* `Task.run`: the result when the surroundings answer from a state of their own.
* `Task.trace`: the questions asked and the result, for answers that may depend on the questions
  before them.
* `Task.run_bind`: a sequence runs its parts one after another.
* `Task.bind_assoc`: it does not matter how the parts of a sequence are put together.
-/

namespace TenantReports

universe u v

/-- A computation that ends with a result or asks a question and goes on with its answer. -/
inductive Task (Ask : Type u) (Answer : Ask → Type u) (α : Type v) : Type (max u v)
  | done (result : α)
  | ask (question : Ask) (next : Answer question → Task Ask Answer α)

namespace Task

variable {Ask : Type u} {Answer : Ask → Type u} {α β : Type v}

/-- Goes on with the result of a computation. -/
def bind : Task Ask Answer α → (α → Task Ask Answer β) → Task Ask Answer β
  | .done a, f => f a
  | .ask q next, f => .ask q fun answer => (next answer).bind f

instance : Monad (Task Ask Answer) where
  pure := .done
  bind := Task.bind

/-- Puts the questions of a computation as questions of another kind. -/
def lift {Ask' : Type u} {Answer' : Ask' → Type u} (wrap : Ask → Ask')
    (unwrap : (q : Ask) → Answer' (wrap q) → Answer q) :
    Task Ask Answer α → Task Ask' Answer' α
  | .done a => .done a
  | .ask q next => .ask (wrap q) fun answer => (next (unwrap q answer)).lift wrap unwrap

/-- The result when the surroundings answer from a state, and the state they end in. -/
def run {σ : Type u} (answer : (q : Ask) → σ → Answer q × σ) : Task Ask Answer α → σ → α × σ
  | .done a, s => (a, s)
  | .ask q next, s => (next (answer q s).1).run answer (answer q s).2

/-- The result and the questions asked, when each answer may depend on the questions before it. -/
def trace (answer : List Ask → (q : Ask) → Answer q) : Task Ask Answer α → List Ask → α × List Ask
  | .done a, asked => (a, asked)
  | .ask q next, asked => (next (answer asked q)).trace answer (asked ++ [q])

theorem bind_pure (t : Task Ask Answer α) : t.bind .done = t := by
  induction t with
  | done a => rfl
  | ask q next ih => exact congrArg (Task.ask q) (funext ih)

theorem bind_assoc {γ : Type v} (t : Task Ask Answer α) (f : α → Task Ask Answer β)
    (g : β → Task Ask Answer γ) : (t.bind f).bind g = t.bind fun a => (f a).bind g := by
  induction t with
  | done a => rfl
  | ask q next ih => exact congrArg (Task.ask q) (funext ih)

/-- What is made of a result can be put into what follows. -/
theorem bind_map {γ : Type v} (t : Task Ask Answer α) (f : α → β) (g : β → Task Ask Answer γ) :
    (t.bind fun a => .done (f a)).bind g = t.bind fun a => g (f a) :=
  bind_assoc _ _ _

theorem run_bind {σ : Type u} (answer : (q : Ask) → σ → Answer q × σ) (t : Task Ask Answer α)
    (f : α → Task Ask Answer β) (s : σ) :
    (t.bind f).run answer s = (f (t.run answer s).1).run answer (t.run answer s).2 := by
  induction t generalizing s with
  | done a => rfl
  | ask q next ih => exact ih _ _

end Task

end TenantReports
