import TenantReports.Proofs.Dialogue

/-!
# Calls that take turns

**Calls that are performed one after another on a state**, and what they are to be understood as:
steps of a model, each with the exchange that it takes and the reply that it gives.

* `Task.inTurn`: performs calls one after another.
* `Turns`: steps of a model one after another; `Turns.take` cuts them off.
* `Refines.leads_inTurn_iff`: if each call does what a step of the model says, and nothing else, so
  do any number of calls.
-/

namespace TenantReports

universe u v

variable {Ask : Type u} {Answer : Ask → Type u} {Call : Type v} {Reply : Type v} {State : Type v}
  {Model : Type v}

/-- Performs calls one after another, and gives their replies. -/
def Task.inTurn (perform : Call → State → Task Ask Answer (Reply × State)) :
    List Call → State → Task Ask Answer (List Reply)
  | [], _ => .done []
  | call :: calls, state => (perform call state).bind fun (reply, next) =>
    (inTurn perform calls next).bind fun replies => .done (reply :: replies)

/-- **Steps of a model one after another**, with what is exchanged and replied in them. -/
inductive Turns (Does : Call → Model → List (Exchange Answer) → Reply → Model → Prop) :
    List Call → Model → List (Exchange Answer) → List Reply → Model → Prop
  | nil (model : Model) : Turns Does [] model [] [] model
  | cons {call : Call} {calls : List Call} {model next last : Model}
    {first second : List (Exchange Answer)} {reply : Reply} {replies : List Reply}
    (does : Does call model first reply next) (rest : Turns Does calls next second replies last) :
    Turns Does (call :: calls) model (first ++ second) (reply :: replies) last

/-- **The first steps are steps of their own**, and what is exchanged in them comes first. -/
theorem Turns.take {Does : Call → Model → List (Exchange Answer) → Reply → Model → Prop}
    {calls : List Call} {model last : Model} {log : List (Exchange Answer)} {replies : List Reply}
    (turns : Turns Does calls model log replies last) (n : Nat) :
    ∃ middle first second, log = first ++ second ∧
      Turns Does (calls.take n) model first (replies.take n) middle := by
  induction turns generalizing n with
  | nil model =>
    refine ⟨model, [], [], rfl, ?_⟩
    rw [List.take_nil, List.take_nil]
    exact .nil model
  | @cons call calls model next last first log reply replies does rest ih =>
    cases n with
    | zero => exact ⟨model, [], first ++ log, rfl, .nil model⟩
    | succ n =>
      obtain ⟨middle, here, later, rfl, turned⟩ := ih n
      exact ⟨middle, first ++ here, later, (List.append_assoc _ _ _).symm, .cons does turned⟩

/-- **A call does what a step of the model says, and nothing else**, from states that a relation
takes for a state of the model to such states. -/
structure Refines (perform : Call → State → Task Ask Answer (Reply × State))
    (Does : Call → Model → List (Exchange Answer) → Reply → Model → Prop)
    (relation : State → Model → Prop) : Prop where
  sound : ∀ {call state model log reply next}, relation state model →
    (perform call state).Leads log (.done (reply, next)) →
    ∃ after, Does call model log reply after ∧ relation next after
  complete : ∀ {call state model log reply after}, relation state model →
    Does call model log reply after →
    ∃ next, (perform call state).Leads log (.done (reply, next)) ∧ relation next after

variable {perform : Call → State → Task Ask Answer (Reply × State)}
  {Does : Call → Model → List (Exchange Answer) → Reply → Model → Prop}
  {relation : State → Model → Prop} {state : State} {model : Model}

/-- **Calls in turn do what steps of the model in turn say, and nothing else.** -/
theorem Refines.leads_inTurn_iff (refines : Refines perform Does relation)
    (related : relation state model) (calls : List Call) (log : List (Exchange Answer))
    (replies : List Reply) :
    (Task.inTurn perform calls state).Leads log (.done replies) ↔
      ∃ last, Turns Does calls model log replies last := by
  induction calls generalizing state model log replies with
  | nil =>
    constructor
    · intro leads
      obtain ⟨rfl, rfl⟩ := leads.of_done_finished
      exact ⟨model, .nil model⟩
    · rintro ⟨last, turns⟩
      cases turns
      exact .refl _
  | cons call calls ih =>
    constructor
    · intro leads
      obtain ⟨⟨reply, next⟩, first, more, rfl, performed, goesOn⟩ := leads.of_bind_finished
      obtain ⟨others, rfl, turned⟩ := goesOn.of_map_finished
      obtain ⟨after, does, relatedNext⟩ := refines.sound related performed
      obtain ⟨last, rest⟩ := (ih relatedNext more others).mp turned
      exact ⟨last, .cons does rest⟩
    · rintro ⟨last, turns⟩
      cases turns with
      | @cons _ _ _ after _ first second reply others does rest =>
        obtain ⟨next, performed, relatedNext⟩ := refines.complete related does
        have turned := (ih relatedNext second others).mpr ⟨last, rest⟩
        exact performed.bind turned.map

end TenantReports
