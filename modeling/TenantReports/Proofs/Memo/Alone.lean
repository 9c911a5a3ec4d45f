import TenantReports.Proofs.Memo.Conversation
import TenantReports.Proofs.Memo.Lookup

/-!
# A call that runs alone

**A concurrent call that no other call or event comes between is a lookup**: it has the same
dialogue with the outside, the same outcome, and leaves the same cells.

* `Alone`: what such a call has come to, phase by phase.
* `Lone.step`: every step of the call keeps to that.
* `lookup_of_alone`: so the call comes to what the lookup comes to.
-/

set_option linter.unusedSectionVars false

namespace TenantReports.Memo

variable {Key Value Error : Type} {Ask : Type} {Answer : Ask → Type}

/-- An event in which only the first call steps. -/
def Event.isFirst : Event Key Ask Answer Value Error → Prop
  | .advance i | .answer i _ => i = 0
  | _ => False

namespace Machine

variable [DecidableEq Key]

variable {machine next : Machine Key Ask Answer Value Error}
  {event : Event Key Ask Answer Value Error} {events : List (Event Key Ask Answer Value Error)}
  {get : Key → Task Ask Answer (Except Error Value)} {key : Key} {cells : Cells Key Value}

/-- **What a call has come to that runs alone**: its phase, the cells, and what was exchanged. -/
inductive Alone (get : Key → Task Ask Answer (Except Error Value)) (key : Key)
    (cells : Cells Key Value) :
    Phase Ask Answer Value Error → Cells Key Value → List (Exchange Answer) → Prop
  | looking : Alone get key cells .looking cells []
  | making : Alone get key cells .making cells []
  | waiting : Alone get key cells (.waiting (cells.hold key).1) (cells.hold key).2 []
  | getting {rest : Task Ask Answer (Except Error Value)} {log : List (Exchange Answer)}
    (new : cells.found? key = none) (leads : (get key).Leads log rest) :
    Alone get key cells (.getting (cells.hold key).1 rest) (cells.hold key).2 log
  | failing {error : Error} {log : List (Exchange Answer)} (new : cells.found? key = none)
    (leads : (get key).Leads log (.done (.error error))) :
    Alone get key cells (.failing (cells.hold key).1 error) (cells.hold key).2 log
  | returned {outcome : Except Error Value} {after : Cells Key Value} {log : List (Exchange Answer)}
    (leads : (lookup get key cells).Leads log (.done (outcome, after))) :
    Alone get key cells (.returned outcome) after log

/-- The first call of a run runs alone. -/
def Lone (get : Key → Task Ask Answer (Except Error Value)) (key : Key) (cells : Cells Key Value)
    (events : List (Event Key Ask Answer Value Error))
    (machine : Machine Key Ask Answer Value Error) : Prop :=
  ∃ call, machine.calls[0]? = some call ∧ call.key = key ∧ call.get = get key ∧
    Alone get key cells call.phase machine.cells ((ofCells cells).conversation events 0)

/-- What is got is what a lookup comes to, if it found nothing. -/
theorem leads_lookup {outcome : Except Error Value} {log : List (Exchange Answer)}
    (new : cells.found? key = none) (leads : (get key).Leads log (.done outcome)) :
    (lookup get key cells).Leads log
      (.done (settle (cells.hold key).2 key (cells.hold key).1 outcome)) := by
  rw [lookup_of_new new]
  exact leads.map

section Step

variable {call : Call Key Ask Answer Value Error} {log : List (Exchange Answer)}
  (here : machine.calls[0]? = some call) (same : call.key = key) (gets : call.get = get key)
  (alone : Alone get key cells call.phase machine.cells log)
include here same gets alone

/-- A call that steps by itself, alone, goes on with the lookup. -/
theorem alone_of_advance (taken : Step machine (.advance 0) next) :
    ∃ phase, next.calls[0]? = some { call with phase } ∧
      Alone get key cells phase next.cells log := by
  generalize kept : machine.cells = held at alone
  cases taken with
  | found there phase has =>
    cases here.symm.trans there
    rw [phase] at alone
    cases alone
    refine ⟨_, call_put here _, ?_⟩
    have placed : Alone get key cells (.waiting (cells.hold key).1) (cells.hold key).2 [] := .waiting
    rw [same, kept] at has
    rw [Cells.hold_of_slot has] at placed
    exact kept ▸ placed
  | missed there phase =>
    cases here.symm.trans there
    rw [phase] at alone
    cases alone
    exact ⟨_, call_put here _, kept ▸ .making⟩
  | made there phase =>
    cases here.symm.trans there
    rw [phase] at alone
    cases alone
    refine ⟨_, call_put here _, ?_⟩
    rw [same, kept]
    exact .waiting
  | shared there phase holds =>
    cases here.symm.trans there
    rw [phase] at alone
    cases alone
    refine ⟨_, call_put here _, .returned ?_⟩
    rw [kept] at holds
    rw [lookup_of_found holds]
    exact kept ▸ .refl _
  | began there phase empty =>
    cases here.symm.trans there
    rw [phase] at alone
    cases alone
    refine ⟨_, call_put here _, ?_⟩
    rw [kept] at empty
    rw [gets]
    exact kept ▸ .getting empty (.refl _)
  | filled there phase =>
    cases here.symm.trans there
    rw [phase] at alone
    cases alone with
    | getting new leads =>
      refine ⟨_, call_put here _, .returned ?_⟩
      rw [kept]
      exact leads_lookup new leads
  | failed there phase =>
    cases here.symm.trans there
    rw [phase] at alone
    cases alone with
    | getting new leads => exact ⟨_, call_put here _, kept ▸ .failing new leads⟩
  | discarded there phase =>
    cases here.symm.trans there
    rw [phase] at alone
    cases alone with
    | failing new leads =>
      refine ⟨_, call_put here _, .returned ?_⟩
      rw [same, kept]
      exact leads_lookup new leads

/-- A call that is answered, alone, goes on with the lookup. -/
theorem alone_of_answer {reply : (question : Ask) → Answer question}
    (ran : (ofCells cells).run? events = some machine)
    (talked : log = (ofCells cells).conversation events 0)
    (taken : Step machine (.answer 0 reply) next) :
    ∃ phase, next.calls[0]? = some { call with phase } ∧
      Alone get key cells phase next.cells
        ((ofCells cells).conversation (events ++ [.answer 0 reply]) 0) := by
  generalize kept : machine.cells = held at alone
  cases taken with
  | answered _ there phase =>
    cases here.symm.trans there
    rw [conversation_of_answer ran here phase, ← talked]
    rw [phase] at alone
    cases alone with
    | getting new leads => exact ⟨_, call_put here _, kept ▸ .getting new (leads.snoc _)⟩

end Step

/-- **Every step of a call that runs alone keeps to the lookup.** -/
theorem Lone.step (lone : Lone get key cells events machine)
    (ran : (ofCells cells).run? events = some machine) (first : event.isFirst)
    (taken : Step machine event next) : Lone get key cells (events ++ [event]) next := by
  obtain ⟨call, here, same, gets, alone⟩ := lone
  cases event with
  | advance i =>
    obtain rfl : i = 0 := first
    obtain ⟨phase, there, goesOn⟩ := alone_of_advance here same gets alone taken
    refine ⟨_, there, same, gets, ?_⟩
    rwa [conversation_of_quiet ran (by intro _ same; cases same)]
  | answer i reply =>
    obtain rfl : i = 0 := first
    obtain ⟨phase, there, goesOn⟩ := alone_of_answer here same gets alone ran rfl taken
    exact ⟨_, there, same, gets, goesOn⟩
  | _ => exact absurd first id

/-- A call that starts, and then steps alone, keeps to the lookup. -/
theorem lone_of_run (ran : (ofCells cells).run? (.start key (get key) :: events) = some machine)
    (alone : ∀ event ∈ events, event.isFirst) :
    Lone get key cells (.start key (get key) :: events) machine := by
  induction events using List.reverseRecOn generalizing machine with
  | nil =>
    cases ran
    exact ⟨⟨key, get key, .looking⟩, rfl, rfl, rfl, .looking⟩
  | append_singleton events event ih =>
    rw [← List.cons_append, run?_snoc] at ran
    obtain ⟨before, ranBefore, taken⟩ := Option.bind_eq_some_iff.mp ran
    have lone := ih ranBefore fun other member => alone other (List.mem_append_left _ member)
    have first := alone event (List.mem_append_right _ List.mem_cons_self)
    exact lone.step ranBefore first (step_of_step? taken)

/-- **A call that runs alone comes to what a lookup comes to**: it has the same dialogue and the same
outcome, and leaves the same cells. -/
theorem lookup_of_alone {outcome : Except Error Value}
    (ran : (ofCells cells).run? (.start key (get key) :: events) = some machine)
    (alone : ∀ event ∈ events, event.isFirst) (returned : machine.outcome? 0 = some outcome) :
    (lookup get key cells).Leads ((ofCells cells).conversation (.start key (get key) :: events) 0)
      (.done (outcome, machine.cells)) := by
  obtain ⟨call, here, -, -, reached⟩ := lone_of_run ran alone
  unfold outcome? at returned
  rw [here, Option.bind_some] at returned
  generalize call.phase = phase at reached returned
  generalize (ofCells cells).conversation (.start key (get key) :: events) 0 = log at reached ⊢
  generalize machine.cells = after at reached ⊢
  cases reached with
  | returned leads =>
    cases returned
    exact leads
  | _ => cases returned

end Machine

end TenantReports.Memo
