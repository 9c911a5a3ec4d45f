import TenantReports.Postgres.Transaction
import TenantReports.Proofs.Questions

/-!
# A transaction ends once

**What a server hears of a transaction, whatever is called on it and however each statement ends**:
its beginning, the statements of the calls up to the first rollback, that rollback, and then nothing
more, even if the rollback failed.

* `Turn`: a call, its reply, and what the server hears meanwhile.
* `Sent`, `Refused`: the calls on a transaction that is open, and on one that has ended.
* `Step`: what a call makes of a transaction; `leads_answer_iff` says that nothing else can happen.
* `leads_serve_iff`: the dialogues with the server are those of the calls, one after another.
* `EndsOnce`: the calls of a transaction as a whole; `calls_iff` says that they are so.
* `ends_once`: so every client of a transaction is served.

A server that does not answer counts as one that answers with an error, and what becomes of a
transaction that nobody rolls back is left aside.
-/

namespace TenantReports

/-- **A call on a transaction** that was begun. -/
def DbAsk.OnTransaction : DbAsk → Prop
  | .query _ _ | .begin => False
  | .setTimeout _ | .script _ | .txQuery _ _ | .rollback => True

/-- Begins a transaction and makes the calls of a client on it, if there is one. -/
def DbTask.inTransaction {α : Type} (client : DbTask α) : DbTask (Except DbError α) :=
  .ask .begin fun
    | .error error => .done (.error error)
    | .ok _ => client.bind fun a => .done (.ok a)

/-- The client that makes the given calls, whatever the replies, and keeps these. -/
def DbTask.calling : List DbAsk → DbTask (List (Exchange DbAsk.Answer))
  | [] => .done []
  | call :: calls => .ask call fun reply =>
    (calling calls).bind fun replies => .done (⟨call, reply⟩ :: replies)

namespace Postgres

variable {limit : Nat} {heard : List (Exchange ServerAsk.Answer)} {transaction after : Transaction}

/-! ### Turns -/

/-- **A call, its reply, and what the server hears** and answers meanwhile. -/
structure Turn where
  call : DbAsk
  reply : call.Answer
  heard : List (Exchange ServerAsk.Answer)

/-- The call and its reply. -/
def Turn.exchange (turn : Turn) : Exchange DbAsk.Answer :=
  ⟨turn.call, turn.reply⟩

/-- **A call on an open transaction**, other than to roll it back. The server hears its statements:
with parameters the statement is prepared first. -/
inductive Sent (limit : Nat) : Turn → Prop
  | timeout (millis : Nat) (outcome : Except ServerError Table) :
    Sent limit ⟨.setTimeout millis, (answered limit outcome).map fun _ => (),
      [⟨.execute timeoutStatement [timeoutText millis], outcome⟩]⟩
  | script (sql : String) (outcome : Except ServerError Unit) :
    Sent limit ⟨.script sql, answered limit outcome, [⟨.simple sql, outcome⟩]⟩
  | plain (sql : String) (outcome : Except ServerError Table) :
    Sent limit ⟨.txQuery sql [], (answered limit outcome).bind decodeRows,
      [⟨.execute sql [], outcome⟩]⟩
  | unprepared (sql : String) {params : List String} (some : params ≠ []) (error : ServerError) :
    Sent limit ⟨.txQuery sql params, .error (error.toDbError limit),
      [⟨.prepare sql, .error error⟩]⟩
  | prepared (sql : String) {params : List String} (some : params ≠ []) (inferred : List String)
    (outcome : Except ServerError Table) :
    Sent limit ⟨.txQuery sql params, (answered limit outcome).bind decodeRows,
      [⟨.prepare sql, .ok inferred⟩, ⟨.execute (castPlaceholders sql inferred) params, outcome⟩]⟩

/-- **A call on a transaction that has ended**: the server hears nothing of it, and only a rollback
succeeds. -/
inductive Refused : Turn → Prop
  | timeout (millis : Nat) :
    Refused ⟨.setTimeout millis, .error (.backend "transaction already rolled back"), []⟩
  | script (sql : String) :
    Refused ⟨.script sql, .error (.backend "transaction already rolled back"), []⟩
  | query (sql : String) (params : List String) :
    Refused ⟨.txQuery sql params, .error (.backend "transaction already rolled back"), []⟩
  | rollback : Refused ⟨.rollback, .ok (), []⟩

/-- The first call that rolls a transaction back. -/
def rollbackTurn (limit : Nat) (outcome : Except ServerError Unit) : Turn :=
  ⟨.rollback, answered limit outcome, [⟨.simple "ROLLBACK", outcome⟩]⟩

/-! ### One call -/

/-- **What a call makes of a transaction**: it ends with the first rollback, whatever becomes of
that. -/
inductive Step (limit : Nat) : Transaction → Turn → Transaction → Prop
  | opened {turn : Turn} (opened : Sent limit turn) : Step limit .opened turn .opened
  | rolledBack (outcome : Except ServerError Unit) :
    Step limit .opened (rollbackTurn limit outcome) .ended
  | refused {turn : Turn} (refused : Refused turn) : Step limit .ended turn .ended

theorem leads_keeping_iff {α : Type} {task : ServerTask α} {a : α} :
    (transaction.keeping task).Leads heard (.done (a, after)) ↔
      task.Leads heard (.done a) ∧ after = transaction := by
  constructor
  · intro leads
    obtain ⟨result, same, inner⟩ := leads.of_map_finished
    cases same
    exact ⟨inner, rfl⟩
  · rintro ⟨leads, rfl⟩
    exact leads.map

/-- **A statement with parameters is prepared first**, and one without is sent as it is. -/
theorem leads_fetch_iff {sql : String} {params : List String} {rows : Except DbError RawRows} :
    (fetch limit sql params).Leads heard (.done rows) ↔
      Sent limit ⟨.txQuery sql params, rows, heard⟩ := by
  constructor
  · intro leads
    cases params with
    | nil =>
      obtain ⟨outcome, rfl, rfl⟩ := Task.leads_once_iff.mp leads
      exact .plain sql outcome
    | cons param params =>
      obtain ⟨types, rest, rfl, goesOn⟩ := leads.of_ask_finished
      cases types with
      | error error =>
        obtain ⟨rfl, rfl⟩ := goesOn.of_done_finished
        exact .unprepared sql (List.cons_ne_nil _ _) error
      | ok inferred =>
        obtain ⟨outcome, rfl, rfl⟩ := Task.leads_once_iff.mp goesOn
        exact .prepared sql (List.cons_ne_nil _ _) inferred outcome
  · intro opened
    cases opened with
    | plain sql outcome => exact Task.leads_once_iff.mpr ⟨outcome, rfl, rfl⟩
    | @unprepared sql params some error =>
      cases params with
      | nil => exact absurd rfl some
      | cons param params => exact .ask (.refl _)
    | @prepared sql params some inferred outcome =>
      cases params with
      | nil => exact absurd rfl some
      | cons param params => exact .ask (.ask (.refl _))

theorem opened_of_leads_answer {call : DbAsk} (on : call.OnTransaction) {reply : call.Answer}
    (leads : (Transaction.answer limit .opened call).Leads heard (.done (reply, after))) :
    Step limit .opened ⟨call, reply, heard⟩ after := by
  cases call with
  | query | begin => cases on
  | setTimeout millis =>
    obtain ⟨sent, rfl⟩ := leads_keeping_iff.mp leads
    obtain ⟨outcome, rfl, rfl⟩ := Task.leads_once_iff.mp sent
    exact .opened (.timeout millis outcome)
  | script sql =>
    obtain ⟨sent, rfl⟩ := leads_keeping_iff.mp leads
    obtain ⟨outcome, rfl, rfl⟩ := Task.leads_once_iff.mp sent
    exact .opened (.script sql outcome)
  | txQuery sql params =>
    obtain ⟨sent, rfl⟩ := leads_keeping_iff.mp leads
    exact .opened (leads_fetch_iff.mp sent)
  | rollback =>
    obtain ⟨sent, rfl⟩ := leads_keeping_iff.mp leads
    obtain ⟨outcome, rfl, rfl⟩ := Task.leads_once_iff.mp sent
    exact .rolledBack outcome

theorem refused_of_leads_answer {call : DbAsk} (on : call.OnTransaction) {reply : call.Answer}
    (leads : (Transaction.answer limit .ended call).Leads heard (.done (reply, after))) :
    Step limit .ended ⟨call, reply, heard⟩ after := by
  cases call with
  | query | begin => cases on
  | setTimeout millis =>
    obtain ⟨rfl, same⟩ := Task.leads_done_iff.mp leads
    cases same
    exact .refused (.timeout millis)
  | script sql =>
    obtain ⟨rfl, same⟩ := Task.leads_done_iff.mp leads
    cases same
    exact .refused (.script sql)
  | txQuery sql params =>
    obtain ⟨rfl, same⟩ := Task.leads_done_iff.mp leads
    cases same
    exact .refused (.query sql params)
  | rollback =>
    obtain ⟨rfl, same⟩ := Task.leads_done_iff.mp leads
    cases same
    exact .refused .rollback

theorem Step.leads {turn : Turn} (step : Step limit transaction turn after) :
    (transaction.answer limit turn.call).Leads turn.heard (.done (turn.reply, after)) := by
  cases step with
  | opened opened =>
    cases opened with
    | timeout millis outcome => exact leads_keeping_iff.mpr ⟨.ask (.refl _), rfl⟩
    | script sql outcome => exact leads_keeping_iff.mpr ⟨.ask (.refl _), rfl⟩
    | plain sql outcome =>
      exact leads_keeping_iff.mpr ⟨leads_fetch_iff.mpr (.plain sql outcome), rfl⟩
    | unprepared sql some error =>
      exact leads_keeping_iff.mpr ⟨leads_fetch_iff.mpr (.unprepared sql some error), rfl⟩
    | prepared sql some inferred outcome =>
      exact leads_keeping_iff.mpr ⟨leads_fetch_iff.mpr (.prepared sql some inferred outcome), rfl⟩
  | rolledBack outcome => exact leads_keeping_iff.mpr ⟨.ask (.refl _), rfl⟩
  | refused refused =>
    cases refused <;> exact .refl _

/-- **What a call makes of a transaction is all that can happen.** -/
theorem leads_answer_iff {call : DbAsk} (on : call.OnTransaction) {reply : call.Answer} :
    (transaction.answer limit call).Leads heard (.done (reply, after)) ↔
      Step limit transaction ⟨call, reply, heard⟩ after := by
  refine ⟨fun leads => ?_, fun step => step.leads⟩
  cases transaction with
  | opened => exact opened_of_leads_answer on leads
  | ended => exact refused_of_leads_answer on leads

/-! ### All calls -/

/-- **The calls on a transaction, one after another.** -/
inductive Calls (limit : Nat) : Transaction → List Turn → Transaction → Prop
  | nil (transaction : Transaction) : Calls limit transaction [] transaction
  | cons {transaction between after : Transaction} {turn : Turn} {turns : List Turn}
    (first : Step limit transaction turn between) (rest : Calls limit between turns after) :
    Calls limit transaction (turn :: turns) after

/-- **The dialogues with the server are those of the calls**, one after another. -/
theorem leads_serve_iff {α : Type} {client : DbTask α} (calls : client.Only DbAsk.OnTransaction)
    {a : α} :
    (Transaction.serve limit transaction client).Leads heard (.done (a, after)) ↔
      ∃ turns, Calls limit transaction turns after ∧
        client.Leads (turns.map Turn.exchange) (.done a) ∧ heard = turns.flatMap Turn.heard := by
  -- By induction on the client; each of its calls is one turn, whatever the transaction is by then.
  induction calls generalizing transaction heard with
  | done b =>
    constructor
    · intro leads
      obtain ⟨rfl, same⟩ := Task.leads_done_iff.mp leads
      cases same
      exact ⟨[], .nil _, .refl _, rfl⟩
    · rintro ⟨turns, steps, leads, rfl⟩
      obtain ⟨none, rfl⟩ := leads.of_done_finished
      obtain rfl := List.map_eq_nil_iff.mp none
      cases steps
      exact .refl _
  | @ask call next on rest ih =>
    constructor
    · intro leads
      obtain ⟨⟨reply, between⟩, here, later, rfl, answers, goesOn⟩ := leads.of_bind_finished
      obtain ⟨turns, steps, called, rfl⟩ := (ih reply).mp goesOn
      exact ⟨⟨call, reply, here⟩ :: turns, .cons ((leads_answer_iff on).mp answers) steps,
        .ask called, rfl⟩
    · rintro ⟨turns, steps, leads, rfl⟩
      obtain ⟨reply, exchanges, same, called⟩ := leads.of_ask_finished
      cases steps with
      | nil => cases same
      | @cons _ between _ turn turns first steps =>
        obtain ⟨call', reply', heard'⟩ := turn
        cases same
        exact ((leads_answer_iff on).mpr first).bind ((ih reply').mpr ⟨turns, steps, called, rfl⟩)

/-- **The calls on a transaction as a whole**: those before the first rollback reach the server, so
does that rollback, and then none does. -/
inductive EndsOnce (limit : Nat) : List Turn → Transaction → Prop
  /-- Nobody has rolled it back. -/
  | opened {turns : List Turn} (before : ∀ turn ∈ turns, Sent limit turn) :
    EndsOnce limit turns .opened
  | ended {turns later : List Turn} (before : ∀ turn ∈ turns, Sent limit turn)
    (outcome : Except ServerError Unit) (refused : ∀ turn ∈ later, Refused turn) :
    EndsOnce limit (turns ++ rollbackTurn limit outcome :: later) .ended

theorem calls_ended_iff {turns : List Turn} :
    Calls limit .ended turns after ↔ (∀ turn ∈ turns, Refused turn) ∧ after = .ended := by
  constructor
  · intro steps
    generalize same : Transaction.ended = transaction at steps
    induction steps with
    | nil transaction =>
      subst same
      exact ⟨nofun, rfl⟩
    | cons first rest ih =>
      subst same
      cases first with
      | refused refused =>
        obtain ⟨others, ended⟩ := ih rfl
        exact ⟨List.forall_mem_cons.mpr ⟨refused, others⟩, ended⟩
  · rintro ⟨refused, rfl⟩
    induction turns with
    | nil => exact .nil _
    | cons turn turns ih =>
      obtain ⟨first, rest⟩ := List.forall_mem_cons.mp refused
      exact .cons (.refused first) (ih rest)

/-- Calls that leave a transaction open can go before any others. -/
theorem Calls.of_sent {turns rest : List Turn} (steps : Calls limit .opened rest after)
    (sent : ∀ turn ∈ turns, Sent limit turn) : Calls limit .opened (turns ++ rest) after := by
  induction turns with
  | nil => exact steps
  | cons turn turns ih =>
    obtain ⟨first, others⟩ := List.forall_mem_cons.mp sent
    exact .cons (.opened first) (ih others)

/-- **The calls on a transaction that was begun end it at most once.** -/
theorem calls_iff {turns : List Turn} :
    Calls limit .opened turns after ↔ EndsOnce limit turns after := by
  constructor
  · intro steps
    generalize same : Transaction.opened = transaction at steps
    induction steps with
    | nil transaction =>
      subst same
      exact .opened nofun
    | cons first rest ih =>
      subst same
      cases first with
      | opened opened =>
        cases ih rfl with
        | opened before => exact .opened (List.forall_mem_cons.mpr ⟨opened, before⟩)
        | @ended turns later before outcome refused =>
          exact @EndsOnce.ended limit (_ :: turns) later
            (List.forall_mem_cons.mpr ⟨opened, before⟩) outcome refused
      | rolledBack outcome =>
        obtain ⟨refused, rfl⟩ := calls_ended_iff.mp rest
        exact @EndsOnce.ended limit [] _ nofun outcome refused
  · intro ends
    cases ends with
    | opened before => exact List.append_nil turns ▸ (Calls.nil _).of_sent before
    | @ended turns later before outcome refused =>
      have ended : Calls limit .ended later .ended := calls_ended_iff.mpr ⟨refused, rfl⟩
      exact (Calls.cons (.rolledBack outcome) ended).of_sent before

/-! ### From the beginning -/

/-- **What the server hears from the beginning of a transaction on**, with the result of the client
and what the transaction is then. -/
inductive Transacted {α : Type} (limit : Nat) (client : DbTask α) :
    List (Exchange ServerAsk.Answer) → Except DbError α → Transaction → Prop
  /-- There is no transaction. -/
  | unopened (error : ServerError) :
    Transacted limit client [⟨.simple "BEGIN", .error error⟩] (.error (error.toDbError limit))
      .ended
  | begun {turns : List Turn} {a : α} {after : Transaction} (ends : EndsOnce limit turns after)
    (called : client.Leads (turns.map Turn.exchange) (.done a)) :
    Transacted limit client (⟨.simple "BEGIN", .ok ()⟩ :: turns.flatMap Turn.heard) (.ok a) after

theorem leads_inTransaction_iff {α : Type} {client : DbTask α}
    (calls : client.Only DbAsk.OnTransaction) {result : Except DbError α} :
    (Transaction.serve limit transaction client.inTransaction).Leads heard (.done (result, after)) ↔
      Transacted limit client heard result after := by
  have calls' : (client.bind fun a => .done (Except.ok a : Except DbError α)).Only
      DbAsk.OnTransaction := calls.bind fun _ => .done _
  constructor
  · intro leads
    obtain ⟨outcome, rest, rfl, goesOn⟩ := leads.of_ask_finished
    cases outcome with
    | error error =>
      obtain ⟨rfl, same⟩ := Task.leads_done_iff.mp goesOn
      cases same
      exact .unopened error
    | ok =>
      obtain ⟨turns, steps, called, rfl⟩ := (leads_serve_iff calls').mp goesOn
      obtain ⟨a, rfl, inner⟩ := called.of_map_finished
      exact .begun (calls_iff.mp steps) inner
  · intro transacted
    cases transacted with
    | unopened error => exact .ask (.refl _)
    | begun ends called =>
      exact .ask ((leads_serve_iff calls').mpr ⟨_, calls_iff.mpr ends, called.map, rfl⟩)

/-! ### Sequences of calls -/

theorem only_calling {calls : List DbAsk} (on : ∀ call ∈ calls, call.OnTransaction) :
    (DbTask.calling calls).Only DbAsk.OnTransaction := by
  induction calls with
  | nil => exact .done _
  | cons call calls ih =>
    obtain ⟨first, rest⟩ := List.forall_mem_cons.mp on
    exact .ask first fun reply => (ih rest).bind fun replies => .done _

/-- A client that makes given calls makes these, in their order, and has their replies. -/
theorem leads_calling_iff {calls : List DbAsk} {log replies : List (Exchange DbAsk.Answer)} :
    (DbTask.calling calls).Leads log (.done replies) ↔ log.map (·.1) = calls ∧ replies = log := by
  induction calls generalizing log replies with
  | nil =>
    constructor
    · intro leads
      obtain ⟨rfl, rfl⟩ := leads.of_done_finished
      exact ⟨rfl, rfl⟩
    · rintro ⟨none, rfl⟩
      obtain rfl := List.map_eq_nil_iff.mp none
      exact .refl _
  | cons call calls ih =>
    constructor
    · intro leads
      obtain ⟨reply, rest, rfl, goesOn⟩ := leads.of_ask_finished
      obtain ⟨replies, rfl, inner⟩ := goesOn.of_map_finished
      obtain ⟨rfl, rfl⟩ := ih.mp inner
      exact ⟨rfl, rfl⟩
    · rintro ⟨same, rfl⟩
      cases replies with
      | nil => cases same
      | cons exchange rest =>
        obtain ⟨call', reply⟩ := exchange
        cases same
        exact .ask (Task.Leads.map (ih.mpr ⟨rfl, rfl⟩))

/-- **A transaction ends once.** Whatever a client calls on a transaction that it begins, however
often, and however each statement ends: the server hears the beginning, the statements of the calls
before the first rollback, in the order of the calls, the statement of that rollback, and nothing
after it. From the first rollback on, even one that failed, rollbacks succeed and all other calls
fail. All of these dialogues can happen. So it is, too, for every sequence of calls. -/
theorem ends_once (limit : Nat) (transaction : Transaction) :
    (∀ {α : Type} (client : DbTask α), client.Only DbAsk.OnTransaction →
      (∀ {σ : Type} (server : (q : ServerAsk) → σ → q.Answer × σ) (s : σ),
        Transacted limit client
          ((transaction.serve limit client.inTransaction).dialogue server s)
          ((transaction.serve limit client.inTransaction).run server s).1.1
          ((transaction.serve limit client.inTransaction).run server s).1.2) ∧
      ∀ heard result after,
        (transaction.serve limit client.inTransaction).Leads heard (.done (result, after)) ↔
          Transacted limit client heard result after) ∧
    ∀ calls : List DbAsk, (∀ call ∈ calls, call.OnTransaction) → ∀ heard replies after,
      (transaction.serve limit (DbTask.calling calls).inTransaction).Leads heard
          (.done (.ok replies, after)) ↔
        ∃ turns, EndsOnce limit turns after ∧ turns.map Turn.call = calls ∧
          turns.map Turn.exchange = replies ∧
          heard = ⟨.simple "BEGIN", .ok ()⟩ :: turns.flatMap Turn.heard := by
  refine ⟨fun client calls => ⟨fun server s => ?_, fun _ _ _ => leads_inTransaction_iff calls⟩,
    fun calls on heard replies after => ?_⟩
  · exact (leads_inTransaction_iff calls).mp (Task.leads_dialogue server _ s)
  · rw [leads_inTransaction_iff (only_calling on)]
    constructor
    · intro transacted
      cases transacted with
      | @begun turns _ _ ends called =>
        obtain ⟨same, rfl⟩ := leads_calling_iff.mp called
        rw [List.map_map] at same
        exact ⟨turns, ends, same, rfl, rfl⟩
    · rintro ⟨turns, ends, rfl, rfl, rfl⟩
      refine .begun ends (leads_calling_iff.mpr ⟨?_, rfl⟩)
      rw [List.map_map]
      rfl

/-- A client that goes on after a rollback that failed. -/
def persistent : List DbAsk :=
  [.setTimeout 5, .rollback, .script "SELECT 1", .rollback]

/-- A server that fails all rollbacks, and does all else. -/
def rollbackFailing (question : ServerAsk) (_ : Unit) : question.Answer × Unit :=
  match question with
  | .simple "ROLLBACK" => (.error (.failed (.server "no")), ())
  | .simple _ => (.ok (), ())
  | .prepare _ => (.ok [], ())
  | .execute _ _ => (.ok ⟨[], []⟩, ())

theorem ends_once_persistent :
    (∀ call ∈ persistent, call.OnTransaction) ∧
    (DbTask.calling persistent).Only DbAsk.OnTransaction ∧
    Transacted 9 (DbTask.calling persistent)
      [⟨.simple "BEGIN", .ok ()⟩,
        ⟨.execute timeoutStatement ["5ms"], .ok ⟨[], []⟩⟩,
        ⟨.simple "ROLLBACK", .error (.failed (.server "no"))⟩]
      (.ok [⟨.setTimeout 5, .ok ()⟩,
        ⟨.rollback, .error (.connection (.server "no"))⟩,
        ⟨.script "SELECT 1", .error (.backend "transaction already rolled back")⟩,
        ⟨.rollback, .ok ()⟩]) .ended ∧
    ∃ turns, EndsOnce 9 turns .ended ∧ turns.map Turn.call = persistent := by
  have on : ∀ call ∈ persistent, call.OnTransaction := by simp [persistent, DbAsk.OnTransaction]
  obtain ⟨clients, sequences⟩ := ends_once 9 .ended
  have served := (clients (DbTask.calling persistent) (only_calling on)).1 rollbackFailing ()
  have leads := Task.leads_dialogue rollbackFailing
    (Transaction.serve 9 .ended (DbTask.calling persistent).inTransaction) ()
  obtain ⟨turns, ends, calls, -⟩ := (sequences persistent on _ _ _).mp leads
  exact ⟨on, only_calling on, served, turns, ends, calls⟩

end Postgres

end TenantReports
