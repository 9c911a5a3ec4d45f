import TenantReports.Gateway.Serve
import TenantReports.Proofs.Gateway.Uses
import TenantReports.Proofs.Session.Opening

/-!
# What is kept for a caller

**The part of a gateway's state that one caller can notice**: the caller's session and the columns
that were asked for in it. An operation of the caller depends on this part alone, and an operation
of anyone else leaves it as it is.

* `GatewayState.Settled`: a state between requests, in which sessions are kept under their own
  callers; `settled_perform`: it stays so.
* `GatewayState.Same`: states that keep the same for a caller.
* `key_of_resolved`: a session that is found or opened is the caller's.
* `perform_own`: an operation of the caller gives the same in states that keep the same for the
  caller.
* `perform_others`: an operation of another caller changes nothing that is kept for the caller.
-/

namespace TenantReports

open Memo

variable {gateway : Gateway} {caller key : SessionKey} {state other : GatewayState}
  {operation : Operation}

/-! ### States -/

/-- **A state between requests**: no lookup is under way, and sessions are kept under their own
callers. -/
structure GatewayState.Settled (state : GatewayState) : Prop where
  registry : state.registry.Settled
  columns : state.columns.Settled
  own : ∀ caller session, state.registry.get? caller = some session → session.key = caller

/-- **States that keep the same for a caller.** -/
structure GatewayState.Same (caller : SessionKey) (state other : GatewayState) : Prop where
  session : state.registry.get? caller = other.registry.get? caller
  columns : ColumnCache.SameFor caller state.columns other.columns

theorem GatewayState.settled_initial : GatewayState.initial.Settled where
  registry := Cells.settled_empty
  columns := Cells.settled_empty
  own caller session kept := by cases kept

theorem GatewayState.Same.refl (caller : SessionKey) (state : GatewayState) :
    GatewayState.Same caller state state :=
  ⟨rfl, fun _ _ => rfl⟩

theorem GatewayState.Same.trans {third : GatewayState} (first : GatewayState.Same caller state other)
    (second : GatewayState.Same caller other third) : GatewayState.Same caller state third :=
  ⟨first.session.trans second.session, fun schema table =>
    (first.columns schema table).trans (second.columns schema table)⟩

/-! ### Finding the session -/

section Resolve

variable {reply : (question : Ask) → question.Answer}

/-- What comes of finding or opening the session of a caller, and what is kept then. -/
def Gateway.resolved (gateway : Gateway) (reply : (question : Ask) → question.Answer)
    (key : SessionKey) (state : GatewayState) : Except Failure Session × Registry :=
  (Registry.resolve gateway.environment key state.registry).value reply

theorem resolved_fst (settled : state.Settled) :
    (gateway.resolved reply key state).1 =
      (state.registry.get? key).elim ((openSession gateway.environment key).value reply) .ok :=
  outcome_lookup settled.registry

theorem settled_resolved (settled : state.Settled) :
    (gateway.resolved reply key state).2.Settled :=
  (kept_lookup settled.registry).1

theorem get?_resolved (settled : state.Settled) (caller : SessionKey) :
    (gateway.resolved reply key state).2.get? caller =
      if caller = key then (gateway.resolved reply key state).1.toOption
      else state.registry.get? caller :=
  (kept_lookup settled.registry).2 caller

/-- **A session that is found or opened is the caller's.** -/
theorem key_of_resolved (settled : state.Settled) {session : Session}
    (resolved : (gateway.resolved reply key state).1 = .ok session) : session.key = key := by
  rw [resolved_fst settled] at resolved
  cases kept : state.registry.get? key with
  | some found =>
    rw [kept] at resolved
    cases resolved
    exact settled.own key _ kept
  | none =>
    rw [kept] at resolved
    obtain ⟨log, leads⟩ := Task.exists_leads_value reply (openSession gateway.environment key)
    rw [show (openSession gateway.environment key).value reply = .ok session from resolved] at leads
    exact (opened_of_leads leads).1

/-- Sessions are still kept under their own callers. -/
theorem own_of_resolved (settled : state.Settled) (caller : SessionKey) (session : Session)
    (kept : (gateway.resolved reply key state).2.get? caller = some session) :
    session.key = caller := by
  rw [get?_resolved settled] at kept
  split at kept
  · next same =>
    rw [same]
    cases outcome : (gateway.resolved reply key state).1 with
    | error failure =>
      rw [outcome] at kept
      cases kept
    | ok found =>
      rw [outcome] at kept
      cases kept
      exact key_of_resolved settled outcome
  · exact settled.own caller session kept

/-! ### One operation -/

theorem perform_of_unresolved {failure : Failure}
    (unresolved : (gateway.resolved reply key state).1 = .error failure) :
    (gateway.perform key operation state).value reply =
      (.error failure, ⟨(gateway.resolved reply key state).2, state.columns⟩) := by
  unfold Gateway.perform
  rw [Task.value_bind]
  unfold Gateway.resolved at unresolved ⊢
  generalize (Registry.resolve gateway.environment key state.registry).value reply = found at *
  obtain ⟨outcome, registry⟩ := found
  cases unresolved
  rfl

theorem perform_of_resolved {session : Session}
    (resolved : (gateway.resolved reply key state).1 = .ok session) :
    (gateway.perform key operation state).value reply =
      (((operation.run gateway.reporting session state.columns).value reply).1,
        ⟨(gateway.resolved reply key state).2,
          ((operation.run gateway.reporting session state.columns).value reply).2⟩) := by
  unfold Gateway.perform
  rw [Task.value_bind]
  unfold Gateway.resolved at resolved ⊢
  generalize (Registry.resolve gateway.environment key state.registry).value reply = found at *
  obtain ⟨outcome, registry⟩ := found
  cases resolved
  exact Task.value_bind _ _

theorem inner_perform (key : SessionKey) (operation : Operation) (state : GatewayState) :
    (gateway.perform key operation state).Only Ask.Inner := by
  have resolves : (Registry.resolve gateway.environment key state.registry).Only Ask.Inner :=
    only_lookup (inner_openSession _ _)
  refine resolves.bind fun ⟨resolved, registry⟩ => ?_
  cases resolved with
  | error failure => exact .done _
  | ok session => exact (Uses.inner (uses_run operation) state.columns).bind fun _ => .done _

theorem outward_perform (key : SessionKey) (operation : Operation) (state : GatewayState) :
    (gateway.perform key operation state).Only Ask.Outward :=
  (inner_perform key operation state).mono fun _ inner => inner.outward

theorem settled_perform (settled : state.Settled) :
    ((gateway.perform key operation state).value reply).2.Settled := by
  cases outcome : (gateway.resolved reply key state).1 with
  | error failure =>
    rw [perform_of_unresolved outcome]
    exact ⟨settled_resolved settled, settled.columns, own_of_resolved settled⟩
  | ok session =>
    rw [perform_of_resolved outcome]
    exact ⟨settled_resolved settled, Uses.settled (uses_run operation) settled.columns,
      own_of_resolved settled⟩

/-- **An operation of another caller leaves what is kept for a caller as it is.** -/
theorem perform_others (settled : state.Settled) (differ : key ≠ caller) :
    GatewayState.Same caller ((gateway.perform key operation state).value reply).2 state := by
  have kept : (gateway.resolved reply key state).2.get? caller = state.registry.get? caller :=
    (get?_resolved settled caller).trans (if_neg (Ne.symm differ))
  cases outcome : (gateway.resolved reply key state).1 with
  | error failure =>
    rw [perform_of_unresolved outcome]
    exact ⟨kept, fun _ _ => rfl⟩
  | ok session =>
    rw [perform_of_resolved outcome]
    refine ⟨kept, Uses.others (uses_run operation) settled.columns ?_⟩
    exact (key_of_resolved settled outcome).symm ▸ differ

/-- **What is kept for the caller decides** what an operation of the caller gives, and what is kept
for the caller then. -/
theorem perform_own (gateway : Gateway) (operation : Operation)
    (reply : (question : Ask) → question.Answer) (settled : state.Settled)
    (settled' : other.Settled) (same : GatewayState.Same key state other) :
    ((gateway.perform key operation state).value reply).1 =
        ((gateway.perform key operation other).value reply).1 ∧
      GatewayState.Same key ((gateway.perform key operation state).value reply).2
        ((gateway.perform key operation other).value reply).2 := by
  -- Both runs find or open the same session, so they do the operation on the same session.
  have outcomes : (gateway.resolved reply key state).1 = (gateway.resolved reply key other).1 := by
    rw [resolved_fst settled, resolved_fst settled', same.session]
  have kept : (gateway.resolved reply key state).2.get? key =
      (gateway.resolved reply key other).2.get? key := by
    rw [get?_resolved settled, get?_resolved settled', if_pos rfl, if_pos rfl, outcomes]
  cases outcome : (gateway.resolved reply key state).1 with
  | error failure =>
    rw [perform_of_unresolved outcome, perform_of_unresolved (outcomes ▸ outcome)]
    exact ⟨rfl, kept, same.columns⟩
  | ok session =>
    rw [perform_of_resolved outcome, perform_of_resolved (outcomes ▸ outcome)]
    have mine := key_of_resolved settled outcome
    subst mine
    obtain ⟨given, columns⟩ := Uses.own (uses_run operation) settled.columns settled'.columns
      same.columns
    exact ⟨given, kept, columns⟩

end Resolve

end TenantReports
