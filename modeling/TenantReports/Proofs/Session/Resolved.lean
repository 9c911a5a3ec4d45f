import TenantReports.Proofs.Memo.Lookup
import TenantReports.Proofs.Session.Opening
import TenantReports.Session.Registry

/-!
# How a request comes to its session

**What is exchanged until a request has a session**, and what comes of it. A session that is kept
takes no exchange; a new one is opened in stages, of which the first that fails is the last.

* `Attached`: what is exchanged to connect to a database and to find out its convention.
* `Established`: what is exchanged to open a session.
* `Resolved`: what is exchanged to find or open one.
* `resolved_of_leads`: a dialogue that ends with a session or a failure is one of these.
-/

namespace TenantReports

open Memo

variable {environment : Option Credentials} {caller : SessionKey} {credentials : Credentials}
  {log : List (Exchange Ask.Answer)} {registry after : Registry} {result : Except Failure Session}

/-- **What is exchanged to connect**, and what comes of it. -/
inductive Attached (caller : SessionKey) (credentials : Credentials) :
    List (Exchange Ask.Answer) → Except Failure Session → Prop
  /-- There is no connection. -/
  | refused (error : DbError) :
    Attached caller credentials [⟨.connect credentials, .error error⟩]
      (.error (error.toFailure .connection "failed to connect to reporting database"))
  /-- The convention cannot be told. -/
  | unprobed (handle : Handle) (error : DbError) :
    Attached caller credentials
      [⟨.connect credentials, .ok handle⟩,
        ⟨.database handle (.query Catalog.probeSql []), .error error⟩]
      (.error (error.toFailure .introspection "could not determine database dialect"))
  | ready (handle : Handle) (rows : RawRows) :
    Attached caller credentials
      [⟨.connect credentials, .ok handle⟩,
        ⟨.database handle (.query Catalog.probeSql []), .ok rows⟩, ⟨.observe .sessionOpened, ()⟩]
      (.ok ⟨caller, handle, if rows.rows.isEmpty then .metadb else .ldp⟩)

/-- **What is exchanged to open a session**, and what comes of it. -/
inductive Established (environment : Option Credentials) (caller : SessionKey) :
    List (Exchange Ask.Answer) → Except Failure Session → Prop
  /-- There are no credentials. -/
  | unfound {log : List (Exchange Ask.Answer)} {failure : Failure}
    (looked : Looked caller environment log (.error failure)) :
    Established environment caller log (.error failure)
  | attached {first second : List (Exchange Ask.Answer)} {credentials : Credentials}
    {result : Except Failure Session} (looked : Looked caller environment first (.ok credentials))
    (attached : Attached caller credentials second result) :
    Established environment caller (first ++ second) result

/-- **What is exchanged until a request has its session**, and what comes of it. -/
inductive Resolved (environment : Option Credentials) (caller : SessionKey) (registry : Registry) :
    List (Exchange Ask.Answer) → Except Failure Session → Prop
  | kept {session : Session} (found : registry.found? caller = some session) :
    Resolved environment caller registry [] (.ok session)
  | opened {log : List (Exchange Ask.Answer)} {result : Except Failure Session}
    (new : registry.found? caller = none) (established : Established environment caller log result) :
    Resolved environment caller registry log result

theorem looked_of_finished {found : Except Failure Credentials}
    (leads : (findCredentials environment caller).Leads log (.done found)) :
    Looked caller environment log found := by
  rcases looked_of_leads leads with ⟨-, -, request, waits, -⟩ | ⟨found', looked, same⟩
  · cases waits
  · cases same
    exact looked

theorem attached_of_leads (leads : (connectWith caller credentials).Leads log (.done result)) :
    Attached caller credentials log result := by
  obtain ⟨connected, rest, rfl, goesOn⟩ := leads.of_ask_finished
  cases connected with
  | error error =>
    obtain ⟨rfl, rfl⟩ := goesOn.of_done_finished
    exact .refused error
  | ok handle =>
    obtain ⟨rows, rest, rfl, probed⟩ := goesOn.of_ask_finished
    cases rows with
    | error error =>
      obtain ⟨rfl, rfl⟩ := probed.of_done_finished
      exact .unprobed handle error
    | ok rows =>
      obtain ⟨counted, rest, rfl, opened⟩ := probed.of_ask_finished
      obtain ⟨rfl, rfl⟩ := opened.of_done_finished
      exact .ready handle rows

theorem established_of_leads (leads : (openSession environment caller).Leads log (.done result)) :
    Established environment caller log result := by
  obtain ⟨found, first, second, rfl, looks, goesOn⟩ := leads.of_bind_finished
  have looked := looked_of_finished looks
  cases found with
  | error failure =>
    obtain ⟨rfl, rfl⟩ := goesOn.of_done_finished
    rw [List.append_nil]
    exact .unfound looked
  | ok credentials => exact .attached looked (attached_of_leads goesOn)

/-- **A request comes to its session in one of these ways.** -/
theorem resolved_of_leads
    (leads : (Registry.resolve environment caller registry).Leads log (.done (result, after))) :
    Resolved environment caller registry log result := by
  unfold Registry.resolve at leads
  cases found : registry.found? caller with
  | some session =>
    rw [lookup_of_found found] at leads
    obtain ⟨rfl, same⟩ := leads.of_done_finished
    cases same
    exact .kept found
  | none =>
    rw [lookup_of_new found] at leads
    obtain ⟨outcome, first, second, rfl, opens, settles⟩ := leads.of_bind_finished
    obtain ⟨rfl, same⟩ := settles.of_done_finished
    obtain rfl : result = outcome := (congrArg Prod.fst same).trans (settle_fst _ _ _)
    rw [List.append_nil]
    exact .opened found (established_of_leads opens)

end TenantReports
