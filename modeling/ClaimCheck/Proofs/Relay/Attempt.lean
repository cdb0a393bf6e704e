import Mathlib
import ClaimCheck.Channel.Gateway
import ClaimCheck.Lifecycle.Coordinator
import ClaimCheck.Proofs.Program

/-!
# Attempts as programs

An attempt is a program that is done with a value or with a fault.  This file writes out, for each
way in which attempts are put together, the program that comes out: which request is asked first and
what follows each reply.  A session asks `acquire`, `connect`, whatever is done in it, `disconnect`
and `release`, in this order (`Access.run_within`), and a credential that is used without a store is
acquired before the work and released after it (`run_withCredential`).  A body goes into a blob and
comes out of it by one call in a session of its own (`Codec.run_offload`, `Codec.run_fetch`).

Everything that is said later about a request after another rests on these equations, so no later
proof looks into the definitions of the operations' building blocks.
-/

namespace ClaimCheck

open Identity

variable {α β ε ε' : Type}

/-! ## Putting attempts together -/

namespace Attempt

/-- An attempt goes on with the value of its first part and stops at its fault. -/
lemma run_bind (p : Attempt ε α) (f : α → Attempt ε β) :
    (p >>= f).run = p.run.bind fun
      | .ok a => (f a).run
      | .error fault => .done (.error fault) := by
  change Program.bind p.run (ExceptT.bindCont f) = _
  congr 1
  funext outcome
  cases outcome <;> rfl

/-- An attempt without requests. -/
lemma run_pure (a : α) : (pure a : Attempt ε α).run = .done (.ok a) := rfl

/-- A program that cannot fail, as an attempt. -/
lemma run_lift (p : Relay α) : (ExceptT.lift p : Attempt ε α).run = p.bind fun a => .done (.ok a) :=
  rfl

/-- An outcome that is known asks nothing. -/
lemma run_ofOutcome (wrap : ε → ε') (outcome : Except ε α) :
    (Attempt.ofOutcome wrap outcome).run = .done (outcome.mapError wrap) := by
  cases outcome <;> rfl

/-- Putting the fault into other terms changes no request. -/
lemma run_wrapping (wrap : ε → ε') (p : Attempt ε α) :
    (Attempt.wrapping wrap p).run = p.run.bind fun outcome => .done (outcome.mapError wrap) := rfl

/-- Changing the value changes no request. -/
lemma run_map (f : α → β) (p : Attempt ε α) :
    (f <$> p).run = p.run.bind fun outcome => .done (outcome.map f) := by
  change Program.bind p.run _ = _
  congr 1
  funext outcome
  cases outcome <;> rfl

end Attempt

/-! ## Sessions -/

/-- Opening a session acquires a credential and connects with it; a credential that opens no client
is released at once. -/
lemma Access.run_openSession (access : Access) (endpoint : Endpoint) :
    (access.openSession endpoint).run =
      .ask (.acquire access.selector) fun
        | .error fault => .done (.error (.identity fault))
        | .ok credential => .ask (.connect endpoint credential) fun
          | .error fault => .ask (.release credential) fun _ => .done (.error fault)
          | .ok client => .done (.ok ⟨client, credential⟩) := rfl

/-- A call in a session is one request. -/
lemma Session.run_call (session : Session) (call : Store.Call) :
    (session.call call).run = .ask (.call session.client call) .done := rfl

/-- Whatever becomes of the work in a session, the session is closed after it. -/
lemma Access.run_within (access : Access) (endpoint : Endpoint)
    (work : Session → Attempt Store.Fault α) :
    (access.within endpoint work).run = (access.openSession endpoint).run.bind fun
      | .error fault => .done (.error fault)
      | .ok session => (work session).run.bind fun outcome =>
        .ask (.disconnect session.client) fun _ =>
          .ask (.release session.credential) fun _ => .done outcome := by
  unfold Access.within
  rw [Attempt.run_bind]
  congr 1
  funext opened
  rcases opened with fault | session
  · rfl
  · dsimp only
    rw [Attempt.run_bind, Attempt.run_lift, Program.bind_assoc]
    congr 1
    funext outcome
    cases outcome <;> rfl

/-- Work with a credential acquires it before and releases it after. -/
lemma run_withCredential (selector : Selector) (onFault : Identity.Fault → ε)
    (work : Credential → Relay (Except ε α)) :
    (withCredential selector onFault work).run =
      .ask (.acquire selector) fun
        | .error fault => .done (.error (onFault fault))
        | .ok credential => (work credential).bind fun outcome =>
          .ask (.release credential) fun _ => .done outcome := rfl

/-! ## Bodies in blobs -/

namespace Codec

open Text

variable {codec : Codec} {endpoint : Endpoint}

/-- A text is offloaded by drawing an identifier and by a session with one call. -/
lemma run_offload (hendpoint : codec.endpoint = some endpoint) (text : String) :
    (codec.offload text).run = .ask .drawId fun id =>
      (codec.access.within endpoint fun session =>
        session.call (.put (freshPlace codec.threshold.container id) text.toUTF8)).run.bind fun
          | .error fault => .done (.error (.store fault))
          | .ok _ => .done (.ok (freshPlace codec.threshold.container id)) := by
  unfold offload requiredEndpoint
  rw [Attempt.run_bind, Attempt.run_ofOutcome, hendpoint]
  change Program.ask .drawId (fun id => ExceptT.run (Attempt.wrapping CodecFault.store _ >>= _)) = _
  congr 1
  funext id
  rw [Attempt.run_bind, Attempt.run_wrapping, Program.bind_assoc]
  congr 1
  funext outcome
  rcases outcome with fault | _ <;> rfl

/-- A fetch is a session with one call. -/
lemma run_fetch (hendpoint : codec.endpoint = some endpoint) (place : Locator) :
    (codec.fetch place).run =
      (codec.access.within endpoint fun session => session.call (.get place)).run.bind fun
        | .error fault => .done (.error (.store fault))
        | .ok data => .done ((Utf8.decode data).mapError (.notText place)) := by
  unfold fetch requiredEndpoint
  rw [Attempt.run_bind, Attempt.run_ofOutcome, hendpoint, Program.pure_bind]
  change ExceptT.run (Attempt.wrapping CodecFault.store _ >>= _) = _
  rw [Attempt.run_bind, Attempt.run_wrapping, Program.bind_assoc]
  congr 1
  funext outcome
  rcases outcome with fault | data
  · rfl
  · change ExceptT.run (Attempt.ofOutcome _ (Utf8.decode data)) = _
    rw [Attempt.run_ofOutcome]

end Codec

/-! ## Calls -/

/-- A request that is a call. -/
def Request.IsCall (r : Request) : Prop := ∃ client call, r = .call client call

/-- A call in a session is nothing but a call. -/
lemma Session.isCall_call (session : Session) (call : Store.Call) :
    (session.call call).run.AsksOnly Request.IsCall := ⟨⟨_, _, rfl⟩, fun _ => trivial⟩

/-- A deletion only calls. -/
lemma Coordinator.isCall_deleteTarget (target : Target) (session : Session) :
    (deleteTarget target session).run.AsksOnly Request.IsCall := by
  unfold deleteTarget
  split
  · exact Program.asksOnly_attempt_bind (session.isCall_call _) fun _ => trivial
  · unfold deleteBlob
    refine Program.asksOnly_attempt_bind (session.isCall_call _) fun names => ?_
    refine Program.asksOnly_attempt_bind (session.isCall_call _) fun _ => ?_
    split
    · exact Program.asksOnly_attempt_bind (session.isCall_call _) fun _ => trivial
    · trivial

end ClaimCheck
