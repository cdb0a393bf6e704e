import Mathlib
import ClaimCheck.Proofs.Codec.Transparency

/-!
# Deletions as programs

The program that a deletion comes down to, written out as its requests: a session is opened, a blob
is deleted by `list`, `deleteBlob` and, if the listing held one name, `deleteContainer`, each call
going on only if the one before succeeded, and the session is closed.

A trigger decodes a body first and then deletes what the text names
(`DeletionTrigger.deleteNamed`), so an event that is no envelope is handled without any request
before the deletion.
-/

namespace ClaimCheck

namespace Coordinator

/-- The calls that delete a blob. -/
lemma run_deleteBlob (place : Locator) (session : Session) :
    (deleteBlob place session).run =
      .ask (.call session.client (.list place.container)) fun
        | .error fault => .done (.error fault)
        | .ok names => .ask (.call session.client (.deleteBlob place)) fun
          | .error fault => .done (.error fault)
          | .ok _ =>
            if names.length = 1 then
              .ask (.call session.client (.deleteContainer place.container)) fun
                | .error fault => .done (.error fault)
                | .ok _ => .done (.ok (.blob place true))
            else .done (.ok (.blob place false)) := by
  unfold deleteBlob
  rw [Attempt.run_bind, Session.run_call, Program.ask_bind]
  congr 1
  funext listed
  rcases listed with fault | names
  · rfl
  · dsimp only [Program.pure_bind]
    rw [Attempt.run_bind, Session.run_call, Program.ask_bind]
    congr 1
    funext deleted
    rcases deleted with fault | _
    · rfl
    · dsimp only [Program.pure_bind]
      split
      · rw [Attempt.run_bind, Session.run_call, Program.ask_bind]
        congr 1
        funext emptied
        rcases emptied with fault | _ <;> rfl
      · rfl

/-- What is deleted does not depend on the credential of the session. -/
lemma deleteTarget_congr (target : Target) {session session' : Session}
    (hclient : session.client = session'.client) :
    (deleteTarget target session).run = (deleteTarget target session').run := by
  obtain ⟨client, credential⟩ := session
  obtain ⟨client', credential'⟩ := session'
  cases hclient
  rfl

/-- Deleting what an address names: the address is read before anything is asked, and all calls go
through one session. -/
lemma run_delete_of_target {coordinator : Coordinator} {url : String} {target : Target}
    (htarget : Target.ofUrl url = .ok target) :
    (coordinator.delete url).run =
      (coordinator.access.within target.endpoint (deleteTarget target)).run.bind fun outcome =>
        .done (outcome.mapError .store) := by
  unfold delete
  rw [Attempt.run_bind, Attempt.run_ofOutcome, htarget, Program.pure_bind]
  rfl

end Coordinator

namespace DeletionTrigger

open Deletion

/-- Deletes what the text of an event names. -/
def deleteNamed (t : DeletionTrigger) (text : String) : Attempt LifecycleFault DeletionOutcome := do
  let url ← Attempt.ofOutcome .request (requestedAddress text)
  t.coordinator.delete url

variable {text url : String}

/-- A text that names an address asks for its deletion. -/
lemma run_deleteNamed (t : DeletionTrigger) (hurl : requestedAddress text = .ok url) :
    (t.deleteNamed text).run = (t.coordinator.delete url).run := by
  unfold deleteNamed
  rw [Attempt.run_bind, Attempt.run_ofOutcome, hurl]
  rfl

/-- A body is decoded, and then what its text names is deleted. -/
lemma run_handle (t : DeletionTrigger) (body : String) :
    (t.handle body).run = (t.codec.decode body).run.bind fun
      | .error fault => .done (.error (.codec fault))
      | .ok text => (t.deleteNamed text).run := by
  unfold handle
  rw [Attempt.run_bind, Attempt.run_wrapping, Program.bind_assoc]
  congr 1
  funext outcome
  cases outcome <;> rfl

/-- An event that is no envelope is its own text. -/
lemma run_handle_of_isPlain (t : DeletionTrigger)
    (hplain : ReceivedBody.isPlain (ReceivedBody.ofText text) = true) :
    (t.handle text).run = (t.deleteNamed text).run := by
  rw [run_handle, Codec.run_decode_of_isPlain hplain]
  rfl

end DeletionTrigger

end ClaimCheck
