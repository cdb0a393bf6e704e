import Mathlib
import ClaimCheck.Proofs.Deletion.Program

/-!
# Deletions that are asked for again

A channel may hand out a message more than once, so the deletion of a blob may be asked for again
long after it was done.  By then the container may be gone, or may have been made again and hold any
blobs, exactly one among these, in which case the listing alone would let the container go.

What protects it is the order of the calls.  The blob lacks after a deletion that succeeded
(`RunsAmid.lacks_of_delete`), and it lacks for as long as nobody places it (`World.Lacks.apply`).  A
deletion of a blob that lacks is refused before the container is touched, whichever call meets the
refusal (`Coordinator.run_delete_of_lacks`).
-/

namespace ClaimCheck

open Deletion

/-! ## Blobs that are not there -/

/-- A call asks to place a blob. -/
def Store.Call.Places (place : Locator) : Store.Call → Prop
  | .put other _ => other = place
  | _ => False

/-- A happening asks to place a blob of an account: it is put or seeded. -/
def Happening.Places (name : String) (place : Locator) : Happening → Prop
  | asked (.call client call) => client.account = name ∧ call.Places place
  | outside (.seed other seeded _) => other = name ∧ seeded = place
  | _ => False

/-- A request asks to place a blob of an account. -/
def Request.Places (name : String) (place : Locator) (r : Request) : Prop :=
  (Happening.asked r).Places name place

/-- A blob of an account is not there. -/
def World.Lacks (w : World) (account : String) (place : Locator) : Prop :=
  (w.account account).blob? place = none

namespace Store.Account

variable {a : Account} {place : Locator}

/-- A blob that is not there is not there after a call that does not place it. -/
lemma blob?_answer_of_not_places (hmissing : a.blob? place = none) {call : Call}
    (h : ¬ call.Places place) : (a.answer call).2.blob? place = none := by
  cases hopen : a.isUnavailable with
  | true =>
    rw [blob?_eq, containers_answer_of_unavailable hopen]
    exact hmissing
  | false =>
    cases call with
    | put other data =>
      rw [blob?_answer_put hopen, if_neg fun heq => h heq.symm]
      exact hmissing
    | get other =>
      rw [blob?_eq, containers_answer_of_reads (.inl ⟨other, rfl⟩)]
      exact hmissing
    | deleteBlob other =>
      rw [blob?_answer_deleteBlob hopen, hmissing, ite_self]
    | list container =>
      rw [blob?_eq, containers_answer_of_reads (.inr ⟨container, rfl⟩)]
      exact hmissing
    | deleteContainer container =>
      rw [blob?_answer_deleteContainer hopen, hmissing, ite_self]

/-- Deleting a blob that is not there leaves all containers as they were. -/
lemma containers_answer_deleteBlob_of_missing (hopen : a.isUnavailable = false)
    (hmissing : a.blob? place = none) :
    (a.answer (.deleteBlob place)).2.containers = a.containers :=
  Keyed.ext_get? (get?_answer_deleteBlob_of_missing hopen hmissing)

end Store.Account

variable {w w' : World} {account : String} {place : Locator}

/-- A blob that is not there is not there after anything that does not place it. -/
lemma World.Lacks.apply (hlacks : w.Lacks account place) {h : Happening}
    (hspared : ¬ h.Places account place) : (h.apply w).Lacks account place := by
  unfold World.Lacks
  rw [Happening.account_apply]
  unfold Happening.onAccount
  split
  case h_1 client call =>
    split
    · next hname =>
      exact Store.Account.blob?_answer_of_not_places hlacks fun hplaces => hspared ⟨hname, hplaces⟩
    · exact hlacks
  case h_2 other seeded data =>
    split
    · next hname =>
      rw [Store.Account.blob?_seed, if_neg fun heq => hspared ⟨hname, heq.symm⟩]
      exact hlacks
    · exact hlacks
  case h_3 other container =>
    split
    · rw [Store.Account.blob?_createContainer]
      exact hlacks
    · exact hlacks
  case h_4 other value =>
    split <;> exact hlacks
  case h_5 => exact hlacks

/-! ## After a deletion -/

section Amid

variable {allowed : World → Happening → Prop}

/-- Nothing that is allowed places a blob. -/
def Withholds (allowed : World → Happening → Prop) (account : String) (place : Locator) : Prop :=
  ∀ w h, allowed w h → ¬ h.Places account place

/-- A program that does not place a blob leaves it lacking. -/
lemma RunsAmid.lacks {α : Type} {p : Relay α} {a : α} (hrun : RunsAmid allowed p w a w')
    (hp : p.AsksOnly fun r => ¬ r.Places account place)
    (hwithholds : Withholds allowed account place) (hlacks : w.Lacks account place) :
    w'.Lacks account place :=
  hrun.keeps (P := fun w => w.Lacks account place) hp
    (fun w h hallowed hlacks => hlacks.apply (hwithholds w h hallowed))
    (fun _ _ hr hlacks => hlacks.apply hr) hlacks

/-- A blob lacks right after the call that deleted it. -/
lemma World.lacks_of_deleteBlob (client : Client)
    (hok : (World.answer (.call client (.deleteBlob place)) w).1 = .ok ()) :
    (World.answer (.call client (.deleteBlob place)) w).2.Lacks client.account place := by
  unfold World.Lacks
  rw [World.account_answer_call, if_pos rfl]
  rw [World.answer_call_fst] at hok
  cases hopen : (w.account client.account).isUnavailable with
  | true =>
    rw [Store.Account.answer_of_unavailable hopen] at hok
    cases hok
  | false => rw [Store.Account.blob?_answer_deleteBlob hopen, if_pos rfl]

/-- A blob lacks after its deletion in a session succeeded. -/
lemma RunsAmid.lacks_of_deleteBlob {session : Session} {outcome : DeletionOutcome}
    (hrun : RunsAmid allowed (Coordinator.deleteBlob place session).run w (.ok outcome) w')
    (hwithholds : Withholds allowed session.client.account place) :
    w'.Lacks session.client.account place := by
  rw [Coordinator.run_deleteBlob] at hrun
  obtain ⟨w₁, hrun⟩ := hrun.of_ask
  cases hlisted : (World.answer (.call session.client (.list place.container)) w₁).1 with
  | error fault =>
    rw [hlisted] at hrun
    cases hrun.of_done
  | ok names =>
    rw [hlisted] at hrun
    obtain ⟨w₂, hrun⟩ := hrun.of_ask
    cases hdeleted : (World.answer (.call session.client (.deleteBlob place)) w₂).1 with
    | error fault =>
      rw [hdeleted] at hrun
      cases hrun.of_done
    | ok _ =>
      rw [hdeleted] at hrun
      -- what is left is at most the deletion of the container, which places nothing
      refine hrun.lacks ?_ hwithholds (World.lacks_of_deleteBlob session.client hdeleted)
      dsimp only
      split
      · refine ⟨fun hplaces => hplaces.2, fun reply => ?_⟩
        rcases reply with fault | _ <;> trivial
      · trivial

variable {url suffix container name : String} {outcome : DeletionOutcome}

/-- A blob lacks after its deletion by its address succeeded. -/
lemma RunsAmid.lacks_of_delete {coordinator : Coordinator}
    (htarget : Target.ofUrl url = .ok ⟨account, suffix, container, some name⟩)
    (hrun : RunsAmid allowed (coordinator.delete url).run w (.ok outcome) w')
    (hwithholds : Withholds allowed account ⟨container, name⟩) :
    w'.Lacks account ⟨container, name⟩ := by
  rw [Coordinator.run_delete_of_target htarget, ← Attempt.run_wrapping] at hrun
  have hwithin := hrun.of_ok_wrapping
  rw [Access.run_within] at hwithin
  obtain ⟨opened, w₁, hopen, hwithin⟩ := hwithin.of_bind
  rcases opened with fault | session
  · cases hwithin.of_done
  · have hclient : session.client.account = account :=
      congrArg Client.account hopen.client_of_openSession
    obtain ⟨result, w₂, hwork, hclose⟩ := hwithin.of_bind
    have hresult : result = .ok outcome := by
      obtain ⟨w₃, hclose⟩ := hclose.of_ask
      obtain ⟨w₄, hclose⟩ := hclose.of_ask
      exact hclose.of_done.symm
    subst hresult
    refine hclose.lacks ⟨fun h => h, fun _ => ⟨fun h => h, fun _ => trivial⟩⟩ hwithholds ?_
    rw [← hclient] at hwithholds ⊢
    exact RunsAmid.lacks_of_deleteBlob hwork hwithholds

end Amid

/-! ## Once more -/

namespace Coordinator

/-- An attempt ends with a fault that something was not found, and no container of any account is
other than it was. -/
structure Refuses {ε α : Type} (isNotFound : ε → Bool) (result : Except ε α × World)
    (w : World) : Prop where
  notFound : ∃ fault, result.1 = .error fault ∧ isNotFound fault = true
  containers : ∀ name, (result.2.account name).containers = (w.account name).containers

/-- The deletion of a blob that is not there is refused by the listing if the container is not there
either, and by the deletion of the blob otherwise: the container is not touched. -/
lemma run_deleteBlob_of_lacks {session : Session}
    (hopen : (w.account session.client.account).isUnavailable = false)
    (hlacks : w.Lacks session.client.account place) :
    Refuses Store.Fault.isNotFound (w.run (deleteBlob place session).run) w := by
  have hlisted : ∀ name,
      ((World.answer (.call session.client (.list place.container)) w).2.account name).containers =
        (w.account name).containers := by
    intro name
    rw [World.account_answer_call]
    split
    · exact Store.Account.containers_answer_of_reads (.inr ⟨_, rfl⟩)
    · rfl
  have hopen₁ : ((World.answer (.call session.client (.list place.container)) w).2.account
      session.client.account).isUnavailable = false := by
    rw [World.account_answer_call, if_pos rfl, Store.Account.isUnavailable_answer, hopen]
  unfold World.run
  rw [run_deleteBlob, Program.run_ask, World.answer_call_fst]
  set w₁ := (World.answer (.call session.client (.list place.container)) w).2
  cases hcontainer : (w.account session.client.account).containers.get? place.container with
  | none =>
    rw [Store.Account.answer_list_of_none hopen hcontainer]
    exact ⟨⟨_, rfl, rfl⟩, hlisted⟩
  | some blobs =>
    rw [Store.Account.answer_list_of_some hopen hcontainer]
    dsimp only
    have hlacks₁ : (w₁.account session.client.account).blob? place = none := by
      rw [Store.Account.blob?_eq, hlisted]
      exact hlacks
    obtain ⟨fault, hfault, hkind⟩ := Store.Account.answer_deleteBlob_of_missing hopen₁ hlacks₁
    rw [Program.run_ask, World.answer_call_fst, hfault]
    refine ⟨⟨fault, rfl, ?_⟩, fun name => ?_⟩
    · rcases hkind with rfl | rfl <;> rfl
    · change ((World.answer (.call session.client (.deleteBlob place)) w₁).2.account
        name).containers = _
      rw [World.account_answer_call, ← hlisted name]
      split
      · next hname =>
        subst hname
        exact Store.Account.containers_answer_deleteBlob_of_missing hopen₁ hlacks₁
      · rfl

variable {coordinator : Coordinator} {url suffix container name : String}

/-- The deletion of a blob that is not there, by its address. -/
lemma run_delete_of_lacks
    (htarget : Target.ofUrl url = .ok ⟨account, suffix, container, some name⟩) (hopens : w.Opens)
    (hopen : (w.account account).isUnavailable = false)
    (hlacks : w.Lacks account ⟨container, name⟩) :
    Refuses LifecycleFault.isNotFound (w.run (coordinator.delete url).run) w := by
  obtain ⟨session, w₁, hclient, haccounts, hresult, hafter⟩ :=
    answersButCalls_answer.run_within hopens coordinator.access
      (Target.endpoint ⟨account, suffix, container, some name⟩)
      (deleteTarget ⟨account, suffix, container, some name⟩)
  have hname : session.client.account = account := congrArg Client.account hclient
  have hrefuses : Refuses Store.Fault.isNotFound
      (w₁.run (deleteBlob ⟨container, name⟩ session).run) w₁ := by
    refine run_deleteBlob_of_lacks ?_ ?_
    · rw [hname, haccounts, hopen]
    · unfold World.Lacks
      rw [hname, haccounts]
      exact hlacks
  obtain ⟨⟨fault, hfault, hnotFound⟩, hcontainers⟩ := hrefuses
  unfold World.run
  rw [run_delete_of_target htarget, Program.run_bind, Program.run_done]
  refine ⟨⟨.store fault, ?_, hnotFound⟩, fun other => ?_⟩
  · rw [hresult]
    exact congrArg (Except.mapError LifecycleFault.store) hfault
  · rw [← haccounts other, ← hcontainers other]
    exact congrArg Store.Account.containers (hafter other)

end Coordinator

/-- An attempt to delete what an address names: the address is given to a coordinator, or a trigger
handles an event that is no envelope and names the address. -/
inductive Asks (url : String) : Attempt LifecycleFault DeletionOutcome → Prop
  | delete (coordinator : Coordinator) : Asks url (coordinator.delete url)
  | handle (trigger : DeletionTrigger) {body : String}
    (hplain : ReceivedBody.isPlain (ReceivedBody.ofText body) = true)
    (hurl : requestedAddress body = .ok url) : Asks url (trigger.handle body)

/-- However an address is asked to be deleted, a coordinator deletes it. -/
lemma Asks.exists_run_eq {url : String} {p : Attempt LifecycleFault DeletionOutcome}
    (hasks : Asks url p) : ∃ coordinator : Coordinator, p.run = (coordinator.delete url).run := by
  cases hasks with
  | delete coordinator => exact ⟨coordinator, rfl⟩
  | handle trigger hplain hurl =>
    exact ⟨trigger.coordinator,
      (trigger.run_handle_of_isPlain hplain).trans (trigger.run_deleteNamed hurl)⟩

/-- After the deletion of a blob succeeded, and after any further work of relays and any changes
from outside that do not place this blob, a deletion that is asked for again is refused as not
found and changes no container of any account, provided that the account is available then and
sessions are opened. -/
theorem redelivered_deletion_refused {url suffix container name : String}
    {first again : Attempt LifecycleFault DeletionOutcome} {outcome : DeletionOutcome}
    {s s' : Traffic}
    (htarget : Target.ofUrl url = .ok ⟨account, suffix, container, some name⟩)
    (hfirst : Asks url first) (hagain : Asks url again)
    (hdeleted : RunsAmid (fun _ h => ¬ h.Places account ⟨container, name⟩) first.run w (.ok outcome)
      s.world)
    (hrun : Traffic.Run (fun _ h => ¬ h.Places account ⟨container, name⟩) s s')
    (havailable : (s'.world.account account).isUnavailable = false) (hopens : s'.world.Opens) :
    Coordinator.Refuses LifecycleFault.isNotFound (s'.world.run again.run) s'.world := by
  obtain ⟨coordinator, heq⟩ := hfirst.exists_run_eq
  obtain ⟨coordinator', heq'⟩ := hagain.exists_run_eq
  rw [heq] at hdeleted
  rw [heq']
  have hlacks : s.world.Lacks account ⟨container, name⟩ :=
    hdeleted.lacks_of_delete htarget fun _ _ hspared => hspared
  have hlacks' : s'.world.Lacks account ⟨container, name⟩ :=
    hrun.world_induction (P := fun w => w.Lacks account ⟨container, name⟩) hlacks
      fun _ _ hspared hlacks => hlacks.apply hspared
  exact Coordinator.run_delete_of_lacks htarget hopens havailable hlacks'

/-- The address of a blob. -/
def deletedUrl : String := "https://stairlock.blob.core.windows.net/c1/b"

/-- A deletion of the blob by its address. -/
def ambientDeletion : Attempt LifecycleFault DeletionOutcome :=
  Coordinator.delete ⟨⟨.ambient⟩⟩ deletedUrl

/-- The world after the only blob of a container was deleted, and its container with it. -/
def deletedWorld : World :=
  ((World.repeating.setAccount "stairlock" (Store.Account.seed {} ⟨"c1", "b"⟩ "data".toUTF8)).run
    ambientDeletion.run).2

/-- The work after the container was made again for one other blob. -/
def remadeTraffic : Traffic where
  world := (Outside.seed "stairlock" ⟨"c1", "a"⟩ "other".toUTF8).apply deletedWorld

/-- An event that asks for the deletion of the blob. -/
def deletionEvent : String :=
  "\x7b\"data\":\x7b\"blob_to_delete\":\"https://stairlock.blob.core.windows.net/c1/b\"\x7d\x7d"

/-- A blob that is alone in a container made again outlives a deletion that comes late. -/
theorem remade_container_kept :
    ((remadeTraffic.world.account "stairlock").blobNames "c1").length = 1 ∧
      Coordinator.Refuses LifecycleFault.isNotFound
        (remadeTraffic.world.run
          ((DeletionTrigger.ofConfig stairlockConfig).handle deletionEvent).run)
        remadeTraffic.world := by
  have htarget : Target.ofUrl deletedUrl =
      .ok ⟨"stairlock", "core.windows.net", "c1", some "b"⟩ := rfl
  have hdeleted : RunsAmid (fun _ h => ¬ h.Places "stairlock" ⟨"c1", "b"⟩) ambientDeletion.run
      (World.repeating.setAccount "stairlock" (Store.Account.seed {} ⟨"c1", "b"⟩ "data".toUTF8))
      (.ok (.blob ⟨"c1", "b"⟩ true)) deletedWorld := RunsAmid.of_run _ _
  have hstep : Traffic.Step { world := deletedWorld } _ remadeTraffic :=
    .outside _ (.seed "stairlock" ⟨"c1", "a"⟩ "other".toUTF8)
  have hrun : Traffic.Run (fun _ h => ¬ h.Places "stairlock" ⟨"c1", "b"⟩)
      { world := deletedWorld } remadeTraffic := by
    refine Relation.ReflTransGen.single ⟨_, ?_, hstep⟩
    rintro ⟨-, hplace⟩
    exact absurd hplace (by decide)
  have hfirst : Asks deletedUrl ambientDeletion := .delete _
  have hplain : ReceivedBody.ofText deletionEvent = .ok .otherJson := by cbv
  have hurl : requestedAddress deletionEvent = .ok deletedUrl := by cbv
  have hagain : Asks deletedUrl ((DeletionTrigger.ofConfig stairlockConfig).handle deletionEvent) :=
    .handle _ (by rw [hplain]; rfl) hurl
  exact ⟨rfl, redelivered_deletion_refused htarget hfirst hagain hdeleted hrun rfl
    ⟨rfl, by decide⟩⟩

end ClaimCheck
