import Mathlib
import ClaimCheck.Proofs.Relay.Amid
import ClaimCheck.Proofs.Relay.Traffic

/-!
# What an operation holds

At every moment an operation holds nothing, or one credential, or one session, which is a client and
the credential that opened it (`Grip`).  It acquires a credential only when it holds nothing,
connects only with the credential that it holds, closes the client before the credential is
released, and gives back exactly what it holds (`Grip.Moves`).  `Careful` says so of a program.

Being careful is a property of the parts: a program that goes on with another is careful when both
are (`Careful.bind`), and an attempt that holds nothing before and after can be put together with
others in every way (`Attempt.Clean`).  Every operation of a relay is careful
(`Operation.careful_program`), and so is what remains of one that is cancelled
(`Grip.careful_cancelled`).
-/

namespace ClaimCheck

open Identity

/-! ## Grips -/

/-- A request that neither takes anything nor gives anything back. -/
def Request.IsNeutral : Request → Prop
  | .acquire _ | .release _ | .connect .. | .disconnect _ => False
  | _ => True

/-- What an operation holds: nothing, a credential, or a session. -/
inductive Grip where
  | nothing
  | credential (credential : Credential)
  | session (session : Session)

namespace Grip

/-- The credentials and the clients that are held. -/
def held : Grip → Held
  | nothing => {}
  | credential c => ⟨[c], []⟩
  | session s => ⟨[s.credential], [s.client]⟩

/-- At most one credential and one client are held, and no client without a credential. -/
lemma length_held (g : Grip) :
    g.held.credentials.length ≤ 1 ∧ g.held.clients.length ≤ g.held.credentials.length := by
  cases g <;> simp [held]

/-- What an operation that ended leaves open. -/
def ofResult : Option Session → Grip
  | none => nothing
  | some s => session s

/-- What opening a session leaves open. -/
def ofOpened : Except Store.Fault Session → Grip
  | .ok s => session s
  | .error _ => nothing

/-- What is held after the reply to a request, for the requests that may be asked while so much is
held. -/
inductive Moves : Grip → (r : Request) → r.Reply → Grip → Prop
  | acquired (selector : Selector) (c : Credential) :
    Moves nothing (.acquire selector) (.ok c) (credential c)
  | notAcquired (selector : Selector) (fault : Identity.Fault) :
    Moves nothing (.acquire selector) (.error fault) nothing
  | connected (endpoint : Endpoint) (c : Credential) (client : Client) :
    Moves (credential c) (.connect endpoint c) (.ok client) (session ⟨client, c⟩)
  | notConnected (endpoint : Endpoint) (c : Credential) (fault : Store.Fault) :
    Moves (credential c) (.connect endpoint c) (.error fault) (credential c)
  | disconnected (s : Session) :
    Moves (session s) (.disconnect s.client) () (credential s.credential)
  | released (c : Credential) : Moves (credential c) (.release c) () nothing
  | neutral (g : Grip) {r : Request} (hr : r.IsNeutral) (reply : r.Reply) : Moves g r reply g

/-- The account that is kept of what is held follows. -/
lemma Moves.held_after {g g' : Grip} {r : Request} {reply : r.Reply} (h : Moves g r reply g') :
    g.held.after r reply = g'.held := by
  cases h with
  | acquired => rfl
  | notAcquired => rfl
  | connected => rfl
  | notConnected => rfl
  | disconnected s => simp [held, Held.after]
  | released c => simp [held, Held.after]
  | neutral _ hr =>
    cases r with
    | acquire => exact hr.elim
    | release => exact hr.elim
    | connect => exact hr.elim
    | disconnect => exact hr.elim
    | _ => rfl

end Grip

/-! ## Careful programs -/

variable {α β ε ε' : Type}

/-- A program that asks only what its grip allows, and whose grip and value are right when it is
done. -/
def Careful (ends : Grip → α → Prop) : Grip → Relay α → Prop
  | g, .done a => ends g a
  | g, .ask r next => ∀ reply, ∃ g', Grip.Moves g r reply g' ∧ Careful ends g' (next reply)

variable {ends : Grip → β → Prop} {g : Grip}

/-- A program that goes on with another is careful when the other one is from wherever the first one
ends. -/
lemma Careful.bind {p : Relay α} {f : α → Relay β}
    (h : Careful (fun g a => Careful ends g (f a)) g p) : Careful ends g (p.bind f) := by
  induction p generalizing g with
  | done a => exact h
  | ask r next ih =>
    intro reply
    obtain ⟨g', hmoves, hrest⟩ := h reply
    exact ⟨g', hmoves, ih reply hrest⟩

/-- A program that is careful stays so when less is asked of its end. -/
lemma Careful.mono {ends ends' : Grip → α → Prop} {p : Relay α} (h : Careful ends g p)
    (hends : ∀ g a, ends g a → ends' g a) : Careful ends' g p := by
  induction p generalizing g with
  | done a => exact hends g a h
  | ask r next ih =>
    intro reply
    obtain ⟨g', hmoves, hrest⟩ := h reply
    exact ⟨g', hmoves, ih reply hrest⟩

/-- A program that takes nothing and gives nothing back is careful whatever is held. -/
lemma Program.AsksOnly.careful {p : Relay β} (hp : p.AsksOnly Request.IsNeutral)
    (hends : ∀ b, ends g b) : Careful ends g p := by
  induction p with
  | done b => exact hends b
  | ask r next ih => exact fun reply => ⟨g, .neutral g hp.1 reply, ih reply (hp.2 reply)⟩

/-! ## Attempts that leave nothing open -/

/-- An attempt that holds nothing before and nothing after. -/
def Attempt.Clean (p : Attempt ε α) : Prop := Careful (fun g _ => g = .nothing) .nothing p.run

namespace Attempt.Clean

/-- An attempt that goes on with another. -/
lemma bind {p : Attempt ε α} {f : α → Attempt ε β} (hp : Clean p) (hf : ∀ a, Clean (f a)) :
    Clean (p >>= f) := by
  unfold Clean
  rw [run_bind]
  refine Careful.bind (hp.mono ?_)
  rintro g outcome rfl
  rcases outcome with fault | a
  · rfl
  · exact hf a

/-- An attempt that is done. -/
lemma pure (a : α) : Clean (Pure.pure a : Attempt ε α) := rfl

/-- An outcome that is known. -/
lemma ofOutcome (wrap : ε → ε') (outcome : Except ε α) :
    Clean (Attempt.ofOutcome wrap outcome) := by
  unfold Clean
  rw [run_ofOutcome]
  rfl

/-- An attempt whose fault is put into other terms. -/
lemma wrapping {p : Attempt ε α} (hp : Clean p) (wrap : ε → ε') :
    Clean (Attempt.wrapping wrap p) := by
  unfold Clean
  rw [run_wrapping]
  refine Careful.bind (hp.mono ?_)
  rintro g outcome rfl
  rfl

/-- An attempt whose value is changed. -/
lemma map {p : Attempt ε α} (hp : Clean p) (f : α → β) : Clean (f <$> p) := by
  unfold Clean
  rw [run_map]
  refine Careful.bind (hp.mono ?_)
  rintro g outcome rfl
  rfl

/-- A program that takes nothing, as an attempt. -/
lemma lift {p : Relay α} (hp : p.AsksOnly Request.IsNeutral) :
    Clean (ExceptT.lift p : Attempt ε α) := by
  unfold Clean
  rw [run_lift]
  exact Careful.bind (hp.careful fun _ => rfl)

end Attempt.Clean

/-- Opening a session leaves the session open if it succeeds, and nothing otherwise. -/
lemma Access.careful_openSession (access : Access) (endpoint : Endpoint) :
    Careful (fun g outcome => g = Grip.ofOpened outcome) .nothing
      (access.openSession endpoint).run := by
  rw [Access.run_openSession]
  intro acquired
  rcases acquired with fault | credential
  · exact ⟨_, .notAcquired _ fault, rfl⟩
  · refine ⟨_, .acquired _ credential, fun connected => ?_⟩
    rcases connected with fault | client
    · exact ⟨_, .notConnected _ credential fault, fun _ => ⟨_, .released credential, rfl⟩⟩
    · exact ⟨_, .connected _ credential client, rfl⟩

/-- Work in a session that takes nothing itself leaves nothing open. -/
lemma Access.clean_within {access : Access} {endpoint : Endpoint}
    {work : Session → Attempt Store.Fault α}
    (hwork : ∀ session, (work session).run.AsksOnly Request.IsNeutral) :
    Attempt.Clean (access.within endpoint work) := by
  unfold Attempt.Clean
  rw [Access.run_within]
  refine Careful.bind ((access.careful_openSession endpoint).mono ?_)
  rintro g opened rfl
  rcases opened with fault | session
  · rfl
  · refine Careful.bind ((hwork session).careful fun outcome _ => ?_)
    exact ⟨_, .disconnected session, fun _ => ⟨_, .released session.credential, rfl⟩⟩

/-- Work with a credential that takes nothing itself leaves nothing open. -/
lemma clean_withCredential {selector : Selector} {onFault : Identity.Fault → ε}
    {work : Credential → Relay (Except ε α)}
    (hwork : ∀ credential, (work credential).AsksOnly Request.IsNeutral) :
    Attempt.Clean (withCredential selector onFault work) := by
  unfold Attempt.Clean
  rw [run_withCredential]
  intro acquired
  rcases acquired with fault | credential
  · exact ⟨_, .notAcquired _ fault, rfl⟩
  · refine ⟨_, .acquired _ credential,
      Careful.bind ((hwork credential).careful fun outcome _ => ?_)⟩
    exact ⟨_, .released credential, rfl⟩

/-- A call takes nothing. -/
lemma Request.IsCall.isNeutral {r : Request} (hr : r.IsCall) : r.IsNeutral := by
  obtain ⟨client, call, rfl⟩ := hr
  trivial

/-- A call in a session takes nothing. -/
lemma Session.asksOnly_call (session : Session) (call : Store.Call) :
    (session.call call).run.AsksOnly Request.IsNeutral :=
  (session.isCall_call call).mono fun _ hr => hr.isNeutral

/-- The calls of a deletion take nothing. -/
lemma Coordinator.asksOnly_deleteTarget (target : Target) (session : Session) :
    (deleteTarget target session).run.AsksOnly Request.IsNeutral :=
  (isCall_deleteTarget target session).mono fun _ hr => hr.isNeutral

/-! ## Operations -/

open Attempt.Clean

/-- Offloading leaves nothing open. -/
lemma Codec.clean_offload (codec : Codec) (text : String) : Attempt.Clean (codec.offload text) := by
  unfold offload requiredEndpoint
  refine bind (ofOutcome _ _) fun endpoint => bind (lift ⟨trivial, fun _ => trivial⟩) fun id => ?_
  exact bind (wrapping (Access.clean_within fun session => session.asksOnly_call _) _)
    fun _ => pure _

/-- Encoding a text leaves nothing open. -/
lemma Codec.clean_encodeText (codec : Codec) (text : String) :
    Attempt.Clean (codec.encodeText text) := by
  unfold encodeText
  split
  · exact map (codec.clean_offload text) _
  · exact pure _

/-- Encoding a payload leaves nothing open. -/
lemma Codec.clean_encode (codec : Codec) (payload : Payload) :
    Attempt.Clean (codec.encode payload) := by
  unfold encode
  exact bind (ofOutcome _ _) fun text => codec.clean_encodeText text

/-- Wrapping a value leaves nothing open. -/
lemma Codec.clean_wrapValue (codec : Codec) (value : Json.Value) :
    Attempt.Clean (codec.wrapValue value) := by
  unfold wrapValue
  refine bind (codec.clean_encodeText _) fun body => ?_
  cases body <;> exact pure _

/-- Fetching a blob leaves nothing open. -/
lemma Codec.clean_fetch (codec : Codec) (place : Locator) : Attempt.Clean (codec.fetch place) := by
  unfold fetch requiredEndpoint
  refine bind (ofOutcome _ _) fun endpoint => ?_
  exact bind (wrapping (Access.clean_within fun session => session.asksOnly_call _) _)
    fun data => ofOutcome _ _

/-- Decoding leaves nothing open. -/
lemma Codec.clean_decode (codec : Codec) (body : String) : Attempt.Clean (codec.decode body) := by
  unfold decode
  refine bind (ofOutcome _ _) fun received => ?_
  cases received with
  | notJson => exact pure _
  | otherJson => exact pure _
  | claimCheck path => exact bind (ofOutcome _ _) fun place => codec.clean_fetch place

/-- Sending a message leaves nothing open. -/
lemma ChannelGateway.clean_send (gateway : ChannelGateway) (message : Message)
    (destination : String) : Attempt.Clean (gateway.send message destination) := by
  unfold send
  refine bind (ofOutcome _ _) fun space => ?_
  refine bind (wrapping (gateway.codec.clean_encodeText _) _) fun encoded => ?_
  refine bind (clean_withCredential fun credential => ?_) fun _ => pure _
  exact ⟨trivial, fun _ => trivial⟩

/-- Sending a payload leaves nothing open. -/
lemma ChannelGateway.clean_sendPayload (gateway : ChannelGateway) (payload : Payload)
    (destination : String) : Attempt.Clean (gateway.sendPayload payload destination) := by
  unfold sendPayload
  exact bind (ofOutcome _ _) fun body => gateway.clean_send _ destination

/-- Receiving a body leaves nothing open. -/
lemma ChannelGateway.clean_receive (gateway : ChannelGateway) (body : String) :
    Attempt.Clean (gateway.receive body) :=
  wrapping (gateway.codec.clean_decode body) _

/-- Publishing an event leaves nothing open. -/
lemma EventGateway.clean_publish (gateway : EventGateway) (event : Event) (topic : String) :
    Attempt.Clean (gateway.publish event topic) := by
  unfold publish
  refine bind (wrapping (gateway.codec.clean_wrapValue _) _) fun data => ?_
  refine bind (clean_withCredential fun credential => ?_) fun _ => pure _
  exact ⟨trivial, fun _ => trivial⟩

/-- A deletion leaves nothing open. -/
lemma Coordinator.clean_delete (coordinator : Coordinator) (url : String) :
    Attempt.Clean (coordinator.delete url) := by
  unfold delete
  refine bind (ofOutcome _ _) fun target => ?_
  exact wrapping (Access.clean_within (asksOnly_deleteTarget target)) _

/-- A deletion that an event asks for leaves nothing open. -/
lemma DeletionTrigger.clean_handle (trigger : DeletionTrigger) (body : String) :
    Attempt.Clean (trigger.handle body) := by
  unfold handle
  refine bind (wrapping (trigger.codec.clean_decode body) _) fun text => ?_
  exact bind (ofOutcome _ _) fun url => trigger.coordinator.clean_delete url

/-- What is left open is the result. -/
def Leaves (g : Grip) (result : Option Session) : Prop := g = Grip.ofResult result

/-- An attempt that leaves nothing open has no result. -/
lemma Attempt.Clean.finished {p : Attempt ε α} (hp : Clean p) :
    Careful Leaves .nothing p.finished := by
  unfold Attempt.finished
  exact Careful.bind (hp.mono fun _ _ h => h)

/-- Every operation is careful and leaves open what its result says. -/
lemma Operation.careful_program (operation : Operation) :
    Careful Leaves .nothing operation.program := by
  cases operation with
  | encodeText codec text => exact (codec.clean_encodeText text).finished
  | encode codec payload => exact (codec.clean_encode payload).finished
  | wrapValue codec value => exact (codec.clean_wrapValue value).finished
  | fetch codec place => exact (codec.clean_fetch place).finished
  | decode codec body => exact (codec.clean_decode body).finished
  | send gateway message destination => exact (gateway.clean_send message destination).finished
  | sendPayload gateway payload destination =>
    exact (gateway.clean_sendPayload payload destination).finished
  | receive gateway body => exact (gateway.clean_receive body).finished
  | receiveMessage gateway message => exact (gateway.clean_receive message.body).finished
  | publish gateway event topic => exact (gateway.clean_publish event topic).finished
  | publishNew gateway subject kind data topic =>
    have hevent : (EventGateway.newEvent subject kind data).AsksOnly Request.IsNeutral :=
      ⟨trivial, fun _ => ⟨trivial, fun _ => trivial⟩⟩
    exact Careful.bind (hevent.careful fun event => (gateway.clean_publish event topic).finished)
  | delete coordinator url => exact (coordinator.clean_delete url).finished
  | handle trigger body => exact (trigger.clean_handle body).finished
  | callIn access endpoint call =>
    exact (Access.clean_within fun session => session.asksOnly_call call).finished
  | openSession access endpoint =>
    refine Careful.bind ((access.careful_openSession endpoint).mono ?_)
    rintro g opened rfl
    rcases opened with fault | session <;> rfl

/-! ## Giving back -/

/-- What remains of an operation that is cancelled is careful, wherever the operation was. -/
lemma Grip.careful_cancelled (g : Grip) {f : InFlight (Option Session)} (hheld : f.held = g.held) :
    Careful Leaves g (f.cancelled none).rest := by
  unfold InFlight.cancelled
  rw [hheld]
  cases g with
  | nothing => rfl
  | credential c => exact fun _ => ⟨_, .released c, rfl⟩
  | session s => exact fun _ => ⟨_, .disconnected s, fun _ => ⟨_, .released s.credential, rfl⟩⟩

/-- What remains of a session that is dropped is careful. -/
lemma Session.careful_dropped (session : Session) :
    Careful Leaves (.session session) (InFlight.dropped session none).rest :=
  fun _ => ⟨_, .disconnected session, fun _ => ⟨_, .released session.credential, rfl⟩⟩

end ClaimCheck
