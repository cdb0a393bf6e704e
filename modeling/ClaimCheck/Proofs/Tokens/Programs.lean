import Mathlib
import ClaimCheck.Proofs.Deletion.Program
import ClaimCheck.Proofs.Tokens.Alike

/-!
# Programs that treat all tokens alike

A program has no tokens of its own: it gets at them by acquiring credentials, and all that it does
with a credential is to hand it on.  `Relay.Alike T R p p'` says that two programs ask alike requests
one after another, whatever alike replies they get, and are done with values that `R` relates.

An attempt is uniform (`Attempt.Uniform`) if it is alike itself with the same values at the end.  This
is a property of the parts (`Attempt.Uniform.bind` and the lemmas after it), sessions and credentials
included (`Access.uniform_within`, `uniform_withCredential`), so every operation of a codec, a
gateway, a coordinator or a trigger is uniform.
-/

namespace ClaimCheck

open Identity

variable {α α' β β' ε ε' : Type} {T : String → String → Prop}

/-! ## Programs side by side -/

/-- Programs that ask alike requests as long as they get alike replies, and whose values are
related. -/
inductive Relay.Alike (T : String → String → Prop) (R : α → α' → Prop) :
    Relay α → Relay α' → Prop
  | done {a : α} {a' : α'} (h : R a a') : Alike T R (.done a) (.done a')
  | ask {r r' : Request} {Q : r.Reply → r'.Reply → Prop} {next : r.Reply → Relay α}
    {next' : r'.Reply → Relay α'} (hr : Request.Alike T r r' Q)
    (hnext : ∀ reply reply', Q reply reply' → Alike T R (next reply) (next' reply')) :
    Alike T R (.ask r next) (.ask r' next')

namespace Relay.Alike

/-- Programs that go on with others. -/
lemma bind {R : α → α' → Prop} {S : β → β' → Prop} {p : Relay α} {p' : Relay α'} {f : α → Relay β}
    {f' : α' → Relay β'} (h : Relay.Alike T R p p')
    (hf : ∀ a a', R a a' → Relay.Alike T S (f a) (f' a')) :
    Relay.Alike T S (p.bind f) (p'.bind f') := by
  induction h with
  | done ha => exact hf _ _ ha
  | ask hr _ ih => exact .ask hr ih

/-- Programs that ask for the same without a credential. -/
lemma ask_tokenless {R : α → α' → Prop} {r : Request} (hr : r.IsTokenless)
    {next : r.Reply → Relay α} {next' : r.Reply → Relay α'}
    (hnext : ∀ reply, Relay.Alike T R (next reply) (next' reply)) :
    Relay.Alike T R (.ask r next) (.ask r next') := by
  refine .ask (.tokenless hr) ?_
  rintro reply _ rfl
  exact hnext reply

/-- A program that has nothing to do with credentials. -/
lemma of_asksOnly {p : Relay α} (hp : p.AsksOnly Request.IsTokenless) :
    Relay.Alike T Eq p p := by
  induction p with
  | done a => exact .done rfl
  | ask r next ih => exact ask_tokenless hp.1 fun reply => ih reply (hp.2 reply)

end Relay.Alike

/-! ## Attempts -/

/-- An attempt that treats all tokens alike. -/
def Attempt.Uniform (T : String → String → Prop) (p : Attempt ε α) : Prop :=
  Relay.Alike T Eq p.run p.run

namespace Attempt.Uniform

/-- An attempt that goes on with another. -/
lemma bind {p : Attempt ε α} {f : α → Attempt ε β} (hp : Uniform T p)
    (hf : ∀ a, Uniform T (f a)) : Uniform T (p >>= f) := by
  unfold Uniform
  rw [run_bind]
  refine Relay.Alike.bind hp ?_
  rintro outcome _ rfl
  rcases outcome with fault | a
  · exact .done rfl
  · exact hf a

/-- An attempt that is done. -/
lemma pure (a : α) : Uniform T (Pure.pure a : Attempt ε α) := .done rfl

/-- An outcome that is known. -/
lemma ofOutcome (wrap : ε → ε') (outcome : Except ε α) :
    Uniform T (Attempt.ofOutcome wrap outcome) := by
  unfold Uniform
  rw [run_ofOutcome]
  exact .done rfl

/-- An attempt whose fault is put into other terms. -/
lemma wrapping {p : Attempt ε α} (hp : Uniform T p) (wrap : ε → ε') :
    Uniform T (Attempt.wrapping wrap p) := by
  unfold Uniform
  rw [run_wrapping]
  refine Relay.Alike.bind hp ?_
  rintro outcome _ rfl
  exact .done rfl

/-- An attempt whose value is changed. -/
lemma map {p : Attempt ε α} (hp : Uniform T p) (f : α → β) : Uniform T (f <$> p) := by
  unfold Uniform
  rw [run_map]
  refine Relay.Alike.bind hp ?_
  rintro outcome _ rfl
  exact .done rfl

/-- A program that has nothing to do with credentials, as an attempt. -/
lemma lift {p : Relay α} (hp : p.AsksOnly Request.IsTokenless) :
    Uniform T (ExceptT.lift p : Attempt ε α) := by
  unfold Uniform
  rw [run_lift]
  refine Relay.Alike.bind (.of_asksOnly hp) ?_
  rintro a _ rfl
  exact .done rfl

end Attempt.Uniform

/-! ## Sessions and credentials -/

/-- Sessions that are opened differ in the tokens of their credentials alone. -/
lemma Access.alike_openSession (access : Access) (endpoint : Endpoint) :
    Relay.Alike T (OutcomesAlike (Session.Alike T)) (access.openSession endpoint).run
      (access.openSession endpoint).run := by
  rw [Access.run_openSession]
  refine .ask (.acquire _) ?_
  rintro _ _ (hc | fault)
  · refine .ask (.connect endpoint hc) ?_
    rintro connected _ rfl
    rcases connected with fault | client
    · exact .ask (.release hc) fun _ _ _ => .done (.error fault)
    · exact .done (.ok ⟨rfl, hc⟩)
  · exact .done (.error _)

/-- Sessions that differ in the tokens of their credentials alone are closed alike. -/
lemma Session.Alike.close {s s' : Session} (h : Session.Alike T s s') :
    Relay.Alike T Eq s.close s'.close := by
  obtain ⟨hclient, hc⟩ := h
  change Relay.Alike T Eq (.ask (.disconnect s.client) fun _ => .ask (.release s.credential) .done)
    (.ask (.disconnect s'.client) fun _ => .ask (.release s'.credential) .done)
  rw [hclient]
  exact .ask_tokenless (.disconnect _) fun _ => .ask (.release hc) fun _ _ h => .done h

/-- Work in a session that makes the same calls whatever the credential. -/
lemma Access.uniform_within {access : Access} {endpoint : Endpoint}
    {work : Session → Attempt Store.Fault α}
    (hwork : ∀ session session', session.client = session'.client →
      (work session).run = (work session').run)
    (hcalls : ∀ session, (work session).run.AsksOnly Request.IsCall) :
    Attempt.Uniform T (access.within endpoint work) := by
  unfold Attempt.Uniform
  rw [Access.run_within]
  refine (access.alike_openSession endpoint).bind ?_
  rintro _ _ (@⟨session, session', hsession⟩ | fault)
  · dsimp only
    rw [hwork session' session hsession.client_eq, hsession.client_eq]
    have htokenless := (hcalls session).mono fun _ hr => hr.isTokenless
    refine (Relay.Alike.of_asksOnly htokenless).bind ?_
    rintro outcome _ rfl
    refine .ask_tokenless (.disconnect _) fun _ => .ask (.release hsession.credential) ?_
    exact fun _ _ _ => .done rfl
  · exact .done rfl

/-- A single call in a session. -/
lemma Access.uniform_call (access : Access) (endpoint : Endpoint) (call : Store.Call) :
    Attempt.Uniform T (access.within endpoint fun session => session.call call) := by
  refine uniform_within (fun session session' hclient => ?_) fun session => session.isCall_call call
  rw [Session.run_call, Session.run_call, hclient]

/-- Work with a credential that treats all tokens alike. -/
lemma uniform_withCredential {selector : Selector} {onFault : Identity.Fault → ε}
    {work : Credential → Relay (Except ε α)}
    (hwork : ∀ c c', Credential.Alike T c c' → Relay.Alike T Eq (work c) (work c')) :
    Attempt.Uniform T (withCredential selector onFault work) := by
  unfold Attempt.Uniform
  rw [run_withCredential]
  refine .ask (.acquire selector) ?_
  rintro _ _ (@⟨c, c', hc⟩ | fault)
  · refine (hwork c c' hc).bind ?_
    rintro outcome _ rfl
    exact .ask (.release hc) fun _ _ _ => .done rfl
  · exact .done rfl

/-! ## Operations -/

open Attempt.Uniform

namespace Codec

/-- Offloading treats all tokens alike. -/
lemma uniform_offload (codec : Codec) (text : String) :
    Attempt.Uniform T (codec.offload text) := by
  unfold offload requiredEndpoint
  refine bind (ofOutcome _ _) fun endpoint => bind (lift ⟨.drawId, fun _ => trivial⟩) fun id => ?_
  exact bind (wrapping (codec.access.uniform_call endpoint _) _) fun _ => pure _

/-- Encoding a text treats all tokens alike. -/
lemma uniform_encodeText (codec : Codec) (text : String) :
    Attempt.Uniform T (codec.encodeText text) := by
  unfold encodeText
  split
  · exact map (codec.uniform_offload text) _
  · exact pure _

/-- Encoding a payload treats all tokens alike. -/
lemma uniform_encode (codec : Codec) (payload : Payload) :
    Attempt.Uniform T (codec.encode payload) := by
  unfold encode
  exact bind (ofOutcome _ _) fun text => codec.uniform_encodeText text

/-- Wrapping a value treats all tokens alike. -/
lemma uniform_wrapValue (codec : Codec) (value : Json.Value) :
    Attempt.Uniform T (codec.wrapValue value) := by
  unfold wrapValue
  refine bind (codec.uniform_encodeText _) fun body => ?_
  cases body <;> exact pure _

/-- Fetching a blob treats all tokens alike. -/
lemma uniform_fetch (codec : Codec) (place : Locator) :
    Attempt.Uniform T (codec.fetch place) := by
  unfold fetch requiredEndpoint
  refine bind (ofOutcome _ _) fun endpoint => ?_
  exact bind (wrapping (codec.access.uniform_call endpoint _) _) fun data => ofOutcome _ _

/-- Decoding treats all tokens alike. -/
lemma uniform_decode (codec : Codec) (body : String) :
    Attempt.Uniform T (codec.decode body) := by
  unfold decode
  refine bind (ofOutcome _ _) fun received => ?_
  cases received with
  | notJson => exact pure _
  | otherJson => exact pure _
  | claimCheck path => exact bind (ofOutcome _ _) fun place => codec.uniform_fetch place

end Codec

namespace ChannelGateway

/-- Sending a message treats all tokens alike. -/
lemma uniform_send (gateway : ChannelGateway) (message : Message) (destination : String) :
    Attempt.Uniform T (gateway.send message destination) := by
  unfold send
  refine bind (ofOutcome _ _) fun space => ?_
  refine bind (wrapping (gateway.codec.uniform_encodeText _) _) fun encoded => ?_
  refine bind (uniform_withCredential fun c c' hc => ?_) fun _ => pure _
  refine .ask (.enqueue space hc destination _) ?_
  rintro taken _ rfl
  exact .done rfl

/-- Sending a payload treats all tokens alike. -/
lemma uniform_sendPayload (gateway : ChannelGateway) (payload : Payload) (destination : String) :
    Attempt.Uniform T (gateway.sendPayload payload destination) := by
  unfold sendPayload
  exact bind (ofOutcome _ _) fun body => gateway.uniform_send _ destination

/-- Receiving a body treats all tokens alike. -/
lemma uniform_receive (gateway : ChannelGateway) (body : String) :
    Attempt.Uniform T (gateway.receive body) :=
  wrapping (gateway.codec.uniform_decode body) _

end ChannelGateway

/-- Publishing an event treats all tokens alike. -/
lemma EventGateway.uniform_publish (gateway : EventGateway) (event : Event) (topic : String) :
    Attempt.Uniform T (gateway.publish event topic) := by
  unfold publish
  refine bind (wrapping (gateway.codec.uniform_wrapValue _) _) fun data => ?_
  refine bind (uniform_withCredential fun c c' hc => ?_) fun _ => pure _
  refine .ask (.publish hc topic _) ?_
  rintro taken _ rfl
  exact .done rfl

/-- A deletion treats all tokens alike. -/
lemma Coordinator.uniform_delete (coordinator : Coordinator) (url : String) :
    Attempt.Uniform T (coordinator.delete url) := by
  unfold delete
  refine bind (ofOutcome _ _) fun target => wrapping (Access.uniform_within ?_ ?_) _
  · exact fun _ _ => deleteTarget_congr target
  · exact isCall_deleteTarget target

/-- A deletion that an event asks for treats all tokens alike. -/
lemma DeletionTrigger.uniform_handle (trigger : DeletionTrigger) (body : String) :
    Attempt.Uniform T (trigger.handle body) := by
  unfold handle
  refine bind (wrapping (trigger.codec.uniform_decode body) _) fun text => ?_
  exact bind (ofOutcome _ _) fun url => trigger.coordinator.uniform_delete url

end ClaimCheck
