import Mathlib
import ClaimCheck.Proofs.World.Happening
import ClaimCheck.Channel.Gateway
import ClaimCheck.Lifecycle.Coordinator
import ClaimCheck.Relay.InFlight

/-!
# Relays at work

Any number of operations go on in one world, each a program that asks one request after another.  A
`Traffic` is a state of such work: the world, the operations in progress with what each of them
holds, the sessions that were opened and are kept, and the credentials that were taken without a
session.

One step (`Traffic.Step`) starts an operation, answers the next request of one of them, cancels one
at whatever point it is, ends one that is done, drops a session, calls a store, takes a credential
or gives one back, or lets someone outside change the world.  Operations are thus interleaved
request by request, in every order.  A step is labelled with what happens to the world, so what a
run does to the world is known from its labels (`Traffic.Step.world_eq`).
-/

namespace ClaimCheck

open Identity

/-! ## Operations -/

/-- What a relay can be asked to do. -/
inductive Operation where
  | encodeText (codec : Codec) (text : String)
  | encode (codec : Codec) (payload : Payload)
  | wrapValue (codec : Codec) (value : Json.Value)
  | fetch (codec : Codec) (place : Locator)
  | decode (codec : Codec) (body : String)
  | send (gateway : ChannelGateway) (message : Message) (destination : String)
  | sendPayload (gateway : ChannelGateway) (payload : Payload) (destination : String)
  | receive (gateway : ChannelGateway) (body : String)
  | receiveMessage (gateway : ChannelGateway) (message : Message)
  | publish (gateway : EventGateway) (event : Event) (topic : String)
  | publishNew (gateway : EventGateway) (subject kind : String) (data : Json.Value) (topic : String)
  | delete (coordinator : Coordinator) (url : String)
  | handle (trigger : DeletionTrigger) (body : String)
  | callIn (access : Access) (endpoint : Endpoint) (call : Store.Call)
  | openSession (access : Access) (endpoint : Endpoint)

/-- An attempt that leaves nothing behind but its effects. -/
def Attempt.finished (p : Attempt ε α) : Relay (Option Session) := p.run.bind fun _ => .done none

/-- The program of an operation.  Its result is the session that it leaves open, if it does. -/
def Operation.program : Operation → Relay (Option Session)
  | encodeText codec text => (codec.encodeText text).finished
  | encode codec payload => (codec.encode payload).finished
  | wrapValue codec value => (codec.wrapValue value).finished
  | fetch codec place => (codec.fetch place).finished
  | decode codec body => (codec.decode body).finished
  | send gateway message destination => (gateway.send message destination).finished
  | sendPayload gateway payload destination => (gateway.sendPayload payload destination).finished
  | receive gateway body => (gateway.receive body).finished
  | receiveMessage gateway message => (gateway.receiveMessage message).finished
  | publish gateway event topic => (gateway.publish event topic).finished
  | publishNew gateway subject kind data topic =>
    (EventGateway.newEvent subject kind data).bind fun event =>
      (gateway.publish event topic).finished
  | delete coordinator url => (coordinator.delete url).finished
  | handle trigger body => (trigger.handle body).finished
  | callIn access endpoint call =>
    (access.within endpoint fun session => session.call call).finished
  | openSession access endpoint =>
    (access.openSession endpoint).run.bind fun
      | .ok session => .done (some session)
      | .error _ => .done none

/-! ## Operations side by side -/

/-- Work in progress: the world, the operations that were started and have not ended, the sessions
that are kept open, the credentials that were taken by hand, and those of them given back. -/
structure Traffic where
  world : World
  running : List (InFlight (Option Session)) := []
  sessions : List Session := []
  taken : List Credential := []
  returned : List Credential := []

namespace Traffic

/-- One step of the work, and what happens to the world in it. -/
inductive Step : Traffic → Happening → Traffic → Prop
  | begin (s : Traffic) (operation : Operation) :
    Step s .quiet { s with running := InFlight.start operation.program :: s.running }
  | advance {s : Traffic} {before after : List (InFlight (Option Session))} {held : Held}
    {r : Request} {next : r.Reply → Relay (Option Session)}
    (hrunning : s.running = before ++ ⟨held, .ask r next⟩ :: after) :
    Step s (.asked r)
      { s with
        world := ((InFlight.mk held (.ask r next)).step World.answer s.world).2
        running :=
          before ++ ((InFlight.mk held (.ask r next)).step World.answer s.world).1 :: after }
  | cancel {s : Traffic} {before after : List (InFlight (Option Session))}
    {f : InFlight (Option Session)} (hrunning : s.running = before ++ f :: after) :
    Step s .quiet { s with running := before ++ f.cancelled none :: after }
  | finish {s : Traffic} {before after : List (InFlight (Option Session))} {held : Held}
    {result : Option Session} (hrunning : s.running = before ++ ⟨held, .done result⟩ :: after) :
    Step s .quiet
      { s with running := before ++ after, sessions := result.toList ++ s.sessions }
  | drop {s : Traffic} {before after : List Session} {session : Session}
    (hsessions : s.sessions = before ++ session :: after) :
    Step s .quiet
      { s with
        running := InFlight.dropped session none :: s.running
        sessions := before ++ after }
  | call (s : Traffic) (client : Client) (call : Store.Call) :
    Step s (.asked (.call client call))
      { s with world := (World.answer (.call client call) s.world).2 }
  | take (s : Traffic) (selector : Selector) :
    Step s (.asked (.acquire selector))
      { s with
        world := (World.answer (.acquire selector) s.world).2
        taken := (World.answer (.acquire selector) s.world).1.toOption.toList ++ s.taken }
  | giveBack {s : Traffic} {before after : List Credential} {credential : Credential}
    (htaken : s.taken = before ++ credential :: after) :
    Step s (.asked (.release credential))
      { s with
        world := (World.answer (.release credential) s.world).2
        taken := before ++ after
        returned := credential :: s.returned }
  | giveBackAgain {s : Traffic} {credential : Credential} (hreturned : credential ∈ s.returned) :
    Step s (.asked (.release credential))
      { s with world := (World.answer (.release credential) s.world).2 }
  | outside (s : Traffic) (change : Outside) :
    Step s (.outside change) { s with world := change.apply s.world }

/-- The world goes on as the label of a step says. -/
lemma Step.world_eq {s s' : Traffic} {h : Happening} (hstep : Step s h s') :
    s'.world = h.apply s.world := by
  cases hstep <;> rfl

/-- Any number of steps, in each of which what happens is allowed in the world as it is then. -/
def Run (allowed : World → Happening → Prop) : Traffic → Traffic → Prop :=
  Relation.ReflTransGen fun s s' => ∃ h, allowed s.world h ∧ Step s h s'

/-- What every allowed happening preserves, a run preserves. -/
lemma Run.world_induction {allowed : World → Happening → Prop} {P : World → Prop} {s s' : Traffic}
    (hrun : Run allowed s s') (hstart : P s.world)
    (hkeep : ∀ w h, allowed w h → P w → P (h.apply w)) : P s'.world := by
  induction hrun with
  | refl => exact hstart
  | tail _ hlast ih =>
    obtain ⟨h, hallowed, hstep⟩ := hlast
    rw [hstep.world_eq]
    exact hkeep _ h hallowed ih

end Traffic

end ClaimCheck
