import Mathlib
import ClaimCheck.Proofs.Relay.Traffic
import ClaimCheck.Proofs.Tokens.Alike

/-!
# What users are told and see

A `Bench` is a world together with everything that its users have in hand: operations in progress,
sessions that are open, credentials.  A `Move` is what a user can do next: begin an operation, let
one go on by a request, cancel one, close a session, take a credential, release it any number of
times, ask whether it is out, connect with it, have a component described, or change the world from
outside.  Operations are thus interleaved request by request, as in `Traffic.Step`, but what each of
them tells at its end is kept (`Operation.reported`).

Each move has a `Report`.  Afterwards a `View` shows everything but the tokens: what is in the stores,
their logs, the queues, the events, every counter, and what is held.  The reports and views of a run
are its `Bench.transcript`.
-/

namespace ClaimCheck

open Identity Text

/-! ## Operations that report -/

/-- What a user is told. -/
inductive Report where
  | nothing
  | encoded (outcome : Except CodecFault EncodedBody)
  | wrapped (outcome : Except CodecFault Json.Value)
  | decoded (outcome : Except CodecFault String)
  | sent (outcome : Except ChannelFault Receipt)
  | received (outcome : Except ChannelFault String)
  | published (outcome : Except ChannelFault Event)
  | deleted (outcome : Except LifecycleFault DeletionOutcome)
  | called (call : Store.Call) (outcome : call.Outcome)
  | opened (outcome : Except Store.Fault Client)
  | acquired (outcome : Except Identity.Fault (Selector × Instant))
  | live (isLive : Bool)
  | described (text : Option String)
  | taken (messages : List Message)

/-- How an operation ended: what is told, and the session that it leaves open, if it does. -/
structure Ended where
  report : Report := .nothing
  left : Option Session := none

/-- An attempt that tells its outcome and leaves nothing behind but its effects. -/
def Attempt.reporting (p : Attempt ε α) (report : Except ε α → Report) : Relay Ended :=
  p.run.bind fun outcome => .done { report := report outcome }

/-- The program of an operation, with what it tells at its end. -/
def Operation.reported : Operation → Relay Ended
  | encodeText codec text => (codec.encodeText text).reporting .encoded
  | encode codec payload => (codec.encode payload).reporting .encoded
  | wrapValue codec value => (codec.wrapValue value).reporting .wrapped
  | fetch codec place => (codec.fetch place).reporting .decoded
  | decode codec body => (codec.decode body).reporting .decoded
  | send gateway message destination => (gateway.send message destination).reporting .sent
  | sendPayload gateway payload destination =>
    (gateway.sendPayload payload destination).reporting .sent
  | receive gateway body => (gateway.receive body).reporting .received
  | receiveMessage gateway message => (gateway.receiveMessage message).reporting .received
  | publish gateway event topic => (gateway.publish event topic).reporting .published
  | publishNew gateway subject kind data topic =>
    (EventGateway.newEvent subject kind data).bind fun event =>
      (gateway.publish event topic).reporting .published
  | delete coordinator url => (coordinator.delete url).reporting .deleted
  | handle trigger body => (trigger.handle body).reporting .deleted
  | callIn access endpoint call =>
    (access.within endpoint fun session => session.call call).reporting (.called call)
  | openSession access endpoint =>
    (access.openSession endpoint).run.bind fun outcome =>
      .done ⟨.opened (outcome.map Session.client), outcome.toOption⟩

/-- An attempt asks the same whether its outcome is told or not. -/
lemma Attempt.reporting_bind {ε α : Type} (p : Attempt ε α) (report : Except ε α → Report) :
    ((p.reporting report).bind fun ended => .done ended.left) = p.finished :=
  Program.bind_assoc _ _ _

/-- An operation asks the same, and leaves the same session open, whether it tells anything or
not. -/
lemma Operation.reported_bind (operation : Operation) :
    (operation.reported.bind fun ended => .done ended.left) = operation.program := by
  cases operation with
  | publishNew gateway subject kind data topic =>
    change Program.bind (Program.bind _ _) _ = Program.bind _ _
    rw [Program.bind_assoc]
    congr 1
    funext event
    exact Attempt.reporting_bind _ _
  | openSession access endpoint =>
    change Program.bind (Program.bind _ _) _ = Program.bind _ _
    rw [Program.bind_assoc]
    congr 1
    funext opened
    cases opened <;> rfl
  | _ => exact Attempt.reporting_bind _ _

/-! ## Benches -/

/-- A world and what its users have in hand. -/
structure Bench where
  world : World
  running : List (InFlight Ended) := []
  sessions : List Session := []
  credentials : List Credential := []

/-- What can be described: what is made of a configuration, what a world consists of, and a
credential in hand, alone or held for the time of an operation. -/
inductive Component where
  | config (config : Config)
  | codec (codec : Codec)
  | access (access : Access)
  | channelGateway (gateway : ChannelGateway)
  | eventGateway (gateway : EventGateway)
  | coordinator (coordinator : Coordinator)
  | trigger (trigger : DeletionTrigger)
  | connector
  | ledger
  | channel
  | account (name : String)
  | credential (i : Nat)
  | heldCredential (i : Nat)

/-- What a user can do next.  Operations, sessions and credentials are known by their places. -/
inductive Move where
  | begin (operation : Operation)
  | advance (i : Nat)
  | cancel (i : Nat)
  | close (i : Nat)
  | call (client : Client) (call : Store.Call)
  | disconnect (client : Client)
  | acquire (selector : Selector)
  | make (credential : Credential)
  | release (i : Nat)
  | isLive (i : Nat)
  | connect (i : Nat) (endpoint : Endpoint)
  | describe (part : Component)
  | outside (change : Outside)

/-- The messages that a change from outside takes from the channel. -/
def Outside.taken (w : World) : Outside → List Message
  | pop destination => (w.queues.pop destination).1.toList
  | drain destination => (w.queues.drain destination).1
  | _ => []

namespace Bench

/-- The description of a component. -/
def describe (b : Bench) : Component → Option String
  | .config config => some config.describe
  | .codec codec => some codec.describe
  | .access access => some access.describe
  | .channelGateway gateway => some gateway.describe
  | .eventGateway gateway => some gateway.describe
  | .coordinator coordinator => some coordinator.describe
  | .trigger trigger => some trigger.describe
  | .connector => some b.world.describeConnector
  | .ledger => some b.world.ledger.describe
  | .channel => some b.world.queues.describe
  | .account name => some (b.world.account name).describe
  | .credential i => b.credentials[i]?.map Credential.describe
  | .heldCredential i =>
    b.credentials[i]?.map fun c => described "ScopedCredential" [("credential", c.describe)]

/-- What becomes of what stands at a place; where nothing stands, nothing happens. -/
def atPlace {α : Type} (b : Bench) (l : List α) (i : Nat) (f : α → Report × Bench) :
    Report × Bench :=
  match l[i]? with
  | none => (.nothing, b)
  | some a => f a

/-- Lets the operation at a place go on by a request, or end if it is done. -/
def advance (b : Bench) (i : Nat) : Report × Bench :=
  b.atPlace b.running i fun f =>
    match f.rest with
    | .done ended =>
      (ended.report,
        { b with running := b.running.eraseIdx i, sessions := b.sessions ++ ended.left.toList })
    | .ask .. =>
      let (f, world) := f.step World.answer b.world
      (.nothing, { b with world, running := b.running.set i f })

/-- Makes a move. -/
def move (b : Bench) : Move → Report × Bench
  | .begin operation =>
    (.nothing, { b with running := b.running ++ [InFlight.start operation.reported] })
  | .advance i => b.advance i
  | .cancel i => b.atPlace b.running i fun f =>
    (.nothing, { b with running := b.running.set i (f.cancelled {}) })
  | .close i => b.atPlace b.sessions i fun session =>
    (.nothing,
      { b with
        running := b.running ++ [InFlight.dropped session {}]
        sessions := b.sessions.eraseIdx i })
  | .call client call =>
    let (outcome, world) := World.answer (.call client call) b.world
    (.called call outcome, { b with world })
  | .disconnect client => (.nothing, { b with world := (World.answer (.disconnect client) b.world).2 })
  | .acquire selector =>
    let (outcome, world) := World.answer (.acquire selector) b.world
    (.acquired (outcome.map fun c => (c.selector, c.expiresAt)),
      { b with world, credentials := b.credentials ++ outcome.toOption.toList })
  | .make credential => (.nothing, { b with credentials := b.credentials ++ [credential] })
  | .release i => b.atPlace b.credentials i fun c =>
    (.nothing, { b with world := (World.answer (.release c) b.world).2 })
  | .isLive i => b.atPlace b.credentials i fun c => (.live (b.world.ledger.isLive c), b)
  | .connect i endpoint => b.atPlace b.credentials i fun c =>
    let (outcome, world) := World.answer (.connect endpoint c) b.world
    (.opened outcome, { b with world })
  | .describe part => (.described (b.describe part), b)
  | .outside change => (.taken (change.taken b.world), { b with world := change.apply b.world })

/-- The bench after moves were made one after another. -/
def after (b : Bench) (moves : List Move) : Bench := moves.foldl (fun b move => (b.move move).2) b

/-- The places at which tokens are drawn when moves are made one after another. -/
def drawnIn (b : Bench) (moves : List Move) : Set ℕ :=
  Set.Ico b.world.tokens.drawn (b.after moves).world.tokens.drawn

/-- Something happens in the world of a bench. -/
def Happens (b : Bench) (outcome : Report × Bench) : Prop :=
  ∃ h : Happening, outcome.2.world = h.apply b.world

/-- Where nothing stands at a place, nothing happens. -/
lemma happens_atPlace {α : Type} {b : Bench} {l : List α} {i : Nat} {f : α → Report × Bench}
    (hf : ∀ a, b.Happens (f a)) : b.Happens (b.atPlace l i f) := by
  unfold atPlace
  cases l[i]? with
  | none => exact ⟨.quiet, rfl⟩
  | some a => exact hf a

/-- Whatever a move is, it is a happening in the world. -/
lemma happens_move (b : Bench) (move : Move) : b.Happens (b.move move) := by
  cases move with
  | advance i =>
    refine happens_atPlace fun f => ?_
    obtain ⟨held, rest⟩ := f
    cases rest with
    | done ended => exact ⟨.quiet, rfl⟩
    | ask r next => exact ⟨.asked r, rfl⟩
  | cancel i => exact happens_atPlace fun f => ⟨.quiet, rfl⟩
  | close i => exact happens_atPlace fun session => ⟨.quiet, rfl⟩
  | call client call => exact ⟨.asked (.call client call), rfl⟩
  | disconnect client => exact ⟨.asked (.disconnect client), rfl⟩
  | acquire selector => exact ⟨.asked (.acquire selector), rfl⟩
  | release i => exact happens_atPlace fun c => ⟨.asked (.release c), rfl⟩
  | isLive i => exact happens_atPlace fun c => ⟨.quiet, rfl⟩
  | connect i endpoint => exact happens_atPlace fun c => ⟨.asked (.connect endpoint c), rfl⟩
  | outside change => exact ⟨.outside change, rfl⟩
  | _ => exact ⟨.quiet, rfl⟩

/-- A move draws no token again that was drawn before. -/
lemma drawn_le_move (b : Bench) (move : Move) :
    b.world.tokens.drawn ≤ (b.move move).2.world.tokens.drawn := by
  obtain ⟨h, hworld⟩ := b.happens_move move
  rw [hworld]
  rcases h.tokens_apply b.world with hsame | hrest
  · rw [hsame]
  · rw [hrest]
    exact Nat.le_succ _

/-- Nor do moves that are made one after another. -/
lemma drawn_le_after (b : Bench) (moves : List Move) :
    b.world.tokens.drawn ≤ (b.after moves).world.tokens.drawn := by
  induction moves generalizing b with
  | nil => exact le_rfl
  | cons move moves ih => exact (b.drawn_le_move move).trans (ih _)

/-- Tokens are drawn by the first move and by the others. -/
lemma drawnIn_cons (b : Bench) (move : Move) (moves : List Move) :
    Set.Ico b.world.tokens.drawn (b.move move).2.world.tokens.drawn ⊆
        b.drawnIn (move :: moves) ∧
      (b.move move).2.drawnIn moves ⊆ b.drawnIn (move :: moves) :=
  ⟨Set.Ico_subset_Ico_right ((b.move move).2.drawn_le_after moves),
    Set.Ico_subset_Ico_left (b.drawn_le_move move)⟩

end Bench

/-! ## What can be observed -/

/-- A credential without its token. -/
def Identity.Credential.redacted (c : Credential) : Credential := { c with token := "<redacted>" }

/-- A session without its token. -/
def Session.redacted (s : Session) : Session := { s with credential := s.credential.redacted }

/-- What is held, without the tokens. -/
def Held.redacted (h : Held) : Held :=
  { h with credentials := h.credentials.map Credential.redacted }

/-- A world without the tokens.  How many were drawn, and how many are out, stays. -/
def World.redacted (w : World) : World :=
  w.withTokens (fun _ => "<redacted>") (w.ledger.live.map fun _ => "<redacted>")

/-- Everything that there is on a bench but the tokens, and what operations have still to do. -/
structure View where
  world : World
  held : List Held
  sessions : List Session
  credentials : List Credential

namespace Bench

/-- What can be observed of a bench. -/
def view (b : Bench) : View where
  world := b.world.redacted
  held := b.running.map fun f => f.held.redacted
  sessions := b.sessions.map Session.redacted
  credentials := b.credentials.map Credential.redacted

/-- The reports of moves that are made one after another, each with what can be observed then. -/
def transcript (b : Bench) : List Move → List (Report × View)
  | [] => []
  | move :: moves =>
    ((b.move move).1, (b.move move).2.view) :: (b.move move).2.transcript moves

end Bench

end ClaimCheck
