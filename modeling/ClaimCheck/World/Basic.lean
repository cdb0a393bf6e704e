import ClaimCheck.Channel.Queues
import ClaimCheck.Relay.Request
import ClaimCheck.Store.Account

/-!
# A world in memory

Surroundings of a relay that live in memory: a clock, supplies of identifiers and tokens, a credential
ledger, accounts with their stores, the queues of a channel and the events of topics.  `World.answer`
answers a relay's requests.
-/

namespace ClaimCheck

open Identity Text

/-- An endless supply of values, and how many were drawn. -/
structure Supply (α : Type) where
  draw : Nat → α
  drawn : Nat := 0

namespace Supply

/-- The next value. -/
def next (s : Supply α) : α := s.draw s.drawn

/-- The supply without its next value. -/
def rest (s : Supply α) : Supply α := { s with drawn := s.drawn + 1 }

end Supply

/-- Surroundings of a relay in memory.  While `isVerifying`, a store opens only to credentials that the
ledger knows to be out; while `channelFailing`, no message is taken. -/
structure World where
  now : Instant
  ids : Supply Uuid
  tokens : Supply String
  ledger : Ledger := {}
  isVerifying : Bool := true
  accounts : Keyed Store.Account := Keyed.empty
  connections : Nat := 0
  openClients : Nat := 0
  queues : Queues := {}
  channelFailing : Bool := false
  published : List (String × Event) := []

namespace World

/-! ### Accounts -/

/-- The store of an account; one that was never used is empty. -/
def account (w : World) (name : String) : Store.Account := (w.accounts.get? name).getD {}

/-- Puts the store of an account in its place. -/
def setAccount (w : World) (name : String) (a : Store.Account) : World :=
  { w with accounts := w.accounts.insert name a }

/-- Changes the store of an account. -/
def changeAccount (w : World) (name : String) (f : Store.Account → Store.Account) : World :=
  w.setAccount name (f (w.account name))

/-- The events of a topic, the oldest first. -/
def events (w : World) (topic : String) : List Event :=
  (w.published.filter fun entry => entry.1 = topic).map Prod.snd

/-! ### Requests -/

/-- Why a credential does not open a store, if it does not. -/
def denial? (w : World) (credential : Credential) : Option Store.Denial :=
  if credential.isExpiredAt w.now then some .expired
  else if w.isVerifying && !w.ledger.isLive credential then some .unknown
  else none

/-- Opens a client; the account is made if it was never used. -/
def connect (w : World) (endpoint : Endpoint) (credential : Credential) :
    Except Store.Fault Client × World :=
  match w.denial? credential with
  | some denial => (.error (.accessDenied denial endpoint), w)
  | none =>
    (.ok ⟨endpoint.account⟩,
      { w.changeAccount endpoint.account id with
        connections := w.connections + 1
        openClients := w.openClients + 1 })

/-- Calls the store of an account. -/
def callStore (w : World) (client : Client) (call : Store.Call) : call.Outcome × World :=
  let (outcome, a) := (w.account client.account).answer call
  (outcome, w.setAccount client.account a)

/-- Lets a message wait at a destination. -/
def enqueue (w : World) (space : String) (credential : Credential) (destination : String)
    (message : Message) : Except TransportFault Unit × World :=
  let place := space ++ "/" ++ destination
  if w.channelFailing then (.error (.unavailable place), w)
  else if credential.isExpiredAt w.now then (.error (.expired place), w)
  else (.ok (), { w with queues := w.queues.push destination message })

/-- Publishes an event on a topic. -/
def publish (w : World) (credential : Credential) (topic : String) (event : Event) :
    Except TransportFault Unit × World :=
  if credential.isExpiredAt w.now then (.error (.expired topic), w)
  else (.ok (), { w with published := w.published ++ [(topic, event)] })

/-- Gives out a credential; a token is drawn only when one is given out. -/
def acquire (w : World) (selector : Selector) : Except Identity.Fault Credential × World :=
  match w.ledger.acquire selector w.tokens.next w.now with
  | (.error fault, ledger) => (.error fault, { w with ledger })
  | (.ok credential, ledger) => (.ok credential, { w with ledger, tokens := w.tokens.rest })

/-- Answers a request of a relay. -/
def answer : (r : Request) → World → r.Reply × World
  | .drawId, w => (w.ids.next, { w with ids := w.ids.rest })
  | .clock, w => (w.now, w)
  | .acquire selector, w => w.acquire selector
  | .release credential, w => ((), { w with ledger := w.ledger.release credential })
  | .connect endpoint credential, w => w.connect endpoint credential
  | .disconnect _, w => ((), { w with openClients := w.openClients - 1 })
  | .call client c, w => w.callStore client c
  | .enqueue space credential destination message, w =>
    w.enqueue space credential destination message
  | .publish credential topic event, w => w.publish credential topic event

/-- Runs a program of a relay. -/
def run (w : World) (p : Relay α) : α × World := p.run answer w

/-- The description of the connector to the stores. -/
def describeConnector (w : World) : String :=
  described "InMemoryConnector"
    [("connections", describedCount w.connections),
      ("open_clients", describedCount w.openClients)]

end World

end ClaimCheck
