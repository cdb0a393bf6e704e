import ClaimCheck.Relay.Session

/-!
# Operations in flight

A relay's operation that was started and not yet ended: what it holds and what it has still to do.
One that is cancelled does nothing more, but what it holds is given back, clients before the
credentials that opened them.
-/

namespace ClaimCheck

open Identity

/-- What an operation holds: the credentials that it acquired and has not released, and the clients
that it opened and has not closed, the last ones first. -/
structure Held where
  credentials : List Credential := []
  clients : List Client := []
deriving DecidableEq, Repr

namespace Held

/-- What is held after a request was answered. -/
def after (h : Held) : (r : Request) → r.Reply → Held
  | .acquire _, .ok credential => { h with credentials := credential :: h.credentials }
  | .release credential, _ => { h with credentials := h.credentials.erase credential }
  | .connect _ _, .ok client => { h with clients := client :: h.clients }
  | .disconnect client, _ => { h with clients := h.clients.erase client }
  | _, _ => h

/-- Gives back what is held, the clients first. -/
def giveBack (h : Held) : Relay Unit := do
  h.clients.forM fun client => Relay.perform (.disconnect client)
  h.credentials.forM fun credential => Relay.perform (.release credential)

end Held

/-- An operation that was started: what it holds and the rest of its program. -/
structure InFlight (α : Type) where
  held : Held := {}
  rest : Relay α

namespace InFlight

/-- An operation that holds nothing yet. -/
def start (p : Relay α) : InFlight α := { rest := p }

/-- Answers the next request of an operation; one that has ended stays as it is. -/
def step (handle : (r : Request) → σ → r.Reply × σ) (f : InFlight α) (s : σ) : InFlight α × σ :=
  match f.rest with
  | .done _ => (f, s)
  | .ask r next =>
    let (reply, s) := handle r s
    (⟨f.held.after r reply, next reply⟩, s)

/-- Lets an operation go on as long as it can. -/
def settle (handle : (r : Request) → σ → r.Reply × σ) (held : Held) : Relay α → σ → Held × σ
  | .done _, s => (held, s)
  | .ask r next, s =>
    let (reply, s) := handle r s
    settle handle (held.after r reply) (next reply) s

/-- What remains of an operation that is cancelled: giving back what it holds.  It then ends with a
value that no one waits for. -/
def cancelled (f : InFlight α) (ended : α) : InFlight α :=
  ⟨f.held, f.held.giveBack.bind fun _ => .done ended⟩

/-- What remains of a session that is dropped: closing its client, then releasing its credential. -/
def dropped (session : Session) (ended : α) : InFlight α :=
  ⟨⟨[session.credential], [session.client]⟩, session.close.bind fun _ => .done ended⟩

/-- Cancels an operation. -/
def cancel (handle : (r : Request) → σ → r.Reply × σ) (f : InFlight α) (s : σ) : σ :=
  (f.held.giveBack.run handle s).2

end InFlight

end ClaimCheck
