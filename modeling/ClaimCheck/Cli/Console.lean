import ClaimCheck.Cli.Failure
import ClaimCheck.Disk.Account

/-!
# The surroundings of a command

A command asks a file system, reads its standard input and uses services that last as long as it
does: a clock, identifiers, credentials and the queues of a channel.  The stores of a relay are
directories below the root of the store.
-/

namespace ClaimCheck.Cli

/-- A request of a command. -/
inductive Request where
  | disk (request : Disk.Request)
  | input
  | service (request : ClaimCheck.Request)
  | drain (destination : String)

/-- The reply to a request. -/
@[reducible] def Request.Reply : Request → Type
  | .disk request => request.Reply
  | .input => ByteArray
  | .service request => request.Reply
  | .drain _ => List Message

/-- A program of a command. -/
abbrev Console (α : Type) : Type := Program Request Request.Reply α

/-- A program of a command that may fail. -/
abbrev Work (α : Type) : Type := ExceptT Failure (Program Request Request.Reply) α

namespace Console

/-- Asks one request. -/
def perform (r : Request) : Console r.Reply := Program.request r

/-- Runs a program on the file system of a command. -/
def onDisk (p : Disk.Action α) : Console α := p.interpret fun r => perform (.disk r)

/-- Answers a request of a relay whose stores are directories below `root`. -/
def answer (root : Disk.Path) : (r : ClaimCheck.Request) → Console r.Reply
  | .connect endpoint credential => do
    let now ← perform (.service .clock)
    pure ((Disk.Account.connect root endpoint credential now).map fun _ => ⟨endpoint.account⟩)
  | .disconnect _ => pure ()
  | .call client call =>
    onDisk ((Disk.Account.mk (root.child client.account.toUTF8)).perform call).run
  | r => perform (.service r)

/-- Runs a program of a relay whose stores are directories below `root`. -/
def relay (root : Disk.Path) (p : Relay α) : Console α := p.interpret (answer root)

end Console

end ClaimCheck.Cli
