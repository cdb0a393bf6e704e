import ClaimCheck.Cli.Console
import ClaimCheck.Disk.Machine
import ClaimCheck.World.Basic

/-!
# Hosts

The surroundings of a command as a value: a file system that one command leaves to the next, and
services that start anew.
-/

namespace ClaimCheck.Cli

/-- The surroundings of a command: a file system, the standard input and services. -/
structure Host where
  disk : Disk.Machine
  input : ByteArray
  services : World

namespace Host

/-- Answers a request of a command. -/
def answer : (r : Request) → Host → r.Reply × Host
  | .disk r, h =>
    let (reply, disk) := h.disk.answer r
    (reply, { h with disk })
  | .input, h => (h.input, { h with input := ByteArray.empty })
  | .service r, h =>
    let (reply, services) := h.services.answer r
    (reply, { h with services })
  | .drain destination, h =>
    let (messages, queues) := h.services.queues.drain destination
    (messages, { h with services := { h.services with queues } })

/-- Runs a program of a command. -/
def run (h : Host) (p : Console α) : α × Host := p.run answer h

end Host

end ClaimCheck.Cli
