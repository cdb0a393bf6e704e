import ClaimCheck.Cli.Arguments
import ClaimCheck.Cli.Console
import ClaimCheck.Cli.Ink
import ClaimCheck.Config.Document
import ClaimCheck.Config.Overrides

/-!
# Commands

What a command reads, does and prints.  The configuration is read first, then the input, and then the
task is done; the first failure ends the command.
-/

namespace ClaimCheck.Cli

open Text

/-! ### Reading -/

/-- Ends the work as an outcome says. -/
def Work.ofOutcome (wrap : ε → Failure) (outcome : Except ε α) : Work α :=
  ExceptT.mk (pure (outcome.mapError wrap))

/-- Does an attempt of a relay whose stores are directories below `root`. -/
def Work.relay (root : Disk.Path) (wrap : ε → Failure) (p : Attempt ε α) : Work α :=
  ExceptT.mk ((·.mapError wrap) <$> Console.relay root p.run)

/-- The bytes of a file. -/
def readFile (path : String) : Console (Except Disk.Fault ByteArray) :=
  Console.perform (.disk (.read (Disk.Path.ofFileText path)))

/-- Bytes as text. -/
def textOf (bytes : ByteArray) : Except Disk.Fault String :=
  match String.fromUTF8? bytes with
  | some text => .ok text
  | none => .error .notText

/-- Drops one line end from the end of a text. -/
def dropLineEnd (text : String) : String :=
  match text.toList.reverse with
  | '\n' :: '\r' :: rest => String.ofList rest.reverse
  | '\n' :: rest => String.ofList rest.reverse
  | _ => text

/-- The text to work on: a file as it is, or the standard input without a line end. -/
def readInput : Option String → Work String
  | some path => do
    let bytes ← ExceptT.lift (readFile path)
    Work.ofOutcome (fun fault => (Failure.ofDisk fault).causing ("reading " ++ path))
      (bytes.bind textOf)
  | none => do
    let bytes ← ExceptT.lift (Console.perform .input)
    dropLineEnd <$> Work.ofOutcome (fun fault => (Failure.ofDisk fault).causing "reading stdin")
      (textOf bytes)

/-- The configuration of a command: that of its file if it names one, with what variables replace. -/
def loadConfig (file : Option String) (environment : List (String × String)) : Work Config := do
  let base ←
    match file with
    | none => pure {}
    | some path => do
      let bytes ← ExceptT.lift (readFile path)
      Work.ofOutcome (fun fault => (Failure.ofConfig fault).causing ("loading " ++ path))
        (Config.ofFile bytes)
  Work.ofOutcome (fun fault => (Failure.ofConfig fault).causing "applying COURIER_* overrides")
    (base.withOverrides environment)

/-! ### Printing -/

/-- What a command prints, and on which stream. -/
structure Printed where
  out : String := ""
  err : String := ""
deriving DecidableEq, Repr

/-- The mark of what was done. -/
def tick : String := "✓"

/-- What is told of a body that was offloaded. -/
def offloadedLine (isColored : Bool) : Option Locator → String
  | none => ""
  | some place =>
    Ink.boldGreen.paint isColored tick ++ " offloaded to " ++ Ink.cyan.paint isColored place.path ++
      "\n"

/-- What is told of a message that was sent. -/
def sentLine (isColored : Bool) (receipt : Receipt) : String :=
  Ink.boldGreen.paint isColored tick ++ " " ++ String.ofList (decimal receipt.bodyLength) ++
    " bytes to " ++ Ink.yellow.paint isColored receipt.destination ++
    (match receipt.claimCheck with
      | some place => " via claim check " ++ Ink.cyan.paint isColored place.path
      | none => "") ++ "\n"

/-- What is told of a deletion. -/
def deletedLines (isColored : Bool) : DeletionOutcome → String
  | .container container =>
    Ink.boldGreen.paint isColored tick ++ " Deleted container " ++
      Ink.yellow.paint isColored container ++ "\n"
  | .blob place isContainerGone =>
    Ink.boldGreen.paint isColored tick ++ " Deleted " ++ Ink.yellow.paint isColored place.container ++
      "/" ++ place.name ++ "\n" ++
      (if isContainerGone then
        "  " ++ Ink.green.paint isColored tick ++ " container " ++
          Ink.yellow.paint isColored place.container ++ " was empty and is gone\n"
      else "")

/-- What is told of offloading. -/
def offloadingLine (isColored : Bool) (threshold : Threshold) : String :=
  "offloading " ++
    (if threshold.enabled then Ink.green.paint isColored "enabled"
    else Ink.yellow.paint isColored "disabled") ++ "\n"

/-! ### Tasks -/

/-- What a task works with. -/
structure Setup where
  config : Config
  root : Disk.Path
  isColored : Bool

namespace Setup

/-- Encodes a body. -/
def encode (s : Setup) (input : Option String) : Work Printed := do
  let text ← readInput input
  let encoded ← Work.relay s.root .ofCodec ((Codec.ofConfig s.config).encodeText text)
  pure ⟨encoded.text ++ "\n", offloadedLine s.isColored encoded.locator?⟩

/-- Decodes a body. -/
def decode (s : Setup) (input : Option String) : Work Printed := do
  let body ← readInput input
  let text ← Work.relay s.root .ofCodec ((Codec.ofConfig s.config).decode body)
  pure { out := text ++ "\n" }

/-- Sends a message and shows it as it was put on the channel. -/
def send (s : Setup) (destination : String) (input : Option String) (message : Message) :
    Work Printed := do
  let body ← readInput input
  let receipt ← Work.relay s.root .ofChannel
    ((ChannelGateway.ofConfig s.config).send { message with body } destination)
  let messages ← ExceptT.lift (Console.perform (.drain receipt.destination))
  pure ⟨String.join (messages.map fun m => (Json.Record.toValue m).pretty ++ "\n"),
    sentLine s.isColored receipt⟩

/-- Deletes what an address names. -/
def delete (s : Setup) (url : String) : Work Printed := do
  let outcome ← Work.relay s.root .ofLifecycle ((Coordinator.ofConfig s.config).delete url)
  pure { out := deletedLines s.isColored outcome }

/-- Deletes what an event asks for. -/
def trigger (s : Setup) (input : Option String) : Work Printed := do
  let body ← readInput input
  let outcome ← Work.relay s.root .ofLifecycle ((DeletionTrigger.ofConfig s.config).handle body)
  pure { out := deletedLines s.isColored outcome }

/-- Shows the configuration. -/
def showConfig (s : Setup) : Work Printed :=
  match s.config.document? with
  | none => throw { message := "out-of-range value for u64 type" }
  | some document => pure ⟨document, offloadingLine s.isColored s.config.threshold⟩

/-- Does a task. -/
def perform (s : Setup) : Task → Work Printed
  | .encode input => s.encode input
  | .decode input => s.decode input
  | .send destination input correlationId sessionId properties =>
    s.send destination input
      { body := "", correlationId, sessionId, properties := Keyed.ofList properties }
  | .delete url => s.delete url
  | .trigger input => s.trigger input
  | .config => s.showConfig

end Setup

/-! ### Commands -/

/-- How a command ends: its exit code and what it printed. -/
structure Ending where
  code : UInt32
  printed : Printed

/-- The name of the program and its version. -/
def versionLine : String := "courier 0.1.0\n"

/-- What is told of arguments that are refused. -/
def usageLine : String :=
  "usage: courier [--config FILE] [--store-root DIRECTORY] encode|decode|send|delete|trigger|config\n"

/-- Does a command. -/
def Command.work (c : Command) (environment : List (String × String)) : Work Printed := do
  let config ← loadConfig c.configFile environment
  Setup.perform ⟨config, Disk.Path.ofText c.storeRoot, Ink.isAskedBy environment⟩ c.task

/-- Does what arguments say. -/
def run (arguments : List String) (environment : List (String × String)) : Console Ending :=
  match Command.ofArguments arguments with
  | .error .version => pure ⟨0, { out := versionLine }⟩
  | .error .refused => pure ⟨2, { err := usageLine }⟩
  | .ok command => do
    match ← (command.work environment).run with
    | .ok printed => pure ⟨0, printed⟩
    | .error failure => pure ⟨1, { err := failure.report }⟩

end ClaimCheck.Cli
