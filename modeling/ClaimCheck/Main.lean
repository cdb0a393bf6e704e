import ClaimCheck.Cli.Run
import ClaimCheck.World.Basic

/-!
# The program

Answers the requests of a command with the machine that it runs on.
-/

namespace ClaimCheck.Cli

/-! ### Files -/

/-- The number and the words of a failed request. -/
def codeOf : IO.Error → Option (UInt32 × String)
  | .inappropriateType _ code details | .noSuchThing _ code details
  | .invalidArgument _ code details | .permissionDenied _ code details
  | .resourceExhausted _ code details | .resourceBusy code details
  | .resourceVanished code details | .unsatisfiedConstraints code details
  | .unsupportedOperation code details | .illegalOperation code details
  | .otherError code details => some (code, details)
  | _ => none

/-- The fault with a number, which some requests give with a minus sign. -/
def faultOfCode (code : UInt32) (details : String) : Disk.Fault :=
  match if code.toNat < 0x80000000 then code else 0 - code with
  | 20 => .notDirectory
  | 21 => .isDirectory
  | 27 => .fileTooLarge
  | 36 => .nameTooLong
  | 39 => .directoryNotEmpty
  | code => .other (details ++ " (os error " ++ toString code ++ ")")

/-- Why a request failed. -/
def faultOf : IO.Error → Disk.Fault
  | .noFileOrDirectory .. => .notFound
  | .alreadyExists .. => .alreadyExists
  | error =>
    match codeOf error with
    | some (code, details) => faultOfCode code details
    | none => .other (toString error)

/-- The spelling of a path. -/
def spelling (path : Disk.Path) : String :=
  (if path.isAbsolute then "/" else "") ++ Disk.blobName path.names

/-- Tries what may fail. -/
def attempt (action : IO α) : IO (Except Disk.Fault α) := do
  match ← action.toBaseIO with
  | .ok value => pure (.ok value)
  | .error error => pure (.error (faultOf error))

/-- Fails unless something can be opened. -/
def open? (path : String) : IO Unit := discard (IO.FS.Handle.mk path .read)

/-- The entries of a directory. -/
def entriesOf (path : String) : IO (List (Disk.Name × Bool)) := do
  let dir : IO.FS.DirEntry := { root := path, fileName := "" }
  let mut entries := []
  for entry in ← dir.root.readDir do
    let isDirectory := (← entry.path.symlinkMetadata).type == .dir
    entries := (entry.fileName.toUTF8, isDirectory) :: entries
  pure entries

/-- Answers a request to the file system. -/
def answerDisk : (r : Disk.Request) → IO r.Reply
  | .makeDirectory path => attempt (IO.FS.createDir (spelling path))
  | .createNew path => attempt (discard (IO.FS.Handle.mk (spelling path) .writeNew))
  | .write path data => attempt (IO.FS.writeBinFile (spelling path) data)
  | .read path => attempt (IO.FS.readBinFile (spelling path))
  | .remove path => attempt (IO.FS.removeFile (spelling path))
  | .removeDirectory path => attempt (IO.FS.removeDir (spelling path))
  | .isThere path => do
    match ← attempt (open? (spelling path)) with
    | .ok () => pure (.ok true)
    | .error .notFound => pure (.ok false)
    | .error fault => pure (.error fault)
  | .isDirectory path => return (← attempt (open? (spelling path ++ "/."))).isOk
  | .readDirectory path =>
    if short : path.size ≤ Disk.longestPath then attempt do
      pure ⟨← entriesOf (spelling path), short⟩
    else pure (.error .nameTooLong)
  | .removeTree path => do
    match ← attempt (open? (spelling path ++ "/.")) with
    | .ok () => attempt (IO.FS.removeDirAll (spelling path))
    | .error fault => pure (.error fault)

/-! ### The rest -/

/-- Reads a stream to its end. -/
partial def readAll (stream : IO.FS.Stream) (before : ByteArray) : IO ByteArray := do
  let bytes ← stream.read 65536
  if bytes.isEmpty then pure before else readAll stream (before ++ bytes)

/-- Answers a request of a command. -/
def answer : (r : Request) → StateT World IO r.Reply
  | .disk r => answerDisk r
  | .input => do readAll (← IO.getStdin) ByteArray.empty
  | .service r => modifyGet (World.answer r)
  | .drain destination =>
    modifyGet fun w =>
      let (messages, queues) := w.queues.drain destination
      (messages, { w with queues })

/-- A random number of 128 bits. -/
def randomNumber : IO Nat :=
  return (← IO.getRandomBytes 16).foldl (fun n b => n * 256 + b.toNat) 0

/-- The services of a command. -/
def services : IO World := do
  let id ← randomNumber
  let token ← randomNumber
  let seconds := (← IO.monoMsNow) / 1000
  pure
    { now := ⟨seconds, 0⟩
      ids := { draw := fun n => ⟨BitVec.ofNat 128 (id + n)⟩ }
      tokens := { draw := fun n => String.ofList (Text.fixedHex Text.hexDigit 32 (token + n)) } }

/-- The variables that a command looks at. -/
def environment : IO (List (String × String)) := do
  let names := "CLICOLOR_FORCE" ::
    Config.Key.all.map fun key => Config.variableStart ++ key.variableName
  names.filterMapM fun name => return (← IO.getEnv name).map fun value => (name, value)

end ClaimCheck.Cli

/-- Does what the arguments say. -/
def main (arguments : List String) : IO UInt32 := do
  let command := ClaimCheck.Cli.run arguments (← ClaimCheck.Cli.environment)
  let (ending, _) ← (command.interpret ClaimCheck.Cli.answer).run (← ClaimCheck.Cli.services)
  (← IO.getStdout).putStr ending.printed.out
  (← IO.getStderr).putStr ending.printed.err
  return ending.code
