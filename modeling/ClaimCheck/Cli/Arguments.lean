import ClaimCheck.Text.Split

/-!
# Arguments

The words of a command line.  Options may stand before the name of a task and after it, where those
of the task are known too; a value that is given after the name counts more.  A lone hyphen is a word
like any other, and behind two hyphens every word is.
-/

namespace ClaimCheck.Cli

open Text

/-! ### Tasks and options -/

/-- The names of the tasks. -/
inductive TaskName where
  | encode
  | decode
  | send
  | delete
  | trigger
  | config
deriving DecidableEq, Repr

/-- The word for a task. -/
def TaskName.word : TaskName → String
  | .encode => "encode"
  | .decode => "decode"
  | .send => "send"
  | .delete => "delete"
  | .trigger => "trigger"
  | .config => "config"

/-- All tasks. -/
def TaskName.all : List TaskName := [.encode, .decode, .send, .delete, .trigger, .config]

/-- The task that a word names. -/
def TaskName.ofWord? (word : String) : Option TaskName := all.find? fun task => task.word = word

/-- The options that take a value. -/
inductive Setting where
  | config
  | storeRoot
  | correlationId
  | sessionId
  | property
deriving DecidableEq, Repr

namespace Setting

/-- The word for an option. -/
def word : Setting → String
  | config => "config"
  | storeRoot => "store-root"
  | correlationId => "correlation-id"
  | sessionId => "session-id"
  | property => "property"

/-- The options that may stand anywhere. -/
def everywhere : List Setting := [config, storeRoot]

/-- The options that are known, before a task is named and after. -/
def known : Option TaskName → List Setting
  | some .send => everywhere ++ [correlationId, sessionId, property]
  | _ => everywhere

/-- The known option that a word names. -/
def ofWord? (task : Option TaskName) (word : String) : Option Setting :=
  (known task).find? fun s => s.word = word

/-- Whether an option may take a value: a path is not empty, and a property has an equals sign. -/
def accepts (s : Setting) (value : String) : Bool :=
  match s with
  | config | storeRoot => value ≠ ""
  | property => '=' ∈ value.toList
  | correlationId | sessionId => true

/-- Whether an option may be given more than once. -/
def isRepeatable (s : Setting) : Bool := s = property

end Setting

/-- What is to be done. -/
inductive Task where
  | encode (input : Option String)
  | decode (input : Option String)
  | send (destination : String) (input correlationId sessionId : Option String)
      (properties : List (String × String))
  | delete (url : String)
  | trigger (input : Option String)
  | config
deriving DecidableEq, Repr

/-- A command: what is to be done, with which configuration file and which store. -/
structure Command where
  task : Task
  configFile : Option String := none
  storeRoot : String := ".courier/store"
deriving DecidableEq, Repr

/-- Why there is no command: the arguments are refused, or ask for the version. -/
inductive Stop where
  | refused
  | version
deriving DecidableEq, Repr

/-! ### Reading -/

/-- The options that were given, the first one first. -/
structure Given where
  values : List (Setting × String) := []
  isVerbose : Bool := false

namespace Given

/-- The value of an option. -/
def value? (g : Given) (s : Setting) : Option String := g.values.lookup s

/-- Takes the value of an option. -/
def take (g : Given) (s : Setting) (value : String) : Except Stop Given :=
  if s.accepts value && (s.isRepeatable || (g.value? s).isNone) then
    .ok { g with values := g.values ++ [(s, value)] }
  else .error .refused

end Given

/-- What was read of a command line: the task if it was named, the option that waits for its value,
the options before the name of the task and since, and the other words. -/
structure Reading where
  task : Option TaskName := none
  waiting : Option Setting := none
  isTrailing : Bool := false
  before : Given := {}
  given : Given := {}
  words : List String := []

namespace Reading

/-- Takes the value of an option. -/
def take (r : Reading) (s : Setting) (value : String) : Except Stop Reading := do
  pure { r with given := ← r.given.take s value, waiting := none }

/-- Takes the option that asks for more messages, which counts once. -/
def takeVerbose (r : Reading) : Except Stop Reading :=
  if r.given.isVerbose then .error .refused
  else .ok { r with given := { r.given with isVerbose := true } }

/-- Asks for the version, which is known only before a task is named. -/
def takeVersion (r : Reading) : Except Stop Reading :=
  .error (if r.task.isNone then .version else .refused)

/-- Reads options of one letter; what follows one that takes a value is its value. -/
def takeLetters (r : Reading) : List Char → Except Stop Reading
  | [] => .ok r
  | 'v' :: rest => do (← r.takeVerbose).takeLetters rest
  | 'V' :: _ => r.takeVersion
  | ['c'] => .ok { r with waiting := some .config }
  | 'c' :: '=' :: value => r.take .config (String.ofList value)
  | 'c' :: value => r.take .config (String.ofList value)
  | _ => .error .refused

/-- Reads an option of a whole word, its value behind an equals sign or still to come. -/
def takeLong (r : Reading) (option : List Char) : Except Stop Reading :=
  match splitFirst? '=' option with
  | some (word, value) =>
    match Setting.ofWord? r.task (String.ofList word) with
    | some s => r.take s (String.ofList value)
    | none => .error .refused
  | none =>
    if option = "verbose".toList then r.takeVerbose
    else if option = "version".toList then r.takeVersion
    else
      match Setting.ofWord? r.task (String.ofList option) with
      | some s => .ok { r with waiting := some s }
      | none => .error .refused

/-- Reads a word that is no option. -/
def takeWord (r : Reading) (word : String) : Except Stop Reading :=
  match r.task with
  | some _ => .ok { r with words := r.words ++ [word] }
  | none =>
    match TaskName.ofWord? word with
    | some task => .ok { r with task := some task, before := r.given, given := {} }
    | none => .error .refused

/-- Reads one argument. -/
def step (r : Reading) (argument : String) : Except Stop Reading :=
  if r.isTrailing then r.takeWord argument
  else
    match r.waiting, argument.toList with
    | some _, '-' :: _ :: _ => .error .refused
    | some s, _ => r.take s argument
    | none, ['-', '-'] => if r.task.isNone then .error .refused else .ok { r with isTrailing := true }
    | none, '-' :: '-' :: option => r.takeLong option
    | none, '-' :: c :: letters => r.takeLetters (c :: letters)
    | none, _ => r.takeWord argument

/-- The value of an option, by preference one behind the name of the task. -/
def value? (r : Reading) (s : Setting) : Option String :=
  (r.given.value? s).or (r.before.value? s)

/-- The properties that were given. -/
def properties (r : Reading) : List (String × String) :=
  r.given.values.filterMap fun (s, value) =>
    if s = .property then
      (splitFirst? '=' value.toList).map fun (key, value) => (String.ofList key, String.ofList value)
    else none

/-- The words of a task that has an input file or none. -/
def inputOf : List String → Except Stop (Option String)
  | [] => .ok none
  | [path] => if path = "" then .error .refused else .ok (some path)
  | _ => .error .refused

/-- What is to be done once all arguments are read. -/
def toTask (r : Reading) (task : TaskName) : Except Stop Task :=
  match task, r.words with
  | .encode, words => .encode <$> inputOf words
  | .decode, words => .decode <$> inputOf words
  | .send, destination :: words => do
    pure (.send destination (← inputOf words) (r.value? .correlationId) (r.value? .sessionId)
      r.properties)
  | .delete, [url] => .ok (.delete url)
  | .trigger, words => .trigger <$> inputOf words
  | .config, [] => .ok .config
  | _, _ => .error .refused

/-- The command that was read. -/
def toCommand (r : Reading) : Except Stop Command :=
  match r.waiting, r.task with
  | none, some task => do
    let task ← r.toTask task
    let defaults : Command := { task }
    pure
      { defaults with
        configFile := r.value? .config
        storeRoot := (r.value? .storeRoot).getD defaults.storeRoot }
  | _, _ => .error .refused

end Reading

/-- The command that arguments spell. -/
def Command.ofArguments (arguments : List String) : Except Stop Command := do
  (← arguments.foldlM Reading.step {}).toCommand

end ClaimCheck.Cli
