import Mathlib
import ClaimCheck.Cli.Host
import ClaimCheck.Cli.Run
import ClaimCheck.Proofs.Disk.Outcomes
import ClaimCheck.Proofs.Relay.Attempt

/-!
# Commands on a host

What the parts of a command do on a host.  The configuration and the input are read without any
change to the disk, so a command whose arguments are accepted and whose configuration is loaded
(`Begins`) ends as its task does (`Begins.run`).  A relay's program runs in one go on the host, its
calls to a store on the disk alone (`Host.run_relay`, `Host.run_onDisk`).
-/

namespace ClaimCheck.Cli

variable {α β ε : Type} {h h' h'' : Host}

/-! ## Work -/

namespace Host

/-- Work goes on with the value of its first part and stops at its failure. -/
lemma run_work_bind (h : Host) (p : Work α) (f : α → Work β) :
    h.run (p >>= f).run =
      match h.run p.run with
      | (.ok a, h') => h'.run (f a).run
      | (.error failure, h') => (.error failure, h') := by
  change h.run (Program.bind p.run (ExceptT.bindCont f)) = _
  unfold run
  rw [Program.run_bind]
  rcases p.run.run answer h with ⟨failure | a, h'⟩ <;> rfl

/-- Work in two parts ends well exactly if both do. -/
lemma run_work_bind_eq_ok_iff {p : Work α} {f : α → Work β} {b : β} :
    h.run (p >>= f).run = (.ok b, h'') ↔
      ∃ a h', h.run p.run = (.ok a, h') ∧ h'.run (f a).run = (.ok b, h'') := by
  rw [run_work_bind]
  rcases h.run p.run with ⟨failure | a, h'⟩ <;> simp

/-- An outcome that is known changes nothing. -/
lemma run_ofOutcome (h : Host) (wrap : ε → Failure) (outcome : Except ε α) :
    h.run (Work.ofOutcome wrap outcome).run = (outcome.mapError wrap, h) := rfl

/-- A file is read without a change. -/
lemma run_readFile (h : Host) (path : String) :
    h.run (ExceptT.lift (readFile path) : Work _).run =
      (.ok (h.disk.read (Disk.Path.ofFileText path)), h) := rfl

/-- A program on the file system changes nothing but the disk. -/
lemma run_onDisk (h : Host) (p : Disk.Action α) :
    h.run (Console.onDisk p) = ((h.disk.run p).1, { h with disk := (h.disk.run p).2 }) := by
  unfold run Console.onDisk Disk.Machine.run
  rw [Program.run_interpret]
  induction p generalizing h with
  | done a => rfl
  | ask r next ih => exact ih _ _

/-- What a host answers to a relay whose stores are directories below `root`. -/
def answerRelay (root : Disk.Path) (r : ClaimCheck.Request) (h : Host) : r.Reply × Host :=
  h.run (Console.answer root r)

/-- A relay's program asks the host itself. -/
lemma run_relay (h : Host) (root : Disk.Path) (p : Relay α) :
    h.run (Console.relay root p) = p.run (answerRelay root) h :=
  Program.run_interpret _ _ _ _

/-- A relay's attempt goes on with the value of its first part and stops at its fault. -/
lemma run_relay_bind (h : Host) (root : Disk.Path) (p : Attempt ε α) (f : α → Attempt ε β) :
    h.run (Console.relay root (p >>= f).run) =
      match h.run (Console.relay root p.run) with
      | (.ok a, h') => h'.run (Console.relay root (f a).run)
      | (.error fault, h') => (.error fault, h') := by
  simp only [run_relay]
  rw [Attempt.run_bind, Program.run_bind]
  rcases p.run.run (answerRelay root) h with ⟨fault | a, h'⟩ <;> rfl

/-- A relay's attempt in two parts ends well exactly if both do. -/
lemma run_relay_bind_eq_ok_iff {root : Disk.Path} {p : Attempt ε α} {f : α → Attempt ε β} {b : β} :
    h.run (Console.relay root (p >>= f).run) = (.ok b, h'') ↔
      ∃ a h', h.run (Console.relay root p.run) = (.ok a, h') ∧
        h'.run (Console.relay root (f a).run) = (.ok b, h'') := by
  rw [run_relay_bind]
  rcases h.run (Console.relay root p.run) with ⟨fault | a, h'⟩ <;> simp

/-- An outcome that a relay knows asks nothing. -/
lemma run_relay_ofOutcome {ε' : Type} (h : Host) (root : Disk.Path) (wrap : ε → ε')
    (outcome : Except ε α) :
    h.run (Console.relay root (Attempt.ofOutcome wrap outcome).run) = (outcome.mapError wrap, h) := by
  rw [run_relay, Attempt.run_ofOutcome]
  rfl

/-- Putting the fault of a relay's attempt into other terms changes nothing else. -/
lemma run_relay_wrapping {ε' : Type} (h : Host) (root : Disk.Path) (wrap : ε → ε')
    (p : Attempt ε α) :
    h.run (Console.relay root (Attempt.wrapping wrap p).run) =
      ((h.run (Console.relay root p.run)).1.mapError wrap,
        (h.run (Console.relay root p.run)).2) := by
  simp only [run_relay]
  rw [Attempt.run_wrapping, Program.run_bind]
  rfl

/-- A relay's attempt as work of a command. -/
lemma run_workRelay (h : Host) (root : Disk.Path) (wrap : ε → Failure) (p : Attempt ε α) :
    h.run (Work.relay root wrap p).run =
      ((h.run (Console.relay root p.run)).1.mapError wrap,
        (h.run (Console.relay root p.run)).2) := by
  change h.run (Program.bind (Console.relay root p.run) _) = _
  unfold run
  rw [Program.run_bind]
  rfl

end Host

/-! ## Input -/

/-- The bytes of a text are read as that text. -/
lemma textOf_toUTF8 (text : String) : textOf text.toUTF8 = .ok text := by
  unfold textOf
  rw [Text.Utf8.fromUTF8?_toUTF8]

/-- A file that holds a text is read as it is. -/
lemma Host.run_readInput_some {path text : String}
    (hfile : h.disk.read (Disk.Path.ofFileText path) = .ok text.toUTF8) :
    h.run (readInput (some path)).run = (.ok text, h) := by
  unfold readInput
  rw [run_work_bind, run_readFile, hfile]
  dsimp only
  rw [run_ofOutcome]
  dsimp only [Except.bind]
  rw [textOf_toUTF8]
  rfl

/-- A text on the standard input is read without a line end. -/
lemma Host.run_readInput_none {text : String} (hinput : h.input = text.toUTF8) :
    h.run (readInput none).run = (.ok (dropLineEnd text), { h with input := ByteArray.empty }) := by
  have hperform : h.run (ExceptT.lift (Console.perform .input) : Work _).run =
      (.ok h.input, { h with input := ByteArray.empty }) := rfl
  unfold readInput
  rw [run_work_bind, hperform, hinput]
  dsimp only
  rw [textOf_toUTF8]
  rfl

/-! ## Configurations -/

section Config

variable {file : Option String} {environment : List (String × String)} {c : Config}

/-- The configuration that the variables are put over: that of the file if there is one. -/
def baseConfig (disk : Disk.Machine) : Option String → Except Failure Config
  | none => .ok {}
  | some path =>
    (Config.ofFile (disk.read (Disk.Path.ofFileText path))).mapError fun fault =>
      (Failure.ofConfig fault).causing ("loading " ++ path)

/-- A configuration is loaded from the disk without a change. -/
lemma Host.run_loadConfig (h : Host) (file : Option String)
    (environment : List (String × String)) :
    h.run (loadConfig file environment).run =
      ((baseConfig h.disk file).bind fun base => (base.withOverrides environment).mapError fun fault =>
        (Failure.ofConfig fault).causing "applying COURIER_* overrides", h) := by
  unfold loadConfig
  cases file with
  | none => rfl
  | some path =>
    dsimp only [baseConfig]
    rw [run_work_bind, run_readFile]
    dsimp only
    rw [run_work_bind, run_ofOutcome]
    rcases Config.ofFile (h.disk.read (Disk.Path.ofFileText path)) with fault | base <;> rfl

/-- A configuration is loaded exactly if its base is and takes the variables. -/
lemma Host.run_loadConfig_eq_ok_iff : (h.run (loadConfig file environment).run).1 = .ok c ↔
    ∃ base, baseConfig h.disk file = .ok base ∧ base.withOverrides environment = .ok c := by
  rw [run_loadConfig]
  rcases baseConfig h.disk file with failure | base
  · simp [Except.bind]
  · simp [Except.bind, Disk.mapError_eq_ok_iff]

/-- A configuration that was loaded is loaded again as long as the disk only grows. -/
lemma run_loadConfig_of_fills {made : Disk.Location → Disk.Node ByteArray → Prop}
    (hfills : h.disk.Fills made h'.disk) (hloaded : (h.run (loadConfig file environment).run).1 = .ok c) :
    (h'.run (loadConfig file environment).run).1 = .ok c := by
  obtain ⟨base, hbase, hoverrides⟩ := Host.run_loadConfig_eq_ok_iff.mp hloaded
  refine Host.run_loadConfig_eq_ok_iff.mpr ⟨base, ?_, hoverrides⟩
  cases file with
  | none => exact hbase
  | some path =>
    dsimp only [baseConfig] at hbase ⊢
    cases hread : h.disk.read (Disk.Path.ofFileText path) with
    | error fault =>
      rw [hread] at hbase
      cases hbase
    | ok data =>
      rw [hread] at hbase
      rw [hfills.read hread]
      exact hbase

end Config

/-! ## Tasks -/

/-- A command starts a task with a setup: its arguments are accepted and its configuration is
loaded. -/
def Begins (h : Host) (arguments : List String) (environment : List (String × String)) (s : Setup)
    (task : Task) : Prop :=
  ∃ command, Command.ofArguments arguments = .ok command ∧ command.task = task ∧
    (h.run (loadConfig command.configFile environment).run).1 = .ok s.config ∧
    s.root = Disk.Path.ofText command.storeRoot ∧ s.isColored = Ink.isAskedBy environment

/-- A command ends as its task does. -/
lemma Begins.run {arguments : List String} {environment : List (String × String)} {s : Setup}
    {task : Task} (hbegins : Begins h arguments environment s task) :
    h.run (Cli.run arguments environment) =
      match h.run (s.perform task).run with
      | (.ok printed, h') => (⟨0, printed⟩, h')
      | (.error failure, h') => (⟨1, { err := failure.report }⟩, h') := by
  obtain ⟨command, harguments, rfl, hloaded, hroot, hcolored⟩ := hbegins
  have hsetup : (⟨s.config, Disk.Path.ofText command.storeRoot, Ink.isAskedBy environment⟩ : Setup) =
      s := by
    rw [← hroot, ← hcolored]
  -- loading the configuration leaves the host as it is, so the task starts where the command did
  have hwork : h.run (command.work environment).run = h.run (s.perform command.task).run := by
    have hpair : h.run (loadConfig command.configFile environment).run = (.ok s.config, h) := by
      rw [h.run_loadConfig] at hloaded ⊢
      exact Prod.ext hloaded rfl
    unfold Command.work
    rw [Host.run_work_bind, hpair]
    dsimp only
    rw [hsetup]
  unfold Cli.run
  rw [harguments]
  change h.run (Program.bind (command.work environment).run _) = _
  unfold Host.run at hwork ⊢
  rw [Program.run_bind, hwork]
  rcases (s.perform command.task).run.run Host.answer h with ⟨failure | printed, h'⟩ <;> rfl

/-- A command that ends well has done its task. -/
lemma Begins.run_eq_ok_iff {arguments : List String} {environment : List (String × String)}
    {s : Setup} {task : Task} {printed : Printed} (hbegins : Begins h arguments environment s task) :
    h.run (Cli.run arguments environment) = (⟨0, printed⟩, h') ↔
      h.run (s.perform task).run = (.ok printed, h') := by
  rw [hbegins.run]
  rcases h.run (s.perform task).run with ⟨failure | printed, h'⟩ <;> simp

end ClaimCheck.Cli
