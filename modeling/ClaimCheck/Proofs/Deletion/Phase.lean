import Mathlib
import ClaimCheck.Proofs.Deletion.Program
import ClaimCheck.Proofs.World.Opening

/-!
# The phases of a deletion

The deletion of a blob goes through phases, from the address that was read to the session that was
closed (`Phase`), and what remains to be done in each phase is a program (`Phase.program`).  Of what
is answered on the way only the three calls to the store matter: the *standing* of a deletion says
how far these have got.

`Phase.exists_moves` says all that one request can do: it either leaves the standing as it is and
makes no call, or it is the call that the standing waits for, and the new standing follows from the
answer of the account.
-/

namespace ClaimCheck

open Identity Store

/-- A request is denied: no credential is given out, or a credential does not open the store. -/
def World.Denies (w : World) : Request → Prop
  | .acquire _ => w.ledger.failing = true
  | .connect _ credential => w.denial? credential ≠ none
  | _ => False

/-- Deletions of blobs of one container, each by its own address and coordinator. -/
structure DeletionCalls (ι : Type) where
  account : String
  container : String
  coordinator : ι → Coordinator
  url : ι → String
  suffix : ι → String
  name : ι → String
  target_eq : ∀ i, Target.ofUrl (url i) = .ok ⟨account, suffix i, container, some (name i)⟩

namespace DeletionCalls

variable {ι : Type}

/-- The program of a deletion. -/
def program (d : DeletionCalls ι) (i : ι) : Relay (Except LifecycleFault DeletionOutcome) :=
  ((d.coordinator i).delete (d.url i)).run

/-- The client that a session of a deletion has. -/
def client (d : DeletionCalls ι) : Client := ⟨d.account⟩

/-- The blob that a deletion names. -/
def place (d : DeletionCalls ι) (i : ι) : Locator := ⟨d.container, d.name i⟩

end DeletionCalls

/-! ## Standings -/

/-- How a deletion ends in its session: the blob was deleted, with its container or without, or a
call was refused. -/
inductive Verdict where
  | deleted (withContainer : Bool)
  | failed (fault : Store.Fault)

/-- The outcome that a verdict gives for a blob. -/
def Verdict.outcome (place : Locator) : Verdict → Except LifecycleFault DeletionOutcome
  | deleted withContainer => .ok (.blob place withContainer)
  | failed fault => .error (.store fault)

/-- How far the calls of a deletion have got: none was made, the names were listed, the blob was
deleted and the container is next, or no more calls are to be made. -/
inductive Standing where
  | waiting
  | listed (names : List String)
  | emptied
  | settled (verdict : Verdict)

namespace Standing

/-- The blob was deleted. -/
def Deleted : Standing → Prop
  | emptied | settled (.deleted _) => True
  | _ => False

/-- The container was deleted. -/
def Took : Standing → Prop
  | settled (.deleted true) => True
  | _ => False

/-- The blob was deleted as the only one that had been listed. -/
def Bare : Standing → Prop
  | emptied | settled (.deleted true) => True
  | _ => False

/-- The standing after a listing. -/
def afterList : Except Store.Fault (List String) → Standing
  | .ok names => listed names
  | .error fault => settled (.failed fault)

/-- The standing after the deletion of the blob. -/
def afterDelete (names : List String) : Except Store.Fault Unit → Standing
  | .ok _ => if names.length = 1 then emptied else settled (.deleted false)
  | .error fault => settled (.failed fault)

/-- The standing after the deletion of the container. -/
def afterEmpty : Except Store.Fault Unit → Standing
  | .ok _ => settled (.deleted true)
  | .error fault => settled (.failed fault)

/-- A deletion that has listed does not wait any more. -/
lemma afterList_ne_waiting (outcome : Except Store.Fault (List String)) :
    afterList outcome ≠ waiting := by
  intro hwaiting
  cases outcome <;> cases hwaiting

/-- A deletion that has asked to delete the blob does not wait any more. -/
lemma afterDelete_ne_waiting (names : List String) (outcome : Except Store.Fault Unit) :
    afterDelete names outcome ≠ waiting := by
  intro hwaiting
  cases outcome with
  | ok _ =>
    rw [afterDelete] at hwaiting
    split at hwaiting <;> cases hwaiting
  | error fault => cases hwaiting

/-- A deletion that has asked to delete the container does not wait any more. -/
lemma afterEmpty_ne_waiting (outcome : Except Store.Fault Unit) : afterEmpty outcome ≠ waiting := by
  intro hwaiting
  cases outcome <;> cases hwaiting

/-- What one request of a deletion does to its standing, from the account that answers it. -/
inductive Moves {ι : Type} (d : DeletionCalls ι) (i : ι) (a : Account) :
    Standing → Request → Standing → Prop
  | quiet (st : Standing) {r : Request} (hr : ∀ client call, r ≠ .call client call) :
    Moves d i a st r st
  | list : Moves d i a waiting (.call d.client (.list d.container))
    (afterList (a.answer (.list d.container)).1)
  | delete (names : List String) :
    Moves d i a (listed names) (.call d.client (.deleteBlob (d.place i)))
    (afterDelete names (a.answer (.deleteBlob (d.place i))).1)
  | empty : Moves d i a emptied (.call d.client (.deleteContainer d.container))
    (afterEmpty (a.answer (.deleteContainer d.container)).1)

end Standing

/-! ## Programs -/

namespace DeletionCalls

variable {ι : Type} (d : DeletionCalls ι) (i : ι)

/-- Closes the session and ends as a verdict says. -/
def closing (session : Session) (verdict : Verdict) :
    Relay (Except LifecycleFault DeletionOutcome) :=
  .ask (.disconnect session.client) fun _ =>
    .ask (.release session.credential) fun _ => .done (verdict.outcome (d.place i))

/-- Deletes the container. -/
def emptying (session : Session) : Relay (Except LifecycleFault DeletionOutcome) :=
  .ask (.call session.client (.deleteContainer d.container)) fun
    | .error fault => d.closing i session (.failed fault)
    | .ok _ => d.closing i session (.deleted true)

/-- Deletes the blob, after these names were listed. -/
def deleting (session : Session) (names : List String) :
    Relay (Except LifecycleFault DeletionOutcome) :=
  .ask (.call session.client (.deleteBlob (d.place i))) fun
    | .error fault => d.closing i session (.failed fault)
    | .ok _ =>
      if names.length = 1 then d.emptying i session else d.closing i session (.deleted false)

/-- Lists the container. -/
def listing (session : Session) : Relay (Except LifecycleFault DeletionOutcome) :=
  .ask (.call session.client (.list d.container)) fun
    | .error fault => d.closing i session (.failed fault)
    | .ok names => d.deleting i session names

/-- Gives a credential back that opened no client. -/
def refusing (credential : Credential) (fault : Store.Fault) :
    Relay (Except LifecycleFault DeletionOutcome) :=
  .ask (.release credential) fun _ => .done (.error (.store fault))

/-- Connects with a credential. -/
def connecting (credential : Credential) : Relay (Except LifecycleFault DeletionOutcome) :=
  .ask (.connect ⟨d.account, d.suffix i⟩ credential) fun
    | .error fault => refusing credential fault
    | .ok client => d.listing i ⟨client, credential⟩

/-- The calls of a deletion in its session, and the closing of the session. -/
lemma listing_eq (session : Session) :
    ((Coordinator.deleteBlob (d.place i) session).run.bind fun outcome =>
      .ask (.disconnect session.client) fun _ => .ask (.release session.credential) fun _ =>
        .done (outcome.mapError LifecycleFault.store)) = d.listing i session := by
  rw [Coordinator.run_deleteBlob, Program.ask_bind, listing]
  congr 1
  funext listed
  rcases listed with fault | names
  · rfl
  · dsimp only [Program.ask_bind]
    rw [deleting]
    congr 1
    funext deleted
    rcases deleted with fault | _
    · rfl
    · dsimp only
      split
      · dsimp only [Program.ask_bind]
        rw [emptying]
        congr 1
        funext emptied
        rcases emptied with fault | _ <;> rfl
      · rfl

/-- A deletion starts by acquiring a credential. -/
lemma program_eq :
    d.program i = .ask (.acquire (d.coordinator i).access.selector) fun
      | .error fault => .done (.error (.store (.identity fault)))
      | .ok credential => d.connecting i credential := by
  unfold program
  rw [Coordinator.run_delete_of_target (d.target_eq i), Access.run_within, Access.run_openSession]
  simp only [Program.ask_bind]
  congr 1
  funext acquired
  rcases acquired with fault | credential
  · rfl
  · dsimp only [Program.ask_bind]
    rw [connecting]
    congr 1
    funext connected
    rcases connected with fault | client
    · rfl
    · dsimp only [Program.pure_bind]
      rw [← listing_eq, Program.bind_assoc]
      rfl

end DeletionCalls

/-! ## Phases -/

/-- Where a deletion is. -/
inductive Phase where
  | start
  | acquired (credential : Credential)
  | refused (credential : Credential) (fault : Store.Fault)
  | turnedAway (fault : Store.Fault)
  | opened (credential : Credential)
  | listed (credential : Credential) (names : List String)
  | emptied (credential : Credential)
  | closing (credential : Credential) (verdict : Verdict)
  | releasing (credential : Credential) (verdict : Verdict)
  | ended (verdict : Verdict)

namespace Phase

variable {ι : Type}

/-- How far the calls have got in a phase. -/
def standing : Phase → Standing
  | listed _ names => .listed names
  | emptied _ => .emptied
  | closing _ verdict | releasing _ verdict | ended verdict => .settled verdict
  | _ => .waiting

/-- What remains to be done in a phase. -/
def program (d : DeletionCalls ι) (i : ι) :
    Phase → Relay (Except LifecycleFault DeletionOutcome)
  | start => d.program i
  | acquired credential => d.connecting i credential
  | refused credential fault => DeletionCalls.refusing credential fault
  | turnedAway fault => .done (.error (.store fault))
  | opened credential => d.listing i ⟨d.client, credential⟩
  | listed credential names => d.deleting i ⟨d.client, credential⟩ names
  | emptied credential => d.emptying i ⟨d.client, credential⟩
  | closing credential verdict => d.closing i ⟨d.client, credential⟩ verdict
  | releasing credential verdict =>
    .ask (.release credential) fun _ => .done (verdict.outcome (d.place i))
  | ended verdict => .done (verdict.outcome (d.place i))

/-- The deletion was not let into the store. -/
def TurnedAway : Phase → Prop
  | refused _ _ | turnedAway _ => True
  | _ => False

/-- What one request of a deletion can do: the deletion is in another phase then, its standing moved
as the request and the answer of the account say, and it is turned away only by a denial. -/
lemma exists_moves {d : DeletionCalls ι} {i : ι} {phase : Phase} {r : Request}
    {next : r.Reply → Relay (Except LifecycleFault DeletionOutcome)}
    (hprogram : phase.program d i = .ask r next) (w : World) :
    ∃ phase' : Phase, next (World.answer r w).1 = phase'.program d i ∧
      (phase'.TurnedAway → phase.TurnedAway ∨ w.Denies r) ∧
      Standing.Moves d i (w.account d.account) phase.standing r phase'.standing := by
  cases phase with
  | start =>
    unfold program at hprogram
    rw [DeletionCalls.program_eq] at hprogram
    cases hprogram
    have hanswer : World.answer (.acquire (d.coordinator i).access.selector) w =
        w.acquire (d.coordinator i).access.selector := rfl
    dsimp only
    rw [hanswer]
    cases hworks : w.ledger.failing with
    | true =>
      rw [World.acquire_of_failing hworks]
      exact ⟨turnedAway _, rfl, fun _ => .inr hworks, .quiet _ (by simp)⟩
    | false =>
      rw [World.acquire_of_working hworks]
      exact ⟨acquired _, rfl, fun h => h.elim, .quiet _ (by simp)⟩
  | acquired credential =>
    cases hprogram
    have hconnect := World.connect_fst w ⟨d.account, d.suffix i⟩ credential
    change (World.answer (.connect ⟨d.account, d.suffix i⟩ credential) w).1 = _ at hconnect
    rw [hconnect]
    cases hdenial : w.denial? credential with
    | some denial =>
      refine ⟨refused credential (.accessDenied denial ⟨d.account, d.suffix i⟩), rfl,
        fun _ => .inr ?_, .quiet _ (by simp)⟩
      change w.denial? credential ≠ none
      rw [hdenial]
      exact Option.some_ne_none _
    | none => exact ⟨opened credential, rfl, fun h => h.elim, .quiet _ (by simp)⟩
  | refused credential fault =>
    cases hprogram
    exact ⟨turnedAway fault, rfl, fun _ => .inl trivial, .quiet _ (by simp)⟩
  | turnedAway fault => cases hprogram
  | opened credential =>
    cases hprogram
    have hanswer : (World.answer (.call d.client (.list d.container)) w).1 =
        ((w.account d.account).answer (.list d.container)).1 := rfl
    have hmoves := Standing.Moves.list (d := d) (i := i) (a := w.account d.account)
    dsimp only
    rw [hanswer]
    generalize ((w.account d.account).answer (.list d.container)).1 = reply at hmoves ⊢
    rcases reply with fault | names
    · exact ⟨closing credential (.failed fault), rfl, fun h => h.elim, hmoves⟩
    · exact ⟨listed credential names, rfl, fun h => h.elim, hmoves⟩
  | listed credential names =>
    cases hprogram
    have hanswer : (World.answer (.call d.client (.deleteBlob (d.place i))) w).1 =
        ((w.account d.account).answer (.deleteBlob (d.place i))).1 := rfl
    have hmoves := Standing.Moves.delete (d := d) (i := i) (a := w.account d.account) names
    dsimp only
    rw [hanswer]
    generalize ((w.account d.account).answer (.deleteBlob (d.place i))).1 = reply at hmoves ⊢
    rcases reply with fault | _
    · exact ⟨closing credential (.failed fault), rfl, fun h => h.elim, hmoves⟩
    · dsimp only [Standing.afterDelete] at hmoves ⊢
      split
      · next hone =>
        rw [if_pos hone] at hmoves
        exact ⟨emptied credential, rfl, fun h => h.elim, hmoves⟩
      · next hmore =>
        rw [if_neg hmore] at hmoves
        exact ⟨closing credential (.deleted false), rfl, fun h => h.elim, hmoves⟩
  | emptied credential =>
    cases hprogram
    have hanswer : (World.answer (.call d.client (.deleteContainer d.container)) w).1 =
        ((w.account d.account).answer (.deleteContainer d.container)).1 := rfl
    have hmoves := Standing.Moves.empty (d := d) (i := i) (a := w.account d.account)
    dsimp only
    rw [hanswer]
    generalize ((w.account d.account).answer (.deleteContainer d.container)).1 = reply at hmoves ⊢
    rcases reply with fault | _
    · exact ⟨closing credential (.failed fault), rfl, fun h => h.elim, hmoves⟩
    · exact ⟨closing credential (.deleted true), rfl, fun h => h.elim, hmoves⟩
  | closing credential verdict =>
    cases hprogram
    exact ⟨releasing credential verdict, rfl, fun h => h.elim, .quiet _ (by simp)⟩
  | releasing credential verdict =>
    cases hprogram
    exact ⟨ended verdict, rfl, fun h => h.elim, .quiet _ (by simp)⟩
  | ended verdict => cases hprogram

/-- A deletion that has ended was turned away or had a verdict in its session. -/
lemma eq_of_program_done {d : DeletionCalls ι} {i : ι} {phase : Phase}
    {result : Except LifecycleFault DeletionOutcome} (hprogram : phase.program d i = .done result) :
    (∃ fault, phase = turnedAway fault) ∨
      ∃ verdict, phase = ended verdict ∧ result = verdict.outcome (d.place i) := by
  cases phase with
  | start =>
    unfold program at hprogram
    rw [DeletionCalls.program_eq] at hprogram
    cases hprogram
  | turnedAway fault => exact .inl ⟨fault, rfl⟩
  | ended verdict =>
    cases hprogram
    exact .inr ⟨verdict, rfl, rfl⟩
  | _ => cases hprogram

end Phase

end ClaimCheck
