import Mathlib
import ClaimCheck.Proofs.Deletion.Program
import ClaimCheck.Proofs.World.Sessions

/-!
# Deletion events in envelopes

An event that asks for a deletion may come as it is or in an envelope that names the blob with its
text.  Both mean the same: what is deleted, what is refused and what is left of every account agree,
also when the event asks to delete the very blob that it was read from, or its container
(`enveloped_event_handled_alike`).  Reading the event first costs one session of its own, and its call
is logged before all others (`World.ReadFirst`).

Reading comes to an end before anything is deleted, and it changes no container.  So the deletion
starts from a world with the same contents, where it goes alike (`World.runsAlike_within`).
-/

namespace ClaimCheck

open Deletion Store Text

/-! ## Reading -/

section Reading

variable {w : World} {endpoint : Endpoint} {place : Locator} {data : ByteArray}

/-- Reading a blob that is there takes one session and one entry in the log, and changes no
container. -/
lemma World.run_read (hopens : w.Opens) (access : Access)
    (havailable : (w.account endpoint.account).isUnavailable = false)
    (hholds : w.Holds endpoint.account place data) :
    ∃ w', w.run (access.within endpoint fun session => session.call (.get place)).run =
        (.ok data, w') ∧
      SameContents w w' ∧ AfterSessions 1 w w' ∧
      Logged (fun name => if endpoint.account = name then [.get place] else []) w w' := by
  have hsessions := afterSessions_within hopens access endpoint fun session =>
    session.isCall_call (.get place)
  have haccount : ∀ name, (w.run (access.within endpoint fun session =>
      session.call (.get place)).run).2.account name =
        if endpoint.account = name then ((w.account name).answer (.get place)).2
        else w.account name := by
    intro name
    rw [account_within hopens]
    change (answer (.call ⟨endpoint.account⟩ (.get place)) (w.opened access endpoint)).2.account
      name = _
    rw [account_answer_call, account_opened]
  have hresult : (w.run (access.within endpoint fun session =>
      session.call (.get place)).run).1 = .ok data := by
    rw [run_within hopens]
    change (answer (.call ⟨endpoint.account⟩ (.get place)) (w.opened access endpoint)).1 = _
    rw [answer_call_fst, account_opened]
    exact Account.answer_get_of_some havailable hholds
  refine ⟨_, Prod.ext hresult rfl, ⟨fun name => ?_, fun name => ?_⟩, hsessions, fun name => ?_⟩
  · rw [haccount]
    split
    · exact Account.containers_answer_of_reads (.inl ⟨place, rfl⟩)
    · rfl
  · rw [haccount]
    split
    · exact Account.isUnavailable_answer _ _
    · rfl
  · rw [haccount]
    dsimp only
    split
    · exact Account.log_answer _ _
    · rw [List.append_nil]

namespace Codec

variable {codec : Codec}

/-- An envelope is decoded by fetching the blob that it names. -/
lemma run_decode_envelope (hplace : Locator.ofPath place.path = .ok place) :
    (codec.decode (EncodedBody.claimCheck place).text).run = (codec.fetch place).run := by
  unfold decode
  rw [Attempt.run_bind, Attempt.run_ofOutcome, ReceivedBody.ofText_envelope, Program.pure_bind]
  change ExceptT.run (Attempt.ofOutcome _ (Locator.ofPath place.path) >>= _) = _
  rw [Attempt.run_bind, Attempt.run_ofOutcome, hplace]
  rfl

end Codec

end Reading

/-! ## Deleting -/

namespace Coordinator

variable {w w' : World}

/-- A deletion goes alike from worlds with the same contents. -/
lemma runsAlike_delete (coordinator : Coordinator) (url : String) (h : w.SameContents w')
    (hopens : w.Opens) (hopens' : w'.Opens) : World.RunsAlike (coordinator.delete url).run w w' := by
  cases htarget : Target.ofUrl url with
  | error fault =>
    have hrun : (coordinator.delete url).run = .done (.error (.target fault)) := by
      unfold delete
      rw [Attempt.run_bind, Attempt.run_ofOutcome, htarget]
      rfl
    rw [hrun]
    exact World.runsAlike_done h _
  | ok target =>
    rw [run_delete_of_target htarget]
    exact (World.runsAlike_within h hopens hopens' coordinator.access target.endpoint
      (fun _ _ => deleteTarget_congr target) (isCall_deleteTarget target)).map _

end Coordinator

namespace DeletionTrigger

variable {w w' : World}

/-- What a text names is deleted alike from worlds with the same contents. -/
lemma runsAlike_deleteNamed (t : DeletionTrigger) (text : String) (h : w.SameContents w')
    (hopens : w.Opens) (hopens' : w'.Opens) : World.RunsAlike (t.deleteNamed text).run w w' := by
  cases hurl : requestedAddress text with
  | error fault =>
    have hrun : (t.deleteNamed text).run = .done (.error (.request fault)) := by
      unfold deleteNamed
      rw [Attempt.run_bind, Attempt.run_ofOutcome, hurl]
      rfl
    rw [hrun]
    exact World.runsAlike_done h _
  | ok url =>
    rw [t.run_deleteNamed hurl]
    exact t.coordinator.runsAlike_delete url h hopens hopens'

end DeletionTrigger

/-! ## Both together -/

/-- Two worlds that came from the same one differ by the reading of one blob before all else: by one
credential that was acquired and released, by one connection, and by one entry that stands before all
later ones in the log of one account.  No account holds anything else, and all other parts of the
worlds are the same; so are the tokens that are out, unless one was given out twice. -/
structure World.ReadFirst (account : String) (place : Locator) (start w w' : World) : Prop where
  containers : ∀ name, (w'.account name).containers = (w.account name).containers
  isUnavailable : ∀ name, (w'.account name).isUnavailable = (w.account name).isUnavailable
  log : ∀ name, ∃ later, (w.account name).log = (start.account name).log ++ later ∧
    (w'.account name).log =
      (start.account name).log ++ (if account = name then [.get place] else []) ++ later
  acquired : w'.ledger.acquired = w.ledger.acquired + 1
  released : w'.ledger.released = w.ledger.released + 1
  connections : w'.connections = w.connections + 1
  openClients : w'.openClients = w.openClients
  tokens : w'.tokens = w.tokens.rest
  live : start.TokensFresh → w'.ledger.live = w.ledger.live
  lifetime : w'.ledger.lifetime = w.ledger.lifetime
  failing : w'.ledger.failing = w.ledger.failing
  now : w'.now = w.now
  ids : w'.ids = w.ids
  isVerifying : w'.isVerifying = w.isVerifying
  queues : w'.queues = w.queues
  channelFailing : w'.channelFailing = w.channelFailing
  published : w'.published = w.published

/-- Worlds after the same program, of which one read a blob before. -/
lemma World.RunsAlike.readFirst {α : Type} {p : Relay α} {start read : World} {account : String}
    {place : Locator} (halike : RunsAlike p start read) (hsessions : AfterSessions 1 start read)
    (hlogged : Logged (fun name => if account = name then [.get place] else []) start read) :
    ReadFirst account place start (start.run p).2 (read.run p).2 := by
  obtain ⟨later, hlater, hlater'⟩ := halike.exists_later
  obtain ⟨count, hcount, hmore⟩ := halike.exists_count
  have hall : AfterSessions (1 + count) start (read.run p).2 := hsessions.trans hmore
  exact
    { containers := halike.contents.containers
      isUnavailable := halike.contents.isUnavailable
      log := fun name => ⟨later name, hlater name, by rw [hlater', hlogged]⟩
      acquired := by rw [hall.acquired, hcount.acquired]; omega
      released := by rw [hall.released, hcount.released]; omega
      connections := by rw [hall.connections, hcount.connections]; omega
      openClients := hall.openClients.trans hcount.openClients.symm
      tokens := by
        have hdraw := hall.draw.trans hcount.draw.symm
        have hdrawn : (read.run p).2.tokens.drawn = (start.run p).2.tokens.drawn + 1 := by
          rw [hall.drawn, hcount.drawn]
          omega
        cases hsupply : (read.run p).2.tokens
        rw [hsupply] at hdraw hdrawn
        unfold Supply.rest
        congr
      live := fun hfresh => (hall.live hfresh).trans (hcount.live hfresh).symm
      lifetime := hall.lifetime.trans hcount.lifetime.symm
      failing := hall.failing.trans hcount.failing.symm
      now := hall.now.trans hcount.now.symm
      ids := hall.ids.trans hcount.ids.symm
      isVerifying := hall.isVerifying.trans hcount.isVerifying.symm
      queues := hall.queues.trans hcount.queues.symm
      channelFailing := hall.channelFailing.trans hcount.channelFailing.symm
      published := hall.published.trans hcount.published.symm }

/-- An event in an envelope is handled as the event itself is: from the same world both have the same
result and leave the same contents, and they differ only by what reading the event costs. -/
theorem enveloped_event_handled_alike (t : DeletionTrigger) {endpoint : Endpoint} {place : Locator}
    {event : String} {w : World}
    (hplain : ReceivedBody.isPlain (ReceivedBody.ofText event) = true)
    (hendpoint : t.codec.endpoint = some endpoint) (hcontainer : place.container ≠ "")
    (hslash : '/' ∉ place.container.toList) (hname : place.name ≠ "") (hopens : w.Opens)
    (havailable : (w.account endpoint.account).isUnavailable = false)
    (hholds : w.Holds endpoint.account place event.toUTF8) :
    (w.run (t.handle (EncodedBody.claimCheck place).text).run).1 =
        (w.run (t.handle event).run).1 ∧
      World.ReadFirst endpoint.account place w (w.run (t.handle event).run).2
        (w.run (t.handle (EncodedBody.claimCheck place).text).run).2 := by
  obtain ⟨read, hread, hcontents, hsessions, hlogged⟩ :=
    World.run_read hopens t.codec.access havailable hholds
  have henveloped : w.run (t.handle (EncodedBody.claimCheck place).text).run =
      read.run (t.deleteNamed event).run := by
    have hplace := Locator.ofPath_path hcontainer hslash hname
    unfold World.run at hread ⊢
    rw [t.run_handle, Codec.run_decode_envelope hplace, Codec.run_fetch hendpoint,
      Program.bind_assoc, Program.run_bind, hread]
    dsimp only
    rw [Program.pure_bind, Utf8.decode_toUTF8]
    rfl
  have halike := t.runsAlike_deleteNamed event hcontents hopens (hsessions.opens hopens)
  rw [t.run_handle_of_isPlain hplain, henveloped]
  exact ⟨halike.result, halike.readFirst hsessions hlogged⟩

/-- An event that asks to delete the blob in which it is kept. -/
def selfNamingEvent : String :=
  "\x7b\"data\":\x7b\"blob_to_delete\":\"https://stairlock.blob.core.windows.net/c1/b\"\x7d\x7d"

/-- A world in which the event is kept in the blob that it names, the only one of its container. -/
def selfNamingWorld : World :=
  World.repeating.setAccount "stairlock"
    (Account.seed {} ⟨"c1", "b"⟩ selfNamingEvent.toUTF8)

/-- An event deletes the blob that it was read from, and the container with it. -/
theorem self_naming_event_handled_alike :
    (selfNamingWorld.run ((DeletionTrigger.ofConfig stairlockConfig).handle selfNamingEvent).run).1 =
        .ok (.blob ⟨"c1", "b"⟩ true) ∧
      (selfNamingWorld.run ((DeletionTrigger.ofConfig stairlockConfig).handle
        (EncodedBody.claimCheck ⟨"c1", "b"⟩).text).run).1 =
        (selfNamingWorld.run
          ((DeletionTrigger.ofConfig stairlockConfig).handle selfNamingEvent).run).1 ∧
      World.ReadFirst "stairlock" ⟨"c1", "b"⟩ selfNamingWorld
        (selfNamingWorld.run
          ((DeletionTrigger.ofConfig stairlockConfig).handle selfNamingEvent).run).2
        (selfNamingWorld.run ((DeletionTrigger.ofConfig stairlockConfig).handle
          (EncodedBody.claimCheck ⟨"c1", "b"⟩).text).run).2 := by
  have hbody : ReceivedBody.ofText selfNamingEvent = .ok .otherJson := by cbv
  have hplain : ReceivedBody.isPlain (ReceivedBody.ofText selfNamingEvent) = true := by
    rw [hbody]
    rfl
  have hurl : requestedAddress selfNamingEvent =
      .ok "https://stairlock.blob.core.windows.net/c1/b" := by cbv
  have hresult : (selfNamingWorld.run
      ((DeletionTrigger.ofConfig stairlockConfig).handle selfNamingEvent).run).1 =
        .ok (.blob ⟨"c1", "b"⟩ true) := by
    rw [DeletionTrigger.run_handle_of_isPlain _ hplain, DeletionTrigger.run_deleteNamed _ hurl]
    rfl
  have hcontainer : "c1" ≠ "" := by decide
  have hslash : '/' ∉ "c1".toList := by decide
  have hname : "b" ≠ "" := by decide
  have hholds : selfNamingWorld.Holds "stairlock" ⟨"c1", "b"⟩ selfNamingEvent.toUTF8 := rfl
  exact ⟨hresult, enveloped_event_handled_alike (DeletionTrigger.ofConfig stairlockConfig) hplain
    rfl hcontainer hslash hname ⟨rfl, by decide⟩ rfl hholds⟩

end ClaimCheck
