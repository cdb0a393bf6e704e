import Mathlib
import ClaimCheck.Proofs.Codec.Encoding

/-!
# What decoding does to a world

Whoever writes on a channel decides what is decoded, so what a body may lead to matters as much as
what it gives.  A body that is no envelope is given back without a request, and so is the fault of a
malformed envelope, or of one that names a blob where there is no account
(`Codec.decode_outcomes`).  Any other envelope leads to one read in a session of its own, and
`Codec.Fetches` says all that becomes of it: the text of the blob is the result, whatever it looks
like, and no container of any account changes.

Each fault of a fetch is there for one reason, and `Codec.Unfetched` lists the reasons in the order
in which they are met.
-/

namespace ClaimCheck

open Text

/-- Bytes are read as a text exactly if they are the bytes of the text. -/
lemma Text.Utf8.decode_eq_ok_iff {data : ByteArray} {text : String} :
    Utf8.decode data = .ok text ↔ data = text.toUTF8 := by
  constructor
  · intro hread
    unfold Utf8.decode at hread
    cases hfound : String.fromUTF8? data with
    | none =>
      rw [hfound] at hread
      cases hread
    | some found =>
      rw [hfound] at hread
      cases hread
      unfold String.fromUTF8? at hfound
      split at hfound
      · cases hfound
        rfl
      · cases hfound
  · rintro rfl
    exact Utf8.decode_toUTF8 text

namespace Codec

/-- Why the text of a blob is not fetched. -/
inductive Unfetched (access : Access) (endpoint : Endpoint) (place : Locator) (w : World) :
    CodecFault → Prop
  | denied {cause : Store.Fault} (hdenied : w.DeniesCall access endpoint cause) :
    Unfetched access endpoint place w (.store cause)
  | noContainer (hopens : w.OpensSession access endpoint)
    (havailable : (w.account endpoint.account).isUnavailable = false)
    (habsent : (w.account endpoint.account).containers.get? place.container = none) :
    Unfetched access endpoint place w (.store (.containerNotFound place.container))
  | noBlob (hopens : w.OpensSession access endpoint)
    (havailable : (w.account endpoint.account).isUnavailable = false) {blobs : Store.Blobs}
    (hthere : (w.account endpoint.account).containers.get? place.container = some blobs)
    (habsent : blobs.get? place.name = none) :
    Unfetched access endpoint place w (.store (.blobNotFound place))
  | notText (hopens : w.OpensSession access endpoint)
    (havailable : (w.account endpoint.account).isUnavailable = false) {data : ByteArray}
    (hblob : (w.account endpoint.account).blob? place = some data) {fault : Utf8.Fault}
    (hfault : Utf8.decode data = .error fault) :
    Unfetched access endpoint place w (.notText place fault)

/-- What becomes of a blob that is fetched: its text is the result exactly if a session is opened,
the account is available and the blob is there and holds the bytes of a text.  No container of any
account is other than it was; the read is logged exactly if the session was opened, and nothing else
is.  Then all but the log is as after one session. -/
structure Fetches (access : Access) (endpoint : Endpoint) (place : Locator) (w : World)
    (outcome : Except CodecFault String) (w' : World) : Prop where
  eq_ok_iff : ∀ text, outcome = .ok text ↔ w.OpensSession access endpoint ∧
    (w.account endpoint.account).isUnavailable = false ∧
      (w.account endpoint.account).blob? place = some text.toUTF8
  eq_error_iff : ∀ fault, outcome = .error fault ↔ Unfetched access endpoint place w fault
  containers : ∀ name, (w'.account name).containers = (w.account name).containers
  log_of_opens : w.OpensSession access endpoint →
    (w'.account endpoint.account).log = (w.account endpoint.account).log ++ [.get place]
  log_of_not_opens : ¬ w.OpensSession access endpoint →
    (w'.account endpoint.account).log = (w.account endpoint.account).log
  account_of_ne : ∀ name, name ≠ endpoint.account → w'.account name = w.account name
  session : w.OpensSession access endpoint → World.AfterSessions 1 w w'

section Reads

variable {access : Access} {endpoint : Endpoint} {place : Locator} {w w' : World}
  {outcome : Except Store.Fault ByteArray}

/-- The outcome of a fetch from the outcome of its read. -/
def fetchedFrom (place : Locator) : Except Store.Fault ByteArray → Except CodecFault String
  | .error fault => .error (.store fault)
  | .ok data => (Utf8.decode data).mapError (.notText place)

/-- A fetch succeeds exactly if its read gives the bytes of a text. -/
lemma fetchedFrom_eq_ok_iff {text : String} :
    fetchedFrom place outcome = .ok text ↔ outcome = .ok text.toUTF8 := by
  rcases outcome with fault | data
  · simp [fetchedFrom]
  · have hdecode : (Utf8.decode data).mapError (CodecFault.notText place) = .ok text ↔
        Utf8.decode data = .ok text := by
      cases Utf8.decode data <;> simp [Except.mapError]
    simp [fetchedFrom, hdecode, Utf8.decode_eq_ok_iff]

/-- A fetch fails exactly if its read does, or gives bytes that are no text. -/
lemma fetchedFrom_eq_error_iff {fault : CodecFault} :
    fetchedFrom place outcome = .error fault ↔
      (∃ cause, outcome = .error cause ∧ fault = .store cause) ∨
        ∃ data cause, outcome = .ok data ∧ Utf8.decode data = .error cause ∧
          fault = .notText place cause := by
  rcases outcome with cause | data
  · simp [fetchedFrom, eq_comm]
  · cases hdecode : Utf8.decode data <;> simp [fetchedFrom, hdecode, Except.mapError, eq_comm]

/-- A read in a session of its own fails, or gives bytes that are no text, for one of the reasons for
which a text is not fetched. -/
lemma fetchedFrom_eq_error_iff_unfetched
    (h : w.CallsOnce access endpoint (.get place) outcome w') {fault : CodecFault} :
    fetchedFrom place outcome = .error fault ↔ Unfetched access endpoint place w fault := by
  have hread : ∀ data, outcome = .ok data ↔ w.OpensSession access endpoint ∧
      (w.account endpoint.account).isUnavailable = false ∧
        (w.account endpoint.account).blob? place = some data := by
    intro data
    rw [h.eq_ok_iff, Store.Account.perform_get_eq_ok_iff]
  have hrefused : ∀ cause, outcome = .error cause ↔ w.DeniesCall access endpoint cause ∨
      w.OpensSession access endpoint ∧ (w.account endpoint.account).isUnavailable = false ∧
        (((w.account endpoint.account).containers.get? place.container = none ∧
            cause = .containerNotFound place.container) ∨
          ∃ blobs, (w.account endpoint.account).containers.get? place.container = some blobs ∧
            blobs.get? place.name = none ∧ cause = .blobNotFound place) := by
    intro cause
    rw [h.eq_error_iff, Store.Account.perform_get_eq_error_iff]
  simp only [fetchedFrom_eq_error_iff, hread, hrefused]
  constructor
  · rintro (⟨cause, hdenied | ⟨hopens, havailable, ⟨habsent, rfl⟩ | ⟨blobs, hthere, habsent, rfl⟩⟩,
      rfl⟩ | ⟨data, cause, ⟨hopens, havailable, hblob⟩, hfault, rfl⟩)
    · exact .denied hdenied
    · exact .noContainer hopens havailable habsent
    · exact .noBlob hopens havailable hthere habsent
    · exact .notText hopens havailable hblob hfault
  · rintro (hdenied | ⟨hopens, havailable, habsent⟩ | ⟨hopens, havailable, hthere, habsent⟩ |
      ⟨hopens, havailable, hblob, hfault⟩)
    · exact .inl ⟨_, .inl hdenied, rfl⟩
    · exact .inl ⟨_, .inr ⟨hopens, havailable, .inl ⟨habsent, rfl⟩⟩, rfl⟩
    · exact .inl ⟨_, .inr ⟨hopens, havailable, .inr ⟨_, hthere, habsent, rfl⟩⟩, rfl⟩
    · exact .inr ⟨_, _, ⟨hopens, havailable, hblob⟩, hfault, rfl⟩

/-- A read in a session of its own fetches the blob that it reads. -/
lemma fetches_of_callsOnce (h : w.CallsOnce access endpoint (.get place) outcome w') :
    Fetches access endpoint place w (fetchedFrom place outcome) w' where
  eq_ok_iff text := by
    rw [fetchedFrom_eq_ok_iff, h.eq_ok_iff, Store.Account.perform_get_eq_ok_iff]
  eq_error_iff _ := fetchedFrom_eq_error_iff_unfetched h
  containers name := by
    by_cases hopens : w.OpensSession access endpoint
    · rcases eq_or_ne name endpoint.account with rfl | hne
      · rw [(h.of_opens hopens).1]
        exact Store.Account.containers_answer_of_reads (.inl ⟨place, rfl⟩)
      · rw [h.account_of_ne hne]
    · rw [h.account_of_not_opens hopens]
  log_of_opens := h.log_of_opens
  log_of_not_opens hcloses := by rw [h.account_of_not_opens hcloses]
  account_of_ne _ hne := h.account_of_ne hne
  session hopens := (h.of_opens hopens).2

end Reads

variable {codec : Codec} {endpoint : Endpoint}

/-- A fetch reads the blob in a session of its own. -/
lemma fetches_fetch (hendpoint : codec.endpoint = some endpoint) (place : Locator) (w : World) :
    Fetches codec.access endpoint place w (w.run (codec.fetch place).run).1
      (w.run (codec.fetch place).run).2 := by
  set read := (codec.access.within endpoint fun session => session.call (.get place)).run
  have hrun : w.run (codec.fetch place).run =
      (fetchedFrom place (w.run read).1, (w.run read).2) := by
    rw [run_fetch hendpoint]
    unfold World.run
    rw [Program.run_bind]
    rcases (read.run World.answer w).1 with fault | data <;> rfl
  rw [hrun]
  exact fetches_of_callsOnce (w.callsOnce_within codec.access endpoint _)

/-- A fetch asks for one credential. -/
lemma acquires_fetch (hendpoint : codec.endpoint = some endpoint) (place : Locator) (w : World) :
    ((codec.fetch place).run.asked World.answer w).filter Request.isAcquire =
      [.acquire codec.access.selector] := by
  rw [run_fetch hendpoint]
  refine (Program.filter_asked_bind _ (fun outcome => ?_) _).trans
    (codec.access.acquires_within endpoint (fun session => session.isCall_call _) _)
  rcases outcome with fault | data <;> trivial

/-- Nothing is fetched where there is no account. -/
lemma run_fetch_of_none (hendpoint : codec.endpoint = none) (place : Locator) :
    (codec.fetch place).run = .done (.error (.config (.missing .offloadAccount))) := by
  unfold fetch requiredEndpoint
  rw [Attempt.run_bind, Attempt.run_ofOutcome, hendpoint]
  rfl

/-- A body that is malformed is not decoded, and nothing is asked for it. -/
lemma run_decode_of_error {body : String} {fault : ReceivedBody.Fault}
    (hbody : ReceivedBody.ofText body = .error fault) :
    (codec.decode body).run = .done (.error (.body fault)) := by
  unfold decode
  rw [Attempt.run_bind, Attempt.run_ofOutcome, hbody]
  rfl

/-- A claim check is decoded by fetching the blob that its path names. -/
lemma run_decode_claimCheck {body path : String}
    (hbody : ReceivedBody.ofText body = .ok (.claimCheck path)) :
    (codec.decode body).run = match Locator.ofPath path with
      | .error fault => .done (.error (.locator fault))
      | .ok place => (codec.fetch place).run := by
  unfold decode
  rw [Attempt.run_bind, Attempt.run_ofOutcome, hbody]
  change (Attempt.ofOutcome CodecFault.locator (Locator.ofPath path) >>= codec.fetch).run = _
  rw [Attempt.run_bind, Attempt.run_ofOutcome]
  cases Locator.ofPath path <;> rfl

/-- A body that is decoded without a request leaves every container as it was. -/
lemma containers_run_decode (w : World) {body : String} {result : Except CodecFault String}
    (hdone : (codec.decode body).run = .done result) (name : String) :
    ((w.run (codec.decode body).run).2.account name).containers = (w.account name).containers := by
  rw [hdone]
  rfl

/-- Decoding never changes a container of any account.  A body that is no envelope is given back
without a request; so are the fault of a claim check that is no text, the fault of a path that names
no blob and, where no account is configured, the fault that says so.  Any other envelope is decoded
by fetching its blob from the account of the configuration, with one credential asked for. -/
theorem decode_outcomes (c : Config) (access : Access) (w : World) (body : String) :
    (∀ name, ((w.run ((forConfig c access).decode body).run).2.account name).containers =
      (w.account name).containers) ∧
    match ReceivedBody.ofText body with
    | .ok .notJson | .ok .otherJson => ((forConfig c access).decode body).run = .done (.ok body)
    | .error fault => ((forConfig c access).decode body).run = .done (.error (.body fault))
    | .ok (.claimCheck path) =>
      match Locator.ofPath path, c.offloadAccount with
      | .error fault, _ => ((forConfig c access).decode body).run = .done (.error (.locator fault))
      | .ok _, none =>
        ((forConfig c access).decode body).run = .done (.error (.config (.missing .offloadAccount)))
      | .ok place, some account =>
        (((forConfig c access).decode body).run.asked World.answer w).filter Request.isAcquire =
          [.acquire access.selector] ∧
        Fetches access ⟨account, c.endpointSuffix⟩ place w
          (w.run ((forConfig c access).decode body).run).1
          (w.run ((forConfig c access).decode body).run).2 := by
  set codec := forConfig c access
  cases hbody : ReceivedBody.ofText body with
  | error fault =>
    have hrun : (codec.decode body).run = _ := run_decode_of_error hbody
    exact ⟨containers_run_decode w hrun, hrun⟩
  | ok received =>
    cases received with
    | notJson =>
      have hrun : (codec.decode body).run = _ := run_decode_of_isPlain (by rw [hbody]; rfl)
      exact ⟨containers_run_decode w hrun, hrun⟩
    | otherJson =>
      have hrun : (codec.decode body).run = _ := run_decode_of_isPlain (by rw [hbody]; rfl)
      exact ⟨containers_run_decode w hrun, hrun⟩
    | claimCheck path =>
      have hrun : (codec.decode body).run = _ := run_decode_claimCheck hbody
      dsimp only
      cases hplace : Locator.ofPath path with
      | error fault =>
        rw [hplace] at hrun
        exact ⟨containers_run_decode w hrun, hrun⟩
      | ok place =>
        rw [hplace] at hrun
        cases haccount : c.offloadAccount with
        | none =>
          have hendpoint : codec.endpoint = none := congrArg (Option.map _) haccount
          have hdone := hrun.trans (run_fetch_of_none hendpoint place)
          exact ⟨containers_run_decode w hdone, hdone⟩
        | some account =>
          have hendpoint := endpoint_forConfig access haccount
          have hfetches := fetches_fetch hendpoint place w
          rw [hrun]
          exact ⟨hfetches.containers, acquires_fetch hendpoint place w, hfetches⟩

/-- A world with a blob whose text is the envelope of another blob. -/
def envelopesWorld : World :=
  World.repeating.setAccount "stairlock"
    ((Store.Account.seed {} ⟨"c1", "a"⟩ (EncodedBody.claimCheck ⟨"c1", "b"⟩).text.toUTF8).seed
      ⟨"c1", "b"⟩ "data".toUTF8)

/-- The envelope in a blob is given back as it is, and its blob is not read. -/
theorem decode_outcomes_envelopes :
    (envelopesWorld.run ((forConfig offloadingConfig ⟨.ambient⟩).decode
        (EncodedBody.claimCheck ⟨"c1", "a"⟩).text).run).1 =
      .ok (EncodedBody.claimCheck ⟨"c1", "b"⟩).text ∧
    ((envelopesWorld.run ((forConfig offloadingConfig ⟨.ambient⟩).decode
        (EncodedBody.claimCheck ⟨"c1", "a"⟩).text).run).2.account "stairlock").log =
      [.get ⟨"c1", "a"⟩] := by
  have hplace : Locator.ofPath (Locator.mk "c1" "a").path = .ok ⟨"c1", "a"⟩ := rfl
  have haccount : offloadingConfig.offloadAccount = some "stairlock" := rfl
  have hopens : envelopesWorld.OpensSession ⟨.ambient⟩ ⟨"stairlock", "core.windows.net"⟩ :=
    (World.opensSession_iff _ _ _).mpr ⟨rfl, by decide⟩
  have hholds : (envelopesWorld.account "stairlock").blob? ⟨"c1", "a"⟩ =
      some (EncodedBody.claimCheck ⟨"c1", "b"⟩).text.toUTF8 := rfl
  have hdecode := decode_outcomes offloadingConfig ⟨.ambient⟩ envelopesWorld
    (EncodedBody.claimCheck ⟨"c1", "a"⟩).text
  -- the cases are decided before the parts are taken out, since no run is to be computed here
  rw [ReceivedBody.ofText_envelope] at hdecode
  dsimp only at hdecode
  rw [hplace, haccount] at hdecode
  dsimp only at hdecode
  obtain ⟨-, -, hfetches⟩ := hdecode
  exact ⟨(hfetches.eq_ok_iff _).mpr ⟨hopens, rfl, hholds⟩, hfetches.log_of_opens hopens⟩

end Codec

end ClaimCheck
