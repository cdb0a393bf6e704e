import Mathlib
import ClaimCheck.Proofs.Cli.Work
import ClaimCheck.Proofs.Codec.Transparency

/-!
# Relays on the disk of a host

The stores of a relay that a command runs are directories, and a session with one of them is opened
where credentials are good when they are given out and the name of the account is accepted
(`Host.OpensTo`).  What is called in it is called on the disk (`Host.run_session_eq_ok_iff`).

So a text that is offloaded is put into a file of its own (`Host.exists_of_run_offload`), the disk
only grows by it, and the envelope of the place gives the text back (`Host.run_decode_envelope`).
-/

namespace ClaimCheck.Cli

open Identity

/-! ## Sessions on disk -/

namespace Host

variable {h h' : Host} {root : Disk.Path} {access : Access} {endpoint : Endpoint}

/-- The store of an account below a root. -/
def storeAt (root : Disk.Path) (account : String) : Disk.Account := ⟨root.child account.toUTF8⟩

/-- Whether sessions are opened on disk to an account: credentials are good when they are given out,
and the name of the account is accepted. -/
def OpensTo (h : Host) (endpoint : Endpoint) : Prop :=
  h.services.Opens ∧ Disk.isEntryName endpoint.account = true

/-- A session is opened or not, and the disk is left as it is. -/
lemma run_openSession (h : Host) (root : Disk.Path) (access : Access) (endpoint : Endpoint) :
    ∃ services, (h.OpensTo endpoint ∧ ∃ credential,
        (access.openSession endpoint).run.run (answerRelay root) h =
          (.ok ⟨⟨endpoint.account⟩, credential⟩, { h with services })) ∨
      (¬h.OpensTo endpoint ∧ ∃ fault,
        (access.openSession endpoint).run.run (answerRelay root) h =
          (.error fault, { h with services })) := by
  have hacquire : answerRelay root (.acquire access.selector) h =
      ((h.services.acquire access.selector).1,
        { h with services := (h.services.acquire access.selector).2 }) := rfl
  have hconnect : ∀ credential (h : Host), answerRelay root (.connect endpoint credential) h =
      ((Disk.Account.connect root endpoint credential h.services.now).map
        fun _ => ⟨endpoint.account⟩, h) := fun _ _ => rfl
  rw [Access.run_openSession, Program.run_ask, hacquire]
  by_cases hfails : h.services.ledger.failing = true
  · rw [World.acquire_of_failing hfails]
    exact ⟨_, .inr ⟨fun hopens => by simp [hopens.1.1] at hfails, _, rfl⟩⟩
  have hworks := Bool.eq_false_iff.mpr hfails
  have hexpired := h.services.isExpiredAt_nextCredential access.selector
  rw [World.acquire_of_working hworks]
  dsimp only
  rw [Program.run_ask, hconnect]
  unfold Disk.Account.connect
  by_cases hexpires : h.services.ledger.lifetime ≤ 0
  · rw [if_pos (hexpired.mpr hexpires)]
    exact ⟨_, .inr ⟨fun hopens => Int.not_lt.mpr hexpires hopens.1.2, _, rfl⟩⟩
  rw [if_neg (mt hexpired.mp hexpires)]
  by_cases hname : Disk.isEntryName endpoint.account = true
  · rw [if_pos hname]
    exact ⟨_, .inl ⟨⟨⟨hworks, Int.not_le.mp hexpires⟩, hname⟩, _, rfl⟩⟩
  · rw [if_neg hname]
    exact ⟨_, .inr ⟨fun hopens => hname hopens.2, _, rfl⟩⟩

/-- What is called in a session is called on the disk, once the session is opened. -/
lemma run_session_eq_ok_iff {call : Store.Call} {reply : call.Answer} {disk : Disk.Machine} :
    (∃ h', h.run (Console.relay root
        (access.within endpoint fun session => session.call call).run) = (.ok reply, h') ∧
          h'.disk = disk) ↔
      h.OpensTo endpoint ∧
        h.disk.run ((storeAt root endpoint.account).perform call).run = (.ok reply, disk) := by
  have hcall : ∀ h : Host, answerRelay root (.call ⟨endpoint.account⟩ call) h =
      ((h.disk.run ((storeAt root endpoint.account).perform call).run).1,
        { h with disk := (h.disk.run ((storeAt root endpoint.account).perform call).run).2 }) :=
    fun h => h.run_onDisk _
  -- of all that a session asks only the call reaches the disk
  have hdisconnect : ∀ client (h : Host), answerRelay root (.disconnect client) h = ((), h) :=
    fun _ _ => rfl
  have hrelease : ∀ credential (h : Host), answerRelay root (.release credential) h =
      ((), { h with services := (World.answer (.release credential) h.services).2 }) := fun _ _ => rfl
  obtain ⟨services, ⟨hopens, credential, hopen⟩ | ⟨hcloses, fault, hopen⟩⟩ :=
    h.run_openSession root access endpoint
  · have hwork : (Session.call ⟨⟨endpoint.account⟩, credential⟩ call).run.run (answerRelay root)
        { h with services } = _ := hcall { h with services }
    rw [run_relay, Access.run_within, Program.run_bind, hopen, and_iff_right hopens]
    dsimp only
    rw [Program.run_bind, hwork]
    dsimp only
    rw [Program.run_ask, hdisconnect, Program.run_ask, hrelease]
    simp [Prod.ext_iff]
  · rw [run_relay, Access.run_within, Program.run_bind, hopen]
    exact iff_of_false (by simp) fun hok => hcloses hok.1

/-! ## Offloading and fetching -/

variable {codec : Codec} {text : String} {place : Locator}

/-- A text that is offloaded is put into the store of the account under a fresh name. -/
lemma exists_of_run_offload
    (hrun : h.run (Console.relay root (codec.offload text).run) = (.ok place, h')) :
    ∃ endpoint, codec.endpoint = some endpoint ∧ h.OpensTo endpoint ∧
      (∃ id, place = Codec.freshPlace codec.threshold.container id) ∧
      h.disk.run ((storeAt root endpoint.account).put place text.toUTF8).run =
        (.ok (), h'.disk) := by
  unfold Codec.offload Codec.requiredEndpoint at hrun
  obtain ⟨endpoint, h₁, hrequired, hrun⟩ := run_relay_bind_eq_ok_iff.mp hrun
  obtain ⟨id, h₂, hid, hrun⟩ := run_relay_bind_eq_ok_iff.mp hrun
  obtain ⟨_, h₃, hwithin, hrun⟩ := run_relay_bind_eq_ok_iff.mp hrun
  cases hrun
  rw [run_relay_ofOutcome, Prod.mk.injEq, Disk.mapError_eq_ok_iff] at hrequired
  obtain ⟨hrequired, rfl⟩ := hrequired
  have hendpoint : codec.endpoint = some endpoint := by
    cases hsome : codec.endpoint with
    | none =>
      rw [hsome] at hrequired
      cases hrequired
    | some other =>
      rw [hsome] at hrequired
      cases hrequired
      rfl
  cases hid
  rw [run_relay_wrapping, Prod.mk.injEq, Disk.mapError_eq_ok_iff] at hwithin
  have hsession := run_session_eq_ok_iff.mp ⟨h', Prod.ext hwithin.1 hwithin.2, rfl⟩
  exact ⟨endpoint, hendpoint, hsession.1, ⟨_, rfl⟩, hsession.2⟩

/-- A text that the store of the account holds at a place is fetched. -/
lemma run_fetch {disk : Disk.Machine} (hendpoint : codec.endpoint = some endpoint)
    (hopens : h.OpensTo endpoint)
    (hget : h.disk.run ((storeAt root endpoint.account).get place).run = (.ok text.toUTF8, disk)) :
    ∃ h', h.run (Console.relay root (codec.fetch place).run) = (.ok text, h') := by
  have hcall : h.disk.run ((storeAt root endpoint.account).perform (.get place)).run =
      (.ok text.toUTF8, disk) := hget
  obtain ⟨h', hsession, -⟩ : ∃ h', h.run (Console.relay root
      (codec.access.within endpoint fun session => session.call (.get place)).run) =
        (.ok text.toUTF8, h') ∧ h'.disk = disk := run_session_eq_ok_iff.mpr ⟨hopens, hcall⟩
  unfold Codec.fetch Codec.requiredEndpoint
  refine ⟨h', run_relay_bind_eq_ok_iff.mpr ⟨endpoint, h, ?_,
    run_relay_bind_eq_ok_iff.mpr ⟨text.toUTF8, h', ?_, ?_⟩⟩⟩
  · rw [run_relay_ofOutcome, hendpoint]
    rfl
  · rw [run_relay_wrapping, hsession]
    rfl
  · rw [run_relay_ofOutcome, Text.Utf8.decode_toUTF8]
    rfl

/-- The envelope of a place gives back the text that is fetched there. -/
lemma run_decode_envelope (hplace : Locator.ofPath place.path = .ok place)
    (hfetch : h.run (Console.relay root (codec.fetch place).run) = (.ok text, h')) :
    h.run (Console.relay root (codec.decode (EncodedBody.claimCheck place).text).run) =
      (.ok text, h') := by
  unfold Codec.decode
  refine run_relay_bind_eq_ok_iff.mpr ⟨.claimCheck place.path, h, ?_,
    run_relay_bind_eq_ok_iff.mpr ⟨place, h, ?_, hfetch⟩⟩
  · rw [run_relay_ofOutcome, ReceivedBody.ofText_envelope]
    rfl
  · rw [run_relay_ofOutcome, hplace]
    rfl

/-- A text is encoded without a change to the host, or it is offloaded. -/
lemma run_encodeText_eq_ok_iff {encoded : EncodedBody} :
    h.run (Console.relay root (codec.encodeText text).run) = (.ok encoded, h') ↔
      (codec.threshold.exceededBy text.utf8ByteSize = false ∧ encoded = .inline text ∧ h' = h) ∨
      (codec.threshold.exceededBy text.utf8ByteSize = true ∧ ∃ place,
        encoded = .claimCheck place ∧
          h.run (Console.relay root (codec.offload text).run) = (.ok place, h')) := by
  unfold Codec.encodeText
  cases codec.threshold.exceededBy text.utf8ByteSize with
  | false =>
    have hpure : h.run (Console.relay root
        (pure (.inline text) : Attempt CodecFault EncodedBody).run) = (.ok (.inline text), h) := rfl
    rw [if_neg Bool.false_ne_true, hpure]
    simp [Prod.ext_iff, eq_comm]
  | true =>
    have hmap : h.run (Console.relay root (EncodedBody.claimCheck <$> codec.offload text).run) =
        ((h.run (Console.relay root (codec.offload text).run)).1.map .claimCheck,
          (h.run (Console.relay root (codec.offload text).run)).2) := by
      rw [run_relay, run_relay, Attempt.run_map, Program.run_bind]
      rfl
    rw [if_pos rfl, hmap]
    rcases h.run (Console.relay root (codec.offload text).run) with ⟨fault | place, h''⟩
    · simp [Except.map]
    · simp [Except.map, Prod.ext_iff, eq_comm]

/-- While a text is encoded, the disk only grows. -/
lemma fills_of_encodeText {encoded : EncodedBody}
    (hrun : h.run (Console.relay root (codec.encodeText text).run) = (.ok encoded, h')) :
    h.disk.Fills (fun _ _ => True) h'.disk := by
  rcases run_encodeText_eq_ok_iff.mp hrun with ⟨-, -, rfl⟩ | ⟨-, place, -, hoffload⟩
  · exact .refl _ _
  · obtain ⟨endpoint, -, -, -, hput⟩ := exists_of_run_offload hoffload
    exact (Disk.fills_of_put_ok hput).1

end Host

end ClaimCheck.Cli
