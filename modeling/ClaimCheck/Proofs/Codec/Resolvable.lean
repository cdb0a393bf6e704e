import Mathlib
import ClaimCheck.Proofs.Codec.Envelope
import ClaimCheck.Proofs.Relay.Amid
import ClaimCheck.Proofs.Relay.Traffic
import ClaimCheck.Proofs.World.Opening

/-!
# Claim checks stay resolvable

A text that was offloaded is given back by its claim check for as long as nobody drops the blob: the
put succeeds only when the blob holds the text after it (`Offloaded.kept`), a blob outlives every
happening that does not drop it (`World.Holds.apply`), and decoding the envelope reads the blob that
it names (`Codec.run_decode_of_holds`).

Nothing is said of the identifiers that the names of blobs are made of.  Where one is drawn again,
the put of the second text is refused and the operation fails, so the first text stays.
-/

namespace ClaimCheck

/-! ## Blobs in a world -/

/-- A blob of an account holds some bytes. -/
def World.Holds (w : World) (account : String) (place : Locator) (data : ByteArray) : Prop :=
  (w.account account).blob? place = some data

/-- A happening drops a blob of an account as that account is now. -/
def World.Drops (w : World) (account : String) (place : Locator) (h : Happening) : Prop :=
  h.Drops account place (w.account account)

variable {w w' : World} {account : String} {place : Locator} {data : ByteArray}

/-- A blob outlives every happening that does not drop it. -/
lemma World.Holds.apply (hholds : w.Holds account place data) {h : Happening}
    (hkept : ¬ w.Drops account place h) : (h.apply w).Holds account place data := by
  unfold World.Holds
  rw [Happening.account_apply]
  exact Happening.blob?_onAccount hholds hkept

/-- A request that is no call drops no blob. -/
lemma World.Holds.answer (hholds : w.Holds account place data) {r : Request}
    (hr : ∀ client call, r ≠ .call client call) :
    (World.answer r w).2.Holds account place data := by
  unfold World.Holds
  rw [World.account_answer_of_not_call w hr]
  exact hholds

/-! ## Offloading amid other work -/

section Amid

variable {allowed : World → Happening → Prop} {α ε : Type}

/-- Whatever is allowed leaves a blob with the bytes that it holds. -/
def Spares (allowed : World → Happening → Prop) (account : String) (place : Locator)
    (data : ByteArray) : Prop :=
  ∀ w h, allowed w h → w.Holds account place data → (h.apply w).Holds account place data

/-- A request that is no call. -/
def Request.IsNoCall (r : Request) : Prop := ∀ client call, r ≠ .call client call

/-- A blob outlives a program without calls. -/
lemma RunsAmid.holds {p : Relay α} {a : α} (hrun : RunsAmid allowed p w a w')
    (hp : p.AsksOnly Request.IsNoCall) (hspares : Spares allowed account place data)
    (hholds : w.Holds account place data) : w'.Holds account place data :=
  hrun.keeps hp hspares (fun _ _ hr h => h.answer hr) hholds

/-- A session that was opened has a client of the account that was asked for. -/
lemma RunsAmid.client_of_openSession {access : Access} {endpoint : Endpoint} {session : Session}
    (hrun : RunsAmid allowed (access.openSession endpoint).run w (.ok session) w') :
    session.client = ⟨endpoint.account⟩ := by
  rw [Access.run_openSession] at hrun
  obtain ⟨w₁, hrun⟩ := hrun.of_ask
  cases hacquired : (World.answer (.acquire access.selector) w₁).1 with
  | error fault =>
    rw [hacquired] at hrun
    cases hrun.of_done
  | ok credential =>
    rw [hacquired] at hrun
    obtain ⟨w₂, hrun⟩ := hrun.of_ask
    have hconnect := World.connect_fst w₂ endpoint credential
    change (World.answer (.connect endpoint credential) w₂).1 = _ at hconnect
    rw [hconnect] at hrun
    cases hdenial : w₂.denial? credential with
    | some denial =>
      rw [hdenial] at hrun
      obtain ⟨w₃, hrun⟩ := hrun.of_ask
      cases hrun.of_done
    | none =>
      rw [hdenial] at hrun
      cases hrun.of_done
      rfl

/-- A put in a session of its own that succeeds has placed the bytes, and they are still there when
the session is closed. -/
lemma RunsAmid.holds_of_put {access : Access} {endpoint : Endpoint}
    (hrun : RunsAmid allowed
      (access.within endpoint fun session => session.call (.put place data)).run w (.ok ()) w')
    (hspares : Spares allowed endpoint.account place data) :
    w'.Holds endpoint.account place data := by
  rw [Access.run_within] at hrun
  obtain ⟨opened, w₁, hopen, hrun⟩ := hrun.of_bind
  rcases opened with fault | session
  · cases hrun.of_done
  · have hclient := hopen.client_of_openSession
    dsimp only at hrun
    rw [Session.run_call, Program.ask_bind] at hrun
    obtain ⟨w₂, hrun⟩ := hrun.of_ask
    rw [Program.pure_bind] at hrun
    have hput : (World.answer (.call session.client (.put place data)) w₂).1 = .ok () := by
      obtain ⟨w₃, hrest⟩ := hrun.of_ask
      obtain ⟨w₄, hrest⟩ := hrest.of_ask
      exact hrest.of_done.symm
    refine hrun.holds ⟨by simp [Request.IsNoCall], fun _ => ⟨by simp [Request.IsNoCall],
      fun _ => trivial⟩⟩ hspares ?_
    rw [World.answer_call_fst] at hput
    unfold World.Holds
    rw [World.account_answer_call, hclient, if_pos rfl]
    rw [hclient] at hput
    exact Store.Account.blob?_answer_put_of_ok hput

/-- A text was offloaded to a place: the place has a fresh name, and if nobody drops the blob it
holds the text. -/
structure KeptAt (allowed : World → Happening → Prop) (codec : Codec) (account text : String)
    (place : Locator) (w : World) : Prop where
  fresh : ∃ id, place = Codec.freshPlace codec.threshold.container id
  holds : Spares allowed account place text.toUTF8 → w.Holds account place text.toUTF8

variable {codec : Codec} {endpoint : Endpoint} {text : String}

/-- A program without calls leaves a text where it is kept. -/
lemma KeptAt.amid {p : Relay α} {a : α} (hkept : KeptAt allowed codec account text place w)
    (hrun : RunsAmid allowed p w a w') (hp : p.AsksOnly Request.IsNoCall) :
    KeptAt allowed codec account text place w' :=
  ⟨hkept.fresh, fun hspares => hrun.holds hp hspares (hkept.holds hspares)⟩

/-- Offloading that succeeds keeps the text at a fresh place. -/
lemma RunsAmid.kept_of_offload (hendpoint : codec.endpoint = some endpoint)
    (hrun : RunsAmid allowed (codec.offload text).run w (.ok place) w') :
    KeptAt allowed codec endpoint.account text place w' := by
  unfold Codec.offload Codec.requiredEndpoint at hrun
  obtain ⟨other, w₁, hrequired, hrun⟩ := hrun.of_ok_bind
  have hother : endpoint = other := by
    have := hrequired.of_ok_ofOutcome
    rw [hendpoint] at this
    cases this
    rfl
  subst hother
  obtain ⟨id, w₂, -, hrun⟩ := hrun.of_ok_bind
  obtain ⟨_, w₃, hput, hrun⟩ := hrun.of_ok_bind
  cases hrun.of_ok_pure
  exact ⟨⟨id, rfl⟩, fun hspares =>
    hrun.holds trivial hspares (hput.of_ok_wrapping.holds_of_put hspares)⟩

/-- A text that is encoded as a claim check is kept at its place. -/
lemma RunsAmid.kept_of_encodeText (hendpoint : codec.endpoint = some endpoint)
    (hrun : RunsAmid allowed (codec.encodeText text).run w (.ok (.claimCheck place)) w') :
    KeptAt allowed codec endpoint.account text place w' := by
  unfold Codec.encodeText at hrun
  split at hrun
  · obtain ⟨other, heq, hoffload⟩ := hrun.of_ok_map
    cases heq
    exact hoffload.kept_of_offload hendpoint
  · cases hrun.of_ok_pure

/-- A text that is larger than the threshold is not encoded inline. -/
lemma RunsAmid.encodeText_ne_inline {inline : String}
    (hlarge : codec.threshold.exceededBy text.utf8ByteSize = true)
    (hrun : RunsAmid allowed (codec.encodeText text).run w (.ok (.inline inline)) w') : False := by
  unfold Codec.encodeText at hrun
  rw [if_pos hlarge] at hrun
  obtain ⟨other, heq, -⟩ := hrun.of_ok_map
  cases heq

/-- A payload whose text is encoded as a claim check is kept at its place. -/
lemma RunsAmid.kept_of_encode {payload : Payload} (hendpoint : codec.endpoint = some endpoint)
    (htext : payload.text = .ok text)
    (hrun : RunsAmid allowed (codec.encode payload).run w (.ok (.claimCheck place)) w') :
    KeptAt allowed codec endpoint.account text place w' := by
  unfold Codec.encode at hrun
  obtain ⟨other, w₁, houtcome, hrun⟩ := hrun.of_ok_bind
  have hother := houtcome.of_ok_ofOutcome
  rw [htext] at hother
  cases hother
  exact hrun.kept_of_encodeText hendpoint

/-- A value that is replaced by an envelope since it is too large is kept at the place that the
envelope names. -/
lemma RunsAmid.kept_of_wrapValue {value : Json.Value} (hendpoint : codec.endpoint = some endpoint)
    (hslash : '/' ∉ codec.threshold.container.toList)
    (hlarge : codec.threshold.exceededBy value.compact.utf8ByteSize = true)
    (hrun : RunsAmid allowed (codec.wrapValue value).run w (.ok (EncodedBody.envelope place)) w') :
    KeptAt allowed codec endpoint.account value.compact place w' := by
  unfold Codec.wrapValue at hrun
  obtain ⟨body, w₁, hencode, hrun⟩ := hrun.of_ok_bind
  rcases body with inline | other
  · exact (hencode.encodeText_ne_inline hlarge).elim
  · have hkept := hencode.kept_of_encodeText hendpoint
    have hpath : place.path = other.path := by
      have henvelope := hrun.of_ok_pure
      simpa [EncodedBody.envelope] using henvelope
    obtain ⟨id, hfresh⟩ := hkept.fresh
    -- a path with one slash names one place, so the envelope names the place of the blob
    have hplace : place = other := by
      subst hfresh
      exact Locator.eq_of_path_eq hslash (Codec.slash_notMem_freshPlace _ id) hpath
    subst hplace
    exact hkept.amid hrun trivial

/-- Handing something to a transport with a credential of its own makes no call. -/
lemma asksOnly_withCredential {selector : Identity.Selector} {onFault : Identity.Fault → ε}
    {work : Identity.Credential → Relay (Except ε α)}
    (hwork : ∀ credential, (work credential).AsksOnly Request.IsNoCall) :
    (withCredential selector onFault work).run.AsksOnly Request.IsNoCall := by
  rw [run_withCredential]
  refine ⟨by simp [Request.IsNoCall], fun reply => ?_⟩
  rcases reply with fault | credential
  · trivial
  · exact (hwork credential).bind fun outcome => ⟨by simp [Request.IsNoCall], fun _ => trivial⟩

/-- The text of a message that was sent as a claim check is kept at its place. -/
lemma RunsAmid.kept_of_send {gateway : ChannelGateway} {message : Message} {destination : String}
    {receipt : Receipt} (hendpoint : gateway.codec.endpoint = some endpoint)
    (hreceipt : receipt.claimCheck = some place)
    (hrun : RunsAmid allowed (gateway.send message destination).run w (.ok receipt) w') :
    KeptAt allowed gateway.codec endpoint.account message.body place w' := by
  unfold ChannelGateway.send at hrun
  obtain ⟨space, w₁, -, hrun⟩ := hrun.of_ok_bind
  obtain ⟨encoded, w₂, hencode, hrun⟩ := hrun.of_ok_bind
  obtain ⟨_, w₃, hsend, hrun⟩ := hrun.of_ok_bind
  have hencoded : encoded = .claimCheck place := by
    cases hrun.of_ok_pure
    cases encoded with
    | inline text => cases hreceipt
    | claimCheck other =>
      cases hreceipt
      rfl
  subst hencoded
  have hkept := hencode.of_ok_wrapping.kept_of_encodeText hendpoint
  refine (hkept.amid hsend (asksOnly_withCredential fun credential => ?_)).amid hrun trivial
  exact ⟨by simp [Request.IsNoCall], fun _ => trivial⟩

/-- The text of a payload that was sent as a claim check is kept at its place. -/
lemma RunsAmid.kept_of_sendPayload {gateway : ChannelGateway} {payload : Payload}
    {destination : String} {receipt : Receipt} (hendpoint : gateway.codec.endpoint = some endpoint)
    (htext : payload.text = .ok text) (hreceipt : receipt.claimCheck = some place)
    (hrun : RunsAmid allowed (gateway.sendPayload payload destination).run w (.ok receipt) w') :
    KeptAt allowed gateway.codec endpoint.account text place w' := by
  unfold ChannelGateway.sendPayload at hrun
  obtain ⟨body, w₁, houtcome, hrun⟩ := hrun.of_ok_bind
  have hbody := houtcome.of_ok_ofOutcome
  rw [htext] at hbody
  cases hbody
  exact hrun.kept_of_send hendpoint hreceipt

/-- The data of an event that were published as an envelope since they are too large are kept at the
place that the envelope names. -/
lemma RunsAmid.kept_of_publish {gateway : EventGateway} {event published : Event} {topic : String}
    (hendpoint : gateway.codec.endpoint = some endpoint)
    (hslash : '/' ∉ gateway.codec.threshold.container.toList)
    (hlarge : gateway.codec.threshold.exceededBy event.data.compact.utf8ByteSize = true)
    (hdata : published.data = EncodedBody.envelope place)
    (hrun : RunsAmid allowed (gateway.publish event topic).run w (.ok published) w') :
    KeptAt allowed gateway.codec endpoint.account event.data.compact place w' := by
  unfold EventGateway.publish at hrun
  obtain ⟨data, w₁, hwrap, hrun⟩ := hrun.of_ok_bind
  obtain ⟨_, w₂, hpublish, hrun⟩ := hrun.of_ok_bind
  have hpublished := hrun.of_ok_pure
  subst hpublished
  dsimp only at hdata
  subst hdata
  have hkept := hwrap.of_ok_wrapping.kept_of_wrapValue hendpoint hslash hlarge
  refine (hkept.amid hpublish (asksOnly_withCredential fun credential => ?_)).amid hrun trivial
  exact ⟨by simp [Request.IsNoCall], fun _ => trivial⟩

/-- An operation of a relay that succeeded, amid other work, and kept its text in a blob: a text or
a payload was encoded, a value was wrapped, a message was sent or an event was published. -/
inductive Offloaded (allowed : World → Happening → Prop) (c : Config) (text : String)
    (place : Locator) (w w' : World) : Prop
  | encodeText
    (hrun : RunsAmid allowed ((Codec.ofConfig c).encodeText text).run w
      (.ok (.claimCheck place)) w')
  | encode {payload : Payload} (htext : payload.text = .ok text)
    (hrun : RunsAmid allowed ((Codec.ofConfig c).encode payload).run w (.ok (.claimCheck place)) w')
  | wrapValue {value : Json.Value} (htext : value.compact = text)
    (hlarge : c.threshold.exceededBy text.utf8ByteSize = true)
    (hrun : RunsAmid allowed ((Codec.ofConfig c).wrapValue value).run w
      (.ok (EncodedBody.envelope place)) w')
  | send {message : Message} {destination : String} {receipt : Receipt}
    (htext : message.body = text) (hreceipt : receipt.claimCheck = some place)
    (hrun : RunsAmid allowed ((ChannelGateway.ofConfig c).send message destination).run w
      (.ok receipt) w')
  | sendPayload {payload : Payload} {destination : String} {receipt : Receipt}
    (htext : payload.text = .ok text) (hreceipt : receipt.claimCheck = some place)
    (hrun : RunsAmid allowed ((ChannelGateway.ofConfig c).sendPayload payload destination).run w
      (.ok receipt) w')
  | publish {event published : Event} {topic : String} (htext : event.data.compact = text)
    (hlarge : c.threshold.exceededBy text.utf8ByteSize = true)
    (hdata : published.data = EncodedBody.envelope place)
    (hrun : RunsAmid allowed ((EventGateway.ofConfig c).publish event topic).run w
      (.ok published) w')

/-- Whatever operation offloaded a text, the text is kept at its place. -/
lemma Offloaded.kept {c : Config} (hc : c.IsAccepted) (haccount : c.offloadAccount = some account)
    (hoffloaded : Offloaded allowed c text place w w') :
    KeptAt allowed (Codec.ofConfig c) account text place w' := by
  have hendpoint : (Codec.ofConfig c).endpoint = some ⟨account, c.endpointSuffix⟩ := by
    change c.offloadAccount.map _ = _
    rw [haccount]
    rfl
  have hslash : '/' ∉ (Codec.ofConfig c).threshold.container.toList := hc.offloadContainer.2
  cases hoffloaded with
  | encodeText hrun => exact hrun.kept_of_encodeText hendpoint
  | encode htext hrun => exact hrun.kept_of_encode hendpoint htext
  | wrapValue htext hlarge hrun =>
    subst htext
    exact hrun.kept_of_wrapValue hendpoint hslash hlarge
  | send htext hreceipt hrun =>
    subst htext
    exact hrun.kept_of_send hendpoint hreceipt
  | sendPayload htext hreceipt hrun => exact hrun.kept_of_sendPayload hendpoint htext hreceipt
  | publish htext hlarge hdata hrun =>
    subst htext
    exact hrun.kept_of_publish hendpoint hslash hlarge hdata

end Amid

/-! ## Decoding -/

/-- An envelope gives back the text of the blob that it names. -/
lemma Codec.run_decode_of_holds {codec : Codec} {endpoint : Endpoint} {text : String}
    (hendpoint : codec.endpoint = some endpoint) (hplace : Locator.ofPath place.path = .ok place)
    (hopens : w.Opens) (havailable : (w.account endpoint.account).isUnavailable = false)
    (hholds : w.Holds endpoint.account place text.toUTF8) :
    (w.run (codec.decode (EncodedBody.claimCheck place).text).run).1 = .ok text := by
  obtain ⟨session, w₁, hclient, haccounts, hwithin, -⟩ :=
    answersButCalls_answer.run_within hopens codec.access endpoint fun session =>
      session.call (.get place)
  have hget : ((codec.access.within endpoint fun session => session.call (.get place)).run.run
      World.answer w).1 = .ok text.toUTF8 := by
    rw [hwithin, Session.run_call]
    change (World.answer (.call session.client (.get place)) w₁).1 = _
    rw [World.answer_call_fst, hclient, haccounts]
    exact Store.Account.answer_get_of_some havailable hholds
  have hfetch : (w.run (codec.fetch place).run).1 = .ok text := by
    unfold World.run Codec.fetch Codec.requiredEndpoint
    rw [Attempt.run_bind, Attempt.run_ofOutcome, hendpoint, Program.pure_bind]
    change (Program.run World.answer
      (ExceptT.run (Attempt.wrapping CodecFault.store _ >>= _)) w).1 = _
    rw [Attempt.run_bind, Attempt.run_wrapping, Program.bind_assoc, Program.run_bind, hget,
      Program.pure_bind]
    change (Program.run World.answer
      (ExceptT.run (Attempt.ofOutcome _ (Text.Utf8.decode _))) _).1 = _
    rw [Text.Utf8.decode_toUTF8]
    rfl
  unfold World.run Codec.decode
  rw [Attempt.run_bind, Attempt.run_ofOutcome, ReceivedBody.ofText_envelope, Program.pure_bind]
  change (Program.run World.answer
    (ExceptT.run (Attempt.ofOutcome _ (Locator.ofPath place.path) >>= _)) w).1 = _
  rw [Attempt.run_bind, Attempt.run_ofOutcome, hplace]
  exact hfetch

/-! ## Whole runs -/

/-- After an operation kept a text at a place, and after any further work of relays and any changes
from outside none of which drops the blob there, the claim check of the place gives back exactly
this text, provided that the account is available then and sessions are opened. -/
theorem offloaded_text_resolves {c : Config} {text : String} {s s' : Traffic} (hc : c.IsAccepted)
    (haccount : c.offloadAccount = some account)
    (hoffloaded : Offloaded (fun w h => ¬ w.Drops account place h) c text place w s.world)
    (hrun : Traffic.Run (fun w h => ¬ w.Drops account place h) s s')
    (havailable : (s'.world.account account).isUnavailable = false) (hopens : s'.world.Opens) :
    (s'.world.run ((Codec.ofConfig c).decode (EncodedBody.claimCheck place).text).run).1 =
      .ok text := by
  have hendpoint : (Codec.ofConfig c).endpoint = some ⟨account, c.endpointSuffix⟩ := by
    change c.offloadAccount.map _ = _
    rw [haccount]
    rfl
  have hkept := hoffloaded.kept hc haccount
  have hspares : Spares (fun w h => ¬ w.Drops account place h) account place text.toUTF8 :=
    fun _ _ hallowed hholds => hholds.apply hallowed
  have hholds : s'.world.Holds account place text.toUTF8 :=
    hrun.world_induction (hkept.holds hspares) hspares
  have hplace : Locator.ofPath place.path = .ok place := by
    obtain ⟨hempty, hslash⟩ := hc.offloadContainer
    obtain ⟨id, hfresh⟩ := hkept.fresh
    subst hfresh
    exact Locator.ofPath_path hempty hslash (Codec.name_freshPlace_ne _ id)
  exact Codec.run_decode_of_holds hendpoint hplace hopens havailable hholds

/-- A configuration that offloads texts of more than four bytes. -/
def stairlockConfig : Config := { offloadAccount := some "stairlock", thresholdBytes := 4 }

/-- The only place that is ever fresh in the repeating world. -/
def repeatedPlace : Locator := Codec.freshPlace "sb-messages" ⟨0⟩

/-- The repeating world after a text was offloaded. -/
def offloadedWorld : World :=
  (World.repeating.run ((Codec.ofConfig stairlockConfig).encodeText "hello").run).2

/-- Work in which another text was put under the same name after the first. -/
def contestedTraffic : Traffic where
  world := (World.answer (.call ⟨"stairlock"⟩ (.put repeatedPlace "other".toUTF8)) offloadedWorld).2

/-- The first text is still there after a second one was put under the same name. -/
theorem offloaded_text_resolves_contested :
    (contestedTraffic.world.run ((Codec.ofConfig stairlockConfig).decode
      (EncodedBody.claimCheck repeatedPlace).text).run).1 = .ok "hello" := by
  have haccepted : stairlockConfig.IsAccepted := .inr ⟨stairlockConfig, [], rfl⟩
  have hencoded :
      (World.repeating.run ((Codec.ofConfig stairlockConfig).encodeText "hello").run).1 =
        .ok (.claimCheck repeatedPlace) := rfl
  have hoffloaded : Offloaded (fun w h => ¬ w.Drops "stairlock" repeatedPlace h) stairlockConfig
      "hello" repeatedPlace World.repeating offloadedWorld :=
    .encodeText (hencoded ▸ RunsAmid.of_run _ _)
  have hstep : Traffic.Step { world := offloadedWorld } _ contestedTraffic :=
    .call _ ⟨"stairlock"⟩ (.put repeatedPlace "other".toUTF8)
  have hrun : Traffic.Run (fun w h => ¬ w.Drops "stairlock" repeatedPlace h)
      { world := offloadedWorld } contestedTraffic := by
    refine Relation.ReflTransGen.single ⟨_, ?_, hstep⟩
    rintro ⟨-, -, hdrops⟩
    exact hdrops
  exact offloaded_text_resolves haccepted rfl hoffloaded hrun rfl ⟨rfl, by decide⟩

end ClaimCheck
